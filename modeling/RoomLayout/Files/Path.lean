/-!
# Paths

Paths as they are written, with `/` between names. Joining and taking parents
work on the text alone; what a path leads to is the file system's business.
-/

namespace RoomLayout.Path

/-- Whether a path starts at the root of the file system. -/
def isAbsolute (path : String) : Bool := path.toList.head? = some '/'

/-- Cut characters at every `/`. -/
def segmentsOf : List Char → List (List Char)
  | [] => [[]]
  | c :: rest =>
    match segmentsOf rest with
    | [] => [[c]]
    | first :: later => if c = '/' then [] :: first :: later else (c :: first) :: later

/-- The names of a path between its `/`, empty ones included. -/
def segments (path : String) : List String := (segmentsOf path.toList).map String.ofList

/-- A path followed from another one; an absolute path stands for itself. -/
def join (base path : String) : String :=
  if isAbsolute path then path
  else if base = "" || base.toList.getLast? = some '/' then base ++ path
  else base ++ "/" ++ path

/-- Whether a name takes no step: it is empty or a single dot. -/
def isIdle (name : String) : Bool := name = "" || name = "."

/-- Names without the idle ones at the end. -/
def dropIdle (names : List String) : List String := (names.reverse.dropWhile isIdle).reverse

/-- The part of a path that no step can take away: the root, or a leading dot. -/
def anchor (path : String) : String :=
  if isAbsolute path then "/"
  else if (segments path).head? = some "." then "."
  else ""

/-- The path without its last name. The root and the empty path have no parent. -/
def parent? (path : String) : Option String :=
  let anchor := anchor path
  let body := String.ofList (path.toList.drop anchor.length)
  match dropIdle (segments body) with
  | [] => if anchor = "." then some "" else none
  | names => some (anchor ++ "/".intercalate (dropIdle names.dropLast))

end RoomLayout.Path
