/-!
# Catalogues

Ascending lists without repeats under a strict order, used where a set of
textures or texture names is reported in order.
-/

namespace RoomLayout.Catalogue

variable {β : Type}

/-- Add an entry to an ascending list; one that is already there is not repeated. -/
def insert (before : β → β → Bool) (entry : β) : List β → List β
  | [] => [entry]
  | first :: rest =>
    if before entry first then entry :: first :: rest
    else if before first entry then first :: insert before entry rest
    else first :: rest

/-- The distinct entries of a list, ascending. -/
def ofList (before : β → β → Bool) (entries : List β) : List β :=
  entries.foldl (fun catalogue entry => insert before entry catalogue) []

end RoomLayout.Catalogue
