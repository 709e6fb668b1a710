import RoomLayout.Yaml.Character

/-!
# Escapes of double quotes

What stands for a character behind a backslash in double quotes.
-/

namespace RoomLayout.Yaml

/-- The characters with an escape of one letter, by the letter. -/
def letterEscapes : List (Char × Char) :=
  [('0', '\x00'), ('a', '\x07'), ('b', '\x08'), ('t', '\t'), ('n', '\n'), ('v', '\x0b'),
   ('f', '\x0c'), ('r', '\r'), ('e', '\x1b'), ('\x22', '\x22'), ('\\', '\\'), ('N', '\x85'),
   ('_', '\xa0'), ('L', '\u2028'), ('P', '\u2029')]

/-- The escapes that are read but never written. -/
def readOnlyEscapes : List (Char × Char) := [('\t', '\t'), (' ', ' '), ('/', '/')]

/-- The letters of numeric escapes and how many digits follow each. -/
def numericEscapes : List (Char × Nat) := [('x', 2), ('u', 4), ('U', 8)]

/-- The letter that stands for a character, if there is one. -/
def letterFor? (c : Char) : Option Char :=
  (letterEscapes.find? fun entry => entry.2 = c).map (·.1)

/-- The character that a letter stands for, if it does. -/
def characterFor? (letter : Char) : Option Char := (letterEscapes ++ readOnlyEscapes).lookup letter

/-- A count in so many hexadecimal digits. -/
def hexadecimal (width count : Nat) : List Char :=
  let digits := (Nat.toDigits 16 count).map Char.toUpper
  List.replicate (width - digits.length) '0' ++ digits

/-- Whether a character is escaped in double quotes. -/
def needsEscape (c : Char) : Bool := !isPrintable c || isBreak c || c = '\x22' || c = '\\'

/-- A character in double quotes: as it is, or escaped by its letter or, without
one, by the fewest digits that hold its number. -/
def quotedCharacter (c : Char) : List Char :=
  if !needsEscape c then [c]
  else
    match letterFor? c with
    | some letter => ['\\', letter]
    | none =>
      if c.toNat ≤ 0xff then '\\' :: 'x' :: hexadecimal 2 c.toNat
      else if c.toNat ≤ 0xffff then '\\' :: 'u' :: hexadecimal 4 c.toNat
      else '\\' :: 'U' :: hexadecimal 8 c.toNat

end RoomLayout.Yaml
