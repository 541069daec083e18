/-!
# JSON values
-/

namespace KanjiSearch

/-- A JSON value. -/
inductive Json where
  | null
  | bool (b : Bool)
  /-- a number without sign, fraction and exponent -/
  | natural (n : Nat)
  /-- any other number, as it was written -/
  | numeral (digits : String)
  | string (s : String)
  | array (items : List Json)
  /-- the members in the order in which they were written, repeated keys included -/
  | object (members : List (String × Json))
  /-- a string, or an object with a key, that is no text because half of a surrogate pair is missing -/
  | broken

namespace Json

/-- The text of a string. -/
def string? : Json → Option String
  | string s => some s
  | _ => none

/-- The texts of an array of strings. -/
def strings? : Json → Option (List String)
  | array items => items.mapM string?
  | _ => none

end Json

end KanjiSearch
