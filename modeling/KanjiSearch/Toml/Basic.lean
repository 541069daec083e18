/-!
# TOML values

The values of a TOML document. Floats and dates are told apart from other values, but what they stand for is not kept.
-/

namespace KanjiSearch

/-- How a table came about, which decides what may still be added to it. -/
inductive TableForm where
  /-- by braces -/
  | closed
  /-- by a header with its name -/
  | opened
  /-- by a header with the name of a table inside it -/
  | implied
  /-- by a dotted key -/
  | dotted
  deriving DecidableEq

/-- A TOML value. -/
inductive Toml where
  | string (s : String)
  | integer (n : Int)
  | float
  /-- a number without a value: see `Toml.integer?` and `Toml.float?` -/
  | broken
  | bool (b : Bool)
  /-- a date, a time or both -/
  | moment
  | array (items : List Toml)
  /-- tables that were opened by headers of one name, the last one first -/
  | tables (items : List Toml)
  | table (form : TableForm) (entries : List (String × Toml))

namespace Toml

/-- The entries of a table. -/
abbrev Entries := List (String × Toml)

/-- The text of a string. -/
def string? : Toml → Option String
  | string s => some s
  | _ => none

/-- The texts of an array of strings. -/
def strings? : Toml → Option (List String)
  | array items => items.mapM string?
  | _ => none

mutual

/-- Whether a value has a value in all its parts. -/
def isWhole : Toml → Bool
  | broken => false
  | array items => areWhole items
  | tables items => areWhole items
  | table _ entries => haveWhole entries
  | _ => true

/-- Whether all items are whole. -/
def areWhole : List Toml → Bool
  | [] => true
  | item :: items => isWhole item && areWhole items

/-- Whether the values of all entries are whole. -/
def haveWhole : List (String × Toml) → Bool
  | [] => true
  | (_, value) :: entries => isWhole value && haveWhole entries

end

end Toml

end KanjiSearch
