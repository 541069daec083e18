import KanjiSearch.Text.Case

/-!
# Fields of a record

The fields of a kanji record that a query can name, their spellings before a colon, and the ranks of JLPT levels.
-/

namespace KanjiSearch

/-- A field of a record that a query can name. -/
inductive Field where
  | kanji
  | hanViet
  | meaning
  | vietnameseMeaning
  | onyomi
  | kunyomi
  | components
  | jlptLevel
  | frequency
  deriving DecidableEq

namespace Field

/-- Every field, in the order in which records list them. -/
def all : List Field :=
  [kanji, hanViet, meaning, vietnameseMeaning, onyomi, kunyomi, components, jlptLevel, frequency]

/-- The fields that a search without a field looks at. -/
def usual : List Field :=
  [kanji, hanViet, meaning, vietnameseMeaning]

/-- The name of a field in record files. -/
def name : Field → String
  | kanji => "kanji"
  | hanViet => "hanViet"
  | meaning => "meaning"
  | vietnameseMeaning => "vietnameseMeaning"
  | onyomi => "onyomi"
  | kunyomi => "kunyomi"
  | components => "components"
  | jlptLevel => "jlptLevel"
  | frequency => "frequency"

/-- The field that has a name. -/
def ofName? (name : String) : Option Field :=
  all.find? (·.name == name)

/-! ## Spellings -/

/-- The spellings of fields in queries, in the order in which they are offered. -/
def table : List (String × Field) :=
  [("char", kanji), ("kanji", kanji), ("hanviet", hanViet), ("hv", hanViet), ("en", meaning), ("english", meaning),
   ("vn", vietnameseMeaning), ("vietnamese", vietnameseMeaning), ("on", onyomi), ("onyomi", onyomi), ("kun", kunyomi),
   ("kunyomi", kunyomi), ("com", components), ("component", components), ("jlpt", jlptLevel), ("freq", frequency),
   ("frequency", frequency)]

/-- All spellings. -/
def allSpellings : List String :=
  table.map (·.1)

/-- The spellings of one field. -/
def spellings (f : Field) : List String :=
  (table.filter (·.2 == f)).map (·.1)

/-- The field that `s` spells in any case of its letters. -/
def ofSpelling? (s : String) : Option Field :=
  table.lookup (Text.lowerString s)

/-- The shorter of two spellings, the first of equals. -/
def shorter (a b : String) : String :=
  if b.length < a.length then b else a

/-- The shortest spelling of a field. -/
def shortSpelling (f : Field) : String :=
  match f.spellings with
  | [] => f.name
  | s :: rest => rest.foldl shorter s

end Field

/-! ## JLPT levels -/

/-- The digit behind the first `N` that has one. -/
def levelDigit? : List Char → Option Char
  | [] => none
  | 'N' :: cs =>
    match cs with
    | d :: _ => if d.isDigit then some d else levelDigit? cs
    | [] => none
  | _ :: cs => levelDigit? cs

/-- The rank of a JLPT level: 1 is the hardest level and 5 the easiest. -/
def jlptRank? (level : String) : Option UInt64 :=
  match levelDigit? (Text.upper level.toList) with
  | some '1' => some 1
  | some '2' => some 2
  | some '3' => some 3
  | some '4' => some 4
  | some '5' => some 5
  | _ => none

end KanjiSearch
