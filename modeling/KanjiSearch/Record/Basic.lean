import KanjiSearch.Field
import KanjiSearch.Text.Blank
import KanjiSearch.Text.Decimal

/-!
# Records

A kanji record and the view of it that queries look at: a value for each field.
-/

namespace KanjiSearch

/-- The value of a field. -/
inductive FieldValue where
  | text (s : String)
  | list (items : List String)
  | number (n : Option UInt64)
  deriving DecidableEq

/-- The number that a value is. A text is a number if it spells one between blanks. -/
def FieldValue.number? : FieldValue → Option UInt64
  | text s => Text.count? (Text.trim s.toList)
  | list _ => none
  | number n => n

/-- What queries see of a record. -/
abbrev Fields := Field → FieldValue

/-- A kanji with its readings and meanings. -/
structure Record where
  kanji : String
  hanViet : String := ""
  meaning : String := ""
  vietnameseMeaning : String := ""
  onyomi : List String := []
  kunyomi : List String := []
  components : String := ""
  jlptLevel : String := ""
  frequency : Option UInt64 := none
  /-- free tags, which no query sees -/
  category : List String := []
  deriving DecidableEq

/-- The value of a field of a record. -/
def Record.fields (r : Record) : Fields
  | .kanji => .text r.kanji
  | .hanViet => .text r.hanViet
  | .meaning => .text r.meaning
  | .vietnameseMeaning => .text r.vietnameseMeaning
  | .onyomi => .list r.onyomi
  | .kunyomi => .list r.kunyomi
  | .components => .text r.components
  | .jlptLevel => .text r.jlptLevel
  | .frequency => .number r.frequency

end KanjiSearch
