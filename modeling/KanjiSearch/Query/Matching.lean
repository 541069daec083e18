import KanjiSearch.Query.Basic
import KanjiSearch.Record.Basic
import KanjiSearch.Text.Pieces

/-!
# Matching

Which records a query matches. Texts are compared without regard to case, and an empty text matches nothing. JLPT ranks
run from the hardest level to the easiest, so comparisons of levels are read in reverse: `jlpt:<N3` asks for levels
easier than N3.
-/

namespace KanjiSearch

/-- Whether `s` holds `needle`, which is in lower case, or is all of it if the search is exact. -/
def textMatches (needle : List Char) (exact : Bool) (s : String) : Bool :=
  !s.isEmpty &&
    if exact then Text.lower s.toList == needle else Text.hasPiece needle (Text.lower s.toList)

namespace FieldValue

/-- Whether a text of the value matches. -/
def textsMatch (needle : List Char) (exact : Bool) : FieldValue → Bool
  | text s => textMatches needle exact s
  | list items => items.any (textMatches needle exact)
  | number (some n) => textMatches needle exact (Text.decimalString n.toNat)
  | number none => false

end FieldValue

/-- The number in a field; a JLPT level stands for its rank. -/
def numericValue (r : Fields) (f : Field) : Option UInt64 :=
  match f, r f with
  | .jlptLevel, .text level => jlptRank? level
  | _, value => value.number?

/-- The comparison with its sides exchanged. -/
def Comparison.reversed : Comparison → Comparison
  | less => greater
  | greater => less
  | atMost => atLeast
  | atLeast => atMost
  | equal => equal

/-- Whether a number of the field `f` compares with a constant. -/
def compareIn (f : Field) (op : Comparison) (actual value : UInt64) : Bool :=
  (if f = .jlptLevel then op.reversed else op).holds actual value

namespace Query

/-- Whether a record matches a query. -/
def holds (r : Fields) : Query → Bool
  | and left right => left.holds r && right.holds r
  | or left right => left.holds r || right.holds r
  | not inner => !inner.holds r
  | group inner => inner.holds r
  | compare op f value => (numericValue r f).any (compareIn f op · value)
  | range f min max => (numericValue r f).any fun n => min ≤ n && n ≤ max
  | search scope value exact =>
    let needle := Text.lower value.toList
    match scope with
    | .usual => Field.usual.any fun f => (r f).textsMatch needle exact
    | .field f => (r f).textsMatch needle exact

end Query

end KanjiSearch
