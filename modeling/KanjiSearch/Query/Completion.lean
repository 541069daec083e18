import KanjiSearch.Field
import KanjiSearch.Text.Blank

/-!
# Completions

Proposals for the word that is being typed: spellings of fields, as long as the word has no colon, and then keywords.
-/

namespace KanjiSearch

/-- The keywords, in the order in which they are offered. -/
def keywords : List String :=
  ["AND", "OR", "NOT"]

/-- The word before the cursor, without opening signs. -/
def typedWord (before : List Char) : List Char :=
  (before.reverse.takeWhile (!Text.isBlank ·)).reverse.dropWhile fun c => c == '(' || c == '!'

/-- The completions of the word that ends behind the first `cursor` characters of `query`. -/
def completions (query : String) (cursor : Nat) : List String :=
  let word := typedWord (query.toList.take cursor)
  let fields :=
    if word.contains ':' then []
    else (Field.allSpellings.filter fun s => (Text.lower word).isPrefixOf s.toList).map (· ++ ":")
  fields ++ keywords.filter fun k => (Text.upper word).isPrefixOf k.toList

end KanjiSearch
