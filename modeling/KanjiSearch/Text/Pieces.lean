/-!
# Pieces of a text

Looking for a text inside another, and cutting a text at a character.
-/

namespace KanjiSearch.Text

/-- Whether `piece` stands somewhere in `cs`. -/
def hasPiece (piece : List Char) : List Char → Bool
  | [] => piece.isEmpty
  | c :: cs => piece.isPrefixOf (c :: cs) || hasPiece piece cs

/-- The texts before and after the first `mark`. -/
def splitOnce (mark : Char) : List Char → Option (List Char × List Char)
  | [] => none
  | c :: cs =>
    if c = mark then some ([], cs) else (splitOnce mark cs).map fun (before, after) => (c :: before, after)

/-- The lines of a text; a line break at the end starts no further line. -/
def lines (cs : List Char) : List (List Char) :=
  let pieces := cs.splitOn '\n'
  if pieces.getLast? = some [] then pieces.dropLast else pieces

end KanjiSearch.Text
