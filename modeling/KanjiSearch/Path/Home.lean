import KanjiSearch.Path.Folded
import KanjiSearch.Path.Relative

/-!
# Paths in settings and in messages

Settings name files in the home directory by a tilde (`Path.resolve?`), and messages show paths in the shortest way in
which the reader can find them (`Path.shown`).
-/

namespace KanjiSearch.Path

/-- A text with a tilde at its start replaced by the home directory. There is none if the home directory is
not known. -/
def expandHome? (home : Option Path) : List Char → Option Path
  | ['~'] => home
  | '~' :: '/' :: rest => home.map (·.join ⟨rest⟩)
  | text => some ⟨text⟩

/-- The path that `text` names in a settings file of the directory `dir`: an absolute one is kept, and any other is read
from the directory and folded. -/
def resolve? (home : Option Path) (dir : Path) (text : List Char) : Option Path :=
  (expandHome? home text).map fun p => if p.isAbsolute then p else (dir.join p).folded

/-- The text for the way to a path from the directory `base`, if the path is not above or beside it. -/
def shownFrom? (base p : Path) : Option (List Char) :=
  match p.relativeTo? base with
  | none => none
  | some [] => some ['.']
  | some (.up :: _) => none
  | some (.root :: _) => none
  | some way => some (ofComponents way).text

/-- The text for a path in the home directory. -/
def shownFromHome? (home p : Path) : Option (List Char) :=
  (p.below? home).map fun rest => (join ⟨['~']⟩ rest).text

/-- The text by which a path is shown to a reader who is in the directory `base`. -/
def shown (home base : Option Path) (p : Path) : List Char :=
  match base.bind (shownFrom? · p) with
  | some text => text
  | none => (home.bind (shownFromHome? · p)).getD p.text

end KanjiSearch.Path
