/-!
# Paths

A path is kept as the text that it was given as. What it names is read off its components (`Path.components`): empty
pieces between slashes and dots behind the start name nothing. Two paths are the same (`Path.same`) when their
components are.
-/

namespace KanjiSearch

/-- A step of a path. -/
inductive Component where
  /-- the start of an absolute path -/
  | root
  /-- a dot at the start of a path -/
  | here
  /-- two dots: the directory above -/
  | up
  | name (text : List Char)
  deriving DecidableEq

/-- The text of a component in a path. -/
def Component.text : Component → List Char
  | root => []
  | here => ['.']
  | up => ['.', '.']
  | name text => text

/-- A path of a file or directory. -/
structure Path where
  text : List Char
  deriving DecidableEq

namespace Path

/-- The path with the text `s`. -/
def ofString (s : String) : Path :=
  ⟨s.toList⟩

/-- The text of a path. -/
def toString (p : Path) : String :=
  String.ofList p.text

/-- Whether a path starts at the root. -/
def isAbsolute (p : Path) : Bool :=
  p.text.head? == some '/'

/-! ## Components -/

/-- The step that a piece between slashes stands for, if any. -/
def step? (piece : List Char) : Option Component :=
  if piece = [] ∨ piece = ['.'] then none
  else if piece = ['.', '.'] then some .up
  else some (.name piece)

/-- The pieces of a path between its slashes. -/
def pieces (p : Path) : List (List Char) :=
  p.text.splitOn '/'

/-- The component at the start of a path that is no step. -/
def start (p : Path) : List Component :=
  if p.isAbsolute then [.root] else if p.pieces.head? = some ['.'] then [.here] else []

/-- The components of a path. -/
def components (p : Path) : List Component :=
  p.start ++ p.pieces.filterMap step?

/-- Whether two paths have the same components. -/
def same (p q : Path) : Bool :=
  p.components == q.components

/-- The path that consists of given components. -/
def ofComponents : List Component → Path
  | [.root] => ⟨['/']⟩
  | components => ⟨List.intercalate ['/'] (components.map (·.text))⟩

/-! ## Joining -/

/-- A path that is read from the directory `base`. An absolute path does not depend on the directory. -/
def join (base p : Path) : Path :=
  if p.isAbsolute then p
  else if base.text = [] ∨ base.text.getLast? = some '/' then ⟨base.text ++ p.text⟩
  else ⟨base.text ++ '/' :: p.text⟩

/-! ## Parents -/

/-- The path with given pieces. A single empty piece is what is left of the root. -/
def ofPieces : List (List Char) → Path
  | [[]] => ⟨['/']⟩
  | pieces => ⟨List.intercalate ['/'] pieces⟩

/-- Pieces in reverse order without those at the end that name nothing. -/
def dropIdle (reversed : List (List Char)) : List (List Char) :=
  reversed.dropWhile fun piece => (step? piece).isNone

/-- The paths above a path with the piece `first` and further pieces, which are given in reverse order. -/
def above (first : List Char) : List (List Char) → List Path
  | [] => if first = [] then [] else [⟨[]⟩]
  | piece :: before =>
    if (step? piece).isNone then above first before
    else ofPieces (first :: (dropIdle before).reverse) :: above first before

/-- The paths above a path, the nearest first. The last one is the root, or the empty path. -/
def parents (p : Path) : List Path :=
  match p.pieces with
  | [] => []
  | first :: rest => above first rest.reverse

/-- The path above a path: none above the root and the empty path. -/
def parent? (p : Path) : Option Path :=
  p.parents.head?

end Path

end KanjiSearch
