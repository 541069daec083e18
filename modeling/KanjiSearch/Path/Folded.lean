import KanjiSearch.Path.Basic

/-!
# Folded paths

Folding takes a path to a shorter one by its text alone: dots are dropped, and two dots take back the component before
them. Where nothing can be taken back the two dots are kept, and later ones may take them back.
-/

namespace KanjiSearch.Path

/-- Components in reverse order with one more component folded in. -/
def foldStep (reversed : List Component) : Component → List Component
  | .here => reversed
  | .up =>
    match reversed with
    | [] => [.up]
    | [.root] => [.up, .root]
    | _ :: before => before
  | c => c :: reversed

/-- Folded components. -/
def foldComponents (components : List Component) : List Component :=
  (components.foldl foldStep []).reverse

/-- A path in folded form. -/
def folded (p : Path) : Path :=
  ofComponents (foldComponents p.components)

end KanjiSearch.Path
