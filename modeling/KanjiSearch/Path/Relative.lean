import KanjiSearch.Path.Basic

/-!
# Paths seen from a directory

Two ways to write a path without the directory in which it lies: `Path.below?` cuts the directory off the text and keeps
the rest as it was written, and `Path.relativeTo?` finds the steps from the directory to the path.

A dot at the start of the place from which `way?` leads is a step of its own, which the way answers by its first step
down.
-/

namespace KanjiSearch.Path

/-- The pieces that are left when the steps of `steps` have been taken. -/
def afterSteps? : List Component → List (List Char) → Option (List (List Char))
  | [], pieces => some pieces
  | _ :: _, [] => none
  | s :: steps, piece :: pieces =>
    match step? piece with
    | none => afterSteps? (s :: steps) pieces
    | some t => if s = t then afterSteps? steps pieces else none

/-- Pieces without those at both ends that name nothing. -/
def trimIdle (pieces : List (List Char)) : List (List Char) :=
  (dropIdle (dropIdle pieces).reverse).reverse

/-- The rest of a path that starts with the components of `base`. -/
def below? (p base : Path) : Option Path :=
  if p.start = base.start then
    (afterSteps? (base.pieces.filterMap step?) p.pieces).map fun rest => ⟨List.intercalate ['/'] (trimIdle rest)⟩
  else none

/-- The way from one place to another behind their common beginning, if the place is not given from further up. -/
def way? : List Component → List Component → Option (List Component)
  | target, [] => some target
  | [], steps => some (List.replicate steps.length .up)
  | t :: target, .here :: steps => (way? target steps).map (t :: ·)
  | _ :: _, .up :: _ => none
  | t :: target, _ :: steps => some (List.replicate (steps.length + 1) .up ++ t :: target)

/-- The way between two places without their common beginning. -/
def wayBetween? : List Component → List Component → Option (List Component)
  | t :: target, s :: steps => if t = s then wayBetween? target steps else way? (t :: target) (s :: steps)
  | target, steps => way? target steps

/-- The components of the path that leads from the directory `base` to `p`. An absolute path is its own way from a
directory that is not absolute. -/
def relativeTo? (p base : Path) : Option (List Component) :=
  if p.isAbsolute = base.isAbsolute then wayBetween? p.components base.components
  else if p.isAbsolute then some p.components
  else none

end KanjiSearch.Path
