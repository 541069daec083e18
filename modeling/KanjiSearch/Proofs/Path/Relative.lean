import KanjiSearch.Path.Relative
import KanjiSearch.Proofs.Lists
import KanjiSearch.Proofs.Path.Written
import Mathlib.Data.List.DropRight
import Mathlib.Data.List.Infix

/-!
# Paths seen from a directory

* `wayBetween?_append`, `wayBetween?_of_not_prefix`: the way to a place below is what is below, and the way to any other
  place leads up first.
* `exists_below?`, `below?_eq_none`: cutting a directory off a path gives a path of the remaining components, which
  stands in the text of the path as it was written.
-/

namespace KanjiSearch.Path

variable {p base : Path} {steps target below : List Component} {pieces rest : List (List Char)}

/-! ## Ways -/

theorem wayBetween?_append (steps below : List Component) : wayBetween? (steps ++ below) steps = some below := by
  induction steps with
  | nil => cases below <;> rfl
  | cons s steps ih => rw [List.cons_append, wayBetween?, if_pos rfl, ih]

/-- From a directory that is given by names alone, the way to what is not below it leads up first. -/
theorem wayBetween?_of_not_prefix (hhere : .here ∉ steps) (hup : .up ∉ steps) (h : ¬ steps <+: target) :
    ∃ way, wayBetween? target steps = some (.up :: way) := by
  induction steps generalizing target with
  | nil => exact absurd List.nil_prefix h
  | cons s steps ih =>
    rw [List.mem_cons, not_or] at hhere hup
    cases target with
    | nil => exact ⟨List.replicate steps.length .up, rfl⟩
    | cons t target =>
      rw [wayBetween?]
      split
      · next hts =>
        subst hts
        exact ih hhere.2 hup.2 fun hprefix => h (List.cons_prefix_cons.mpr ⟨rfl, hprefix⟩)
      · cases s with
        | here => exact absurd rfl hhere.1
        | up => exact absurd rfl hup.1
        | root => exact ⟨_, rfl⟩
        | name name => exact ⟨_, rfl⟩

/-! ## What is left of a path -/

/-- Pieces of which the first steps are taken leave the further ones. -/
theorem exists_afterSteps? (h : pieces.filterMap step? = steps ++ below) :
    ∃ rest, afterSteps? steps pieces = some rest ∧ rest <:+ pieces ∧ rest.filterMap step? = below := by
  induction pieces generalizing steps with
  | nil =>
    obtain ⟨rfl, rfl⟩ := List.append_eq_nil_iff.mp h.symm
    exact ⟨[], rfl, List.suffix_refl _, rfl⟩
  | cons piece pieces ih =>
    cases steps with
    | nil => exact ⟨piece :: pieces, rfl, List.suffix_refl _, h⟩
    | cons s steps =>
      rw [afterSteps?]
      cases hstep : step? piece with
      | none =>
        rw [List.filterMap_cons_none hstep] at h
        obtain ⟨rest, hrest, hsuffix, hbelow⟩ := ih h
        exact ⟨rest, hrest, hsuffix.trans (List.suffix_cons _ _), hbelow⟩
      | some t =>
        rw [List.filterMap_cons_some hstep] at h
        obtain ⟨rfl, htail⟩ := List.cons.inj h
        obtain ⟨rest, hrest, hsuffix, hbelow⟩ := ih htail
        exact ⟨rest, by simpa using hrest, hsuffix.trans (List.suffix_cons _ _), hbelow⟩

theorem prefix_of_afterSteps? (h : afterSteps? steps pieces = some rest) : steps <+: pieces.filterMap step? := by
  induction pieces generalizing steps with
  | nil =>
    cases steps with
    | nil => exact List.nil_prefix
    | cons s steps => cases h
  | cons piece pieces ih =>
    cases steps with
    | nil => exact List.nil_prefix
    | cons s steps =>
      rw [afterSteps?] at h
      cases hstep : step? piece with
      | none =>
        rw [hstep] at h
        rw [List.filterMap_cons_none hstep]
        exact ih h
      | some t =>
        rw [hstep] at h
        dsimp only at h
        split at h
        · next hst =>
          rw [List.filterMap_cons_some hstep, hst]
          exact List.cons_prefix_cons.mpr ⟨rfl, ih h⟩
        · cases h

theorem filterMap_trimIdle (pieces : List (List Char)) :
    (trimIdle pieces).filterMap step? = pieces.filterMap step? := by
  have hfront := filterMap_dropIdle pieces
  rw [List.filterMap_reverse, List.filterMap_reverse, List.reverse_inj] at hfront
  rw [trimIdle, filterMap_dropIdle, List.reverse_reverse, hfront]

theorem trimIdle_eq (pieces : List (List Char)) : trimIdle pieces =
    (pieces.dropWhile fun piece => (step? piece).isNone).rdropWhile fun piece => (step? piece).isNone := rfl

theorem trimIdle_isInfix (pieces : List (List Char)) : trimIdle pieces <:+: pieces := by
  rw [trimIdle_eq]
  exact (List.rdropWhile_prefix _ _).isInfix.trans (List.dropWhile_suffix _).isInfix

/-- The first piece that is left is a step. -/
theorem exists_step_of_trimIdle {piece : List Char} (h : trimIdle pieces = piece :: rest) :
    ∃ c, step? piece = some c := by
  obtain ⟨back, hback⟩ := List.rdropWhile_prefix (p := fun piece => (step? piece).isNone)
    (pieces.dropWhile fun piece => (step? piece).isNone)
  rw [← trimIdle_eq, h] at hback
  have hpiece := List.head?_dropWhile_not (fun piece => (step? piece).isNone) pieces
  rw [← hback] at hpiece
  exact Option.isSome_iff_exists.mp (by simpa using hpiece)

/-- Pieces whose first one is a step are a path of their own. -/
theorem components_of_trimIdle (hslash : ∀ piece ∈ pieces, '/' ∉ piece) :
    start ⟨List.intercalate ['/'] (trimIdle pieces)⟩ = [] ∧
      components ⟨List.intercalate ['/'] (trimIdle pieces)⟩ = pieces.filterMap step? := by
  rw [← filterMap_trimIdle]
  cases h : trimIdle pieces with
  | nil => exact ⟨rfl, rfl⟩
  | cons piece rest =>
    obtain ⟨c, hc⟩ := exists_step_of_trimIdle h
    have hpieces : Path.pieces ⟨List.intercalate ['/'] (piece :: rest)⟩ = piece :: rest :=
      List.splitOn_intercalate _ (fun piece hpiece => hslash piece ((trimIdle_isInfix pieces).mem (by rwa [h])))
        (List.cons_ne_nil _ _)
    have hstart := start_of_step hpieces hc
    rw [components_of_start hstart, hpieces]
    exact ⟨hstart, rfl⟩

/-- The path that is left when the directory `base` is cut off stands in the text of the path as it was written. -/
theorem exists_below? (hp : p.isAbsolute = true) (hbase : base.isAbsolute = true)
    (h : p.components = base.components ++ below) :
    ∃ rest, p.below? base = some rest ∧ rest.start = [] ∧ rest.components = below ∧ rest.text <:+: p.text := by
  rw [components_of_isAbsolute hp, components_of_isAbsolute hbase, List.cons_append] at h
  obtain ⟨rest, hrest, hsuffix, hbelow⟩ := exists_afterSteps? (List.cons.inj h).2
  have hstart : p.start = base.start := by rw [start, start, if_pos hp, if_pos hbase]
  have htext : List.intercalate ['/'] (trimIdle rest) <:+: p.text := by
    have hinfix := intercalate_isInfix ['/'] ((trimIdle_isInfix rest).trans hsuffix.isInfix)
    rwa [Path.pieces, List.intercalate_splitOn] at hinfix
  obtain ⟨hrestStart, hrestComponents⟩ := components_of_trimIdle fun piece hpiece =>
    slash_not_mem p piece (hsuffix.mem hpiece)
  refine ⟨⟨List.intercalate ['/'] (trimIdle rest)⟩, ?_, hrestStart, hrestComponents.trans hbelow, htext⟩
  rw [below?, if_pos hstart]
  exact congrArg (Option.map _) hrest

theorem below?_eq_none (hp : p.isAbsolute = true) (hbase : base.isAbsolute = true)
    (h : ¬ base.components <+: p.components) : p.below? base = none := by
  have hstart : p.start = base.start := by rw [start, start, if_pos hp, if_pos hbase]
  rw [components_of_isAbsolute hp, components_of_isAbsolute hbase, List.cons_prefix_cons] at h
  rw [below?, if_pos hstart, Option.map_eq_none_iff, Option.eq_none_iff_forall_ne_some]
  exact fun rest hrest => h ⟨rfl, prefix_of_afterSteps? hrest⟩

end KanjiSearch.Path
