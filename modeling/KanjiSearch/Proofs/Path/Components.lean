import KanjiSearch.Path.Basic
import KanjiSearch.Proofs.Lists

/-!
# Paths by their components

The text of a path is taken apart into pieces, and some pieces are its steps. What is said here about joining and about
the paths above a path is said by their components (`components_eq`, `components_ofPieces`), since idle pieces make no
difference.

* `parents_pairwise`: the paths above a path are further and further up.
* `map_components_parents`: they are all the paths up to the root, with one component less each time.
* `isAbsolute_of_mem_parents`, `isAbsolute_join`: nothing leads from an absolute path to one that is not.
* `steps_join_of_same`: paths with the same components lead the same way from every directory.
* `components_join`, `exists_parent?_join`: a name read from a directory is one component more than the directory, and
  directly above it is the directory.
-/

namespace KanjiSearch.Path

variable {p q : Path} {first : List Char} {rest : List (List Char)}

/-! ## Components and pieces -/

/-- What the first piece of a path says about where the path starts. -/
def startOf (first : List Char) : List Component :=
  if first = [] then [.root] else if first = ['.'] then [.here] else []

theorem exists_pieces (p : Path) : ∃ first rest, p.pieces = first :: rest :=
  List.exists_cons_of_ne_nil (List.splitOn_ne_nil '/' p.text)

theorem slash_not_mem (p : Path) : ∀ piece ∈ p.pieces, '/' ∉ piece :=
  fun _ h hmem => (of_mem_splitOn h '/' hmem).2 rfl

/-- Only the first piece of an absolute path is empty in front of a slash. -/
theorem isAbsolute_iff (h : p.pieces = first :: rest) (hne : p.text ≠ []) : p.isAbsolute = true ↔ first = [] := by
  obtain ⟨c, cs, htext⟩ := List.exists_cons_of_ne_nil hne
  unfold pieces at h
  rw [htext, List.splitOn_cons_eq_if_modifyHead] at h
  rw [isAbsolute, htext, List.head?_cons, beq_iff_eq, Option.some.injEq]
  by_cases hc : c = '/'
  · subst hc
    rw [if_pos (beq_self_eq_true _)] at h
    exact ⟨fun _ => (List.cons.inj h).1.symm, fun _ => rfl⟩
  · obtain ⟨piece, pieces, hcs⟩ := List.exists_cons_of_ne_nil (List.splitOn_ne_nil '/' cs)
    rw [if_neg (by simpa using hc), hcs] at h
    refine ⟨fun h => absurd h hc, fun hnil => ?_⟩
    rw [← (List.cons.inj h).1] at hnil
    cases hnil

theorem components_eq (h : p.pieces = first :: rest) (hne : p.text ≠ []) :
    p.components = startOf first ++ (first :: rest).filterMap step? := by
  rw [components, start, startOf, h]
  by_cases hfirst : first = []
  · rw [if_pos ((isAbsolute_iff h hne).mpr hfirst), if_pos hfirst]
  · rw [if_neg (mt (isAbsolute_iff h hne).mp hfirst), if_neg hfirst]
    simp

theorem step?_ne_root (piece : List Char) : step? piece ≠ some .root := by
  unfold step?
  split
  · simp
  · split <;> simp

/-- A path is absolute when its first component is the root. -/
theorem isAbsolute_iff_head? : p.isAbsolute = true ↔ p.components.head? = some .root := by
  unfold components start
  cases hp : p.isAbsolute with
  | true => simp
  | false =>
    have hsteps : (p.pieces.filterMap step?).head? ≠ some .root := fun h => by
      obtain ⟨piece, -, hpiece⟩ := List.mem_filterMap.mp (List.mem_of_mem_head? h)
      exact step?_ne_root piece hpiece
    by_cases hhere : p.pieces.head? = some ['.']
    · simp [hhere]
    · simpa [hhere] using hsteps

theorem pieces_ofPieces (hslash : ∀ piece ∈ first :: rest, '/' ∉ piece) (hne : first :: rest ≠ [[]]) :
    (ofPieces (first :: rest)).pieces = first :: rest := by
  rw [ofPieces]
  · exact List.splitOn_intercalate _ hslash (List.cons_ne_nil _ _)
  · exact hne

theorem components_ofPieces (hslash : ∀ piece ∈ first :: rest, '/' ∉ piece) :
    (ofPieces (first :: rest)).components = startOf first ++ (first :: rest).filterMap step? := by
  by_cases hroot : first :: rest = [[]]
  · obtain ⟨rfl, rfl⟩ := List.cons.inj hroot
    rfl
  · have hpieces := pieces_ofPieces hslash hroot
    refine components_eq hpieces fun htext => ?_
    rw [pieces, htext] at hpieces
    exact hroot hpieces.symm

/-! ## Parents -/

/-- `q` is further up than `p`: it has the first components of `p`, but not all. -/
def IsAbove (q p : Path) : Prop :=
  q.components <+: p.components ∧ q.components ≠ p.components

theorem filterMap_dropIdle (reversed : List (List Char)) :
    (dropIdle reversed).reverse.filterMap step? = reversed.reverse.filterMap step? := by
  unfold dropIdle
  induction reversed with
  | nil => rfl
  | cons piece before ih =>
    rw [List.dropWhile_cons]
    split
    · next h =>
      rw [ih]
      simp [Option.isNone_iff_eq_none.mp h]
    · rfl

theorem mem_dropIdle {piece : List Char} {reversed : List (List Char)} (h : piece ∈ (dropIdle reversed).reverse) :
    piece ∈ reversed :=
  (List.dropWhile_suffix _).mem (List.mem_reverse.mp h)

theorem components_cons_ne_nil (h : first ≠ []) (rest : List (List Char)) :
    startOf first ++ (first :: rest).filterMap step? ≠ [] := by
  by_cases hdot : first = ['.']
  · simp [startOf, hdot]
  · have hstep : step? first ≠ none := by
      rw [step?, if_neg (not_or.mpr ⟨h, hdot⟩)]
      split <;> simp
    obtain ⟨step, hstep⟩ := Option.ne_none_iff_exists'.mp hstep
    simp [hstep]

theorem components_nearest {before : List (List Char)} (hslash : ∀ piece ∈ first :: before, '/' ∉ piece) :
    (ofPieces (first :: (dropIdle before).reverse)).components =
      startOf first ++ (first :: before.reverse).filterMap step? := by
  have hidle : ∀ piece ∈ first :: (dropIdle before).reverse, '/' ∉ piece := fun piece hpiece => by
    rcases List.mem_cons.mp hpiece with rfl | hpiece
    · exact hslash piece List.mem_cons_self
    · exact hslash piece (List.mem_cons_of_mem _ (mem_dropIdle hpiece))
  rw [components_ofPieces hidle, List.filterMap_cons, filterMap_dropIdle, ← List.filterMap_cons]

/-- The paths above are further and further up. -/
theorem above_pairwise (reversed : List (List Char)) (hslash : ∀ piece ∈ first :: reversed, '/' ∉ piece) :
    (above first reversed).Pairwise (fun q r => r.IsAbove q) ∧ ∀ q ∈ above first reversed,
      q.components <+: startOf first ++ (first :: reversed.reverse).filterMap step? ∧
      q.components ≠ startOf first ++ (first :: reversed.reverse).filterMap step? := by
  induction reversed with
  | nil =>
    rw [above]
    split
    · simp
    · next hfirst =>
      exact ⟨List.pairwise_singleton _ _, List.forall_mem_singleton.mpr
        ⟨List.nil_prefix, (components_cons_ne_nil hfirst []).symm⟩⟩
  | cons piece before ih =>
    obtain ⟨hfirst, hslash'⟩ := List.forall_mem_cons.mp hslash
    have hbefore : ∀ piece ∈ first :: before, '/' ∉ piece :=
      List.forall_mem_cons.mpr ⟨hfirst, (List.forall_mem_cons.mp hslash').2⟩
    obtain ⟨hpairwise, hprefix⟩ := ih hbefore
    have hsteps : startOf first ++ (first :: (piece :: before).reverse).filterMap step? =
        (startOf first ++ (first :: before.reverse).filterMap step?) ++ (step? piece).toList := by
      rw [List.reverse_cons, ← List.cons_append, List.filterMap_append, List.append_assoc]
      cases hstep : step? piece <;> simp [hstep]
    rw [hsteps, above]
    generalize hbase : startOf first ++ (first :: before.reverse).filterMap step? = base at *
    cases hstep : step? piece with
    | none =>
      rw [Option.toList_none, List.append_nil]
      exact ⟨hpairwise, hprefix⟩
    | some step =>
      have hnearest : (ofPieces (first :: (dropIdle before).reverse)).components = base := by
        rw [components_nearest hbefore, hbase]
      have hshort : base ≠ base ++ [step] := fun h => by simpa using congrArg List.length h
      simp only [Option.isNone_some, Bool.false_eq_true, if_false, Option.toList_some]
      refine ⟨List.pairwise_cons.mpr ⟨fun q hq => ?_, hpairwise⟩, List.forall_mem_cons.mpr ⟨?_, fun q hq => ?_⟩⟩
      · rw [IsAbove, hnearest]
        exact hprefix q hq
      · rw [hnearest]
        exact ⟨List.prefix_append _ _, hshort⟩
      · obtain ⟨hle, hne⟩ := hprefix q hq
        refine ⟨hle.trans (List.prefix_append _ _), fun heq => ?_⟩
        have hlen := hle.length_le
        rw [heq, List.length_append, List.length_singleton] at hlen
        omega

/-- **The paths above a path are further and further up.** -/
theorem parents_pairwise (p : Path) : (p :: p.parents).Pairwise fun q r => r.IsAbove q := by
  obtain ⟨first, rest, h⟩ := exists_pieces p
  have hslash := slash_not_mem p
  rw [h] at hslash
  rw [parents, h]
  obtain ⟨hpairwise, hprefix⟩ := above_pairwise rest.reverse (by simpa using hslash)
  refine List.pairwise_cons.mpr ⟨fun q hq => ?_, hpairwise⟩
  by_cases hne : p.text = []
  · rw [pieces, hne] at h
    cases h
    cases hq
  · rw [IsAbove, components_eq h hne]
    simpa using hprefix q hq

theorem isAbsolute_above {reversed : List (List Char)} : ∀ q ∈ above [] reversed, q.isAbsolute = true := by
  induction reversed with
  | nil => simp [above]
  | cons piece before ih =>
    rw [above]
    split
    · exact ih
    · refine List.forall_mem_cons.mpr ⟨?_, ih⟩
      cases h : (dropIdle before).reverse with
      | nil => rfl
      | cons next pieces =>
        rw [ofPieces, List.intercalate_cons_of_ne_nil (List.cons_ne_nil _ _)]
        · rfl
        · simp

theorem map_components_above {reversed : List (List Char)} (hslash : ∀ piece ∈ reversed, '/' ∉ piece) :
    (above [] reversed).map components = (List.range (reversed.reverse.filterMap step?).length).map fun i =>
      (Component.root :: reversed.reverse.filterMap step?).rdrop (i + 1) := by
  induction reversed with
  | nil => simp [above]
  | cons piece before ih =>
    have hbefore := (List.forall_mem_cons.mp hslash).2
    have hsteps : (piece :: before).reverse.filterMap step? =
        before.reverse.filterMap step? ++ (step? piece).toList := by
      rw [List.reverse_cons, List.filterMap_append]
      cases hstep : step? piece <;> simp [hstep]
    rw [hsteps, above]
    cases hstep : step? piece with
    | none => simpa using ih hbefore
    | some step =>
      have hnil : ∀ piece ∈ [] :: before, '/' ∉ piece := List.forall_mem_cons.mpr ⟨by simp, hbefore⟩
      have hnearest : (ofPieces ([] :: (dropIdle before).reverse)).components =
          Component.root :: before.reverse.filterMap step? := components_nearest hnil
      simp only [Option.isNone_some, Bool.false_eq_true, if_false, Option.toList_some, List.map_cons, hnearest,
        ih hbefore, List.length_append, List.length_singleton, List.range_succ_eq_map, List.map_map]
      rw [← List.cons_append, List.rdrop_concat_succ, List.rdrop_zero]
      congr 1
      refine List.map_congr_left fun i _ => ?_
      simp only [Function.comp_apply]
      rw [Nat.succ_eq_add_one, List.rdrop_concat_succ]

/-- **An absolute path and the paths above it** are the path without its last components: none of them, one, two, and so
on, until only the root is left. -/
theorem map_components_parents (hp : p.isAbsolute = true) :
    (p :: p.parents).map components = (List.range p.components.length).map p.components.rdrop := by
  obtain ⟨first, rest, h⟩ := exists_pieces p
  have hne : p.text ≠ [] := fun htext => by simp [isAbsolute, htext] at hp
  obtain rfl := (isAbsolute_iff h hne).mp hp
  have hslash : ∀ piece ∈ rest.reverse, '/' ∉ piece := fun piece hpiece =>
    slash_not_mem p piece (h ▸ List.mem_cons_of_mem _ (List.mem_reverse.mp hpiece))
  have hcomponents : p.components = Component.root :: rest.filterMap step? := components_eq h hne
  have habove := map_components_above hslash
  rw [List.reverse_reverse] at habove
  rw [parents, h, List.map_cons, habove, hcomponents, List.length_cons, List.range_succ_eq_map, List.map_cons,
    List.rdrop_zero, List.map_map]
  rfl

/-- The paths above an absolute path are absolute. -/
theorem isAbsolute_of_mem_parents (hp : p.isAbsolute = true) (hq : q ∈ p.parents) : q.isAbsolute = true := by
  obtain ⟨first, rest, h⟩ := exists_pieces p
  have hne : p.text ≠ [] := fun htext => by simp [isAbsolute, htext] at hp
  rw [parents, h] at hq
  have hfirst := (isAbsolute_iff h hne).mp hp
  subst hfirst
  exact isAbsolute_above q hq

/-- Nothing above a relative path is absolute. -/
theorem isAbsolute_of_mem_parents_of_relative (hp : p.isAbsolute = false) (hq : q ∈ p.parents) :
    q.isAbsolute = false := by
  obtain ⟨habove, -⟩ := (List.pairwise_cons.mp p.parents_pairwise).1 q hq
  by_contra h
  obtain ⟨rest, hrest⟩ := List.head?_eq_some_iff.mp (isAbsolute_iff_head?.mp (by simpa using h))
  obtain ⟨further, hfurther⟩ := habove
  rw [hrest] at hfurther
  have habs : p.isAbsolute = true := isAbsolute_iff_head?.mpr (by rw [← hfurther]; rfl)
  rw [hp] at habs
  cases habs

/-! ## Joining -/

theorem join_of_isAbsolute (hp : p.isAbsolute = true) (base : Path) : base.join p = p := by
  rw [join, if_pos hp]

/-- A path read from an absolute directory is absolute. -/
theorem isAbsolute_join {base : Path} (h : base.isAbsolute = true) (p : Path) : (base.join p).isAbsolute = true := by
  have hbase := h
  rw [isAbsolute, beq_iff_eq] at h
  obtain ⟨cs, htext⟩ := List.head?_eq_some_iff.mp h
  unfold join
  split
  · assumption
  · split <;> simp [isAbsolute, htext]

/-- A relative path read from a relative directory is relative. -/
theorem isAbsolute_join_of_relative {base : Path} (hbase : base.isAbsolute = false) (hp : p.isAbsolute = false) :
    (base.join p).isAbsolute = false := by
  have hhead : base.text.head? ≠ some '/' := by simpa [isAbsolute] using hbase
  rw [join, if_neg (by simp [hp])]
  by_cases htext : base.text = []
  · rw [if_pos (.inl htext), htext]
    exact hp
  · obtain ⟨c, cs, hcs⟩ := List.exists_cons_of_ne_nil htext
    rw [hcs] at hhead ⊢
    split <;> simpa [isAbsolute] using hhead

/-- The pieces of a path read from a directory: those of the directory, of which only an idle one may be lost, and those
of the path. -/
theorem exists_pieces_join (base : Path) (hp : p.isAbsolute = false) : ∃ before,
    (base.join p).pieces = before ++ p.pieces ∧
      (base.text = [] ∧ before = [] ∨
        base.text ≠ [] ∧ before ≠ [] ∧ (base.pieces = before ∨ base.pieces = before ++ [[]])) := by
  rw [join, if_neg (by simp [hp])]
  by_cases htext : base.text = []
  · refine ⟨[], ?_, .inl ⟨htext, rfl⟩⟩
    simp [htext, pieces]
  · by_cases hlast : base.text.getLast? = some '/'
    · obtain ⟨cs, hcs⟩ := List.getLast?_eq_some_iff.mp hlast
      refine ⟨cs.splitOn '/', ?_, .inr ⟨htext, List.splitOn_ne_nil _ _, .inr ?_⟩⟩
      · rw [if_pos (.inr hlast), pieces, hcs, List.append_assoc, List.singleton_append, List.splitOn_append_cons_self]
        rfl
      · rw [pieces, hcs, List.splitOn_append_cons_self]
        rfl
    · refine ⟨base.pieces, ?_, .inr ⟨htext, List.splitOn_ne_nil _ _, .inl rfl⟩⟩
      rw [if_neg (not_or.mpr ⟨htext, hlast⟩), pieces, List.splitOn_append_cons_self]
      rfl

theorem components_of_idle {base : Path} (htext : base.text ≠ [])
    (h : base.pieces = first :: rest ∨ base.pieces = first :: (rest ++ [[]])) :
    base.components = startOf first ++ (first :: rest).filterMap step? := by
  rcases h with h | h
  · exact components_eq h htext
  · have hidle : (first :: (rest ++ [[]])).filterMap step? = (first :: rest).filterMap step? := by
      rw [← List.cons_append, List.filterMap_append]
      simp [step?]
    rw [components_eq h htext, hidle]

theorem isAbsolute_of_start (hp : p.start = []) : p.isAbsolute = false := by
  unfold start at hp
  split at hp
  · cases hp
  · next h => simpa using h

theorem components_of_start (hp : p.start = []) : p.components = p.pieces.filterMap step? := by
  rw [components, hp, List.nil_append]

/-- A path that starts in no place of its own is read from a directory by its components. -/
theorem components_join (base : Path) (hp : p.start = []) :
    (base.join p).components = base.components ++ p.components := by
  have habs := isAbsolute_of_start hp
  obtain ⟨before, hpieces, ⟨htext, -⟩ | ⟨htext, hne, hbase⟩⟩ := exists_pieces_join base habs
  · have hbase : base = ⟨[]⟩ := by rw [← htext]
    have hjoin : base.join p = p := by rw [join, if_neg (by simp [habs]), if_pos (.inl htext), htext]; rfl
    rw [hjoin, hbase]
    rfl
  · obtain ⟨first, rest, rfl⟩ := List.exists_cons_of_ne_nil hne
    have hjoin : (base.join p).text ≠ [] := by
      rw [join, if_neg (by simp [habs])]
      split <;> simp [htext]
    rw [@components_eq (base.join p) first (rest ++ p.pieces) hpieces hjoin, components_of_idle htext hbase,
      components_of_start hp, ← List.cons_append, List.filterMap_append, List.append_assoc]

/-- A path whose first piece is a step starts in no place of its own. -/
theorem start_of_step {c : Component} (h : p.pieces = first :: rest) (hstep : step? first = some c) : p.start = [] := by
  have hnil : first ≠ [] := by rintro rfl; cases hstep
  have hdot : first ≠ ['.'] := by rintro rfl; cases hstep
  have habs : ¬ p.isAbsolute = true := fun habs => by
    have hne : p.text ≠ [] := fun htext => by simp [isAbsolute, htext] at habs
    exact hnil ((isAbsolute_iff h hne).mp habs)
  rw [start, if_neg habs, h, if_neg (by simp [hdot])]

/-- **Directly above a name that is read from a directory is the directory.** -/
theorem exists_parent?_join (base : Path) (name : List Char) (hname : p.pieces = [name])
    (hstep : step? name = some (.name name)) :
    ∃ q, (base.join p).parent? = some q ∧ q.components = base.components := by
  have hnil : name ≠ [] := by rintro rfl; cases hstep
  have habs := isAbsolute_of_start (start_of_step hname hstep)
  obtain ⟨before, hpieces, ⟨htext, rfl⟩ | ⟨htext, hne, hbase⟩⟩ := exists_pieces_join base habs
  · have hbase : base = ⟨[]⟩ := by rw [← htext]
    refine ⟨⟨[]⟩, ?_, by rw [hbase]⟩
    rw [parent?, parents, hpieces, hname]
    simp [above, hnil]
  · obtain ⟨first, rest, rfl⟩ := List.exists_cons_of_ne_nil hne
    have hslash := slash_not_mem base
    have hidle : ∀ piece ∈ first :: (dropIdle rest.reverse).reverse, '/' ∉ piece := fun piece hpiece => by
      refine hslash piece ?_
      have hmem : piece ∈ first :: rest := by
        rcases List.mem_cons.mp hpiece with rfl | hpiece
        · exact List.mem_cons_self
        · exact List.mem_cons_of_mem _ (List.mem_reverse.mp (mem_dropIdle hpiece))
      rcases hbase with hbase | hbase
      · rwa [hbase]
      · rw [hbase]
        exact List.mem_append_left _ hmem
    refine ⟨ofPieces (first :: (dropIdle rest.reverse).reverse), ?_, ?_⟩
    · rw [parent?, parents, hpieces, hname]
      simp [above, hstep]
    · rw [components_ofPieces hidle, components_of_idle htext hbase, List.filterMap_cons, filterMap_dropIdle,
        List.reverse_reverse, ← List.filterMap_cons]

/-! ## Steps -/

/-- The steps of a path, without the place where it starts. -/
def steps (p : Path) : List Component :=
  p.pieces.filterMap step?

theorem step?_ne_here (piece : List Char) : step? piece ≠ some .here := by
  unfold step?
  split
  · simp
  · split <;> simp

theorem components_of_isAbsolute (hp : p.isAbsolute = true) : p.components = .root :: p.steps := by
  rw [components, start, if_pos hp]
  rfl

/-- The steps are the components that are no starts. -/
theorem steps_eq_filter (p : Path) : p.steps = p.components.filter fun c => c ≠ .root ∧ c ≠ .here := by
  have hstart : p.start.filter (fun c => c ≠ .root ∧ c ≠ .here) = [] := by
    unfold start
    split
    · rfl
    · split <;> rfl
  have hsteps : p.steps.filter (fun c => c ≠ .root ∧ c ≠ .here) = p.steps := by
    refine List.filter_eq_self.mpr fun c hc => ?_
    obtain ⟨piece, -, hpiece⟩ := List.mem_filterMap.mp hc
    have hroot : c ≠ .root := fun h => step?_ne_root piece (by rw [hpiece, h])
    have hhere : c ≠ .here := fun h => step?_ne_here piece (by rw [hpiece, h])
    simp [hroot, hhere]
  rw [components, List.filter_append, hstart, List.nil_append]
  exact hsteps.symm

/-- A path that is read from a directory has the steps of both. -/
theorem steps_join (base : Path) (hp : p.isAbsolute = false) : (base.join p).steps = base.steps ++ p.steps := by
  obtain ⟨before, hpieces, hbase⟩ := exists_pieces_join base hp
  have hbefore : before.filterMap step? = base.steps := by
    rcases hbase with ⟨htext, rfl⟩ | ⟨-, -, hbase | hbase⟩
    · rw [steps, pieces, htext]
      rfl
    · rw [steps, hbase]
    · rw [steps, hbase, List.filterMap_append]
      simp [step?]
  rw [steps, hpieces, List.filterMap_append, hbefore]
  rfl

/-- Paths that are the same lead the same way from every directory. -/
theorem steps_join_of_same (base : Path) (h : p.same q = true) : (base.join p).steps = (base.join q).steps := by
  rw [same, beq_iff_eq] at h
  have hsteps : p.steps = q.steps := by rw [steps_eq_filter, steps_eq_filter, h]
  have habs : p.isAbsolute = q.isAbsolute := by
    rw [Bool.eq_iff_iff, isAbsolute_iff_head?, isAbsolute_iff_head?, h]
  cases hp : p.isAbsolute with
  | true => rw [join_of_isAbsolute hp, join_of_isAbsolute (habs ▸ hp), hsteps]
  | false => rw [steps_join base hp, steps_join base (habs ▸ hp), hsteps]

end KanjiSearch.Path
