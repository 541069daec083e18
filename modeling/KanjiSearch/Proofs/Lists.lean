import Mathlib.Data.List.Basic
import Mathlib.Data.List.DropRight
import Mathlib.Data.List.Forall2
import Mathlib.Data.List.TakeWhile

/-!
# Lists

Facts on lists that belong to no part of the program. A list is cut behind a run at its start (`takeWhile_append_eq`,
`dropWhile_append_eq`), before a run at its end (`rdropWhile_append_eq`, `rtakeWhile_append_eq`), or at its marks, where
the pieces have no mark (`of_mem_splitOn`). A row of steps that may fail ends at the first failure (`mapM_eq_ok_iff`,
`first_of_mapM_error`).
-/

namespace KanjiSearch

variable {α β : Type}

/-! ## Runs at the start and at the end -/

section Runs

variable {p : α → Bool} {front back : List α}

theorem takeWhile_append_eq (hfront : ∀ c ∈ front, p c = true) (hback : ∀ c, back.head? = some c → p c = false) :
    (front ++ back).takeWhile p = front := by
  rw [List.takeWhile_append_of_pos hfront]
  cases back with
  | nil => simp
  | cons c cs => simp [hback c rfl]

theorem dropWhile_append_eq (hfront : ∀ c ∈ front, p c = true) (hback : ∀ c, back.head? = some c → p c = false) :
    (front ++ back).dropWhile p = back := by
  rw [List.dropWhile_append_of_pos hfront]
  cases back with
  | nil => rfl
  | cons c cs => simp [hback c rfl]

theorem rdropWhile_append_eq (hfront : ∀ c, front.getLast? = some c → p c = false) (hback : ∀ c ∈ back, p c = true) :
    (front ++ back).rdropWhile p = front := by
  have hreverse : ∀ c ∈ back.reverse, p c = true := fun c hc => hback c (List.mem_reverse.mp hc)
  rw [← List.head?_reverse] at hfront
  rw [List.rdropWhile, List.reverse_append, dropWhile_append_eq hreverse hfront, List.reverse_reverse]

theorem rtakeWhile_append_eq (hfront : ∀ c, front.getLast? = some c → p c = false) (hback : ∀ c ∈ back, p c = true) :
    (front ++ back).rtakeWhile p = back := by
  have hreverse : ∀ c ∈ back.reverse, p c = true := fun c hc => hback c (List.mem_reverse.mp hc)
  rw [← List.head?_reverse] at hfront
  rw [List.rtakeWhile, List.reverse_append, takeWhile_append_eq hreverse hfront, List.reverse_reverse]

/-- A list whose last part does not have an element ends with it only if there is no last part. -/
theorem getLast?_eq_some_iff_of_not_mem {x : α} (h : x ∉ back) :
    (front ++ x :: back).getLast? = some x ↔ back = [] := by
  rw [List.getLast?_append_of_ne_nil _ (List.cons_ne_nil _ _)]
  refine ⟨fun hlast => ?_, fun hnil => by rw [hnil]; rfl⟩
  by_contra hne
  rw [List.getLast?_cons, List.getLast?_eq_some_getLast hne] at hlast
  exact h (Option.some.inj hlast ▸ List.getLast_mem hne)

end Runs

/-! ## Pieces between marks -/

section Pieces

variable {mark : α} {xs : List α}

/-- The elements of pieces are elements of the list, and not the mark. -/
theorem of_mem_splitOn [BEq α] [LawfulBEq α] {piece : List α} (h : piece ∈ xs.splitOn mark) :
    ∀ x ∈ piece, x ∈ xs ∧ x ≠ mark := by
  induction xs generalizing piece with
  | nil =>
    intro x hx
    rw [List.splitOn_nil, List.mem_singleton] at h
    rw [h] at hx
    cases hx
  | cons y ys ih =>
    intro x hx
    have hlater : ∀ later ∈ ys.splitOn mark, x ∈ later → x ∈ y :: ys ∧ x ≠ mark := fun later hmem hx =>
      ⟨List.mem_cons_of_mem _ (ih hmem x hx).1, (ih hmem x hx).2⟩
    rw [List.splitOn_cons_eq_if_modifyHead] at h
    split at h
    · rcases List.mem_cons.mp h with rfl | h
      · cases hx
      · exact hlater piece h hx
    · next hy =>
      obtain ⟨first, pieces, hsplit⟩ := List.exists_cons_of_ne_nil (List.splitOn_ne_nil mark ys)
      rw [hsplit] at h hlater
      rcases List.mem_cons.mp h with rfl | h
      · rcases List.mem_cons.mp hx with rfl | hx
        · exact ⟨List.mem_cons_self, by simpa using hy⟩
        · exact hlater first List.mem_cons_self hx
      · exact hlater piece (List.mem_cons_of_mem _ h) hx

theorem intercalate_append {front back : List (List α)} (hfront : front ≠ []) (hback : back ≠ []) (sep : List α) :
    sep.intercalate (front ++ back) = sep.intercalate front ++ (sep ++ sep.intercalate back) := by
  induction front with
  | nil => exact absurd rfl hfront
  | cons piece front ih =>
    by_cases hnil : front = []
    · rw [hnil, List.singleton_append, List.intercalate_cons_of_ne_nil hback, List.intercalate_singleton,
        List.append_assoc]
    · rw [List.cons_append, List.intercalate_cons_of_ne_nil (by simp [hnil]), List.intercalate_cons_of_ne_nil hnil,
        ih hnil, List.append_assoc, List.append_assoc, List.append_assoc]

/-- Pieces that follow one another stand in the joined list as they are. -/
theorem intercalate_isInfix (sep : List α) {pieces inner : List (List α)} (h : inner <:+: pieces) :
    sep.intercalate inner <:+: sep.intercalate pieces := by
  obtain ⟨front, back, rfl⟩ := h
  by_cases hinner : inner = []
  · rw [hinner]
    exact List.nil_infix
  have hback : sep.intercalate inner <+: sep.intercalate (inner ++ back) := by
    by_cases hback : back = []
    · simp [hback]
    · rw [intercalate_append hinner hback]
      exact List.prefix_append _ _
  have hfront : sep.intercalate (inner ++ back) <:+ sep.intercalate (front ++ (inner ++ back)) := by
    by_cases hfront : front = []
    · simp [hfront]
    · rw [intercalate_append hfront (by simp [hinner]), ← List.append_assoc]
      exact List.suffix_append _ _
  rw [List.append_assoc]
  exact hback.isInfix.trans hfront.isInfix

end Pieces

/-! ## Lists that stand in another one -/

section Infixes

variable {mark x y z : α} {piece front front' back back' : List α}

/-- A list that ends in a mark does not reach into a list without the mark. -/
theorem infix_of_infix_append (hback : mark ∉ back) (h : piece ++ [mark] <:+: front ++ back) :
    piece ++ [mark] <:+: front := by
  rcases List.infix_append_iff.mp h with hfront | hinside | ⟨xs, ys, hsplit, hxs, hys⟩
  · exact hfront
  · exact absurd (hinside.mem List.mem_concat_self) hback
  · rcases List.eq_nil_or_concat ys with rfl | ⟨zs, z, rfl⟩
    · rw [List.append_nil] at hsplit
      exact hsplit ▸ hxs.isInfix
    · rw [List.concat_eq_append] at hsplit hys
      rw [← List.append_assoc] at hsplit
      obtain rfl : mark = z := List.singleton_inj.mp (List.append_inj_right' hsplit rfl)
      exact absurd (hys.mem List.mem_concat_self) hback

/-- A list with one mark, at its end, stands before a further one, ends at it or stands behind it. -/
theorem infix_append_mark (hpiece : mark ∉ piece) (h : piece ++ [mark] <:+: front ++ mark :: back) :
    piece ++ [mark] <:+: front ∨ piece <:+ front ∨ piece ++ [mark] <:+: mark :: back := by
  rcases List.infix_append_iff.mp h with hfront | hinside | ⟨xs, ys, hsplit, hxs, hys⟩
  · exact .inl hfront
  · exact .inr (.inr hinside)
  · cases ys with
    | nil =>
      rw [List.append_nil] at hsplit
      exact .inl (hsplit ▸ hxs.isInfix)
    | cons y ys =>
      obtain rfl : y = mark := (List.cons_prefix_cons.mp hys).1
      rcases List.append_eq_append_iff.mp hsplit with ⟨zs, rfl, hzs⟩ | ⟨zs, rfl, hzs⟩
      · have hlength := congrArg List.length hzs
        simp only [List.length_append, List.length_cons, List.length_nil] at hlength
        obtain rfl : zs = [] := List.eq_nil_of_length_eq_zero (by omega)
        exact .inr (.inl (by simpa using hxs))
      · cases zs with
        | nil => exact .inr (.inl (by simpa using hxs))
        | cons z zs =>
          obtain rfl : y = z := (List.cons.inj hzs).1
          exact absurd (by simp) hpiece

/-- A list begins a joined one only if it begins the first part or goes on behind it. -/
theorem not_prefix_append (h : ¬ piece <+: front) (h' : ¬ front <+: piece) (back : List α) :
    ¬ piece <+: front ++ back :=
  fun hpiece => (List.prefix_or_prefix_of_prefix hpiece (List.prefix_append ..)).elim h h'

/-- A list does not stand in one that begins with a further element and differs from it at one place. -/
theorem not_infix_cons [BEq α] [LawfulBEq α] (hlength : back.length = back'.length) (hx : x ≠ y) (hz : z ≠ y) :
    ¬ front ++ y :: back <:+: x :: (front ++ z :: back') := by
  rw [List.infix_cons_iff]
  rintro (⟨rest, hprefix⟩ | hinfix)
  · have hsplit : (front ++ [y]) ++ (back ++ rest) = (x :: front) ++ z :: back' := by simpa using hprefix
    have hfront : front ++ [y] = x :: front := List.append_inj_left hsplit (by simp)
    have hcount := congrArg (List.count y) hfront
    rw [List.count_append, List.count_singleton_self, List.count_cons_of_ne hx] at hcount
    omega
  · have heq := hinfix.eq_of_length (by simp [hlength])
    exact hz (List.cons.inj (List.append_cancel_left heq)).1.symm

/-- A list does not stand in one that ends with a further element and differs from it at one place. -/
theorem not_infix_concat [BEq α] [LawfulBEq α] (hlength : front.length = front'.length) (hx : x ≠ y) (hz : z ≠ y) :
    ¬ front ++ y :: back <:+: (front' ++ z :: back) ++ [x] := by
  rw [← List.reverse_infix]
  have hlengths : front.reverse.length = front'.reverse.length := by simpa using hlength
  have hreversed : ¬ back.reverse ++ y :: front.reverse <:+: x :: (back.reverse ++ z :: front'.reverse) :=
    not_infix_cons hlengths hx hz
  simpa using hreversed

end Infixes

/-! ## Rows of steps that may fail -/

section Rows

variable {ε : Type} {xs : List α} {ys : List β}

theorem exists_left_of_forall₂ {R : α → β → Prop} (h : List.Forall₂ R xs ys) {y : β} (hy : y ∈ ys) :
    ∃ x ∈ xs, R x y := by
  induction h with
  | nil => cases hy
  | cons hxy _ ih =>
    rcases List.mem_cons.mp hy with rfl | hy
    · exact ⟨_, List.mem_cons_self, hxy⟩
    · obtain ⟨x, hx, hxy⟩ := ih hy
      exact ⟨x, List.mem_cons_of_mem _ hx, hxy⟩

theorem mapM_eq_some_iff {f : α → Option β} : xs.mapM f = some ys ↔ List.Forall₂ (fun x y => f x = some y) xs ys := by
  induction xs generalizing ys with
  | nil => simp [eq_comm]
  | cons x xs ih =>
    rw [List.mapM_cons, List.forall₂_cons_left_iff]
    cases hx : f x with
    | none => simp
    | some y => simp [← ih, Option.bind_eq_some_iff, eq_comm (a := ys)]

theorem mapM_eq_ok_iff {f : α → Except ε β} : xs.mapM f = .ok ys ↔ List.Forall₂ (fun x y => f x = .ok y) xs ys := by
  induction xs generalizing ys with
  | nil => simp [pure, Except.pure, eq_comm]
  | cons x xs ih =>
    rw [List.mapM_cons, List.forall₂_cons_left_iff]
    cases hx : f x with
    | error e => simp [bind, Except.bind]
    | ok y =>
      cases hxs : xs.mapM f with
      | error e => simp [bind, Except.bind, ← ih, hxs]
      | ok zs => simp [bind, Except.bind, pure, Except.pure, ← ih, hxs, eq_comm]

/-- A row of steps fails at the first step that fails. -/
theorem first_of_mapM_error {f : α → Except ε β} {e : ε} (h : xs.mapM f = .error e) :
    ∃ before x after, xs = before ++ x :: after ∧ (∀ y ∈ before, ∃ b, f y = .ok b) ∧ f x = .error e := by
  induction xs with
  | nil => cases h
  | cons x xs ih =>
    rw [List.mapM_cons] at h
    cases hx : f x with
    | error e' =>
      rw [hx] at h
      cases h
      exact ⟨[], x, xs, rfl, by simp, hx⟩
    | ok b =>
      have hxs : xs.mapM f = .error e := by
        rw [hx] at h
        cases hxs : xs.mapM f with
        | error e' => rwa [hxs] at h
        | ok bs => rw [hxs] at h; cases h
      obtain ⟨before, z, after, rfl, hbefore, hz⟩ := ih hxs
      exact ⟨x :: before, z, after, rfl, List.forall_mem_cons.mpr ⟨⟨b, hx⟩, hbefore⟩, hz⟩

theorem exists_mapM_error_iff {f : α → Except ε β} :
    (∃ e, xs.mapM f = .error e) ↔ ∃ x ∈ xs, ∃ e, f x = .error e := by
  induction xs with
  | nil => simp [pure, Except.pure]
  | cons x xs ih =>
    rw [List.mapM_cons, List.exists_mem_cons_iff, ← ih]
    cases f x with
    | error e => simp [bind, Except.bind]
    | ok y => cases xs.mapM f <;> simp [bind, Except.bind, pure, Except.pure]

end Rows

end KanjiSearch
