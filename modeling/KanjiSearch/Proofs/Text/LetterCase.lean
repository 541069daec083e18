import KanjiSearch.Text.Case
import Mathlib.Data.List.Basic

/-!
# Lower case

A letter of the lower case is its own lower case (`lowerChar_of_mem`), so a text in lower case stays as it is
(`lower_lower`), and only an empty text has an empty lower case (`lower_eq_nil_iff`).

The letters of a text have their lower case one by one, apart from `Σ`. Between two other texts (`lowerBetween`) a text
has the same lower case as between further ones exactly if each of its `Σ` ends a word here as it does there
(`lowerBetween_eq_iff`).
-/

namespace KanjiSearch.Text

/-! ## The tables -/

/-- Whether none of the numbers from `first` to `last`, which are `step` apart, is a letter of `runs`, which ascend. -/
def avoids (first last step : Nat) : List CaseRun → Bool
  | [] => true
  | run :: runs =>
    bif run.last.blt first then avoids first last step runs
    else bif last.blt run.first then true
    else (first == last || step % run.step == 0) && (first - run.first) % run.step != 0 && avoids first last step runs

/-- Whether each of `runs`, moved, lies as a whole below `low` or above `high`. -/
def isBeside (low high : Nat) (runs : List CaseRun) : Bool :=
  runs.all fun run => (run.last + run.shift).toNat.blt low || high.blt (run.first + run.shift).toNat

/-- Numbers that start beside a run stay beside it if their steps fit into those of the run. -/
theorem sub_mod_ne_zero {first last step i start width : Nat} (hi : first + i * step ≤ last)
    (hstep : first = last ∨ step % width = 0) (h : (first - start) % width ≠ 0) :
    (first + i * step - start) % width ≠ 0 := by
  have hstart : start < first := by
    by_contra hle
    rw [Nat.sub_eq_zero_of_le (Nat.le_of_not_lt hle), Nat.zero_mod] at h
    exact h rfl
  rcases hstep with rfl | hstep
  · obtain hnone : i * step = 0 := by omega
    rwa [hnone]
  · obtain ⟨m, rfl⟩ := Nat.dvd_of_mod_eq_zero hstep
    rw [Nat.sub_add_comm (Nat.le_of_lt hstart), Nat.mul_left_comm, Nat.add_mul_mod_self_left]
    exact h

theorem shifted?_of_avoids {first last step i : Nat} (hi : first + i * step ≤ last) {runs : List CaseRun}
    (h : avoids first last step runs = true) : shifted? runs (first + i * step) = none := by
  induction runs with
  | nil => rfl
  | cons run runs ih =>
    rw [shifted?]
    split
    · rfl
    · next hfirst =>
      rw [avoids, Bool.cond_eq_ite] at h
      split at h
      · next hlast =>
        rw [Nat.blt_eq] at hlast
        have hbeyond : ¬ first + i * step ≤ run.last := by omega
        rw [if_neg (by simp [hbeyond]), ih h]
      · rw [Bool.cond_eq_ite] at h
        split at h
        · next hbelow =>
          rw [Nat.blt_eq] at hbelow
          omega
        · simp only [Bool.and_eq_true, Bool.or_eq_true, beq_iff_eq, bne_iff_ne] at h
          obtain ⟨⟨hstep, hrest⟩, hruns⟩ := h
          rw [if_neg (by simp [sub_mod_ne_zero hi hstep hrest]), ih hruns]

/-- A letter with a change belongs to a run. -/
theorem exists_of_shifted? {runs : List CaseRun} {c n : Nat} (h : shifted? runs c = some n) :
    ∃ run ∈ runs, ∃ i, c = run.first + i * run.step ∧ c ≤ run.last ∧ n = (c + run.shift).toNat := by
  induction runs with
  | nil => cases h
  | cons run runs ih =>
    rw [shifted?] at h
    split at h
    · cases h
    · next hfirst =>
      split at h
      · next hrun =>
        simp only [Bool.and_eq_true, decide_eq_true_eq, beq_iff_eq] at hrun
        obtain ⟨i, hi⟩ := Nat.dvd_of_mod_eq_zero hrun.2
        refine ⟨run, List.mem_cons_self, i, ?_, hrun.1, (Option.some.inj h).symm⟩
        rw [Nat.mul_comm, ← hi]
        omega
      · obtain ⟨run, hrun, hc⟩ := ih h
        exact ⟨run, List.mem_cons_of_mem _ hrun, hc⟩

/-- The letters of a run, moved, keep their distances. -/
theorem moved_eq {run : CaseRun} (hlow : 0 ≤ run.first + run.shift) {i : Nat}
    (hlast : run.first + i * run.step ≤ run.last) :
    ((run.first + i * run.step : Nat) + run.shift).toNat = (run.first + run.shift).toNat + i * run.step ∧
      (run.first + run.shift).toNat + i * run.step ≤ (run.last + run.shift).toNat := by
  constructor <;> omega

/-- The runs of the lower case are moved to where no run is. -/
theorem lowerRuns_moved :
    (∀ run ∈ lowerRuns, 0 ≤ run.first + run.shift ∧
      avoids (run.first + run.shift).toNat (run.last + run.shift).toNat run.step lowerRuns = true) ∧
    isBeside 0x130 0x130 lowerRuns = true := by
  decide +kernel

/-- The one letter whose lower case is of several letters. -/
theorem spelling?_of_ne {c : Nat} (h : c ≠ 0x130) : spelling? lowerSpellings c = none := by
  rw [lowerSpellings, spelling?, spelling?]
  split
  · rfl
  · rw [if_neg (by simpa using h)]

section LowerRuns

variable {c n : Nat} (h : shifted? lowerRuns c = some n)
include h

/-- No lower case lies where no run is moved to. -/
theorem not_between_of_shifted? {low high : Nat} (hruns : isBeside low high lowerRuns = true) :
    ¬ (low ≤ n ∧ n ≤ high) := by
  obtain ⟨run, hrun, i, rfl, hlast, rfl⟩ := exists_of_shifted? h
  have hside := List.all_eq_true.mp hruns run hrun
  rw [Bool.or_eq_true, Nat.blt_eq, Nat.blt_eq] at hside
  have hfirst : run.first ≤ run.first + i * run.step := Nat.le_add_right ..
  omega

/-- The lower cases of the tables have none themselves. -/
theorem shifted?_lowerRuns : shifted? lowerRuns n = none := by
  obtain ⟨run, hrun, i, rfl, hlast, rfl⟩ := exists_of_shifted? h
  obtain ⟨hlow, havoids⟩ := lowerRuns_moved.1 run hrun
  obtain ⟨hmoved, hmovedLast⟩ := moved_eq hlow hlast
  rw [hmoved]
  exact shifted?_of_avoids hmovedLast havoids

theorem spelling?_lowerRuns : spelling? lowerSpellings n = none := by
  have hbetween := not_between_of_shifted? h lowerRuns_moved.2
  exact spelling?_of_ne (by omega)

end LowerRuns

/-! ## One letter -/

theorem lowerChar_of_none {c : Char} (hspelling : spelling? lowerSpellings c.toNat = none)
    (hshifted : shifted? lowerRuns c.toNat = none) : lowerChar c = [c] := by
  simp only [lowerChar, recase, hspelling, hshifted]

/-- What the lower case of a letter may be. -/
theorem lowerChar_cases (c : Char) :
    lowerChar c = [c] ∨ lowerChar c = ['i', '\u0307'] ∨
      ∃ n, shifted? lowerRuns c.toNat = some n ∧ lowerChar c = [Char.ofNat n] := by
  cases hspelling : spelling? lowerSpellings c.toNat with
  | some spelling =>
    rw [lowerSpellings, spelling?, spelling?] at hspelling
    split at hspelling
    · cases hspelling
    · split at hspelling
      · next hc =>
        rw [beq_iff_eq] at hc
        refine .inr (.inl ?_)
        rw [← Char.ofNat_toNat c, hc]
        rfl
      · cases hspelling
  | none =>
    cases hshifted : shifted? lowerRuns c.toNat with
    | none => exact .inl (lowerChar_of_none hspelling hshifted)
    | some n => exact .inr (.inr ⟨n, rfl, by simp only [lowerChar, recase, hspelling, hshifted]⟩)

/-- A letter of the lower case is its own lower case. -/
theorem lowerChar_of_mem {c d : Char} (h : d ∈ lowerChar c) : lowerChar d = [d] := by
  rcases lowerChar_cases c with hc | hc | ⟨n, hn, hc⟩
  · rw [hc, List.mem_singleton] at h
    rw [h, hc]
  · rw [hc] at h
    rcases List.mem_pair.mp h with rfl | rfl <;> rfl
  · rw [hc, List.mem_singleton] at h
    subst h
    by_cases hvalid : n.isValidChar
    · have hcode : (Char.ofNat n).toNat = n := by rw [Char.ofNat, dif_pos hvalid]; rfl
      exact lowerChar_of_none (hcode.symm ▸ spelling?_lowerRuns hn) (hcode.symm ▸ shifted?_lowerRuns hn)
    · rw [Char.ofNat, dif_neg hvalid]
      rfl

theorem lowerChar_ne_nil (c : Char) : lowerChar c ≠ [] := by
  rcases lowerChar_cases c with h | h | ⟨n, -, h⟩ <;> rw [h] <;> exact List.cons_ne_nil _ _

/-! ## Texts -/

theorem ne_sigma_of_lowerChar {c : Char} (h : lowerChar c = [c]) : c ≠ 'Σ' := by
  rintro rfl
  exact absurd h (by decide)

theorem lowerChar_of_mem_lowerAfter {before cs : List Char} {d : Char} (h : d ∈ lowerAfter before cs) :
    lowerChar d = [d] := by
  induction cs generalizing before with
  | nil => cases h
  | cons c cs ih =>
    rw [lowerAfter, List.mem_append] at h
    rcases h with h | h
    · split at h
      · rw [List.mem_singleton] at h
        subst h
        split <;> rfl
      · exact lowerChar_of_mem h
    · exact ih h

/-- A text of letters that are their own lower case stays as it is. -/
theorem lowerAfter_eq_self {cs : List Char} (h : ∀ c ∈ cs, lowerChar c = [c]) (before : List Char) :
    lowerAfter before cs = cs := by
  induction cs generalizing before with
  | nil => rfl
  | cons c cs ih =>
    obtain ⟨hc, hcs⟩ := List.forall_mem_cons.mp h
    rw [lowerAfter, if_neg (ne_sigma_of_lowerChar hc), hc, ih hcs]
    rfl

/-- **Lower case is reached in one step.** -/
theorem lower_lower (cs : List Char) : lower (lower cs) = lower cs :=
  lowerAfter_eq_self (fun _ hc => lowerChar_of_mem_lowerAfter hc) []

theorem lower_eq_nil_iff {cs : List Char} : lower cs = [] ↔ cs = [] := by
  cases cs with
  | nil => exact iff_of_true rfl rfl
  | cons c cs =>
    refine iff_of_false (fun h => ?_) (List.cons_ne_nil c cs)
    rw [lower, lowerAfter, List.append_eq_nil_iff] at h
    have hc := h.1
    split at hc
    · exact List.cons_ne_nil _ _ hc
    · exact lowerChar_ne_nil c hc

theorem lowerString_eq_empty_iff {s : String} : lowerString s = "" ↔ s = "" := by
  rw [← String.toList_inj, lowerString, String.toList_ofList, ← String.toList_eq_nil_iff]
  exact lower_eq_nil_iff

theorem lower_lowerString (s : String) : lower (lowerString s).toList = lower s.toList := by
  rw [lowerString, String.toList_ofList, lower_lower]

/-! ## Texts between others -/

theorem meetsCased_cons (c : Char) (cs : List Char) :
    meetsCased (c :: cs) = if isCaseIgnorable c then meetsCased cs else isCased c := by
  by_cases hc : isCaseIgnorable c = true
  · rw [if_pos hc, meetsCased, List.dropWhile_cons_of_pos hc, meetsCased]
  · rw [if_neg hc, meetsCased, List.dropWhile_cons_of_neg hc]

/-- What counts first in a joined text is in the first part, unless all of this is passed over. -/
theorem meetsCased_append (xs ys : List Char) :
    meetsCased (xs ++ ys) = if xs.all isCaseIgnorable then meetsCased ys else meetsCased xs := by
  induction xs with
  | nil => rfl
  | cons c xs ih =>
    rw [List.cons_append, meetsCased_cons, meetsCased_cons, ih, List.all_cons]
    cases isCaseIgnorable c <;> rfl

theorem meetsCased_of_all {cs : List Char} (h : cs.all isCaseIgnorable = true) : meetsCased cs = false := by
  rw [← List.append_nil cs, meetsCased_append, if_pos h]
  rfl

/-- The lower case of the text `cs` between `before`, nearest first, and `after`. -/
def lowerBetween (before cs after : List Char) : List Char :=
  match cs with
  | [] => []
  | c :: cs =>
    (if c = 'Σ' then [if endsWord before (cs ++ after) then 'ς' else 'σ'] else lowerChar c) ++
      lowerBetween (c :: before) cs after

theorem lowerAfter_append (before cs after : List Char) :
    lowerAfter before (cs ++ after) = lowerBetween before cs after ++ lowerAfter (cs.reverse ++ before) after := by
  induction cs generalizing before with
  | nil => rfl
  | cons c cs ih =>
    rw [List.cons_append, lowerAfter, ih, lowerBetween, List.append_assoc, List.reverse_cons, List.append_assoc]
    rfl

theorem lowerBetween_nil (before cs : List Char) : lowerBetween before cs [] = lowerAfter before cs := by
  have h := lowerAfter_append before cs []
  rw [lowerAfter, List.append_nil, List.append_nil] at h
  exact h.symm

theorem lowerBetween_append (before cs ds after : List Char) : lowerBetween before (cs ++ ds) after =
    lowerBetween before cs (ds ++ after) ++ lowerBetween (cs.reverse ++ before) ds after := by
  induction cs generalizing before with
  | nil => rfl
  | cons c cs ih =>
    rw [List.cons_append, lowerBetween, ih, lowerBetween, List.append_assoc, List.append_assoc, List.reverse_cons,
      List.append_assoc]
    rfl

/-- How long a lower case is does not depend on what stands around the text. -/
theorem length_lowerBetween (before cs after before' after' : List Char) :
    (lowerBetween before cs after).length = (lowerBetween before' cs after').length := by
  induction cs generalizing before before' with
  | nil => rfl
  | cons c cs ih =>
    rw [lowerBetween, lowerBetween, List.length_append, List.length_append, ih (c :: before) (c :: before')]
    split <;> rfl

/-- Each `Σ` of `cs` between the texts `before`, nearest first, and `after` ends a word exactly if it does so between
`before'` and `after'`. -/
def SameSigmas (cs before after before' after' : List Char) : Prop :=
  ∀ left right, cs = left ++ 'Σ' :: right →
    endsWord (left.reverse ++ before) (right ++ after) = endsWord (left.reverse ++ before') (right ++ after')

theorem sameSigmas_cons {c : Char} {cs before after before' after' : List Char} :
    SameSigmas (c :: cs) before after before' after' ↔
      (c = 'Σ' → endsWord before (cs ++ after) = endsWord before' (cs ++ after')) ∧
        SameSigmas cs (c :: before) after (c :: before') after' := by
  constructor
  · intro h
    refine ⟨fun hc => h [] cs (by rw [hc]; rfl), fun left right hcs => ?_⟩
    have hsame := h (c :: left) right (by rw [hcs]; rfl)
    rwa [List.reverse_cons, List.append_assoc, List.append_assoc] at hsame
  · rintro ⟨hc, hcs⟩ left right hsplit
    cases left with
    | nil =>
      obtain ⟨rfl, rfl⟩ := List.cons.inj hsplit
      exact hc rfl
    | cons d left =>
      obtain ⟨rfl, hrest⟩ := List.cons.inj hsplit
      rw [List.reverse_cons, List.append_assoc, List.append_assoc]
      exact hcs left right hrest

theorem sameSigmas_of_not_mem {cs before after before' after' : List Char} (h : 'Σ' ∉ cs) :
    SameSigmas cs before after before' after' :=
  fun left right hsplit => absurd (by simp [hsplit]) h

/-- **The lower case of a text depends on what stands around it only by its `Σ`.** -/
theorem lowerBetween_eq_iff {cs before after before' after' : List Char} :
    lowerBetween before cs after = lowerBetween before' cs after' ↔ SameSigmas cs before after before' after' := by
  induction cs generalizing before before' with
  | nil => exact iff_of_true rfl fun left right h => by simp at h
  | cons c cs ih =>
    rw [sameSigmas_cons, ← ih, lowerBetween, lowerBetween]
    constructor
    · intro h
      obtain ⟨hletter, hrest⟩ := List.append_inj' h (length_lowerBetween ..)
      refine ⟨fun hc => ?_, hrest⟩
      rw [if_pos hc, if_pos hc, List.singleton_inj] at hletter
      revert hletter
      cases endsWord before (cs ++ after) <;> cases endsWord before' (cs ++ after') <;> decide
    · rintro ⟨hletter, hrest⟩
      rw [hrest]
      split
      · next hc => rw [hletter hc]
      · rfl

/-- A text without `Σ` keeps its lower case when it goes on. -/
theorem lower_prefix_append {cs : List Char} (h : 'Σ' ∉ cs) (more : List Char) : lower cs <+: lower (cs ++ more) := by
  have hsame : lowerBetween [] cs [] = lowerBetween [] cs more := lowerBetween_eq_iff.mpr (sameSigmas_of_not_mem h)
  rw [lowerBetween_nil] at hsame
  rw [lower, lower, lowerAfter_append, hsame]
  exact List.prefix_append ..

theorem mem_lower_of_sigma {cs : List Char} (h : 'Σ' ∈ cs) (before : List Char) :
    'σ' ∈ lowerAfter before cs ∨ 'ς' ∈ lowerAfter before cs := by
  induction cs generalizing before with
  | nil => cases h
  | cons c cs ih =>
    simp only [lowerAfter, List.mem_append]
    rcases List.mem_cons.mp h with rfl | h
    · rw [if_pos rfl]
      cases endsWord before cs <;> simp
    · rcases ih h (c :: before) with hs | hs
      · exact .inl (.inr hs)
      · exact .inr (.inr hs)

end KanjiSearch.Text
