import KanjiSearch.Toml.Writer
import Mathlib.Data.List.TakeWhile

/-!
# Quoted texts are read as they were written

What may stand for a text between its marks is settled character by character (`Quote.Spells`): most characters stand
for themselves, and between double quotes there are escapes. Only the marks themselves look at their neighbours, since
three of them in a row would end the text.

* `Quote.ending?_append`: the closing marks end a text where only marks are left of it, and nowhere before.
* `Quote.Spells.read`: what stands for a text is read as this text.
* `spells_writtenChars`, `spells_self`: between double quotes every text can be written, and between single ones the
  texts without control codes and without too many single quotes.
* `spells_writtenBody`, `opening?_writtenText`: a written text stands for itself between the marks that are chosen.
-/

namespace KanjiSearch.Toml

/-! ## The end of a text -/

namespace Quote

/-- The number of marks in a row that may stand inside a text. -/
def room (q : Quote) : Nat :=
  if q.multiline then 2 else 0

/-- The number of marks at the beginning of a text. -/
def leading (q : Quote) (cs : List Char) : Nat :=
  (cs.takeWhile (· == q.mark)).length

theorem leading_mark (q : Quote) (cs : List Char) : q.leading (q.mark :: cs) = q.leading cs + 1 := by
  simp [leading]

theorem leading_cons_of_ne {q : Quote} {c : Char} (hc : c ≠ q.mark) (cs : List Char) : q.leading (c :: cs) = 0 := by
  simp [leading, hc]

theorem leading_append_of_all {q : Quote} {cs : List Char} (h : cs.all (· == q.mark) = true) (rest : List Char) :
    q.leading (cs ++ rest) = cs.length + q.leading rest := by
  have htake : cs.takeWhile (· == q.mark) = cs := List.takeWhile_eq_self_iff.mpr (List.all_eq_true.mp h)
  rw [leading, List.takeWhile_append, htake, if_pos rfl, List.length_append, leading]

theorem leading_append_of_not_all {q : Quote} {cs : List Char} (h : cs.all (· == q.mark) = false) (rest : List Char) :
    q.leading (cs ++ rest) = q.leading cs := by
  have hne : (cs.takeWhile (· == q.mark)).length ≠ cs.length := fun hlen => by
    have htake := (List.takeWhile_prefix (· == q.mark)).eq_of_length hlen
    rw [List.takeWhile_eq_self_iff, ← List.all_eq_true, h] at htake
    cases htake
  rw [leading, List.takeWhile_append, if_neg hne, leading]

theorem leading_marks (q : Quote) {rest : List Char} (h : rest.head? ≠ some q.mark) :
    q.leading (q.marks ++ rest) = q.marks.length := by
  have hall : q.marks.all (· == q.mark) = true := by unfold marks; split <;> simp
  have hrest : q.leading rest = 0 := by
    cases rest with
    | nil => rfl
    | cons c cs => exact leading_cons_of_ne (fun hc => h (congrArg some hc)) cs
  rw [leading_append_of_all hall, hrest, Nat.add_zero]

theorem leading_append_marks {q : Quote} {body : List Char} (hbody : q.leading body ≤ q.room) {rest : List Char}
    (hrest : rest.head? ≠ some q.mark) : q.leading (body ++ (q.marks ++ rest)) ≤ q.room + q.marks.length := by
  cases hall : body.all (· == q.mark) with
  | true =>
    have hown := leading_append_of_all hall []
    rw [List.append_nil] at hown
    rw [leading_append_of_all hall, leading_marks q hrest]
    exact Nat.add_le_add_right ((hown.symm.le).trans hbody) _
  | false =>
    rw [leading_append_of_not_all hall]
    exact hbody.trans (Nat.le_add_right _ _)

/-- The closing marks end a text where only marks are left of it, and nowhere before. -/
theorem ending?_append {q : Quote} {body rest : List Char} (hbody : q.leading body ≤ q.room)
    (hrest : rest.head? ≠ some q.mark) :
    q.ending? (body ++ (q.marks ++ rest)) = if body.all (· == q.mark) then some (body, rest) else none := by
  have hmarks := q.leading_marks hrest
  cases hall : body.all (· == q.mark) with
  | true =>
    have hrun := leading_append_of_all hall (q.marks ++ rest)
    have hown := leading_append_of_all hall []
    have hbody' : List.replicate body.length q.mark = body :=
      (List.eq_replicate_of_mem fun c hc => by simpa using List.all_eq_true.mp hall c hc).symm
    have hlen : body.length ≤ q.room := by
      rw [List.append_nil] at hown
      exact (hown.symm.le).trans hbody
    rw [hmarks] at hrun
    simp only [leading] at hrun
    unfold ending?
    rw [hrun]
    unfold room at hlen
    cases hm : q.multiline with
    | true =>
      have hmin : min (body.length + 3) 5 = body.length + 3 := by simp only [hm, if_true] at hlen; omega
      simp [marks, hm, hmin, hbody', List.drop_append]
    | false =>
      have hnil : body = [] := List.length_eq_zero_iff.mp (by simpa [hm] using hlen)
      simp [marks, hm, hnil]
  | false =>
    have hrun := leading_append_of_not_all hall (q.marks ++ rest)
    simp only [leading] at hrun hbody
    unfold ending?
    rw [hrun]
    unfold room at hbody
    cases hm : q.multiline with
    | true =>
      have : ¬ 3 ≤ (body.takeWhile (· == q.mark)).length := by simp [hm] at hbody; omega
      simp [this]
    | false =>
      have : ¬ 1 ≤ (body.takeWhile (· == q.mark)).length := by simp [hm] at hbody ⊢; omega
      simp [this]

/-! ## Reading a text -/

/-- `body` may stand for `text` between the marks `q`. -/
inductive Spells (q : Quote) : List Char → List Char → Prop
  | nil : Spells q [] []
  /-- a character for itself -/
  | plain {c : Char} {body text : List Char} (hplain : isPlain c = true ∨ q.multiline = true ∧ c = '\n')
    (hslash : q.escapes = true → c ≠ '\\') (hrun : q.leading (c :: body) ≤ q.room) (h : Spells q body text) :
    Spells q (c :: body) (c :: text)
  /-- a character for which an escape stands -/
  | short {e c : Char} {body text : List Char} (hq : q.escapes = true) (he : shortEscape? e = some c)
    (h : Spells q body text) : Spells q ('\\' :: e :: body) (c :: text)
  /-- a character for which its number stands -/
  | numbered {d₁ d₂ d₃ d₄ c : Char} {body text : List Char} (hq : q.escapes = true)
    (hd : numberedChar? [d₁, d₂, d₃, d₄] = some c) (h : Spells q body text) :
    Spells q ('\\' :: 'u' :: d₁ :: d₂ :: d₃ :: d₄ :: body) (c :: text)

variable {q : Quote} {body text rest : List Char}

theorem slash_ne_mark (hq : q.escapes = true) : '\\' ≠ q.mark := by
  rw [escapes, beq_iff_eq] at hq
  simp [hq]

theorem leading_slash (hq : q.escapes = true) (cs : List Char) : q.leading ('\\' :: cs) = 0 :=
  leading_cons_of_ne (slash_ne_mark hq) cs

theorem Spells.leading_le (h : q.Spells body text) : q.leading body ≤ q.room := by
  cases h with
  | nil => exact Nat.zero_le _
  | plain _ _ hrun _ => exact hrun
  | short hq => rw [leading_slash hq]; exact Nat.zero_le _
  | numbered hq => rw [leading_slash hq]; exact Nat.zero_le _

/-- Marks stand for themselves. -/
theorem Spells.eq_of_all (h : q.Spells body text) (hall : body.all (· == q.mark) = true) : text = body := by
  induction h with
  | nil => rfl
  | plain _ _ _ _ ih =>
    rw [List.all_cons, Bool.and_eq_true] at hall
    rw [ih hall.2]
  | short hq => simp [slash_ne_mark hq] at hall
  | numbered hq => simp [slash_ne_mark hq] at hall

theorem ending?_nil (q : Quote) : q.ending? [] = none := by
  unfold ending?
  split <;> rfl

theorem textUpTo_of_ending {cs : List Char} {found : List Char × List Char} (h : q.ending? cs = some found) :
    textUpTo q false cs = some found := by
  cases cs with
  | nil => cases (ending?_nil q).symm.trans h
  | cons c cs => rw [textUpTo.eq_def]; simp only [h]

theorem textUpTo_plain {c : Char} {cs : List Char} (hend : q.ending? (c :: cs) = none)
    (hplain : isPlain c = true ∨ q.multiline = true ∧ c = '\n') (hslash : q.escapes = true → c ≠ '\\') :
    textUpTo q false (c :: cs) = withChar (some c) (textUpTo q false cs) := by
  have hescape : (q.escapes && c == '\\') = false := by
    cases hq : q.escapes with
    | false => rfl
    | true => simpa using hslash hq
  have hkept : (isPlain c || q.multiline && startsBreak (c :: cs)) = true := by
    rcases hplain with hplain | ⟨hm, rfl⟩
    · rw [hplain, Bool.true_or]
    · simp [hm, startsBreak]
  rw [textUpTo.eq_def]
  simp [hend, hescape, hkept]

theorem ending?_slash (hq : q.escapes = true) (cs : List Char) : q.ending? ('\\' :: cs) = none := by
  have hrun := leading_slash hq cs
  rw [leading] at hrun
  unfold ending?
  simp [hrun]

theorem textUpTo_short {e c : Char} (hq : q.escapes = true) (he : shortEscape? e = some c) (cs : List Char) :
    textUpTo q false ('\\' :: e :: cs) = withChar (some c) (textUpTo q false cs) := by
  have hbreak : startsBreak (skipSpace (e :: cs)) = false := by
    unfold shortEscape? at he
    split at he <;> first | rfl | cases he
  rw [textUpTo, ending?_slash hq]
  · simp [hq, hbreak, he]
  all_goals intros; subst e; cases he

theorem textUpTo_numbered (hq : q.escapes = true) (d₁ d₂ d₃ d₄ : Char) (cs : List Char) :
    textUpTo q false ('\\' :: 'u' :: d₁ :: d₂ :: d₃ :: d₄ :: cs) =
      withChar (numberedChar? [d₁, d₂, d₃, d₄]) (textUpTo q false cs) := by
  rw [textUpTo, ending?_slash hq]
  simp [hq]

/-- **What stands for a text between two marks is read as the text.** -/
theorem Spells.read (h : q.Spells body text) (hrest : rest.head? ≠ some q.mark) :
    textUpTo q false (body ++ (q.marks ++ rest)) = some (text, rest) := by
  induction h with
  | nil => exact textUpTo_of_ending (ending?_append (Nat.zero_le _) hrest)
  | @plain c body text hplain hslash hrun h ih =>
    have hend := ending?_append hrun hrest
    by_cases hall : (c :: body).all (· == q.mark) = true
    · rw [if_pos hall] at hend
      rw [textUpTo_of_ending hend, (Spells.plain hplain hslash hrun h).eq_of_all hall]
    · rw [if_neg hall] at hend
      rw [List.cons_append] at hend ⊢
      rw [textUpTo_plain hend hplain hslash, ih]
      rfl
  | short hq he h ih =>
    rw [List.cons_append, List.cons_append, textUpTo_short hq he, ih]
    rfl
  | numbered hq hd h ih =>
    simp only [List.cons_append]
    rw [textUpTo_numbered hq, hd, ih]
    rfl

end Quote

/-! ## Texts between double quotes -/

section Written

variable {q : Quote} {body text : List Char}

theorem ne_mark (hq : q.escapes = true) {c : Char} (hc : c ≠ '"') : c ≠ q.mark := by
  rw [Quote.escapes, beq_iff_eq] at hq
  rwa [hq]

theorem toNat_lt_of_not_isPlain {c : Char} (h : isPlain c = false) : c.toNat < 128 := by
  simp [isPlain] at h
  omega

/-- A character up to the control codes is the one with its number. -/
theorem numberedChar?_upperHexDigit {c : Char} (h : c.toNat < 128) :
    numberedChar? ['0', '0', Text.upperHexDigit (c.toNat / 16), Text.upperHexDigit (c.toNat % 16)] = some c := by
  have hvalue : ∀ n < 128,
      Text.hexValue? ['0', '0', Text.upperHexDigit (n / 16), Text.upperHexDigit (n % 16)] = some n := by
    decide
  have hvalid : c.toNat.isValidChar := .inl (by omega)
  rw [numberedChar?, hvalue _ h]
  simp [hvalid]

theorem spells_writtenChar (hq : q.escapes = true) {c : Char} (hc : c ≠ '"') (h : q.Spells body text) :
    q.Spells (writtenChar c ++ body) (c :: text) := by
  unfold writtenChar
  split
  · exact .short hq rfl h
  · exact .short hq rfl h
  · exact .short hq rfl h
  · exact .short hq rfl h
  · exact .short hq rfl h
  · exact .short hq rfl h
  · next hslash =>
    split
    · next hplain =>
      refine .plain (.inl hplain) (fun _ => hslash) ?_ h
      exact (Quote.leading_cons_of_ne (ne_mark hq hc) _).le.trans (Nat.zero_le _)
    · next hplain =>
      exact .numbered hq (numberedChar?_upperHexDigit (toNat_lt_of_not_isPlain (by simpa using hplain))) h

theorem leading_writtenChar (hq : q.escapes = true) {c : Char} (hc : c ≠ '"') (cs : List Char) :
    q.leading (writtenChar c ++ cs) = 0 := by
  have hslash : '\\' ≠ '"' := by decide
  unfold writtenChar
  split
  · exact Quote.leading_slash hq _
  · exact Quote.leading_slash hq _
  · exact Quote.leading_slash hq _
  · exact Quote.leading_slash hq _
  · exact Quote.leading_slash hq _
  · exact Quote.leading_slash hq _
  · split
    · exact Quote.leading_cons_of_ne (ne_mark hq hc) _
    · exact Quote.leading_slash hq _

/-- At most two quotes stand in a row between three of them, and none between single ones. -/
theorem leading_writtenChars (multiline : Bool) (run : Nat) (cs : List Char) :
    Quote.leading ⟨'"', multiline⟩ (writtenChars multiline run cs) ≤ Quote.room ⟨'"', multiline⟩ - run := by
  induction cs generalizing run with
  | nil => exact Nat.zero_le _
  | cons c cs ih =>
    rw [writtenChars]
    split
    · split
      · next h =>
        have := ih (run + 1)
        rw [show '"' = (⟨'"', multiline⟩ : Quote).mark from rfl, Quote.leading_mark]
        simp only [Quote.room, h.1, if_true] at this ⊢
        omega
      · exact Nat.zero_le _
    · next hc =>
      split
      · exact Nat.zero_le _
      · rw [leading_writtenChar rfl hc]
        exact Nat.zero_le _

/-- Every text can be written between double quotes. -/
theorem spells_writtenChars (multiline : Bool) (run : Nat) (cs : List Char) :
    Quote.Spells ⟨'"', multiline⟩ (writtenChars multiline run cs) cs := by
  induction cs generalizing run with
  | nil => exact .nil
  | cons c cs ih =>
    have hrun := leading_writtenChars multiline run (c :: cs)
    rw [writtenChars] at hrun ⊢
    split
    · next hc =>
      subst hc
      split
      · next h =>
        rw [if_pos rfl, if_pos h] at hrun
        exact .plain (.inl rfl) (fun _ => by decide) (hrun.trans (Nat.sub_le _ _)) (ih _)
      · exact .short rfl rfl (ih _)
    · next hc =>
      rw [if_neg hc] at hrun
      split
      · next h =>
        obtain ⟨hm, rfl⟩ := h
        exact .plain (.inr ⟨hm, rfl⟩) (fun _ => by decide) (Nat.zero_le _) (ih _)
      · exact spells_writtenChar rfl hc (ih _)

end Written

/-! ## Texts without escapes -/

theorem longestRun_mono (mark : Char) (cs : List Char) {run run' : Nat} (h : run ≤ run') :
    longestRun mark run cs ≤ longestRun mark run' cs := by
  induction cs generalizing run run' with
  | nil => exact h
  | cons c cs ih =>
    rw [longestRun, longestRun]
    split
    · exact ih (Nat.succ_le_succ h)
    · omega

theorem leading_le_longestRun (q : Quote) (run : Nat) (cs : List Char) :
    run + q.leading cs ≤ longestRun q.mark run cs := by
  induction cs generalizing run with
  | nil => exact Nat.le_refl _
  | cons c cs ih =>
    rw [longestRun]
    split
    · next hc =>
      have := ih (run + 1)
      rw [hc, Quote.leading_mark]
      omega
    · next hc =>
      rw [Quote.leading_cons_of_ne hc]
      omega

theorem longestRun_tail (mark c : Char) (cs : List Char) : longestRun mark 0 cs ≤ longestRun mark 0 (c :: cs) := by
  rw [longestRun]
  split
  · exact longestRun_mono mark cs (Nat.zero_le _)
  · omega

/-- A text without control codes stands for itself between single quotes that it does not have, or has not three of in
a row. -/
theorem spells_self {q : Quote} (hq : q.escapes = false) {cs : List Char} (hescape : cs.any needsEscape = false)
    (hbreak : q.multiline = false → '\n' ∉ cs) (hrun : longestRun q.mark 0 cs ≤ q.room) : q.Spells cs cs := by
  induction cs with
  | nil => exact .nil
  | cons c cs ih =>
    rw [List.any_cons, Bool.or_eq_false_iff] at hescape
    have hplain : isPlain c = true ∨ q.multiline = true ∧ c = '\n' := by
      cases hm : q.multiline with
      | false =>
        have hc : c ≠ '\n' := fun hc => hbreak hm (hc ▸ List.mem_cons_self)
        simpa [needsEscape, hc] using hescape.1
      | true =>
        have := hescape.1
        simp only [needsEscape, Bool.and_eq_false_iff, Bool.not_eq_false', bne_eq_false_iff_eq] at this
        simpa using this
    refine .plain hplain (by simp [hq]) ?_ (ih hescape.2 ?_ ?_)
    · have := leading_le_longestRun q 0 (c :: cs)
      omega
    · exact fun hm hmem => hbreak hm (List.mem_cons_of_mem c hmem)
    · exact (longestRun_tail q.mark c cs).trans hrun

/-! ## Texts with their marks -/

/-- A text as it stands between its marks. -/
def writtenBody (cs : List Char) : List Char :=
  if (quoteFor cs).escapes then writtenChars (quoteFor cs).multiline 0 cs else cs

theorem writtenText_eq (cs : List Char) : writtenText cs = (quoteFor cs).marks ++
    ((if (quoteFor cs).multiline && cs.contains '\n' then ['\n'] else []) ++
      (writtenBody cs ++ (quoteFor cs).marks)) := by
  simp [writtenText, writtenBody]

/-- Single quotes are only chosen for texts that can stand between them. -/
theorem quoteFor_cases (cs : List Char) : (∃ m, quoteFor cs = ⟨'"', m⟩) ∨
    ∃ m, quoteFor cs = ⟨'\'', m⟩ ∧ cs.any needsEscape = false ∧ (m = false → '\n' ∉ cs) ∧
      longestRun '\'' 0 cs ≤ Quote.room ⟨'\'', m⟩ := by
  unfold quoteFor
  dsimp only
  split
  · exact .inl ⟨_, rfl⟩
  · split
    · next h =>
      simp only [Bool.and_eq_true, Bool.not_eq_true', List.contains_eq_mem, decide_eq_false_iff_not,
        decide_eq_true_eq] at h
      exact .inr ⟨false, rfl, h.1.1, fun _ => h.1.2, h.2.le⟩
    · split
      · exact .inl ⟨_, rfl⟩
      · split
        · next h =>
          simp only [Bool.and_eq_true, Bool.not_eq_true', decide_eq_true_eq] at h
          exact .inr ⟨true, rfl, h.1, fun hm => (nomatch hm), h.2⟩
        · exact .inl ⟨_, rfl⟩

theorem quoteFor_mark (cs : List Char) : (quoteFor cs).mark = '"' ∨ (quoteFor cs).mark = '\'' := by
  rcases quoteFor_cases cs with ⟨m, h⟩ | ⟨m, h, -⟩
  · rw [h]; exact .inl rfl
  · rw [h]; exact .inr rfl

/-- **The chosen marks suit the text.** -/
theorem spells_writtenBody (cs : List Char) : (quoteFor cs).Spells (writtenBody cs) cs := by
  unfold writtenBody
  rcases quoteFor_cases cs with ⟨m, h⟩ | ⟨m, h, hescape, hbreak, hrun⟩
  · rw [h]
    exact spells_writtenChars m 0 cs
  · rw [h]
    exact spells_self rfl hescape hbreak hrun

section Opening

variable {q : Quote} {cs : List Char}

theorem opening?_single (hq : q.mark = '"' ∨ q.mark = '\'') (hm : q.multiline = false) (hcs : q.leading cs ≤ 1) :
    opening? (q.marks ++ cs) = some (q, cs) := by
  obtain ⟨mark, multiline⟩ := q
  dsimp only at hq hm
  subst hm
  rcases hq with rfl | rfl
  · change opening? ('"' :: cs) = _
    unfold opening?
    split
    · next heq =>
      rw [(List.cons.inj heq).2] at hcs
      simp [Quote.leading] at hcs
    · next heq => cases (List.cons.inj heq).1
    · next heq => rw [(List.cons.inj heq).2]
    · next heq => cases (List.cons.inj heq).1
    · next h _ => exact absurd rfl (h _)
  · change opening? ('\'' :: cs) = _
    unfold opening?
    split
    · next heq => cases (List.cons.inj heq).1
    · next heq =>
      rw [(List.cons.inj heq).2] at hcs
      simp [Quote.leading] at hcs
    · next heq => cases (List.cons.inj heq).1
    · next heq => rw [(List.cons.inj heq).2]
    · next h => exact absurd rfl (h _)

theorem opening?_triple (hq : q.mark = '"' ∨ q.mark = '\'') (hm : q.multiline = true) (cs : List Char) :
    opening? (q.marks ++ cs) = some (q, skipBreak cs) := by
  obtain ⟨mark, multiline⟩ := q
  dsimp only at hq hm
  subst hm
  rcases hq with rfl | rfl <;> rfl

theorem skipBreak_of_head? (hn : cs.head? ≠ some '\n') (hr : cs.head? ≠ some '\r') : skipBreak cs = cs := by
  unfold skipBreak
  split
  · exact absurd rfl hn
  · exact absurd rfl hr
  · rfl

/-- A body starts with a line break only if its text does. -/
theorem Quote.Spells.head? {body text : List Char} (h : q.Spells body text) :
    (body.head? = some '\n' → '\n' ∈ text) ∧ body.head? ≠ some '\r' := by
  cases h with
  | nil => simp
  | plain hplain _ _ _ =>
    refine ⟨fun hn => ?_, fun hr => ?_⟩
    · rw [Option.some.inj hn]
      exact List.mem_cons_self
    · rw [Option.some.inj hr] at hplain
      rcases hplain with hplain | ⟨-, hplain⟩ <;> cases hplain
  | short => simp
  | numbered => simp

/-- **A written text is opened by its marks**, and what is left out behind them is not a part of it. -/
theorem opening?_writtenText (cs : List Char) {rest : List Char} (hrest : rest.head? ≠ some (quoteFor cs).mark) :
    opening? (writtenText cs ++ rest) = some (quoteFor cs, writtenBody cs ++ ((quoteFor cs).marks ++ rest)) := by
  have hbody := spells_writtenBody cs
  rw [writtenText_eq]
  simp only [List.append_assoc]
  generalize hq : quoteFor cs = q at *
  have hmark : q.mark = '"' ∨ q.mark = '\'' := hq ▸ quoteFor_mark cs
  cases hm : q.multiline with
  | false =>
    simp only [Bool.false_and, Bool.false_eq_true, if_false, List.nil_append]
    refine opening?_single hmark hm ?_
    have hle := Quote.leading_append_marks hbody.leading_le hrest
    simpa [Quote.room, Quote.marks, hm] using hle
  | true =>
    rw [opening?_triple hmark hm]
    congr 2
    by_cases hn : '\n' ∈ cs
    · simp [hn, skipBreak]
    · have hhead : ∀ c, (writtenBody cs ++ (q.marks ++ rest)).head? = some c →
          (writtenBody cs).head? = some c ∨ q.mark = c := fun c hc => by
        cases hw : writtenBody cs with
        | nil => exact .inr (by simpa [hw, Quote.marks, hm] using hc)
        | cons d body => exact .inl (by simpa [hw] using hc)
      have hskip : skipBreak (writtenBody cs ++ (q.marks ++ rest)) = writtenBody cs ++ (q.marks ++ rest) := by
        refine skipBreak_of_head? (fun h => ?_) (fun h => ?_)
        · rcases hhead _ h with h | h
          · exact hn (hbody.head?.1 h)
          · simp [h] at hmark
        · rcases hhead _ h with h | h
          · exact hbody.head?.2 h
          · simp [h] at hmark
      simp [hn, hskip]

end Opening

end KanjiSearch.Toml
