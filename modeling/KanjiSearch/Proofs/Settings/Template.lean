import KanjiSearch.Proofs.Lists
import KanjiSearch.Settings.Template
import KanjiSearch.Settings.Toml

/-!
# Settings files that say nothing

A text of comments and empty lines is a settings file without settings (`ofText?_of_gap`). This is what commenting out
makes of every text without control codes, and so of the files to start from. A file that breaks off says nothing either
(`ofText?_commentOut`), since a comment may break off anywhere (`skipGap_of_beginning`).
-/

namespace KanjiSearch.Settings

open Toml (skipGap isPlain isSpace)

variable {line : List Char}

/-! ## Comments -/

/-- A comment is skipped up to the next line. -/
theorem skipGap_comment (h : ∀ c ∈ line, isPlain c = true) (rest : List Char) :
    skipGap true (line ++ '\n' :: rest) = skipGap false rest := by
  induction line with
  | nil => rfl
  | cons c cs ih =>
    obtain ⟨hplain, hline⟩ := List.forall_mem_cons.mp h
    have hbreak : c ≠ '\n' := by rintro rfl; cases hplain
    have hreturn : c ≠ '\r' := by rintro rfl; cases hplain
    rw [List.cons_append, skipGap]
    · rw [if_pos rfl, if_pos hplain, ih hline]
    · exact hbreak
    · exact fun _ hc _ => hreturn hc

/-- Whatever the line says, it is skipped once it has been commented out. -/
theorem skipGap_commentLine (h : ∀ c ∈ line, isPlain c = true) (rest : List Char) :
    skipGap false (commentLine line ++ rest) = skipGap false rest := by
  have hcomment : ∀ body, (∀ c ∈ body, isPlain c = true) →
      skipGap false ('#' :: (body ++ ['\n']) ++ rest) = skipGap false rest := fun body hbody => by
    have hskip := skipGap_comment hbody rest
    simpa [skipGap] using hskip
  rw [commentLine]
  split
  · next hkeep =>
    rcases hkeep with rfl | hkeep
    · rfl
    · obtain ⟨body, rfl⟩ := List.head?_eq_some_iff.mp hkeep
      exact hcomment body (List.forall_mem_cons.mp h).2
  · exact hcomment (' ' :: line) (List.forall_mem_cons.mpr ⟨rfl, h⟩)

theorem skipGap_commentLines {lines : List (List Char)} (h : ∀ line ∈ lines, ∀ c ∈ line, isPlain c = true) :
    skipGap false (lines.flatMap commentLine) = some [] := by
  induction lines with
  | nil => rfl
  | cons line lines ih =>
    obtain ⟨hline, hlines⟩ := List.forall_mem_cons.mp h
    rw [List.flatMap_cons, skipGap_commentLine hline, ih hlines]

/-! ## Comments that break off -/

/-- Whether a comment goes on behind a character that is skipped. -/
def commentBehind? (comment : Bool) (c : Char) : Option Bool :=
  if c = '\n' then some false
  else if comment then if isPlain c then some true else none
  else if c == '#' then some true
  else if isSpace c then some false
  else none

theorem skipGap_cons_iff {comment : Bool} {c : Char} {cs : List Char} (hreturn : c ≠ '\r') :
    skipGap comment (c :: cs) = some [] ↔
      ∃ behind, commentBehind? comment c = some behind ∧ skipGap behind cs = some [] := by
  by_cases hbreak : c = '\n'
  · subst hbreak
    simp [skipGap, commentBehind?]
  · rw [skipGap, commentBehind?, if_neg hbreak]
    · cases comment with
      | true => cases isPlain c <;> simp
      | false => cases c == '#' <;> cases isSpace c <;> simp
    · exact hbreak
    · exact fun _ hc _ => hreturn hc

/-- A beginning of what is skipped is skipped. -/
theorem skipGap_of_beginning {comment : Bool} {cs beginning : List Char} (hreturn : '\r' ∉ cs)
    (hbeginning : beginning <+: cs) (h : skipGap comment cs = some []) : skipGap comment beginning = some [] := by
  induction beginning generalizing comment cs with
  | nil => rfl
  | cons c beginning ih =>
    obtain ⟨cs, rfl, hrest⟩ := List.cons_prefix_iff.mp hbeginning
    obtain ⟨hc, hcs⟩ := not_or.mp (mt List.mem_cons.mpr hreturn)
    obtain ⟨behind, hbehind, hskip⟩ := (skipGap_cons_iff (Ne.symm hc)).mp h
    exact (skipGap_cons_iff (Ne.symm hc)).mpr ⟨behind, hbehind, ih hcs hrest hskip⟩

/-! ## Files -/

/-- A settings file that says nothing. -/
def silent : FileSettings :=
  ⟨none, none, none⟩

/-- A text in which everything is skipped says nothing. -/
theorem ofText?_of_gap {cs : List Char} (hmark : cs.head? ≠ some '\ufeff') (hgap : skipGap false cs = some []) :
    FileSettings.ofText? cs = some silent := by
  have hwithout : Toml.withoutOrderMark cs = cs := by
    unfold Toml.withoutOrderMark
    split
    · exact absurd rfl hmark
    · rfl
  have hstatements : Toml.statements (cs.length + 1) cs = some [] := by
    rw [Toml.statements, hgap]
  rw [FileSettings.ofText?, Toml.read?, hwithout, hstatements]
  rfl

theorem mem_splitOn_of_mem_lines {cs : List Char} (h : line ∈ Text.lines cs) : line ∈ cs.splitOn '\n' := by
  unfold Text.lines at h
  dsimp only at h
  split at h
  · exact List.dropLast_subset _ h
  · exact h

/-- A text without control codes other than line breaks and tabs. -/
def isPlainText (cs : List Char) : Bool :=
  cs.all fun c => c == '\n' || isPlain c

/-- The lines of a text have its characters without the line breaks. -/
theorem isPlain_of_mem_lines {cs : List Char} (h : isPlainText cs = true) :
    ∀ line ∈ Text.lines cs, ∀ c ∈ line, isPlain c = true := by
  intro line hline c hc
  obtain ⟨hmem, hbreak⟩ := of_mem_splitOn (mem_splitOn_of_mem_lines hline) c hc
  have hplain := List.all_eq_true.mp h c hmem
  rw [Bool.or_eq_true, beq_iff_eq] at hplain
  exact hplain.resolve_left hbreak

theorem toList_commentOut (cs : List Char) :
    (commentOut (String.ofList cs)).toList = (Text.lines cs).flatMap commentLine := by
  rw [commentOut, String.toList_ofList, String.toList_ofList]

/-- Commenting out adds signs, spaces and line breaks only. -/
theorem of_mem_commentOut {text : String} {c : Char} (h : c ∈ (commentOut text).toList) :
    c ∈ text.toList ∨ c ∈ ['#', ' ', '\n'] := by
  rw [commentOut, String.toList_ofList] at h
  obtain ⟨line, hline, hc⟩ := List.mem_flatMap.mp h
  have hinside : c ∈ line → c ∈ text.toList := fun hc => (of_mem_splitOn (mem_splitOn_of_mem_lines hline) c hc).1
  rw [commentLine, List.mem_append] at hc
  rcases hc with hc | hc
  · split at hc
    · exact .inl (hinside hc)
    · rcases List.mem_cons.mp hc with rfl | hc
      · exact .inr (by simp)
      · exact (List.mem_cons.mp hc).elim (fun hc => .inr (by simp [hc])) fun hc => .inl (hinside hc)
  · exact .inr (by simp [List.mem_singleton.mp hc])

/-- **What has been commented out says nothing**, if it has no control codes, and neither does a beginning of it. -/
theorem ofText?_commentOut {cs beginning : List Char} (h : isPlainText cs = true) (hmark : '\ufeff' ∉ cs)
    (hbeginning : beginning <+: (commentOut (String.ofList cs)).toList) :
    FileSettings.ofText? beginning = some silent := by
  have hmem : ∀ c ∈ (commentOut (String.ofList cs)).toList, c ∈ cs ∨ c ∈ ['#', ' ', '\n'] := fun c hc => by
    simpa using of_mem_commentOut hc
  have hreturn : '\r' ∉ (commentOut (String.ofList cs)).toList := fun hc => by
    rcases hmem _ hc with hc | hc
    · exact absurd (List.all_eq_true.mp h _ hc) (by decide)
    · exact absurd hc (by decide)
  have hgap : skipGap false (commentOut (String.ofList cs)).toList = some [] := by
    rw [toList_commentOut]
    exact skipGap_commentLines (isPlain_of_mem_lines h)
  refine ofText?_of_gap (fun hhead => ?_) (skipGap_of_beginning hreturn hbeginning hgap)
  rcases hmem _ (hbeginning.mem (List.mem_of_mem_head? hhead)) with hc | hc
  · exact hmark hc
  · exact absurd hc (by decide)

theorem utf8Size_of_mem_commentOut {cs : List Char} (h : cs.all (·.utf8Size == 1) = true) :
    ∀ c ∈ (commentOut (String.ofList cs)).toList, c.utf8Size = 1 := by
  intro c hc
  rcases of_mem_commentOut hc with hc | hc
  · rw [String.toList_ofList] at hc
    exact eq_of_beq (List.all_eq_true.mp h c hc)
  · simp only [List.mem_cons, List.not_mem_nil, or_false] at hc
    rcases hc with rfl | rfl | rfl <;> rfl

set_option maxRecDepth 4000 in
theorem ofText?_projectTemplate {beginning : List Char} (hbeginning : beginning <+: projectTemplate.toList) :
    FileSettings.ofText? beginning = some silent := by
  unfold projectTemplate projectSettings at hbeginning
  refine ofText?_commentOut ?_ ?_ hbeginning <;> decide +kernel

set_option maxRecDepth 4000 in
theorem ofText?_homeTemplate {beginning : List Char} (hbeginning : beginning <+: homeTemplate.toList) :
    FileSettings.ofText? beginning = some silent := by
  unfold homeTemplate homeSettings at hbeginning
  refine ofText?_commentOut ?_ ?_ hbeginning <;> decide +kernel

set_option maxRecDepth 4000 in
theorem utf8Size_of_mem_projectTemplate : ∀ c ∈ projectTemplate.toList, c.utf8Size = 1 := by
  unfold projectTemplate projectSettings
  refine utf8Size_of_mem_commentOut ?_
  decide +kernel

set_option maxRecDepth 4000 in
theorem utf8Size_of_mem_homeTemplate : ∀ c ∈ homeTemplate.toList, c.utf8Size = 1 := by
  unfold homeTemplate homeSettings
  refine utf8Size_of_mem_commentOut ?_
  decide +kernel

end KanjiSearch.Settings
