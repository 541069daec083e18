import KanjiSearch.Proofs.Lists
import KanjiSearch.Query.Completion

/-!
# The word that is being typed

A completion goes on with the word in front of the cursor. `WordAtEnd before front signs word` says which one this is in
the text `before`: it goes back to the last blank, and opening signs directly behind this blank are not part of it.

* `wordAtEnd_iff`: every text ends in exactly one word, and it is the one that `typedWord` finds.
* `typedWord_concat`: a character that is no blank goes on with the word, or is one more opening sign.
-/

namespace KanjiSearch

/-- The text `before` ends in the word `word`. The signs `signs` open it, and `front` stands before them. -/
structure WordAtEnd (before front signs word : List Char) : Prop where
  parts : before = front ++ (signs ++ word)
  /-- there is nothing in front, or it ends in a blank -/
  front_blank : ∀ c, front.getLast? = some c → Text.isBlank c = true
  no_blank : ∀ c ∈ signs ++ word, Text.isBlank c = false
  signs_open : ∀ c ∈ signs, c = '(' ∨ c = '!'
  word_starts : ∀ c, word.head? = some c → c ≠ '(' ∧ c ≠ '!'

/-- Whether a character belongs to a word and its opening signs. -/
def goesOn (c : Char) : Bool :=
  !Text.isBlank c

/-- Whether a character opens a word. -/
def opensWord (c : Char) : Bool :=
  c == '(' || c == '!'

theorem typedWord_eq (before : List Char) : typedWord before = (before.rtakeWhile goesOn).dropWhile opensWord := rfl

/-- **Every text ends in one word.** -/
theorem wordAtEnd_iff {before front signs word : List Char} : WordAtEnd before front signs word ↔
    front = before.rdropWhile goesOn ∧ signs = (before.rtakeWhile goesOn).takeWhile opensWord ∧
      word = typedWord before := by
  constructor
  · rintro ⟨rfl, hfront, hblank, hsigns, hword⟩
    have hstop : ∀ c, front.getLast? = some c → goesOn c = false := by
      intro c hc
      rw [goesOn, hfront c hc]
      rfl
    have hon : ∀ c ∈ signs ++ word, goesOn c = true := by
      intro c hc
      rw [goesOn, hblank c hc]
      rfl
    have hopen : ∀ c ∈ signs, opensWord c = true := by
      intro c hc
      simpa [opensWord] using hsigns c hc
    have hother : ∀ c, word.head? = some c → opensWord c = false := by
      intro c hc
      simpa [opensWord] using hword c hc
    rw [typedWord_eq, rtakeWhile_append_eq hstop hon]
    refine ⟨?_, ?_, ?_⟩
    · rw [rdropWhile_append_eq hstop hon]
    · rw [takeWhile_append_eq hopen hother]
    · rw [dropWhile_append_eq hopen hother]
  · rintro ⟨rfl, rfl, rfl⟩
    have htyped : (before.rtakeWhile goesOn).takeWhile opensWord ++ typedWord before = before.rtakeWhile goesOn :=
      List.takeWhile_append_dropWhile
    refine ⟨?_, ?_, ?_, ?_, ?_⟩
    · rw [htyped, List.rdropWhile_append_rtakeWhile]
    · intro c hc
      obtain ⟨cs, hcs⟩ := List.getLast?_eq_some_iff.mp hc
      have hlast := List.rdropWhile_last_not goesOn before (by simp [hcs])
      simpa [hcs, goesOn] using hlast
    · intro c hc
      rw [htyped] at hc
      simpa [goesOn] using List.mem_rtakeWhile_imp hc
    · intro c hc
      simpa [opensWord] using List.mem_takeWhile_imp hc
    · intro c hc
      have hnot := List.head?_dropWhile_not opensWord (before.rtakeWhile goesOn)
      rw [← typedWord_eq, hc] at hnot
      simpa [opensWord] using hnot

/-- **Typing on goes on with the word**, as long as no blank is typed. -/
theorem typedWord_concat (before : List Char) {c : Char} (hc : Text.isBlank c = false) :
    typedWord before <+: typedWord (before ++ [c]) := by
  have hlonger : (before ++ [c]).rtakeWhile goesOn = before.rtakeWhile goesOn ++ [c] :=
    List.rtakeWhile_concat_pos goesOn before c (by simp [goesOn, hc])
  rw [typedWord_eq, typedWord_eq, hlonger, List.dropWhile_append]
  split
  · next hsigns =>
    rw [List.isEmpty_iff.mp hsigns]
    exact List.nil_prefix
  · exact List.prefix_append ..

end KanjiSearch
