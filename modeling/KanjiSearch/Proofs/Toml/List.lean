import KanjiSearch.Proofs.Toml.Quotation
import KanjiSearch.Toml.Reader

/-!
# Written lists are read back

A written text is a value (`value_writtenText`), alone in brackets or with others on a line each
(`items_writtenLines`), and a written list of texts is read as the list (`value_writtenTexts`).
-/

namespace KanjiSearch.Toml

/-- What stands behind a text in a list: no mark that could be taken for one of its own. -/
def NoMark (rest : List Char) : Prop :=
  rest.head? ≠ some '"' ∧ rest.head? ≠ some '\''

theorem NoMark.ne {rest : List Char} (h : NoMark rest) (cs : List Char) : rest.head? ≠ some (quoteFor cs).mark := by
  rcases quoteFor_mark cs with hmark | hmark
  · rw [hmark]; exact h.1
  · rw [hmark]; exact h.2

theorem exists_writtenText (cs : List Char) : ∃ tail, writtenText cs = (quoteFor cs).mark :: tail := by
  rw [writtenText_eq, Quote.marks]
  split <;> exact ⟨_, rfl⟩

theorem value_writtenText (fuel room : Nat) (cs : List Char) {rest : List Char} (hrest : NoMark rest) :
    value (fuel + 1) room (writtenText cs ++ rest) = some (string (String.ofList cs), rest) := by
  have hopen := opening?_writtenText cs (hrest.ne cs)
  have hread := (spells_writtenBody cs).read (hrest.ne cs)
  obtain ⟨tail, htail⟩ := exists_writtenText cs
  rw [value, hopen]
  · dsimp only
    rw [hread]
    rfl
  all_goals
    intro cs' heq
    rw [htail] at heq
    have hmark := (List.cons.inj heq).1
    have := quoteFor_mark cs
    simp [hmark] at this

/-- A list with a text on each line. -/
def writtenLines (texts : List (List Char)) : List Char :=
  texts.flatMap fun text => "    ".toList ++ writtenText text ++ [',', '\n']

theorem skipGap_writtenText (cs rest : List Char) :
    skipGap false (writtenText cs ++ rest) = some (writtenText cs ++ rest) := by
  obtain ⟨tail, htail⟩ := exists_writtenText cs
  rw [htail, List.cons_append]
  rcases quoteFor_mark cs with hmark | hmark
  · rw [hmark]; rfl
  · rw [hmark]; rfl

/-- The item of a list that is a written text. -/
theorem items_writtenText (fuel room : Nat) (text : List Char) {cs tail : List Char} (htail : NoMark tail)
    (hgap : skipGap false cs = some (writtenText text ++ tail)) : items (fuel + 2) room cs =
      match skipGap false tail with
      | some (',' :: rest) =>
        (items (fuel + 1) room rest).map fun (more, rest) => (string (String.ofList text) :: more, rest)
      | some (']' :: rest) => some ([string (String.ofList text)], rest)
      | _ => none := by
  have hvalue := value_writtenText fuel room text htail
  obtain ⟨body, hbody⟩ := exists_writtenText text
  rw [hbody, List.cons_append] at hgap hvalue
  have hmark := quoteFor_mark text
  generalize (quoteFor text).mark = mark at *
  rw [items, hgap]
  split
  · next h =>
    have hclosing : mark = ']' := (List.cons.inj (Option.some.inj h)).1
    rcases hmark with hmark | hmark <;> exact absurd (hmark.symm.trans hclosing) (by decide)
  · next h =>
    cases h
    exact hvalue ▸ rfl
  · next h => cases h

theorem items_writtenLines (texts : List (List Char)) {fuel : Nat} (hfuel : texts.length + 1 < fuel) (room : Nat)
    (rest : List Char) : items fuel room ('\n' :: (writtenLines texts ++ ']' :: rest)) =
      some (texts.map fun text => string (String.ofList text), rest) := by
  induction texts generalizing fuel with
  | nil =>
    obtain ⟨fuel, rfl⟩ : ∃ n, fuel = n + 1 := ⟨fuel - 1, by omega⟩
    rw [items]
    rfl
  | cons text texts ih =>
    rw [List.length_cons] at hfuel
    obtain ⟨fuel, rfl⟩ : ∃ n, fuel = n + 2 := ⟨fuel - 2, by omega⟩
    have hgap : skipGap false ('\n' :: (writtenLines (text :: texts) ++ ']' :: rest)) =
        some (writtenText text ++ (',' :: '\n' :: (writtenLines texts ++ ']' :: rest))) := by
      rw [← skipGap_writtenText, writtenLines, List.flatMap_cons]
      simp [writtenLines, skipGap, isSpace]
    rw [items_writtenText fuel room text (by simp [NoMark]) hgap]
    change (items (fuel + 1) room ('\n' :: (writtenLines texts ++ ']' :: rest))).map _ = _
    rw [ih (by omega)]
    rfl

theorem writtenTexts_of_length {texts : List (List Char)} (h : 2 ≤ texts.length) :
    writtenTexts texts = '[' :: '\n' :: (writtenLines texts ++ [']']) := by
  match texts, h with
  | _ :: _ :: _, _ => rfl

theorem length_le_writtenLines (texts : List (List Char)) : texts.length ≤ (writtenLines texts).length := by
  induction texts with
  | nil => exact Nat.zero_le _
  | cons text texts ih => simp [writtenLines] at ih ⊢; omega

/-- **A written list is read as the list.** -/
theorem value_writtenTexts (texts : List (List Char)) {fuel : Nat} (hfuel : (writtenTexts texts).length ≤ fuel)
    (room : Nat) (rest : List Char) : value (fuel + 1) (room + 1) (writtenTexts texts ++ rest) =
      some (array (texts.map fun text => string (String.ofList text)), rest) := by
  have hopen : ∀ cs, value (fuel + 1) (room + 1) ('[' :: cs) =
      (items fuel room cs).map fun (items, rest) => (array items, rest) := fun cs => by rw [value]
  match texts, hfuel with
  | [], hfuel =>
    obtain ⟨fuel, rfl⟩ : ∃ n, fuel = n + 1 := ⟨fuel - 1, by simp [writtenTexts] at hfuel; omega⟩
    change value (fuel + 2) (room + 1) ('[' :: ']' :: rest) = _
    rw [hopen, items]
    rfl
  | [text], hfuel =>
    obtain ⟨fuel, rfl⟩ : ∃ n, fuel = n + 2 := ⟨fuel - 2, by simp [writtenTexts] at hfuel; omega⟩
    rw [writtenTexts, List.cons_append, List.append_assoc, hopen,
      items_writtenText fuel room text (by simp [NoMark]) (skipGap_writtenText _ _)]
    rfl
  | text :: text' :: texts, hfuel =>
    rw [writtenTexts_of_length (by simp)] at hfuel ⊢
    have hlength := length_le_writtenLines (text :: text' :: texts)
    simp only [List.length_cons, List.length_append, List.length_nil] at hfuel hlength
    simp only [List.cons_append, List.append_assoc, List.nil_append]
    rw [hopen, items_writtenLines _ (by simp only [List.length_cons]; omega)]
    rfl

end KanjiSearch.Toml
