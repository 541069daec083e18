import KanjiSearch.Proofs.Completion.TypedWord
import KanjiSearch.Proofs.Lexer.FieldNames

/-!
# What is offered for a word

A completion is a spelling of a field with its colon, or a keyword. The word in front of the cursor is compared with
spellings in lower case and with keywords in upper case, and both are offered in the order of their lists. A word with a
colon needs no rule of its own: it is the beginning of no spelling (`fieldOffers_of_colon`).

* `spelling_mem_completions`, `keyword_mem_completions`, `completions_sublist`: what is offered, and in which order.
* `fieldOffers_antitone`, `keywordOffers_antitone`: a longer word has fewer completions. The lower case of a word may
  change at its end when the word goes on, but only if the word holds a `Σ`, and then no spelling begins with it.
* `completions_narrow`: typing on only takes completions away.
-/

namespace KanjiSearch

/-- The spellings of fields that begin with `word`. -/
def fieldOffers (word : List Char) : List String :=
  Field.allSpellings.filter fun s => (Text.lower word).isPrefixOf s.toList

/-- The keywords that begin with `word`. -/
def keywordOffers (word : List Char) : List String :=
  keywords.filter fun k => (Text.upper word).isPrefixOf k.toList

variable {word longer : List Char} {s : String}

theorem mem_fieldOffers : s ∈ fieldOffers word ↔ s ∈ Field.allSpellings ∧ Text.lower word <+: s.toList := by
  rw [fieldOffers, List.mem_filter, List.isPrefixOf_iff_prefix]

theorem mem_keywordOffers : s ∈ keywordOffers word ↔ s ∈ keywords ∧ Text.upper word <+: s.toList := by
  rw [keywordOffers, List.mem_filter, List.isPrefixOf_iff_prefix]

theorem exists_field_of_mem (hs : s ∈ Field.allSpellings) : ∃ f, (s, f) ∈ Field.table := by
  obtain ⟨⟨s, f⟩, hmem, rfl⟩ := List.mem_map.mp hs
  exact ⟨f, hmem⟩

/-- No spelling begins with a word that holds a colon. -/
theorem fieldOffers_of_colon (h : ':' ∈ word) : fieldOffers word = [] := by
  rw [List.eq_nil_iff_forall_not_mem]
  intro s hs
  obtain ⟨hspelling, hprefix⟩ := mem_fieldOffers.mp hs
  obtain ⟨f, hf⟩ := exists_field_of_mem hspelling
  have hcolon : ':' ∈ s.toList := hprefix.mem (Lexer.mem_lowerAfter_of_isBoundary rfl h [])
  exact absurd ((Lexer.of_mem_table _ hf).1.2 ':' hcolon) (by decide)

theorem completions_eq (query : String) (cursor : Nat) : completions query cursor =
    (fieldOffers (typedWord (query.toList.take cursor))).map (· ++ ":") ++
      keywordOffers (typedWord (query.toList.take cursor)) := by
  rw [completions]
  by_cases h : ':' ∈ typedWord (query.toList.take cursor)
  · simp [h, fieldOffers_of_colon h, keywordOffers]
  · simp [h, fieldOffers, keywordOffers]

theorem colon_not_mem_keyword : ∀ k ∈ keywords, ':' ∉ k.toList := by
  decide +kernel

/-- A spelling is offered with its colon exactly when it begins with the word in lower case. -/
theorem spelling_mem_completions (query : String) (cursor : Nat) (hs : s ∈ Field.allSpellings) :
    s ++ ":" ∈ completions query cursor ↔ Text.lower (typedWord (query.toList.take cursor)) <+: s.toList := by
  have hkeyword : s ++ ":" ∉ keywords := by
    intro hmem
    exact colon_not_mem_keyword _ hmem (by simp)
  rw [completions_eq, List.mem_append]
  constructor
  · rintro (hfield | hother)
    · obtain ⟨p, hp, hcolon⟩ := List.mem_map.mp hfield
      obtain rfl : p = s := by simpa using hcolon
      exact (mem_fieldOffers.mp hp).2
    · exact absurd (mem_keywordOffers.mp hother).1 hkeyword
  · intro hprefix
    exact .inl (List.mem_map.mpr ⟨s, mem_fieldOffers.mpr ⟨hs, hprefix⟩, rfl⟩)

/-- A keyword is offered exactly when it begins with the word in upper case. -/
theorem keyword_mem_completions (query : String) (cursor : Nat) (hs : s ∈ keywords) :
    s ∈ completions query cursor ↔ Text.upper (typedWord (query.toList.take cursor)) <+: s.toList := by
  rw [completions_eq, List.mem_append]
  constructor
  · rintro (hother | hkeyword)
    · obtain ⟨p, -, rfl⟩ := List.mem_map.mp hother
      exact absurd (by simp) (colon_not_mem_keyword _ hs)
    · exact (mem_keywordOffers.mp hkeyword).2
  · intro hprefix
    exact .inr (mem_keywordOffers.mpr ⟨hs, hprefix⟩)

/-- Spellings come before keywords, both in the order of their lists. -/
theorem completions_sublist (query : String) (cursor : Nat) :
    (completions query cursor).Sublist (Field.allSpellings.map (· ++ ":") ++ keywords) := by
  rw [completions_eq]
  exact (List.filter_sublist.map _).append List.filter_sublist

/-! ## Longer words -/

/-- A text in small letters that begins with a word begins with each beginning of the word. -/
theorem lower_prefix_of_prefix {letters : List Char} (hletters : ∀ c ∈ letters, c.isLower = true)
    (hword : word <+: longer) (h : Text.lower longer <+: letters) : Text.lower word <+: letters := by
  have hsigma : 'Σ' ∉ word := by
    intro hmem
    rcases Text.mem_lower_of_sigma (hword.mem hmem) [] with hc | hc
    · exact absurd (hletters _ (h.mem hc)) (by decide)
    · exact absurd (hletters _ (h.mem hc)) (by decide)
  obtain ⟨more, rfl⟩ := hword
  exact (Text.lower_prefix_append hsigma more).trans h

theorem fieldOffers_antitone (h : word <+: longer) : (fieldOffers longer).Sublist (fieldOffers word) := by
  have hoffers : fieldOffers longer = (fieldOffers longer).filter fun s => (Text.lower word).isPrefixOf s.toList := by
    refine (List.filter_eq_self.mpr fun s hs => ?_).symm
    obtain ⟨hspelling, hlonger⟩ := mem_fieldOffers.mp hs
    obtain ⟨f, hf⟩ := exists_field_of_mem hspelling
    rw [List.isPrefixOf_iff_prefix]
    exact lower_prefix_of_prefix (List.all_eq_true.mp (Lexer.of_mem_table _ hf).2.1) h hlonger
  rw [hoffers]
  exact List.filter_sublist.filter _

theorem keywordOffers_antitone (h : word <+: longer) : (keywordOffers longer).Sublist (keywordOffers word) := by
  refine List.monotone_filter_right _ fun k hlonger => ?_
  rw [List.isPrefixOf_iff_prefix] at hlonger ⊢
  have hupper : Text.upper word <+: Text.upper longer := by
    obtain ⟨more, rfl⟩ := h
    rw [Text.upper, Text.upper, List.flatMap_append]
    exact List.prefix_append ..
  exact hupper.trans hlonger

/-- **Typing on only takes completions away.** When the cursor passes a character that is no blank, the completions that
are left are some of those before, in the same order. -/
theorem completions_narrow {query : String} {cursor : Nat} {c : Char} (hc : query.toList[cursor]? = some c)
    (hblank : Text.isBlank c = false) : (completions query (cursor + 1)).Sublist (completions query cursor) := by
  have hword : typedWord (query.toList.take cursor) <+: typedWord (query.toList.take (cursor + 1)) := by
    rw [List.take_add_one, hc]
    exact typedWord_concat _ hblank
  rw [completions_eq, completions_eq]
  exact ((fieldOffers_antitone hword).map _).append (keywordOffers_antitone hword)

/-- A word behind a sign, of which one more letter is typed. -/
theorem completions_narrow_letter : "火 !KU".toList[4]? = some 'U' ∧ Text.isBlank 'U' = false ∧
    ["kun:", "kunyomi:"].Sublist ["kanji:", "kun:", "kunyomi:"] := by
  have hletter : "火 !KU".toList[4]? = some 'U' := by decide +kernel
  have hblank : Text.isBlank 'U' = false := by decide
  have hbefore : completions "火 !KU" 4 = ["kanji:", "kun:", "kunyomi:"] := by decide +kernel
  have hbehind : completions "火 !KU" 5 = ["kun:", "kunyomi:"] := by decide +kernel
  have hnarrow := completions_narrow hletter hblank
  rw [hbefore, hbehind] at hnarrow
  exact ⟨hletter, hblank, hnarrow⟩

end KanjiSearch
