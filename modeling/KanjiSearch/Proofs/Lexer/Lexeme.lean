import KanjiSearch.Proofs.Lexer.Quotation
import KanjiSearch.Proofs.Lists
import KanjiSearch.Proofs.Text.Digits
import KanjiSearch.Proofs.Text.Pieces

/-!
# Lexemes

`Lexeme text rest kind value` says that `text`, with `rest` behind it, is one lexeme, and which kind and value its token
has. The rules name neither positions nor the way in which a query is scanned; only a bare word and a short comparison
look at what follows, because both are as long as they can be.

* `found_scan`: what `scan` takes is a lexeme, what it skips is a gap, and where it gives up a quote has no partner.
* `scan_of_lexeme`, `scan_of_isGap`, `scan_of_guarded`: each of these is found where it stands.
* `Lexeme.append`, `Lexeme.cut`: a lexeme stays one when the text goes on behind `rest`, and when it ends earlier.
-/

namespace KanjiSearch.Lexer

/-! ## Bare words -/

/-- A run of characters that do not end a bare word. -/
def IsWord (word : List Char) : Prop :=
  word ≠ [] ∧ ∀ c ∈ word, isBoundary c = false

instance (word : List Char) : Decidable (IsWord word) :=
  decidable_of_iff (word ≠ [] ∧ word.all (!isBoundary ·) = true) (by simp [IsWord])

/-- What may follow a bare word: neither a further character of it nor a colon, which would make it a field. -/
def EndsWord (rest : List Char) : Prop :=
  ∀ c, rest.head? = some c → isBoundary c = true ∧ c ≠ ':'

theorem endsWord_nil : EndsWord [] :=
  fun _ h => by cases h

theorem endsWord_cons {c : Char} (hc : isBoundary c = true) (hcolon : c ≠ ':') (cs : List Char) :
    EndsWord (c :: cs) := by
  rintro _ ⟨⟩
  exact ⟨hc, hcolon⟩

/-- Two runs of digits with a dash between them. -/
def IsSpan (word : List Char) : Prop :=
  ∃ low high, word = low ++ '-' :: high ∧ Text.isNumber low = true ∧ Text.isNumber high = true

/-- A bare word that is neither a keyword in any case of its letters nor made of numbers. -/
structure IsPlain (word : List Char) : Prop where
  not_and : Text.upper word ≠ ['A', 'N', 'D']
  not_or : Text.upper word ≠ ['O', 'R']
  not_not : Text.upper word ≠ ['N', 'O', 'T']
  not_span : ¬ IsSpan word
  not_number : Text.isNumber word = false

/-- The kinds of bare words. -/
inductive Classified (word : List Char) : TokenKind → Prop
  | and (h : Text.upper word = ['A', 'N', 'D']) : Classified word .and
  | or (h : Text.upper word = ['O', 'R']) : Classified word .or
  | not (h : Text.upper word = ['N', 'O', 'T']) : Classified word .not
  | range (h : IsSpan word) : Classified word .range
  | number (h : Text.isNumber word = true) : Classified word .number
  | text (h : IsPlain word) : Classified word .text

theorem isRange_eq_true_iff {word : List Char} : isRange word = true ↔ IsSpan word := by
  constructor
  · intro h
    unfold isRange at h
    split at h
    · next low high hs =>
      obtain ⟨hl, hh⟩ := Bool.and_eq_true_iff.mp h
      exact ⟨low, high, Text.eq_of_splitOnce hs, hl, hh⟩
    · cases h
  · rintro ⟨low, high, rfl, hl, hh⟩
    rw [isRange, Text.splitOnce_append (Text.not_mem_of_isNumber hl (by decide))]
    exact Bool.and_eq_true_iff.mpr ⟨hl, hh⟩

/-- A text that starts with a digit is no keyword. -/
theorem not_keyword_of_digit {d : Char} (hd : d.isDigit = true) (cs : List Char) :
    Text.upper (d :: cs) ≠ ['A', 'N', 'D'] ∧ Text.upper (d :: cs) ≠ ['O', 'R'] ∧
      Text.upper (d :: cs) ≠ ['N', 'O', 'T'] := by
  rw [Text.upper_digit hd]
  refine ⟨?_, ?_, ?_⟩ <;> rintro h <;> cases (List.cons.inj h).1 <;> exact absurd hd (by decide)

theorem IsSpan.head {word : List Char} (h : IsSpan word) : ∃ d ds, word = d :: ds ∧ d.isDigit = true := by
  obtain ⟨low, high, rfl, hl, -⟩ := h
  obtain ⟨d, ds, rfl, hd⟩ := Text.isNumber_cons hl
  exact ⟨d, ds ++ '-' :: high, rfl, hd⟩

/-- A number has no dash. -/
theorem not_isSpan_of_isNumber {word : List Char} (h : Text.isNumber word = true) : ¬ IsSpan word := by
  rintro ⟨low, high, rfl, -, -⟩
  exact Text.not_mem_of_isNumber h (c := '-') (by decide) (by simp)

theorem wordKind_of_not_keyword {word : List Char} (ha : Text.upper word ≠ ['A', 'N', 'D'])
    (ho : Text.upper word ≠ ['O', 'R']) (hn : Text.upper word ≠ ['N', 'O', 'T']) :
    wordKind word = if isRange word then .range else if Text.isNumber word then .number else .text := by
  simp only [wordKind, if_neg ha, if_neg ho, if_neg hn]

/-- Words have the kinds that `Classified` gives them. -/
theorem classified_iff {word : List Char} {kind : TokenKind} : Classified word kind ↔ wordKind word = kind := by
  constructor
  · rintro (h | h | h | h | h | h)
    · simp [wordKind, h]
    · simp [wordKind, h]
    · simp [wordKind, h]
    · obtain ⟨d, ds, rfl, hd⟩ := h.head
      obtain ⟨ha, ho, hn⟩ := not_keyword_of_digit hd ds
      rw [wordKind_of_not_keyword ha ho hn, if_pos (isRange_eq_true_iff.mpr h)]
    · obtain ⟨d, ds, rfl, hd⟩ := Text.isNumber_cons h
      obtain ⟨ha, ho, hn⟩ := not_keyword_of_digit hd ds
      rw [wordKind_of_not_keyword ha ho hn, if_neg (mt isRange_eq_true_iff.mp (not_isSpan_of_isNumber h)), if_pos h]
    · rw [wordKind_of_not_keyword h.not_and h.not_or h.not_not, if_neg (mt isRange_eq_true_iff.mp h.not_span),
        if_neg (by simp [h.not_number])]
  · rintro rfl
    by_cases ha : Text.upper word = ['A', 'N', 'D']
    · simpa [wordKind, ha] using Classified.and ha
    by_cases ho : Text.upper word = ['O', 'R']
    · simpa [wordKind, ho] using Classified.or ho
    by_cases hn : Text.upper word = ['N', 'O', 'T']
    · simpa [wordKind, hn] using Classified.not hn
    rw [wordKind_of_not_keyword ha ho hn]
    split
    · next hr => exact .range (isRange_eq_true_iff.mp hr)
    · next hr =>
      split
      · next hd => exact .number hd
      · next hd => exact .text ⟨ha, ho, hn, mt isRange_eq_true_iff.mpr hr, by simpa using hd⟩

/-! ## The lexemes of a query -/

/-- The signs of one character. -/
def signs : List (Char × TokenKind) :=
  [('(', .openParen), (')', .closeParen), ('&', .and), ('|', .or), ('!', .not)]

/-- The signs that compare, each with its kind on its own and its kind with an equals sign behind it. -/
def comparisonSigns : List (Char × TokenKind × TokenKind) :=
  [('<', .less, .atMost), ('>', .greater, .atLeast)]

theorem mem_signs {c : Char} {kind : TokenKind} (h : (c, kind) ∈ signs) :
    c = '(' ∧ kind = .openParen ∨ c = ')' ∧ kind = .closeParen ∨ c = '&' ∧ kind = .and ∨ c = '|' ∧ kind = .or ∨
      c = '!' ∧ kind = .not := by
  simpa [signs] using h

theorem mem_comparisonSigns {c : Char} {short long : TokenKind} (h : (c, short, long) ∈ comparisonSigns) :
    c = '<' ∧ short = .less ∧ long = .atMost ∨ c = '>' ∧ short = .greater ∧ long = .atLeast := by
  simpa [comparisonSigns] using h

/-- `text`, with `rest` behind it, is one lexeme, whose token has this kind and value. -/
inductive Lexeme : List Char → List Char → TokenKind → List Char → Prop
  | sign {c kind} (rest) : (c, kind) ∈ signs → Lexeme [c] rest kind [c]
  /-- `<` or `>` without an equals sign behind it -/
  | shortComparison {c short long rest} : (c, short, long) ∈ comparisonSigns → rest.head? ≠ some '=' →
      Lexeme [c] rest short [c]
  | longComparison {c short long} (rest) : (c, short, long) ∈ comparisonSigns → Lexeme [c, '='] rest long [c, '=']
  | word {word rest kind} : IsWord word → EndsWord rest → Classified word kind → Lexeme word rest kind word
  /-- a word with a colon, which spells a field; the value is in lower case and without the colon -/
  | field {word f} (rest) : IsWord word → Field.ofSpelling? (String.ofList (Text.lower word)) = some f →
      Lexeme (word ++ [':']) rest (.field f) (Text.lower word)
  | unknownField {word} (rest) : IsWord word → Field.ofSpelling? (String.ofList (Text.lower word)) = none →
      Lexeme (word ++ [':']) rest .unknownField (Text.lower word)
  | quotation {body} (rest) : Quotable body → Lexeme ('"' :: (body ++ ['"'])) rest .quoted (unescaped body)

/-- The characters between lexemes: blanks, and colons. No gap starts with a colon behind a word, because the colon
would be part of the word's lexeme (`EndsWord`). -/
def IsGap (c : Char) : Prop :=
  Text.isBlank c = true ∨ c = ':'

/-- What may be found at the character `c`, which `cs` follows. -/
inductive Found (c : Char) (cs : List Char) : Scan → Prop
  | gap : IsGap c → Found c cs .gap
  | lexeme (more) {rest kind value} : cs = more ++ rest → Lexeme (c :: more) rest kind value →
      Found c cs (.lexeme kind value more.length)
  | unclosed : c = '"' → Guarded cs → Found c cs .unclosed

/-! ## What is scanned is found -/

theorem isBoundary_eq_false_iff {c : Char} : isBoundary c = false ↔ Text.isBlank c = false ∧ c ≠ '(' ∧ c ≠ ')' ∧
    c ≠ '|' ∧ c ≠ '&' ∧ c ≠ '!' ∧ c ≠ '<' ∧ c ≠ '>' ∧ c ≠ '"' ∧ c ≠ ':' := by
  simp [isBoundary]

theorem found_scanComparison {c : Char} {short long : TokenKind} (h : (c, short, long) ∈ comparisonSigns)
    (cs : List Char) : Found c cs (scanComparison c short long cs) := by
  unfold scanComparison
  split
  · next rest => exact .lexeme ['='] rfl (.longComparison rest h)
  · next hne =>
    refine .lexeme [] rfl (.shortComparison h fun he => ?_)
    obtain ⟨r, rfl⟩ := List.head?_eq_some_iff.mp he
    exact hne r rfl

/-- A word that starts here, and the rest of the text behind it. -/
theorem isWord_takeWhile {c : Char} (hc : isBoundary c = false) (cs : List Char) :
    IsWord (c :: cs.takeWhile (!isBoundary ·)) :=
  ⟨by simp, fun d hd => by
    rcases List.mem_cons.mp hd with rfl | hd
    · exact hc
    · simpa using List.mem_takeWhile_imp hd⟩

theorem found_scanWord {c : Char} (hc : isBoundary c = false) (cs : List Char) : Found c cs (scanWord c cs) := by
  have hword := isWord_takeWhile hc cs
  have hcs : cs = cs.takeWhile (!isBoundary ·) ++ cs.dropWhile (!isBoundary ·) := List.takeWhile_append_dropWhile.symm
  have hdrop : cs.drop (cs.takeWhile (!isBoundary ·)).length = cs.dropWhile (!isBoundary ·) := by
    have h := @List.drop_left _ (cs.takeWhile (!isBoundary ·)) (cs.dropWhile (!isBoundary ·))
    rwa [← hcs] at h
  simp only [scanWord, hdrop]
  split
  · next rest hrest =>
    have hsplit : cs = (cs.takeWhile (!isBoundary ·) ++ [':']) ++ rest := by
      rw [List.append_assoc, List.singleton_append, ← hrest]; exact hcs
    rw [← List.length_singleton (a := ':'), ← List.length_append]
    cases hf : Field.ofSpelling? (String.ofList (Text.lower (c :: cs.takeWhile (!isBoundary ·)))) with
    | some f => exact .lexeme _ hsplit (.field rest hword hf)
    | none => exact .lexeme _ hsplit (.unknownField rest hword hf)
  · next hcolon =>
    refine .lexeme _ hcs (.word hword (fun d hd => ?_) (classified_iff.mpr rfl))
    obtain ⟨r, hr⟩ := List.head?_eq_some_iff.mp hd
    refine ⟨?_, fun he => hcolon r (he ▸ hr)⟩
    have := List.head_dropWhile_not (!isBoundary ·) (l := cs) (by rw [hr]; simp)
    simpa [hr] using this

/-- **Everything that `scan` says is so.** -/
theorem found_scan (c : Char) (cs : List Char) : Found c cs (scan c cs) := by
  unfold scan
  split
  · cases hq : quotation cs with
    | none => exact .unclosed rfl (quotation_eq_none_iff.mp hq)
    | some q =>
      obtain ⟨value, count⟩ := q
      obtain ⟨body, rest, rfl, hb, rfl, rfl⟩ := eq_of_quotation hq
      exact @List.length_append _ body ['"'] ▸ .lexeme (body ++ ['"']) (by simp) (.quotation rest hb)
  · exact .lexeme [] rfl (.sign cs (by decide))
  · exact .lexeme [] rfl (.sign cs (by decide))
  · exact .lexeme [] rfl (.sign cs (by decide))
  · exact .lexeme [] rfl (.sign cs (by decide))
  · exact .lexeme [] rfl (.sign cs (by decide))
  · exact found_scanComparison (by decide) cs
  · exact found_scanComparison (by decide) cs
  · exact .gap (.inr rfl)
  · next hquote hopen hclose hand hor hnot hless hgreater hcolon =>
    split
    · next hb => exact .gap (.inl hb)
    · next hb =>
      exact found_scanWord (isBoundary_eq_false_iff.mpr
        ⟨by simpa using hb, hopen, hclose, hor, hand, hnot, hless, hgreater, hquote, hcolon⟩) cs

/-! ## What is there is scanned -/

theorem scan_of_not_boundary {c : Char} (hc : isBoundary c = false) (cs : List Char) : scan c cs = scanWord c cs := by
  unfold scan
  split
  case h_10 => rw [if_neg (by simp [(isBoundary_eq_false_iff.mp hc).1])]
  all_goals exact absurd hc (by decide)

theorem scan_of_isGap {c : Char} (h : IsGap c) (cs : List Char) : scan c cs = .gap := by
  rcases h with h | rfl
  · unfold scan
    split
    case h_10 => rw [if_pos h]
    all_goals exact absurd h (by decide)
  · rfl

theorem scan_of_guarded {cs : List Char} (h : Guarded cs) : scan '"' cs = .unclosed := by
  simp only [scan, quotation_eq_none_iff.mpr h]

section Words

variable {c : Char} {more rest : List Char}

theorem takeWhile_word (h : IsWord (c :: more)) (hrest : ∀ d, rest.head? = some d → isBoundary d = true) :
    (more ++ rest).takeWhile (!isBoundary ·) = more := by
  refine takeWhile_append_eq (fun d hd => ?_) (fun d hd => ?_)
  · simpa using h.2 d (List.mem_cons_of_mem _ hd)
  · simpa using hrest d hd

/-- A word ends where no colon follows. -/
theorem scan_of_isWord (h : IsWord (c :: more)) (hrest : EndsWord rest) :
    scan c (more ++ rest) = .lexeme (wordKind (c :: more)) (c :: more) more.length := by
  rw [scan_of_not_boundary (h.2 c List.mem_cons_self), scanWord, takeWhile_word h fun d hd => (hrest d hd).1]
  simp only [List.drop_left]
  split
  · exact absurd rfl (hrest ':' rfl).2
  · rfl

/-- A word with a colon spells a field, if there is one of its name. -/
theorem scan_of_isWord_colon (h : IsWord (c :: more)) {field : Option Field}
    (hf : Field.ofSpelling? (String.ofList (Text.lower (c :: more))) = field) :
    scan c (more ++ ':' :: rest) =
      .lexeme (field.elim .unknownField .field) (Text.lower (c :: more)) (more.length + 1) := by
  have hcolon : ∀ d, (':' :: rest).head? = some d → isBoundary d = true := fun d hd => by cases hd; decide
  rw [scan_of_not_boundary (h.2 c List.mem_cons_self), scanWord, takeWhile_word h hcolon]
  simp only [List.drop_left, hf]
  cases field <;> rfl

end Words

theorem scan_of_lexeme {text rest value : List Char} {kind : TokenKind} (h : Lexeme text rest kind value) :
    ∃ c more, text = c :: more ∧ scan c (more ++ rest) = .lexeme kind value more.length := by
  cases h with
  | @sign c kind rest hc =>
    refine ⟨c, [], rfl, ?_⟩
    rcases mem_signs hc with ⟨rfl, rfl⟩ | ⟨rfl, rfl⟩ | ⟨rfl, rfl⟩ | ⟨rfl, rfl⟩ | ⟨rfl, rfl⟩ <;> rfl
  | @shortComparison c kind long rest hc hrest =>
    have hshort : scanComparison c kind long rest = .lexeme kind [c] 0 := by
      unfold scanComparison
      split
      · exact absurd rfl hrest
      · rfl
    refine ⟨c, [], rfl, ?_⟩
    rcases mem_comparisonSigns hc with ⟨rfl, rfl, rfl⟩ | ⟨rfl, rfl, rfl⟩ <;> exact hshort
  | @longComparison c short long rest hc =>
    refine ⟨c, ['='], rfl, ?_⟩
    rcases mem_comparisonSigns hc with ⟨rfl, rfl, rfl⟩ | ⟨rfl, rfl, rfl⟩ <;> rfl
  | word hword hrest hkind =>
    obtain ⟨c, more, rfl⟩ := List.exists_cons_of_ne_nil hword.1
    exact ⟨c, more, rfl, by rw [scan_of_isWord hword hrest, classified_iff.mp hkind]⟩
  | field rest hword hf =>
    obtain ⟨c, more, rfl⟩ := List.exists_cons_of_ne_nil hword.1
    exact ⟨c, more ++ [':'], rfl, by simp [scan_of_isWord_colon hword hf]⟩
  | unknownField rest hword hf =>
    obtain ⟨c, more, rfl⟩ := List.exists_cons_of_ne_nil hword.1
    exact ⟨c, more ++ [':'], rfl, by simp [scan_of_isWord_colon hword hf]⟩
  | @quotation body rest hbody =>
    exact ⟨'"', body ++ ['"'], rfl, by simp [scan, quotation_append hbody]⟩

/-! ## Longer texts -/

/-- A lexeme stays one when `more` follows, as long as this does not lengthen a word or a sign at the end. -/
theorem Lexeme.append {text rest value more : List Char} {kind : TokenKind} (h : Lexeme text rest kind value)
    (hmore : EndsWord more) : Lexeme text (rest ++ more) kind value := by
  cases h with
  | sign _ hc => exact .sign _ hc
  | shortComparison hc hrest =>
    refine .shortComparison hc fun he => ?_
    cases rest with
    | nil => exact absurd (hmore '=' he).1 (by decide)
    | cons d r => exact hrest he
  | longComparison _ hc => exact .longComparison _ hc
  | word hword hrest hkind =>
    refine .word hword (fun d hd => ?_) hkind
    cases rest with
    | nil => exact hmore d hd
    | cons d' r => exact hrest d hd
  | field _ hword hf => exact .field _ hword hf
  | unknownField _ hword hf => exact .unknownField _ hword hf
  | quotation _ hbody => exact .quotation _ hbody

/-- A lexeme stays one when the text behind it ends earlier. -/
theorem Lexeme.cut {text rest value more : List Char} {kind : TokenKind} (h : Lexeme text (rest ++ more) kind value) :
    Lexeme text rest kind value := by
  have hhead : ∀ d, rest.head? = some d → (rest ++ more).head? = some d := fun d hd => by
    rw [List.head?_append, hd]; rfl
  cases h with
  | sign _ hc => exact .sign _ hc
  | shortComparison hc hrest => exact .shortComparison hc fun he => hrest (hhead '=' he)
  | longComparison _ hc => exact .longComparison _ hc
  | word hword hrest hkind => exact .word hword (fun d hd => hrest d (hhead d hd)) hkind
  | field _ hword hf => exact .field _ hword hf
  | unknownField _ hword hf => exact .unknownField _ hword hf
  | quotation _ hbody => exact .quotation _ hbody

end KanjiSearch.Lexer
