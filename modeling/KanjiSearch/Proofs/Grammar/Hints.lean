import KanjiSearch.Proofs.Grammar.Faults
import KanjiSearch.Proofs.Lists
import KanjiSearch.Proofs.Text.Pieces

/-!
# Hints

A hint is found by what a message says, and messages quote the query. Still the hint is the one for the fault
(`Fault.advice?`): all that is looked for inside messages holds a blank, and what messages quote holds none, so a piece
that is found has its blank, and all that stands before it, in what the message says itself.

* `Absent.append`, `Absent.append_dot`: a text without blanks adds no start of a piece.
* `hint?_of_absent`, `hint?_unknownField`, `hint?_invalidLevel`: the messages that quote something.
* `hint?_constant`, `hint?_missingOperand`: the other ones.
* `advice_of_quotes`: the message of a fault that quotes no blanks.
* `hint_of_fault`: the hints for all faults of a query.
-/

open KanjiSearch.Lexer (tokensFrom)

namespace KanjiSearch

/-- The hint for a fault. -/
def Fault.advice? : Fault → Option String
  | stated _ => some "Add a closing quote (\") to complete the phrase"
  | unclosedGroup => some "Add a closing parenthesis ) to match the opening one"
  | missingOperand .and | missingOperand .or =>
    some "AND and OR need expressions on both sides, e.g. 'en:fire | en:water'"
  | missingOperand .not => some "NOT must be followed by a term, e.g. '!jlpt:N1'"
  | unknownField _ => some "Valid prefixes are: char, hv, en, vn, on, kun, com, jlpt, freq"
  | missingLevel | invalidLevel _ => some "JLPT levels are written N1 (hardest) to N5 (easiest), e.g. 'jlpt:<N3'"
  | missingNumber => some "Frequency comparisons take a number, e.g. 'freq:<500'"
  | unexpected _ | emptyGroup | nestedTooDeeply | missingValue _ | invalidNumber _ => none

/-! ## What is looked for -/

/-- The hint for a message, by the answers to what is asked about it, in this order. -/
def hintFor (quote paren joined negated field level number : Bool) : Option String :=
  if quote then some "Add a closing quote (\") to complete the phrase"
  else if paren then some "Add a closing parenthesis ) to match the opening one"
  else if joined then some "AND and OR need expressions on both sides, e.g. 'en:fire | en:water'"
  else if negated then some "NOT must be followed by a term, e.g. '!jlpt:N1'"
  else if field then some "Valid prefixes are: char, hv, en, vn, on, kun, com, jlpt, freq"
  else if level then some "JLPT levels are written N1 (hardest) to N5 (easiest), e.g. 'jlpt:<N3'"
  else if number then some "Frequency comparisons take a number, e.g. 'freq:<500'"
  else none

theorem hint?_eq (message : String) : hint? message =
    hintFor (Text.hasPiece "Unclosed quote".toList message.toList)
      (Text.hasPiece "closing parenthesis".toList message.toList)
      (Text.hasPiece "AND operator".toList message.toList || Text.hasPiece "OR operator".toList message.toList)
      (Text.hasPiece "NOT operator".toList message.toList)
      ("Unknown prefix".toList.isPrefixOf message.toList)
      ("Invalid JLPT level".toList.isPrefixOf message.toList || Text.hasPiece "JLPT level (".toList message.toList)
      (Text.hasPiece "number after comparison".toList message.toList) :=
  rfl

/-- What is looked for inside a message at first. -/
def earlyPieces : List (List Char) :=
  ["Unclosed quote".toList, "closing parenthesis".toList, "AND operator".toList, "OR operator".toList,
    "NOT operator".toList]

/-- What is looked for inside a message once it is known how it begins. -/
def latePieces : List (List Char) :=
  ["JLPT level (".toList, "number after comparison".toList]

/-- What a message may begin with. -/
def beginnings : List (List Char) :=
  ["Unknown prefix".toList, "Invalid JLPT level".toList]

/-- The word that a piece starts with. -/
def firstWord (piece : List Char) : List Char :=
  piece.takeWhile (· != ' ')

/-- No word that one of the pieces starts with stands before a blank. -/
def Absent (pieces : List (List Char)) (text : List Char) : Prop :=
  ∀ piece ∈ pieces, ¬ firstWord piece ++ [' '] <:+: text

/-- The text neither begins with any of what a message may begin with nor is such a beginning cut short. -/
def BeginsOtherwise (text : List Char) : Prop :=
  ∀ beginning ∈ beginnings, ¬ beginning <+: text ∧ ¬ text <+: beginning

section Tables

-- The texts are taken apart by rewriting before `decide` looks at their characters: this is much faster.

theorem firstWord_starts : ∀ piece ∈ earlyPieces ++ latePieces, firstWord piece ++ [' '] <+: piece := by
  unfold earlyPieces latePieces
  repeat rw [String.toList_ofList]
  decide

/-- No piece starts with a word that ends in a dot. -/
theorem firstWord_no_dot : ∀ piece ∈ earlyPieces,
    ' ' ∉ firstWord piece ∧ ¬ firstWord piece <:+ ['.'] ∧ ¬ ['.'] <:+ firstWord piece := by
  unfold earlyPieces
  repeat rw [String.toList_ofList]
  decide

/-- The words of messages in front of what they quote, where none of it is found. -/
theorem own_words_absent :
    ∀ front ∈ ["Unexpected token: ".toList, "Expected value after ".toList, "Invalid number: ".toList],
      Absent (earlyPieces ++ latePieces) front ∧ BeginsOtherwise front := by
  unfold Absent BeginsOtherwise earlyPieces latePieces beginnings
  repeat rw [String.toList_ofList]
  decide

/-- The words of the other messages that quote something. -/
theorem own_words_early :
    ∀ text ∈ ["Unknown prefix: ".toList, "Invalid JLPT level: ".toList, ' ' :: "Use N1-N5".toList],
      Absent earlyPieces text := by
  unfold Absent earlyPieces
  repeat rw [String.toList_ofList]
  decide

end Tables

section Pieces

variable {pieces : List (List Char)} {front w : List Char}

/-- A text without blanks adds no start of a piece. -/
theorem Absent.append (h : Absent pieces front) (hw : ' ' ∉ w) : Absent pieces (front ++ w) :=
  fun piece hpiece hheld => h piece hpiece (infix_of_infix_append hw hheld)

/-- Nor does one with a dot behind it, as no piece starts with a word that ends in a dot. -/
theorem Absent.append_dot (h : Absent earlyPieces front) (hw : ' ' ∉ w) {back : List Char}
    (hback : Absent earlyPieces (' ' :: back)) : Absent earlyPieces (front ++ (w ++ ['.']) ++ ' ' :: back) := by
  intro piece hpiece hheld
  obtain ⟨hblank, hshort, hdot⟩ := firstWord_no_dot piece hpiece
  have hend : ' ' ∉ w ++ ['.'] := by simp [hw]
  rcases infix_append_mark hblank hheld with hfront | hsuffix | hbehind
  · exact h.append hend piece hpiece hfront
  · have hlast : ['.'] <:+ front ++ (w ++ ['.']) := (List.suffix_append w ['.']).trans (List.suffix_append ..)
    exact (List.suffix_or_suffix_of_suffix hsuffix hlast).elim hshort hdot
  · exact hback piece hpiece hbehind

/-- Where no word that pieces start with stands before a blank, none of the pieces stands. -/
theorem Absent.hasPiece (h : Absent pieces front) {piece : List Char} (hpiece : piece ∈ pieces)
    (hknown : piece ∈ earlyPieces ++ latePieces) : Text.hasPiece piece front = false := by
  rw [← Bool.not_eq_true, Text.hasPiece_iff]
  exact fun hheld => h piece hpiece ((firstWord_starts piece hknown).isInfix.trans hheld)

end Pieces

/-! ## Messages -/

/-- Where no early piece stands, the beginning of a message counts first. -/
theorem hint?_of_early {message : String} (h : Absent earlyPieces message.toList) : hint? message =
    hintFor false false false false ("Unknown prefix".toList.isPrefixOf message.toList)
      ("Invalid JLPT level".toList.isPrefixOf message.toList || Text.hasPiece "JLPT level (".toList message.toList)
      (Text.hasPiece "number after comparison".toList message.toList) := by
  have hheld : ∀ piece ∈ earlyPieces, Text.hasPiece piece message.toList = false := fun piece hpiece =>
    h.hasPiece hpiece (List.mem_append_left _ hpiece)
  simp only [earlyPieces, List.forall_mem_cons] at hheld
  obtain ⟨hquote, hparen, hand, hor, hnot, -⟩ := hheld
  rw [hint?_eq, hquote, hparen, hand, hor, hnot]
  rfl

section Quoted

variable {front w : String} (hw : ' ' ∉ w.toList)
include hw

/-- A message in whose own words nothing is found. -/
theorem hint?_of_absent (h : Absent (earlyPieces ++ latePieces) front.toList ∧ BeginsOtherwise front.toList) :
    hint? (front ++ w) = none := by
  obtain ⟨habsent, hbegins⟩ := h
  have hall : Absent (earlyPieces ++ latePieces) (front ++ w).toList := by
    rw [String.toList_append]
    exact habsent.append hw
  have hearly : Absent earlyPieces (front ++ w).toList := fun piece hpiece =>
    hall piece (List.mem_append_left _ hpiece)
  have hbegin : ∀ beginning ∈ beginnings, beginning.isPrefixOf (front ++ w).toList = false := by
    intro beginning hbeginning
    rw [← Bool.not_eq_true, List.isPrefixOf_iff_prefix, String.toList_append]
    exact not_prefix_append (hbegins beginning hbeginning).1 (hbegins beginning hbeginning).2 w.toList
  have hlate : ∀ piece ∈ latePieces, Text.hasPiece piece (front ++ w).toList = false := fun piece hpiece =>
    hall.hasPiece (List.mem_append_right _ hpiece) (List.mem_append_right _ hpiece)
  simp only [beginnings, latePieces, List.forall_mem_cons] at hbegin hlate
  rw [hint?_of_early hearly, hbegin.1, hbegin.2.1, hlate.1, hlate.2.1]
  rfl

theorem hint?_unknownField : hint? (Fault.unknownField w).message = (Fault.unknownField w).advice? := by
  have hall : Absent earlyPieces ("Unknown prefix: " ++ w).toList := by
    rw [String.toList_append]
    exact (own_words_early _ (by simp)).append hw
  have hbegin : "Unknown prefix".toList.isPrefixOf ("Unknown prefix: " ++ w).toList = true := by
    rw [List.isPrefixOf_iff_prefix, String.toList_append]
    refine .trans ?_ (List.prefix_append ..)
    repeat rw [String.toList_ofList]
    decide
  show hint? ("Unknown prefix: " ++ w) = _
  rw [hint?_of_early hall, hbegin]
  rfl

theorem hint?_invalidLevel : hint? (Fault.invalidLevel w).message = (Fault.invalidLevel w).advice? := by
  have hmessage : ("Invalid JLPT level: " ++ w ++ ". Use N1-N5").toList =
      "Invalid JLPT level: ".toList ++ (w.toList ++ ['.']) ++ ' ' :: "Use N1-N5".toList := by simp
  have hall : Absent earlyPieces ("Invalid JLPT level: " ++ w ++ ". Use N1-N5").toList := by
    rw [hmessage]
    exact (own_words_early _ (by simp)).append_dot hw (own_words_early _ (by simp))
  have hother : "Unknown prefix".toList.isPrefixOf ("Invalid JLPT level: " ++ w ++ ". Use N1-N5").toList = false := by
    rw [← Bool.not_eq_true, List.isPrefixOf_iff_prefix, hmessage, List.append_assoc]
    repeat rw [String.toList_ofList]
    exact not_prefix_append (by decide) (by decide) _
  have hbegin :
      "Invalid JLPT level".toList.isPrefixOf ("Invalid JLPT level: " ++ w ++ ". Use N1-N5").toList = true := by
    rw [List.isPrefixOf_iff_prefix, hmessage, List.append_assoc]
    refine .trans ?_ (List.prefix_append ..)
    repeat rw [String.toList_ofList]
    decide
  show hint? ("Invalid JLPT level: " ++ w ++ ". Use N1-N5") = _
  rw [hint?_of_early hall, hother, hbegin]
  rfl

end Quoted

/-- The messages of faults that quote nothing. -/
theorem hint?_constant {fault : Fault} (h : fault ∈ [.stated Lexer.unclosedQuote, .emptyGroup, .unclosedGroup,
    .nestedTooDeeply, .missingNumber, .missingLevel]) : hint? fault.message = fault.advice? := by
  simp only [List.mem_cons, List.not_mem_nil, or_false] at h
  rcases h with rfl | rfl | rfl | rfl | rfl | rfl
  all_goals
    unfold Fault.message
    rw [hint?_eq]
    repeat rw [String.toList_ofList]
    rfl

theorem hint?_missingOperand (after : Connective) :
    hint? (Fault.missingOperand after).message = (Fault.missingOperand after).advice? := by
  cases after
  all_goals
    unfold Fault.message Connective.keyword
    rw [hint?_eq, String.toList_append, String.toList_append]
    repeat rw [String.toList_ofList]
    rfl

/-! ## Faults of queries -/

section Queries

variable {position : Nat} {cs : List Char}

theorem mem_tokensFrom_of_mem {t : Token} (ht : t ∈ Lexer.lexemesFrom position cs) : t ∈ tokensFrom position cs :=
  (List.dropLast_sublist _).mem ht

/-- The text of a token in messages holds no blank, unless it is a quotation or says what is wrong. -/
theorem blank_not_mem_text {t : Token} (ht : t ∈ Lexer.lexemesFrom position cs) (hquoted : t.kind ≠ .quoted)
    (herror : t.kind ≠ .error) : ' ' ∉ t.text.toList := by
  have hvalue := Lexer.blank_not_mem_value (mem_tokensFrom_of_mem ht) hquoted herror
  unfold Token.text
  split
  · next hkind => exact absurd hkind hquoted
  · simp [hvalue]
  · simp [hvalue]
  · next hkind => exact absurd hkind (Lexer.kind_ne_eof_of_mem ht)
  · exact hvalue

/-- The hint for the message of a fault of a text is the one for the fault. -/
theorem advice_of_quotes {fault : Fault} (h : fault.Quotes (Lexer.lexemesFrom position cs)) :
    hint? fault.message = fault.advice? := by
  have hvalue : ∀ {t : Token}, t ∈ Lexer.lexemesFrom position cs → t.kind ≠ .quoted → t.kind ≠ .error →
      ' ' ∉ t.value.toList := fun ht => Lexer.blank_not_mem_value (mem_tokensFrom_of_mem ht)
  cases h with
  | stated ht hkind =>
    rw [Lexer.value_of_error (mem_tokensFrom_of_mem ht) hkind]
    exact hint?_constant (by simp)
  | @unexpected t ht hstart =>
    have hquoted : t.kind ≠ .quoted := fun hkind => by simp [hkind, Parser.startsOperand] at hstart
    have herror : t.kind ≠ .error := fun hkind => by simp [hkind, Parser.startsOperand] at hstart
    exact hint?_of_absent (blank_not_mem_text ht hquoted herror) (own_words_absent _ (by simp))
  | missingOperand => exact hint?_missingOperand _
  | unknownField ht hkind => exact hint?_unknownField (hvalue ht (by simp [hkind]) (by simp [hkind]))
  | @missingValue t f ht hkind =>
    have hblank : ' ' ∉ (t.value ++ ":").toList := by simp [hvalue ht (by simp [hkind]) (by simp [hkind])]
    have hmessage : (Fault.missingValue t.value).message = "Expected value after " ++ (t.value ++ ":") :=
      String.append_assoc
    exact (congrArg hint? hmessage).trans (hint?_of_absent hblank (own_words_absent _ (by simp)))
  | @invalidNumber t digits ht hkind hdigits =>
    have hblank : ' ' ∉ t.value.toList := by
      rcases hkind with hkind | hkind <;> exact hvalue ht (by simp [hkind]) (by simp [hkind])
    refine hint?_of_absent (fun hmem => hblank (hdigits.mem ?_)) (own_words_absent _ (by simp))
    rwa [String.toList_ofList] at hmem
  | invalidLevel ht hkind => exact hint?_invalidLevel (hvalue ht (by simp [hkind]) (by simp [hkind]))
  | emptyGroup | unclosedGroup | nestedTooDeeply | missingNumber | missingLevel => exact hint?_constant (by simp)

end Queries

/-- **No text of a query changes a hint**, which depends on the kind of the fault alone. -/
theorem hint_of_fault (query : String) : ∀ e ∈ (parseQuery query).errors,
    e.hint? = e.fault.advice? ∧ ∀ message, e.fault = .stated message → message = Lexer.unclosedQuote := by
  intro e he
  have hquotes := quotes_of_parseTokens (allLexical_tokenize query) e he
  rw [tokensBeforeEnd_tokenize] at hquotes
  refine ⟨advice_of_quotes hquotes, fun message hfault => ?_⟩
  rw [hfault] at hquotes
  cases hquotes with
  | stated ht hkind => exact Lexer.value_of_error (mem_tokensFrom_of_mem ht) hkind

/-- A field and a level that look like what other hints are found by. -/
theorem hint_of_fault_words :
    (SyntaxError.on (.unknownField "closing") ⟨.unknownField, "closing", 0⟩).hint? =
      some "Valid prefixes are: char, hv, en, vn, on, kun, com, jlpt, freq" ∧
    (SyntaxError.on (.invalidLevel "Unclosed") ⟨.text, "Unclosed", 6⟩).hint? =
      some "JLPT levels are written N1 (hardest) to N5 (easiest), e.g. 'jlpt:<N3'" :=
  ⟨(hint_of_fault "closing: parenthesis" _ (by decide +kernel)).1,
    (hint_of_fault "jlpt:<Unclosed quote" _ (by decide +kernel)).1⟩

end KanjiSearch
