import KanjiSearch.Proofs.Grammar.Spelling

/-!
# The course of a reading

Reading moves over its tokens in single steps (`Step`). A step takes the tokens of a test or a connective, opens or ends
a group, reports a fault where it stands, or gives up a token, which it does only in a reading that reports a fault. A
row of such steps (`Course`) yields tests and errors, in the order in which they were found.

* `TestTokens`: the tokens that a test takes.
* `Course.trans`: courses compose.
* `Course.of_nil`: where no token is left, no test is made.

What holds of all courses is proved of a step first and then of whole courses: of the tests in `Tests`, of the places of
errors in `ErrorPlaces`, and of the groups in `Nesting`. That every reading runs in a course is shown in `Following`.
-/

namespace KanjiSearch

/-- The tests of a query, from left to right. -/
def Query.tests : Query → List Query
  | and left right => left.tests ++ right.tests
  | or left right => left.tests ++ right.tests
  | not inner => inner.tests
  | group inner => inner.tests
  | compare op f value => [compare op f value]
  | range f min max => [range f min max]
  | search scope value exact => [search scope value exact]

/-- The tests of a query, if there is one. -/
def testsOf : Option Query → List Query
  | some q => q.tests
  | none => []

/-- Whether this is a sign that joins or negates queries. -/
def TokenKind.isConnective : TokenKind → Bool
  | and | or | not => true
  | _ => false

/-- Whether this opens or ends a group. -/
def TokenKind.isParen : TokenKind → Bool
  | openParen | closeParen => true
  | _ => false

/-- Whether this tells of a group without an end, or of one too many. -/
def Fault.isOfGroups : Fault → Bool
  | unclosedGroup | nestedTooDeeply => true
  | _ => false

end KanjiSearch

namespace KanjiSearch.Parser

/-! ## The tokens of a test -/

/-- The tokens that a test of the field `f` takes behind the name of the field. -/
inductive FieldTokens (f : Field) : List Token → Query → Prop
  | text {t} : t.kind = .text → FieldTokens f [t] (.search (.field f) t.value false)
  | quoted {t} : t.kind = .quoted → FieldTokens f [t] (.search (.field f) t.value true)
  | number {t n} : f = .frequency → t.kind = .number → Text.count? t.value.toList = some n →
      FieldTokens f [t] (.compare .equal f n)
  | comparison {o t op n} : f = .frequency → comparison? o.kind = some op → t.kind = .number →
      Text.count? t.value.toList = some n → FieldTokens f [o, t] (.compare op f n)
  | range {t low high min max} : f = .frequency → t.kind = .range →
      Text.splitOnce '-' t.value.toList = some (low, high) → Text.count? low = some min → Text.count? high = some max →
      FieldTokens f [t] (.range f min max)
  | level {o t op rank} : f = .jlptLevel → comparison? o.kind = some op → t.kind = .text →
      jlptRank? t.value = some rank → FieldTokens f [o, t] (.compare op f rank)

/-- The tokens that a test takes. -/
inductive TestTokens : List Token → Query → Prop
  | text {t} : t.kind = .text → TestTokens [t] (.search .usual t.value false)
  | quoted {t} : t.kind = .quoted → TestTokens [t] (.search .usual t.value true)
  | field {t f ts q} : t.kind = .field f → FieldTokens f ts q → TestTokens (t :: ts) q

theorem FieldTokens.isTest {f : Field} {ts : List Token} {q : Query} (h : FieldTokens f ts q) :
    q.tests = [q] ∧ q.nesting = 0 := by
  cases h <;> exact ⟨rfl, rfl⟩

theorem isParen_of_comparison? {kind : TokenKind} {op : Comparison} (h : comparison? kind = some op) :
    kind.isParen = false := by
  rcases comparison?_eq_some h with rfl | rfl | rfl | rfl <;> rfl

theorem FieldTokens.isParen {f : Field} {ts : List Token} {q : Query} (h : FieldTokens f ts q) :
    ∀ t ∈ ts, t.kind.isParen = false := by
  cases h with
  | text ht | quoted ht | number _ ht | range _ ht => simp [ht, TokenKind.isParen]
  | comparison _ ho ht | level _ ho ht =>
    rintro t (_ | ⟨_, _ | ⟨_, ⟨⟩⟩⟩)
    · exact isParen_of_comparison? ho
    · simp [ht, TokenKind.isParen]

theorem TestTokens.isParen {ts : List Token} {q : Query} (h : TestTokens ts q) : ∀ t ∈ ts, t.kind.isParen = false := by
  cases h with
  | text ht | quoted ht => simp [ht, TokenKind.isParen]
  | field ht hv => exact List.forall_mem_cons.mpr ⟨by simp [ht, TokenKind.isParen], hv.isParen⟩

theorem TestTokens.isTest {ts : List Token} {q : Query} (h : TestTokens ts q) : q.tests = [q] ∧ q.nesting = 0 := by
  cases h with
  | text | quoted => exact ⟨rfl, rfl⟩
  | field _ hv => exact hv.isTest

theorem TestTokens.ne_nil {ts : List Token} {q : Query} (h : TestTokens ts q) : ts ≠ [] := by
  cases h <;> exact List.cons_ne_nil _ _

/-! ## Steps and courses -/

/-- Where reading stands: the tokens that are left, and the number of groups that may still be opened. -/
structure Cursor where
  room : Nat
  tokens : List Token

/-- A step of reading from one place to another, with the tests that it makes and the errors that it reports. Only
`lossy` readings give up tokens. -/
inductive Step (stop : Token) (lossy : Prop) : Cursor → List Query → List SyntaxError → Cursor → Prop
  | test {room us ts q} : TestTokens us q → Step stop lossy ⟨room, us ++ ts⟩ [q] [] ⟨room, ts⟩
  | connective {room t ts} : t.kind.isConnective = true → Step stop lossy ⟨room, t :: ts⟩ [] [] ⟨room, ts⟩
  | opening {room t ts} : t.kind = .openParen → Step stop lossy ⟨room + 1, t :: ts⟩ [] [] ⟨room, ts⟩
  | closing {room t ts} : t.kind = .closeParen → Step stop lossy ⟨room, t :: ts⟩ [] [] ⟨room + 1, ts⟩
  /-- a group ends without its parenthesis -/
  | unclosed {room ts} :
      Step stop lossy ⟨room, ts⟩ [] [.on .unclosedGroup (here stop ts)] ⟨room + 1, ts⟩
  | report {room ts fault} : fault.isOfGroups = false →
      Step stop lossy ⟨room, ts⟩ [] [.on fault (here stop ts)] ⟨room, ts⟩
  | drop {room t ts} : lossy → t.kind.isParen = false → Step stop lossy ⟨room, t :: ts⟩ [] [] ⟨room, ts⟩
  /-- a range without a dash is passed over with its field -/
  | dashless {room p t ts} : p.kind = .field .frequency → t.kind = .range → '-' ∉ t.value.toList →
      Step stop lossy ⟨room, p :: t :: ts⟩ [] [] ⟨room, ts⟩

/-- A row of steps. -/
inductive Course (stop : Token) (lossy : Prop) : Cursor → List Query → List SyntaxError → Cursor → Prop
  | done {c} : Course stop lossy c [] [] c
  | step {c d e qs qs' es es'} : Step stop lossy c qs es d → Course stop lossy d qs' es' e →
      Course stop lossy c (qs ++ qs') (es ++ es') e

/-- The tokens behind some that have been taken, where `n` ones were taken before. -/
theorem drop_add_length {ts rest : List Token} {n : Nat} (us : List Token) (h : ts.drop n = us ++ rest) :
    ts.drop (n + us.length) = rest := by
  rw [← List.drop_drop, h, List.drop_left]

section Courses

variable {stop : Token} {lossy lossy' : Prop} {c d e : Cursor} {qs qs' : List Query} {es es' : List SyntaxError}

theorem Step.mono (h : Step stop lossy c qs es d) (hl : lossy → lossy') : Step stop lossy' c qs es d := by
  cases h with
  | test ht => exact .test ht
  | connective ht => exact .connective ht
  | opening ht => exact .opening ht
  | closing ht => exact .closing ht
  | unclosed => exact .unclosed
  | report hf => exact .report hf
  | drop hlossy ht => exact .drop (hl hlossy) ht
  | dashless hp ht hdash => exact .dashless hp ht hdash

theorem Course.mono (h : Course stop lossy c qs es d) (hl : lossy → lossy') : Course stop lossy' c qs es d := by
  induction h with
  | done => exact .done
  | step hs _ ih => exact .step (hs.mono hl) ih

theorem Course.single (h : Step stop lossy c qs es d) : Course stop lossy c qs es d := by
  simpa using Course.step h .done

/-- Courses compose. -/
theorem Course.trans (h : Course stop lossy c qs es d) (h' : Course stop lossy d qs' es' e) :
    Course stop lossy c (qs ++ qs') (es ++ es') e := by
  induction h with
  | done => exact h'
  | step hs _ ih =>
    rw [List.append_assoc, List.append_assoc]
    exact .step hs (ih h')

/-- A course that ends with a step that makes no test. -/
theorem Course.concat (h : Course stop lossy c qs es d) (hs : Step stop lossy d [] es' e) :
    Course stop lossy c qs (es ++ es') e := by
  simpa using h.trans (.single hs)

/-- A course that begins with a step that makes no test and reports nothing. -/
theorem Course.cons (hs : Step stop lossy c [] [] d) (h : Course stop lossy d qs es e) :
    Course stop lossy c qs es e := by
  simpa using Course.step hs h

theorem Course.drop {room : Nat} {us ts : List Token} (hl : lossy) (hus : ∀ t ∈ us, t.kind.isParen = false) :
    Course stop lossy ⟨room, us ++ ts⟩ [] [] ⟨room, ts⟩ := by
  induction us with
  | nil => exact .done
  | cons t us ih =>
    rw [List.forall_mem_cons] at hus
    exact .cons (.drop hl hus.1) (ih hus.2)

theorem Step.of_nil (h : Step stop lossy c qs es d) (hc : c.tokens = []) : qs = [] ∧ d.tokens = [] := by
  cases h with
  | test ht => exact absurd (List.append_eq_nil_iff.mp hc).1 ht.ne_nil
  | unclosed | report => exact ⟨rfl, hc⟩
  | connective | opening | closing | drop | dashless => cases hc

/-- Where no token is left, no test is made. -/
theorem Course.of_nil (h : Course stop lossy c qs es d) (hc : c.tokens = []) : qs = [] ∧ d.tokens = [] := by
  induction h with
  | done => exact ⟨rfl, hc⟩
  | step hs _ ih =>
    obtain ⟨rfl, hd⟩ := hs.of_nil hc
    simpa using ih hd

theorem Step.not_tooDeep (h : Step stop lossy c qs es d) : ∀ e ∈ es, e.fault ≠ .nestedTooDeeply := by
  cases h with
  | unclosed => simp [SyntaxError.on]
  | @report _ _ fault hf =>
    rw [List.forall_mem_singleton]
    rintro rfl
    cases hf
  | test | connective | opening | closing | drop | dashless => exact List.forall_mem_nil _

/-- A course reports no group too many. -/
theorem Course.not_tooDeep (h : Course stop lossy c qs es d) : ∀ e ∈ es, e.fault ≠ .nestedTooDeeply := by
  induction h with
  | done => exact List.forall_mem_nil _
  | step hs _ ih => exact List.forall_mem_append.mpr ⟨hs.not_tooDeep, ih⟩

end Courses

end KanjiSearch.Parser
