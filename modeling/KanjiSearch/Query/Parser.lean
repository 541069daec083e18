import KanjiSearch.Query.Basic
import KanjiSearch.Query.Lexer
import KanjiSearch.Query.SyntaxError

/-!
# Reading queries

The grammar, from weak to strong binding:

* a disjunction is a row of conjunctions with `|` between them;
* a conjunction is a row of operands, with or without `&` between them;
* an operand is a primary, with or without `!` before it;
* a primary is a disjunction in parentheses, a text, or a field with its value.

Reading never stops at a fault: each rule returns the query it could make out, the tokens it left and the faults it met
(`Reading`). The tokens left are always an end of the tokens given (`Reader.suffix`), and an operand that starts with
one of its own tokens takes at least that token (`operand_rest_of_starts`), so all rows end. Parentheses nest at most
`maxNesting` deep: a reader knows how many more it may open, and the one too many drops the rest of the query.
-/

namespace KanjiSearch.Parser

/-- The number of parentheses that may be open at once. -/
def maxNesting : Nat := 100

/-- What a rule makes of the tokens it was given. -/
structure Reading where
  query : Option Query
  rest : List Token
  errors : List SyntaxError

/-- A rule, which leaves an end of the tokens it was given. -/
structure Reader where
  read : List Token → Reading
  suffix : ∀ ts, (read ts).rest <:+ ts

/-- A reading with errors found before it. -/
def Reading.after (errors : List SyntaxError) (r : Reading) : Reading :=
  ⟨r.query, r.rest, errors ++ r.errors⟩

/-- Whether the rest of the query was dropped because of its nesting. -/
def Reading.isCut (r : Reading) : Bool :=
  r.errors.any (·.fault == .nestedTooDeeply)

@[simp]
theorem Reading.after_rest (errors : List SyntaxError) (r : Reading) : (r.after errors).rest = r.rest := rfl

section Rules

variable (stop : Token)

/-- The token at which reading stands: `stop` when none is left. -/
def here (ts : List Token) : Token :=
  ts.headD stop

/-- The fault at the place where a rule ended, unless the rule has reported one itself. -/
def unlessReported (fault : Fault) (r : Reading) : List SyntaxError :=
  if r.errors.isEmpty then [.on fault (here stop r.rest)] else []

/-! ## Values of fields -/

/-- A text or a quotation as the value of `f`. -/
def textValue (f : Field) (spelling : String) (ts : List Token) : Reading :=
  match ts with
  | [] => ⟨none, [], [.on (.missingValue spelling) stop]⟩
  | t :: rest =>
    match t.kind with
    | .text => ⟨some (.search (.field f) t.value false), rest, []⟩
    | .quoted => ⟨some (.search (.field f) t.value true), rest, []⟩
    | _ => ⟨none, ts, [.on (.missingValue spelling) t]⟩

/-- The number `digits` at the token `t`, used as `use` says. -/
def withNumber (t : Token) (digits : List Char) (rest : List Token) (use : UInt64 → Reading) : Reading :=
  match Text.count? digits with
  | some n => use n
  | none => ⟨none, rest, [.on (.invalidNumber (String.ofList digits)) t]⟩

/-- The number that a frequency is compared with. -/
def comparedFrequency (op : Comparison) (ts : List Token) : Reading :=
  match ts with
  | [] => ⟨none, [], [.on .missingNumber stop]⟩
  | t :: rest =>
    match t.kind with
    | .number => withNumber t t.value.toList rest fun n => ⟨some (.compare op .frequency n), rest, []⟩
    | _ => ⟨none, ts, [.on .missingNumber t]⟩

/-- The level that a JLPT level is compared with. -/
def comparedLevel (op : Comparison) (ts : List Token) : Reading :=
  match ts with
  | [] => ⟨none, [], [.on .missingLevel stop]⟩
  | t :: rest =>
    match t.kind with
    | .text =>
      match jlptRank? t.value with
      | some rank => ⟨some (.compare op .jlptLevel rank), rest, []⟩
      | none => ⟨none, rest, [.on (.invalidLevel t.value) t]⟩
    | _ => ⟨none, ts, [.on .missingLevel t]⟩

/-- The comparison that a token stands for. -/
def comparison? : TokenKind → Option Comparison
  | .less => some .less
  | .greater => some .greater
  | .atMost => some .atMost
  | .atLeast => some .atLeast
  | _ => none

/-- The two numbers of the range token `t`. -/
def rangeValue (f : Field) (t : Token) (rest : List Token) : Reading :=
  match Text.splitOnce '-' t.value.toList with
  | none => ⟨none, rest, []⟩
  | some (low, high) =>
    withNumber t low rest fun min => withNumber t high rest fun max => ⟨some (.range f min max), rest, []⟩

/-- The value of the field `f`. -/
def fieldValue (f : Field) (spelling : String) (ts : List Token) : Reading :=
  match ts with
  | [] => textValue stop f spelling ts
  | t :: rest =>
    match f, comparison? t.kind with
    | .frequency, some op => comparedFrequency stop op rest
    | .jlptLevel, some op => comparedLevel stop op rest
    | .frequency, none =>
      match t.kind with
      | .range => rangeValue f t rest
      | .number => withNumber t t.value.toList rest fun n => ⟨some (.compare .equal f n), rest, []⟩
      | _ => textValue stop f spelling ts
    | _, _ => textValue stop f spelling ts

/-! ## Operands -/

/-- Whether a token may be the value of a field. -/
def isValue : TokenKind → Bool
  | .text | .quoted | .number | .range => true
  | _ => false

/-- The tokens behind a word with a colon that spells no field: its value is passed over. -/
def skipValue : List Token → List Token
  | t :: rest => if isValue t.kind then rest else t :: rest
  | [] => []

/-- Whether a token may start an operand. -/
def startsOperand : TokenKind → Bool
  | .text | .quoted | .field _ | .unknownField | .openParen | .not | .error => true
  | _ => false

variable (group : Token → Reader)

/-- A primary; `group` reads what follows an opening parenthesis. Nothing is reported when no primary starts here. -/
def primary (ts : List Token) : Reading :=
  match ts with
  | [] => ⟨none, [], []⟩
  | t :: rest =>
    match t.kind with
    | .openParen => (group t).read rest
    | .field f => fieldValue stop f t.value rest
    | .unknownField => ⟨none, skipValue rest, [.on (.unknownField t.value) t]⟩
    | .text => ⟨some (.search .usual t.value false), rest, []⟩
    | .quoted => ⟨some (.search .usual t.value true), rest, []⟩
    | .error => ⟨none, rest, [.on (.stated t.value) t]⟩
    | _ => ⟨none, ts, []⟩

/-- The negation of a primary that was read behind a `!`. -/
def negation (r : Reading) : Reading :=
  match r.query with
  | some q => ⟨some (.not q), r.rest, r.errors⟩
  | none => ⟨none, r.rest, r.errors ++ unlessReported stop (.missingOperand .not) r⟩

/-- An operand. -/
def operand (ts : List Token) : Reading :=
  match ts with
  | [] => primary stop group []
  | t :: rest => if t.kind = .not then negation stop (primary stop group rest) else primary stop group (t :: rest)

/-! ### What rules leave -/

theorem textValue_rest (f : Field) (spelling : String) (ts : List Token) :
    (textValue stop f spelling ts).rest <:+ ts := by
  unfold textValue
  split
  · exact List.suffix_rfl
  · split <;> simp

theorem withNumber_rest {t : Token} {digits : List Char} {rest ts : List Token} {use : UInt64 → Reading}
    (hrest : rest <:+ ts) (huse : ∀ n, (use n).rest <:+ ts) : (withNumber t digits rest use).rest <:+ ts := by
  unfold withNumber
  split
  · exact huse _
  · exact hrest

theorem comparedFrequency_rest (op : Comparison) (ts : List Token) : (comparedFrequency stop op ts).rest <:+ ts := by
  unfold comparedFrequency
  split
  · exact List.suffix_rfl
  · split
    · exact withNumber_rest (List.suffix_cons ..) fun _ => List.suffix_cons ..
    · exact List.suffix_rfl

theorem comparedLevel_rest (op : Comparison) (ts : List Token) : (comparedLevel stop op ts).rest <:+ ts := by
  unfold comparedLevel
  split
  · exact List.suffix_rfl
  · split
    · split <;> exact List.suffix_cons ..
    · exact List.suffix_rfl

theorem rangeValue_rest (f : Field) (t : Token) (rest : List Token) : (rangeValue f t rest).rest <:+ rest := by
  unfold rangeValue
  split
  · exact List.suffix_rfl
  · exact withNumber_rest List.suffix_rfl fun _ => withNumber_rest List.suffix_rfl fun _ => List.suffix_rfl

theorem fieldValue_rest (f : Field) (spelling : String) (ts : List Token) :
    (fieldValue stop f spelling ts).rest <:+ ts := by
  unfold fieldValue
  split
  · exact textValue_rest ..
  · split
    · exact (comparedFrequency_rest ..).trans (List.suffix_cons ..)
    · exact (comparedLevel_rest ..).trans (List.suffix_cons ..)
    · split
      · exact (rangeValue_rest ..).trans (List.suffix_cons ..)
      · exact withNumber_rest (List.suffix_cons ..) fun _ => List.suffix_cons ..
      · exact textValue_rest ..
    · exact textValue_rest ..

theorem skipValue_rest (ts : List Token) : skipValue ts <:+ ts := by
  unfold skipValue
  split
  · split
    · exact List.suffix_cons ..
    · exact List.suffix_rfl
  · exact List.suffix_rfl

/-- A primary that starts with one of its own tokens takes that token. -/
theorem primary_rest_of_starts {t : Token} (rest : List Token) (h : startsOperand t.kind = true)
    (hnot : t.kind ≠ .not) :
    (primary stop group (t :: rest)).rest <:+ rest := by
  cases hk : t.kind <;> simp_all [startsOperand, primary]
  · exact fieldValue_rest ..
  · exact skipValue_rest ..
  · exact (group t).suffix rest

theorem primary_rest (ts : List Token) : (primary stop group ts).rest <:+ ts := by
  match ts with
  | [] => exact List.suffix_rfl
  | t :: rest =>
    by_cases h : startsOperand t.kind = true ∧ t.kind ≠ .not
    · exact (primary_rest_of_starts stop group rest h.1 h.2).trans (List.suffix_cons ..)
    · have hrest : (primary stop group (t :: rest)).rest = t :: rest := by
        cases hk : t.kind <;> simp_all [startsOperand, primary]
      simp [hrest]

@[simp]
theorem negation_rest (r : Reading) : (negation stop r).rest = r.rest := by
  unfold negation
  split <;> rfl

/-- An operand that starts with one of its own tokens takes that token. -/
theorem operand_rest_of_starts {t : Token} (rest : List Token) (h : startsOperand t.kind = true) :
    (operand stop group (t :: rest)).rest <:+ rest := by
  unfold operand
  simp only
  split
  · rw [negation_rest]
    exact primary_rest ..
  · next hnot => exact primary_rest_of_starts stop group rest h hnot

theorem operand_rest (ts : List Token) : (operand stop group ts).rest <:+ ts := by
  match ts with
  | [] => exact primary_rest ..
  | t :: rest =>
    unfold operand
    simp only
    split
    · rw [negation_rest]
      exact (primary_rest ..).trans (List.suffix_cons ..)
    · exact primary_rest ..

/-! ## Rows of operands -/

/-- The conjunction of `left` with a query, if there is one. -/
def andMaybe (left : Query) : Option Query → Query
  | some right => .and left right
  | none => left

/-- The rest of a conjunction that starts with `left`. -/
def conjunctsFrom (left : Query) (ts : List Token) : Reading :=
  match ts with
  | [] => ⟨some left, [], []⟩
  | t :: rest =>
    if t.kind = .and then
      let r := operand stop group rest
      match r.query with
      | some right => (conjunctsFrom (.and left right) r.rest).after r.errors
      | none => ⟨some left, r.rest, r.errors ++ unlessReported stop (.missingOperand .and) r⟩
    else if _h : startsOperand t.kind = true then
      let r := operand stop group (t :: rest)
      (conjunctsFrom (andMaybe left r.query) r.rest).after r.errors
    else ⟨some left, t :: rest, []⟩
  termination_by ts.length
  decreasing_by
  · exact Nat.lt_succ_of_le (operand_rest ..).length_le
  · exact Nat.lt_succ_of_le (operand_rest_of_starts stop group rest _h).length_le

/-- A conjunction. -/
def conjunction (ts : List Token) : Reading :=
  let r := operand stop group ts
  match r.query with
  | some left => (conjunctsFrom stop group left r.rest).after r.errors
  | none => r

theorem conjunctsFrom_rest (left : Query) (ts : List Token) : (conjunctsFrom stop group left ts).rest <:+ ts := by
  fun_induction conjunctsFrom stop group left ts with
  | case1 => exact List.suffix_rfl
  | case2 left t rest _ r right _ ih => exact ih.trans ((operand_rest ..).trans (List.suffix_cons ..))
  | case3 left t rest _ r _ => exact (operand_rest ..).trans (List.suffix_cons ..)
  | case4 left t rest _ h r ih => exact ih.trans (operand_rest ..)
  | case5 => exact List.suffix_rfl

theorem conjunction_rest (ts : List Token) : (conjunction stop group ts).rest <:+ ts := by
  unfold conjunction
  dsimp only
  split
  · exact (conjunctsFrom_rest ..).trans (operand_rest ..)
  · exact operand_rest ..

/-- The rest of a disjunction that starts with `left`. -/
def disjunctsFrom (left : Query) (ts : List Token) : Reading :=
  match ts with
  | [] => ⟨some left, [], []⟩
  | t :: rest =>
    if t.kind = .or then
      let r := conjunction stop group rest
      match r.query with
      | some right => (disjunctsFrom (.or left right) r.rest).after r.errors
      | none => ⟨some left, r.rest, r.errors ++ unlessReported stop (.missingOperand .or) r⟩
    else ⟨some left, t :: rest, []⟩
  termination_by ts.length
  decreasing_by exact Nat.lt_succ_of_le (conjunction_rest ..).length_le

/-- A disjunction. -/
def disjunction (ts : List Token) : Reading :=
  let r := conjunction stop group ts
  match r.query with
  | some left => (disjunctsFrom stop group left r.rest).after r.errors
  | none => r

theorem disjunctsFrom_rest (left : Query) (ts : List Token) : (disjunctsFrom stop group left ts).rest <:+ ts := by
  fun_induction disjunctsFrom stop group left ts with
  | case1 => exact List.suffix_rfl
  | case2 left t rest _ r right _ ih => exact ih.trans ((conjunction_rest ..).trans (List.suffix_cons ..))
  | case3 left t rest _ r _ => exact (conjunction_rest ..).trans (List.suffix_cons ..)
  | case4 => exact List.suffix_rfl

theorem disjunction_rest (ts : List Token) : (disjunction stop group ts).rest <:+ ts := by
  unfold disjunction
  dsimp only
  split
  · exact (disjunctsFrom_rest ..).trans (conjunction_rest ..)
  · exact conjunction_rest ..

end Rules

/-! ## Parentheses -/

section Groups

variable (stop : Token)

/-- The faults of a group whose inside has been read, apart from a missing end. -/
def insideErrors (r : Reading) : List SyntaxError :=
  r.errors ++ if r.query.isNone then unlessReported stop .emptyGroup r else []

/-- The fault that a group has no end, unless the rest of the query was dropped. -/
def unclosedErrors (r : Reading) : List SyntaxError :=
  if r.isCut then [] else [.on .unclosedGroup (here stop r.rest)]

/-- The end of a group whose inside has been read. -/
def closeGroup (r : Reading) : Reading :=
  match r.rest with
  | [] => ⟨r.query.map .group, [], insideErrors stop r ++ unclosedErrors stop r⟩
  | t :: rest =>
    if t.kind = .closeParen then ⟨r.query.map .group, rest, insideErrors stop r⟩
    else ⟨r.query.map .group, t :: rest, insideErrors stop r ++ unclosedErrors stop r⟩

/-- What follows an opening parenthesis, when `inside` reads a query in it. -/
def groupBody (inside : Reader) (ts : List Token) : Reading :=
  match ts with
  | [] => closeGroup stop (inside.read [])
  | t :: rest =>
    if t.kind = .closeParen then ⟨none, rest, [.on .emptyGroup t]⟩ else closeGroup stop (inside.read (t :: rest))

theorem closeGroup_rest (r : Reading) : (closeGroup stop r).rest <:+ r.rest := by
  unfold closeGroup
  split
  · next h => simp [h]
  · next t rest h =>
    rw [h]
    split
    · exact List.suffix_cons ..
    · exact List.suffix_rfl

theorem groupBody_rest (inside : Reader) (ts : List Token) : (groupBody stop inside ts).rest <:+ ts := by
  unfold groupBody
  split
  · exact (closeGroup_rest ..).trans (inside.suffix _)
  · split
    · exact List.suffix_cons ..
    · exact (closeGroup_rest ..).trans (inside.suffix _)

/-- The reader behind the parenthesis `t` when no more may be opened. -/
def refusedGroup (t : Token) : Reader where
  read _ := ⟨none, [], [.on .nestedTooDeeply t]⟩
  suffix _ := List.nil_suffix

/-- The reader of queries in which `room` more parentheses may be open at once. -/
def expression : Nat → Reader
  | 0 => ⟨disjunction stop refusedGroup, disjunction_rest stop refusedGroup⟩
  | room + 1 =>
    let group : Token → Reader := fun _ => ⟨groupBody stop (expression room), groupBody_rest stop (expression room)⟩
    ⟨disjunction stop group, disjunction_rest stop group⟩

end Groups

end KanjiSearch.Parser

namespace KanjiSearch

/-! ## Whole queries -/

/-- The query that was read and the errors in it. An empty query has neither. -/
structure Parse where
  query : Option Query
  errors : List SyntaxError
  deriving DecidableEq

/-- Whether a query was empty. -/
def Parse.isEmpty (p : Parse) : Bool :=
  p.query.isNone && p.errors.isEmpty

/-- What a whole query comes to, when `r` was read: a token that is left is a fault, unless others were reported. -/
def Parse.ofReading (stop : Token) (r : Parser.Reading) : Parse :=
  let next := Parser.here stop r.rest
  if next.kind ≠ .eof ∧ r.errors = [] then ⟨r.query, [.on (.unexpected next) next]⟩ else ⟨r.query, r.errors⟩

/-- The token that stands in for the end where there is none: it is at the place of the last token. -/
def standIn (ts : List Token) : Token :=
  ⟨.eof, "", (ts.getLast?.map (·.position)).getD 0⟩

/-- The query that a row of tokens spells. An end token is never taken, so a query ends at the first one. -/
def parseTokens (ts : List Token) : Parse :=
  let stop := standIn ts
  if (Parser.here stop ts).kind = .eof then ⟨none, []⟩
  else .ofReading stop ((Parser.expression stop Parser.maxNesting).read ts)

/-- The query that a text spells. -/
def parseQuery (query : String) : Parse :=
  parseTokens (tokenize query)

end KanjiSearch
