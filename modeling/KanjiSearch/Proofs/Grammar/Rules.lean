import KanjiSearch.Query.Parser

/-!
# The rules one by one

What each rule of reading does with the token in front of it, as equations: an operand that does not start here
(`operand_of_not_starts`), a row that goes on with a sign or an operand (`conjunctsFrom_and_some`,
`conjunctsFrom_operand`, `disjunctsFrom_or_some`) or ends (`conjunctsFrom_of_stops`, `disjunctsFrom_of_ne_or`), and the
reader behind an opening parenthesis (`groupReader`).
-/

namespace KanjiSearch.Parser

variable {stop : Token}

@[simp]
theorem after_nil (r : Reading) : r.after [] = r := rfl

/-! ## Operands and rows -/

section Rules

variable (group : Token → Reader)

/-- No conjunction goes on at the start of `ts`. -/
def Stops (ts : List Token) : Prop :=
  ∀ t, ts.head? = some t → t.kind ≠ .and ∧ startsOperand t.kind = false

theorem stops_nil : Stops [] :=
  fun _ h => by cases h

theorem operand_of_ne_not {ts : List Token} (h : ∀ t, ts.head? = some t → t.kind ≠ .not) :
    operand stop group ts = primary stop group ts := by
  cases ts with
  | nil => rfl
  | cons t ts => simp [operand, h t rfl]

theorem operand_of_not_starts {group : Token → Reader} {t : Token} (ht : startsOperand t.kind = false)
    (ts : List Token) : operand stop group (t :: ts) = ⟨none, t :: ts, []⟩ := by
  cases hk : t.kind <;> simp_all [startsOperand, operand, primary]

theorem disjunction_of_not_starts {group : Token → Reader} {t : Token} (ht : startsOperand t.kind = false)
    (ts : List Token) : disjunction stop group (t :: ts) = ⟨none, t :: ts, []⟩ := by
  simp only [disjunction, conjunction, operand_of_not_starts ht]

@[simp]
theorem conjunctsFrom_nil (left : Query) : conjunctsFrom stop group left [] = ⟨some left, [], []⟩ := by
  rw [conjunctsFrom]

@[simp]
theorem disjunctsFrom_nil (left : Query) : disjunctsFrom stop group left [] = ⟨some left, [], []⟩ := by
  rw [disjunctsFrom]

theorem conjunctsFrom_of_stops {ts : List Token} (h : Stops ts) (left : Query) :
    conjunctsFrom stop group left ts = ⟨some left, ts, []⟩ := by
  cases ts with
  | nil => exact conjunctsFrom_nil group left
  | cons t ts => rw [conjunctsFrom, if_neg (h t rfl).1, dif_neg (by simp [(h t rfl).2])]

section Signs

variable {t : Token} {rest : List Token} {r : Reading}

theorem conjunctsFrom_and_some (ht : t.kind = .and) (hr : operand stop group rest = r) {right : Query}
    (hq : r.query = some right) (left : Query) :
    conjunctsFrom stop group left (t :: rest) = (conjunctsFrom stop group (.and left right) r.rest).after r.errors := by
  rw [conjunctsFrom, if_pos ht]
  simp only [hr, hq]

theorem conjunctsFrom_and_none (ht : t.kind = .and) (hr : operand stop group rest = r) (hq : r.query = none)
    (left : Query) : conjunctsFrom stop group left (t :: rest) =
      ⟨some left, r.rest, r.errors ++ unlessReported stop (.missingOperand .and) r⟩ := by
  rw [conjunctsFrom, if_pos ht]
  simp only [hr, hq]

theorem conjunctsFrom_operand (ht : startsOperand t.kind = true) (hr : operand stop group (t :: rest) = r)
    (left : Query) : conjunctsFrom stop group left (t :: rest) =
      (conjunctsFrom stop group (andMaybe left r.query) r.rest).after r.errors := by
  have hand : t.kind ≠ .and := fun h => by simp [h, startsOperand] at ht
  rw [conjunctsFrom, if_neg hand, dif_pos ht]
  simp only [hr]

theorem disjunctsFrom_or_some (ht : t.kind = .or) (hr : conjunction stop group rest = r) {right : Query}
    (hq : r.query = some right) (left : Query) :
    disjunctsFrom stop group left (t :: rest) = (disjunctsFrom stop group (.or left right) r.rest).after r.errors := by
  rw [disjunctsFrom, if_pos ht]
  simp only [hr, hq]

theorem disjunctsFrom_or_none (ht : t.kind = .or) (hr : conjunction stop group rest = r) (hq : r.query = none)
    (left : Query) : disjunctsFrom stop group left (t :: rest) =
      ⟨some left, r.rest, r.errors ++ unlessReported stop (.missingOperand .or) r⟩ := by
  rw [disjunctsFrom, if_pos ht]
  simp only [hr, hq]

end Signs

theorem disjunctsFrom_of_ne_or {ts : List Token} (h : ∀ t, ts.head? = some t → t.kind ≠ .or) (left : Query) :
    disjunctsFrom stop group left ts = ⟨some left, ts, []⟩ := by
  cases ts with
  | nil => exact disjunctsFrom_nil group left
  | cons t ts => rw [disjunctsFrom, if_neg (h t rfl)]

end Rules

/-! ## Groups -/

/-- The reader of what follows an opening parenthesis, when `inside` reads a query in it. -/
def groupAround (stop : Token) (inside : Reader) : Reader :=
  ⟨groupBody stop inside, groupBody_rest stop inside⟩

/-- What reads behind an opening parenthesis, when `room` parentheses may still be opened before it. -/
def groupReader (stop : Token) : Nat → Token → Reader
  | 0 => refusedGroup
  | room + 1 => fun _ => groupAround stop (expression stop room)

theorem expression_read (room : Nat) :
    (expression stop room).read = disjunction stop (groupReader stop room) := by
  cases room <;> rfl

theorem groupReader_succ (room : Nat) (t : Token) (ts : List Token) :
    (groupReader stop (room + 1) t).read ts = groupBody stop (expression stop room) ts := rfl

/-- A group whose inside starts with an operand. -/
theorem groupBody_of_starts {t : Token} (ht : startsOperand t.kind = true) (room : Nat) (rest : List Token) :
    groupBody stop (expression stop room) (t :: rest) =
      closeGroup stop (disjunction stop (groupReader stop room) (t :: rest)) := by
  have hclose : t.kind ≠ .closeParen := fun h => by simp [h, startsOperand] at ht
  simp only [groupBody, if_neg hclose, expression_read]

end KanjiSearch.Parser
