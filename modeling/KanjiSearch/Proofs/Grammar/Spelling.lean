import KanjiSearch.Proofs.Text.Digits
import KanjiSearch.Query.Parser

/-!
# The grammar of queries

`Spells layer ts q` says that the tokens `ts` spell the query `q` at one layer of the grammar: a disjunction is a row of
conjunctions, a conjunction a row of operands, an operand a primary with or without a negation, and a primary a group, a
text or a field with its value (`FieldTest`). Rows lean to the left. Only the kinds and the values of tokens count, and
groups may nest without a bound; `Query.nesting` says how deep they do.

* `Spells.start`: a spelling starts with a token that starts operands.
* `Spells.kind_ne`: it holds no error and no end.
* `Spells.layer_le`, `Spells.weaken`: it lies between the layer of its query (`Query.layer`) and the weakest one.
* `Spells.map`: other tokens of the same kinds and values spell the same query.
-/

namespace KanjiSearch

/-! ## The shape of queries -/

/-- The layers of the grammar, from strong to weak binding. -/
inductive Parser.Layer where
  | primary
  | operand
  | conjunction
  | disjunction
  deriving DecidableEq

/-- The number of a layer. -/
def Parser.Layer.rank : Layer → Nat
  | primary => 0
  | operand => 1
  | conjunction => 2
  | disjunction => 3

instance : LE Parser.Layer := ⟨fun a b => a.rank ≤ b.rank⟩

instance (a b : Parser.Layer) : Decidable (a ≤ b) := inferInstanceAs (Decidable (a.rank ≤ b.rank))

/-- The layer at which a query is built. -/
def Query.layer : Query → Parser.Layer
  | or .. => .disjunction
  | and .. => .conjunction
  | not .. => .operand
  | group .. | compare .. | range .. | search .. => .primary

/-- The greatest number of groups on a path from the root of a query. -/
def Query.nesting : Query → Nat
  | and left right => max left.nesting right.nesting
  | or left right => max left.nesting right.nesting
  | not inner => inner.nesting
  | group inner => inner.nesting + 1
  | compare .. | range .. | search .. => 0

namespace Parser

/-! ## The grammar -/

/-- The tokens that may follow the field `f`, and the test that they ask for. -/
inductive FieldTest (f : Field) : List Token → Query → Prop
  | text {t} : t.kind = .text → FieldTest f [t] (.search (.field f) t.value false)
  | quoted {t} : t.kind = .quoted → FieldTest f [t] (.search (.field f) t.value true)
  | number {t n} : f = .frequency → t.kind = .number → Text.Denotes t.value.toList n →
      FieldTest f [t] (.compare .equal f n)
  | comparison {o t op n} : f = .frequency → comparison? o.kind = some op → t.kind = .number →
      Text.Denotes t.value.toList n → FieldTest f [o, t] (.compare op f n)
  | range {t low high min max} : f = .frequency → t.kind = .range → t.value.toList = low ++ '-' :: high →
      Text.Denotes low min → Text.Denotes high max → FieldTest f [t] (.range f min max)
  | level {o t op rank} : f = .jlptLevel → comparison? o.kind = some op → t.kind = .text →
      jlptRank? t.value = some rank → FieldTest f [o, t] (.compare op f rank)

/-- **The grammar**: the tokens that spell a query at a layer. -/
inductive Spells : Layer → List Token → Query → Prop
  | text {t} : t.kind = .text → Spells .primary [t] (.search .usual t.value false)
  | quoted {t} : t.kind = .quoted → Spells .primary [t] (.search .usual t.value true)
  | field {t f ts q} : t.kind = .field f → FieldTest f ts q → Spells .primary (t :: ts) q
  | group {o ts c q} : o.kind = .openParen → Spells .disjunction ts q → c.kind = .closeParen →
      Spells .primary (o :: (ts ++ [c])) (.group q)
  | primary {ts q} : Spells .primary ts q → Spells .operand ts q
  | not {o ts q} : o.kind = .not → Spells .primary ts q → Spells .operand (o :: ts) (.not q)
  | operand {ts q} : Spells .operand ts q → Spells .conjunction ts q
  | and {ts o us left right} : Spells .conjunction ts left → o.kind = .and → Spells .operand us right →
      Spells .conjunction (ts ++ o :: us) (.and left right)
  /-- two operands side by side -/
  | adjacent {ts us left right} : Spells .conjunction ts left → Spells .operand us right →
      Spells .conjunction (ts ++ us) (.and left right)
  | conjunction {ts q} : Spells .conjunction ts q → Spells .disjunction ts q
  | or {ts o us left right} : Spells .disjunction ts left → o.kind = .or → Spells .conjunction us right →
      Spells .disjunction (ts ++ o :: us) (.or left right)

/-! ## The tokens of a spelling -/

theorem comparison?_eq_some {kind : TokenKind} {op : Comparison} (h : comparison? kind = some op) :
    kind = .less ∨ kind = .greater ∨ kind = .atMost ∨ kind = .atLeast := by
  cases kind <;> simp_all [comparison?]

theorem FieldTest.kind_ne {f : Field} {ts : List Token} {q : Query} (h : FieldTest f ts q) :
    ∀ t ∈ ts, t.kind ≠ .eof ∧ t.kind ≠ .error := by
  have hop : ∀ {o : Token} {op : Comparison}, comparison? o.kind = some op → o.kind ≠ .eof ∧ o.kind ≠ .error := by
    intro o op ho
    rcases comparison?_eq_some ho with h | h | h | h <;> simp [h]
  cases h with
  | text ht | quoted ht | number _ ht | range _ ht => simp [ht]
  | comparison _ ho ht | level _ ho ht => simp [ht, hop ho]

theorem FieldTest.nesting {f : Field} {ts : List Token} {q : Query} (h : FieldTest f ts q) : q.nesting = 0 := by
  cases h <;> rfl

theorem FieldTest.layer {f : Field} {ts : List Token} {q : Query} (h : FieldTest f ts q) : q.layer = .primary := by
  cases h <;> rfl

/-- A spelling starts with a token that starts operands. -/
theorem Spells.start {layer : Layer} {ts : List Token} {q : Query} (h : Spells layer ts q) :
    ∃ t us, ts = t :: us ∧ startsOperand t.kind = true := by
  have hmore : ∀ {ts : List Token} (us : List Token), (∃ t vs, ts = t :: vs ∧ startsOperand t.kind = true) →
      ∃ t vs, ts ++ us = t :: vs ∧ startsOperand t.kind = true := by
    rintro _ us ⟨t, vs, rfl, ht⟩
    exact ⟨t, vs ++ us, rfl, ht⟩
  induction h with
  | text ht | quoted ht | field ht _ | not ht _ _ | group ht _ _ _ => exact ⟨_, _, rfl, by rw [ht]; rfl⟩
  | primary _ ih | operand _ ih | conjunction _ ih => exact ih
  | and _ _ _ ih _ | or _ _ _ ih _ | adjacent _ _ ih _ => exact hmore _ ih

/-- A primary does not start with a negation. -/
theorem Spells.primary_start {ts : List Token} {q : Query} (h : Spells .primary ts q) :
    ∃ t us, ts = t :: us ∧ t.kind ≠ .not := by
  cases h with
  | text ht | quoted ht | field ht _ | group ht _ _ => exact ⟨_, _, rfl, by simp [ht]⟩

/-- A spelling holds neither an error nor an end. -/
theorem Spells.kind_ne {layer : Layer} {ts : List Token} {q : Query} (h : Spells layer ts q) :
    ∀ t ∈ ts, t.kind ≠ .eof ∧ t.kind ≠ .error := by
  induction h with
  | text ht | quoted ht => simp [ht]
  | field ht hv => exact List.forall_mem_cons.mpr ⟨by simp [ht], hv.kind_ne⟩
  | group ho _ hc ih =>
    exact List.forall_mem_cons.mpr ⟨by simp [ho], List.forall_mem_append.mpr ⟨ih, by simp [hc]⟩⟩
  | primary _ ih | operand _ ih | conjunction _ ih => exact ih
  | not ho _ ih => exact List.forall_mem_cons.mpr ⟨by simp [ho], ih⟩
  | and _ ho _ ihl ihr | or _ ho _ ihl ihr =>
    exact List.forall_mem_append.mpr ⟨ihl, List.forall_mem_cons.mpr ⟨by simp [ho], ihr⟩⟩
  | adjacent _ _ ihl ihr => exact List.forall_mem_append.mpr ⟨ihl, ihr⟩

/-! ## Layers -/

theorem Layer.le_refl (a : Layer) : a ≤ a :=
  Nat.le_refl a.rank

theorem Layer.le_trans {a b c : Layer} (hab : a ≤ b) (hbc : b ≤ c) : a ≤ c :=
  Nat.le_trans hab hbc

theorem Layer.le_disjunction (a : Layer) : a ≤ .disjunction := by
  cases a <;> decide

/-- A query is spelt at no stronger layer than the one at which it is built. -/
theorem Spells.layer_le {layer : Layer} {ts : List Token} {q : Query} (h : Spells layer ts q) : q.layer ≤ layer := by
  induction h with
  | text | quoted | group | not | and | adjacent | or => exact Layer.le_refl _
  | field _ hv => rw [hv.layer]; exact Layer.le_refl _
  | primary _ ih | operand _ ih | conjunction _ ih => exact Layer.le_trans ih (by decide)

/-- What is spelt at a layer is spelt at all weaker ones. -/
theorem Spells.weaken {layer weaker : Layer} {ts : List Token} {q : Query} (h : Spells layer ts q)
    (hle : layer ≤ weaker) : Spells weaker ts q := by
  cases weaker with
  | primary => cases layer <;> first | exact h | exact absurd hle (by decide)
  | operand => cases layer <;> first | exact h | exact .primary h | exact absurd hle (by decide)
  | conjunction =>
    cases layer <;> first | exact h | exact .operand h | exact .operand (.primary h) | exact absurd hle (by decide)
  | disjunction =>
    cases layer with
    | primary => exact .conjunction (.operand (.primary h))
    | operand => exact .conjunction (.operand h)
    | conjunction => exact .conjunction h
    | disjunction => exact h

/-! ## Tokens elsewhere -/

section Map

variable {g : Token → Token} (hkind : ∀ t, (g t).kind = t.kind) (hvalue : ∀ t, (g t).value = t.value)
include hkind hvalue

theorem FieldTest.map {f : Field} {ts : List Token} {q : Query} (h : FieldTest f ts q) : FieldTest f (ts.map g) q := by
  cases h with
  | @text t ht => exact hvalue t ▸ .text (by rw [hkind, ht])
  | @quoted t ht => exact hvalue t ▸ .quoted (by rw [hkind, ht])
  | number hf ht hn => exact .number hf (by rw [hkind, ht]) (by rwa [hvalue])
  | comparison hf ho ht hn => exact .comparison hf (by rw [hkind, ho]) (by rw [hkind, ht]) (by rwa [hvalue])
  | range hf ht hs hl hh => exact .range hf (by rw [hkind, ht]) (by rw [hvalue, hs]) hl hh
  | level hf ho ht hr => exact .level hf (by rw [hkind, ho]) (by rw [hkind, ht]) (by rw [hvalue, hr])

/-- The grammar looks only at the kinds and the values of tokens. -/
theorem Spells.map {layer : Layer} {ts : List Token} {q : Query} (h : Spells layer ts q) :
    Spells layer (ts.map g) q := by
  induction h with
  | @text t ht => exact hvalue t ▸ .text (by rw [hkind, ht])
  | @quoted t ht => exact hvalue t ▸ .quoted (by rw [hkind, ht])
  | field ht hv => exact .field (by rw [hkind, ht]) (hv.map hkind hvalue)
  | group ho _ hc ih =>
    rw [List.map_cons, List.map_append]
    exact .group (by rw [hkind, ho]) ih (by rw [hkind, hc])
  | primary _ ih => exact .primary ih
  | not ho _ ih => exact .not (by rw [hkind, ho]) ih
  | operand _ ih => exact .operand ih
  | and _ ho _ ihl ihr =>
    rw [List.map_append, List.map_cons]
    exact .and ihl (by rw [hkind, ho]) ihr
  | adjacent _ _ ihl ihr =>
    rw [List.map_append]
    exact .adjacent ihl ihr
  | conjunction _ ih => exact .conjunction ih
  | or _ ho _ ihl ihr =>
    rw [List.map_append, List.map_cons]
    exact .or ihl (by rw [hkind, ho]) ihr

end Map

end Parser

end KanjiSearch
