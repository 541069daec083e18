import KanjiSearch.Proofs.Text.Escaped
import KanjiSearch.Query.Outline

/-!
# Labels of nodes

The line of a node in an outline tells which node it is. Its first letter gives the form of the node, and the parts of a
test are cut apart at marks that do not stand in them.

* `sameNode_of_label`: nodes with the same label are the same, up to their operands.
* `visible_outlineLabel`: labels are visible, whatever text is searched, so they never break into lines.
-/

namespace KanjiSearch

/-! ## Names of fields, scopes and comparisons -/

theorem Field.ofName?_name (f : Field) : Field.ofName? f.name = some f := by
  cases f <;> rfl

theorem Field.name_injective {f g : Field} (h : f.name = g.name) : f = g := by
  rw [← Option.some.injEq, ← ofName?_name, h, ofName?_name]

/-- No field has the name of the usual scope. -/
theorem Field.ofName?_usual : Field.ofName? Scope.usual.name = none := rfl

theorem Scope.name_injective {scope scope' : Scope} (h : scope.name = scope'.name) : scope = scope' := by
  cases scope with
  | usual =>
    cases scope' with
    | usual => rfl
    | field f => cases (Field.ofName?_usual.symm.trans (congrArg Field.ofName? h)).trans f.ofName?_name
  | field f =>
    cases scope' with
    | usual => cases (Field.ofName?_usual.symm.trans (congrArg Field.ofName? h.symm)).trans f.ofName?_name
    | field g => rw [Field.name_injective h]

theorem Comparison.symbol_injective {op op' : Comparison} (h : op.symbol = op'.symbol) : op = op' := by
  cases op <;> cases op' <;> first | rfl | exact absurd h (by decide)

theorem Scope.space_not_mem_name (scope : Scope) : ' ' ∉ scope.name.toList := by
  cases scope with
  | usual => decide
  | field f => cases f <;> decide

theorem Field.space_not_mem_name (f : Field) : ' ' ∉ f.name.toList :=
  (Scope.field f).space_not_mem_name

theorem Comparison.space_not_mem_symbol (op : Comparison) : ' ' ∉ op.symbol.toList := by
  cases op <;> decide

theorem Scope.visible_name (scope : Scope) : Text.Visible scope.name.toList := by
  cases scope with
  | usual => exact Text.visible_of_ascii (by decide)
  | field f => cases f <;> exact Text.visible_of_ascii (by decide)

theorem Field.visible_name (f : Field) : Text.Visible f.name.toList :=
  (Scope.field f).visible_name

theorem Comparison.visible_symbol (op : Comparison) : Text.Visible op.symbol.toList := by
  cases op <;> exact Text.visible_of_ascii (by decide)

namespace Query

variable {a b : Query}

/-! ## Nodes up to their operands -/

/-- The queries below a node, from left to right. -/
def operands : Query → List Query
  | and left right | or left right => [left, right]
  | not inner | group inner => [inner]
  | compare .. | range .. | search .. => []

/-- The topmost nodes of two queries are the same, whatever queries are below them. -/
inductive SameNode : Query → Query → Prop
  | and (left right left' right' : Query) : SameNode (and left right) (and left' right')
  | or (left right left' right' : Query) : SameNode (or left right) (or left' right')
  | not (inner inner' : Query) : SameNode (not inner) (not inner')
  | group (inner inner' : Query) : SameNode (group inner) (group inner')
  | test {q : Query} (h : q.operands = []) : SameNode q q

/-- A property of queries that passes from the operands of each node to the node holds of every query. -/
theorem induction_operands {motive : Query → Prop} (step : ∀ q, (∀ p ∈ q.operands, motive p) → motive q) (q : Query) :
    motive q := by
  induction q with
  | and left right ihl ihr | or left right ihl ihr => exact step _ (by simp [operands, ihl, ihr])
  | not inner ih | group inner ih => exact step _ (by simp [operands, ih])
  | compare | range | search => exact step _ (by simp [operands])

theorem SameNode.length_operands (h : SameNode a b) : a.operands.length = b.operands.length := by
  cases h <;> rfl

/-- A node is determined by its operands and what it is up to them. -/
theorem SameNode.eq (h : SameNode a b) (hoperands : a.operands = b.operands) : a = b := by
  cases h <;> simp_all [operands]

/-! ## Labels -/

/-- The first letter of a label. -/
def initial : Query → Char
  | and .. => 'A'
  | or .. => 'O'
  | not .. => 'N'
  | group .. => 'G'
  | compare .. => 'C'
  | range .. => 'R'
  | search .. => 'F'

theorem head?_outlineLabel (q : Query) : q.outlineLabel.head? = some q.initial := by
  cases q <;> rfl

theorem initial_of_label (h : a.outlineLabel = b.outlineLabel) : a.initial = b.initial := by
  rw [← Option.some.injEq, ← head?_outlineLabel, h, head?_outlineLabel]

theorem head?_outlineLabel_ne_space (q : Query) : q.outlineLabel.head? ≠ some ' ' := by
  rw [head?_outlineLabel]
  cases q <;> simp [initial]

theorem outlineLabel_compare (op : Comparison) (f : Field) (n : UInt64) : (compare op f n).outlineLabel =
    "Comparison(".toList ++ (f.name.toList ++ ' ' :: (op.symbol.toList ++ ' ' :: (Text.decimal n.toNat ++ [')']))) := by
  unfold outlineLabel
  simp only [List.append_assoc, List.cons_append, List.nil_append]

theorem outlineLabel_range (f : Field) (min max : UInt64) : (range f min max).outlineLabel =
    "Range(".toList ++ (f.name.toList ++ ' ' :: (Text.decimal min.toNat ++ '.' :: (".=".toList ++
      (Text.decimal max.toNat ++ [')'])))) := by
  have hdots : "..=".toList = '.' :: ".=".toList := rfl
  unfold outlineLabel
  simp only [List.append_assoc, hdots, List.cons_append, List.nil_append]

theorem outlineLabel_search (scope : Scope) (value : String) (exact : Bool) : (search scope value exact).outlineLabel =
    "FieldSearch(".toList ++ (scope.name.toList ++ ' ' :: ((if exact then "exact ".toList else "contains ".toList) ++
      (Text.escaped value.toList ++ [')']))) := by
  unfold outlineLabel
  cases exact <;> simp only [List.append_assoc, Bool.false_eq_true, if_true, if_false] <;> rfl

theorem compare_of_label {op op' : Comparison} {f f' : Field} {n n' : UInt64}
    (h : (compare op f n).outlineLabel = (compare op' f' n').outlineLabel) : compare op f n = compare op' f' n' := by
  rw [outlineLabel_compare, outlineLabel_compare] at h
  obtain ⟨hname, h⟩ := Text.append_mark_inj f.space_not_mem_name f'.space_not_mem_name (List.append_cancel_left h)
  obtain ⟨hsymbol, h⟩ := Text.append_mark_inj op.space_not_mem_symbol op'.space_not_mem_symbol h
  have hvalue := Text.decimal_injective (List.append_cancel_right h)
  rw [Field.name_injective (String.toList_injective hname),
    Comparison.symbol_injective (String.toList_injective hsymbol), UInt64.toNat_inj.mp hvalue]

theorem range_of_label {f f' : Field} {min max min' max' : UInt64}
    (h : (range f min max).outlineLabel = (range f' min' max').outlineLabel) :
    range f min max = range f' min' max' := by
  have hdecimal : ∀ n, '.' ∉ Text.decimal n := fun n => Text.not_mem_of_isNumber (Text.isNumber_decimal n) (by decide)
  rw [outlineLabel_range, outlineLabel_range] at h
  obtain ⟨hname, h⟩ := Text.append_mark_inj f.space_not_mem_name f'.space_not_mem_name (List.append_cancel_left h)
  obtain ⟨hmin, h⟩ := Text.append_mark_inj (hdecimal _) (hdecimal _) h
  have hmax := List.append_cancel_right (List.append_cancel_left h)
  rw [Field.name_injective (String.toList_injective hname), UInt64.toNat_inj.mp (Text.decimal_injective hmin),
    UInt64.toNat_inj.mp (Text.decimal_injective hmax)]

theorem search_of_label {scope scope' : Scope} {value value' : String} {exact exact' : Bool}
    (h : (search scope value exact).outlineLabel = (search scope' value' exact').outlineLabel) :
    search scope value exact = search scope' value' exact' := by
  rw [outlineLabel_search, outlineLabel_search] at h
  obtain ⟨hname, h⟩ :=
    Text.append_mark_inj scope.space_not_mem_name scope'.space_not_mem_name (List.append_cancel_left h)
  obtain rfl : exact = exact' := by
    have hhead := congrArg List.head? h
    cases exact <;> cases exact' <;> first | rfl | exact absurd hhead (by simp)
  have hvalue := Text.escaped_injective (List.append_cancel_right (List.append_cancel_left h))
  rw [Scope.name_injective (String.toList_injective hname), String.toList_injective hvalue]

/-- **A label tells which node it is of**, up to the operands of the node. -/
theorem sameNode_of_label (h : a.outlineLabel = b.outlineLabel) : SameNode a b := by
  have hinitial := initial_of_label h
  cases a with
  | and => cases b <;> first | exact .and .. | exact absurd hinitial (by simp [initial])
  | or => cases b <;> first | exact .or .. | exact absurd hinitial (by simp [initial])
  | not => cases b <;> first | exact .not .. | exact absurd hinitial (by simp [initial])
  | group => cases b <;> first | exact .group .. | exact absurd hinitial (by simp [initial])
  | compare => cases b <;> first | exact compare_of_label h ▸ .test rfl | exact absurd hinitial (by simp [initial])
  | range => cases b <;> first | exact range_of_label h ▸ .test rfl | exact absurd hinitial (by simp [initial])
  | search => cases b <;> first | exact search_of_label h ▸ .test rfl | exact absurd hinitial (by simp [initial])

/-- **Labels are visible**, whatever text a search looks for. -/
theorem visible_outlineLabel (q : Query) : Text.Visible q.outlineLabel := by
  have hspace : Text.isHidden ' ' = false := Text.isHidden_of_ascii (by decide) (by decide)
  have hdot : Text.isHidden '.' = false := Text.isHidden_of_ascii (by decide) (by decide)
  have hclosing : Text.Visible [')'] := Text.visible_of_ascii (by decide)
  cases q with
  | and => exact Text.visible_of_ascii (by decide : "And".toList.all Text.isAscii = true)
  | or => exact Text.visible_of_ascii (by decide : "Or".toList.all Text.isAscii = true)
  | not => exact Text.visible_of_ascii (by decide : "Not".toList.all Text.isAscii = true)
  | group => exact Text.visible_of_ascii (by decide : "Group".toList.all Text.isAscii = true)
  | compare op f n =>
    have hopening : Text.Visible "Comparison(".toList := Text.visible_of_ascii (by decide)
    rw [outlineLabel_compare]
    simp only [Text.visible_append, Text.visible_cons (c := ' ')]
    exact ⟨hopening, f.visible_name, hspace, op.visible_symbol, hspace, Text.visible_decimal _, hclosing⟩
  | range f min max =>
    have hopening : Text.Visible "Range(".toList := Text.visible_of_ascii (by decide)
    have hdots : Text.Visible ".=".toList := Text.visible_of_ascii (by decide)
    rw [outlineLabel_range]
    simp only [Text.visible_append, Text.visible_cons (c := ' '), Text.visible_cons (c := '.')]
    exact ⟨hopening, f.visible_name, hspace, Text.visible_decimal _, hdot, hdots, Text.visible_decimal _, hclosing⟩
  | search scope value exact =>
    have hopening : Text.Visible "FieldSearch(".toList := Text.visible_of_ascii (by decide)
    have hmode : Text.Visible (if exact then "exact ".toList else "contains ".toList) := by
      cases exact <;> exact Text.visible_of_ascii (by decide)
    rw [outlineLabel_search]
    simp only [Text.visible_append, Text.visible_cons (c := ' ')]
    exact ⟨hopening, scope.visible_name, hspace, hmode, Text.visible_escaped _, hclosing⟩

end Query

end KanjiSearch
