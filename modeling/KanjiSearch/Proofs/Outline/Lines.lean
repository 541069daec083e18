import KanjiSearch.Proofs.Lists
import KanjiSearch.Proofs.Outline.Labels
import KanjiSearch.Proofs.Text.Pieces

/-!
# Lines of an outline

An outline has one line for each node of its query, in the order in which a walk from the top meets the nodes, and the
line is indented by the depth of the node. So a query can be read back from its outline.

* `addressed`: the nodes with their addresses, where an address says which operand to go to, level by level. These are
  all nodes (`mem_addressed`), in the order of their addresses (`pairwise_addressed`).
* `lines_outline`: the lines of an outline.
* `outline_injective`: different queries have different outlines.
* `outline_determines`: all of this. A label never begins with a space and no line has a further line break, whatever
  texts the query looks for.
-/

namespace KanjiSearch.Query

variable {a b q node : Query} {address : List Nat} {nodes : List (List Nat × Query)}

/-! ## Nodes and their addresses -/

/-- The node at an address. -/
def at? : List Nat → Query → Option Query
  | [], q => some q
  | n :: address, q => q.operands[n]?.bind (at? address)

/-- The nodes of the operand `n` with their addresses in the query that it is an operand of. -/
def underOperand (n : Nat) (nodes : List (List Nat × Query)) : List (List Nat × Query) :=
  nodes.map fun node => (n :: node.1, node.2)

/-- The nodes of a query with their addresses, each in front of the nodes below it. -/
def addressed : Query → List (List Nat × Query)
  | q@(and left right) => ([], q) :: (underOperand 0 left.addressed ++ underOperand 1 right.addressed)
  | q@(or left right) => ([], q) :: (underOperand 0 left.addressed ++ underOperand 1 right.addressed)
  | q@(not inner) => ([], q) :: underOperand 0 inner.addressed
  | q@(group inner) => ([], q) :: underOperand 0 inner.addressed
  | q => [([], q)]

theorem mem_underOperand {n : Nat} :
    (address, node) ∈ underOperand n nodes ↔ ∃ rest, address = n :: rest ∧ (rest, node) ∈ nodes := by
  simp only [underOperand, List.mem_map, Prod.mk.injEq, Prod.exists]
  constructor
  · rintro ⟨rest, _, hmem, rfl, rfl⟩
    exact ⟨rest, rfl, hmem⟩
  · rintro ⟨rest, rfl, hmem⟩
    exact ⟨rest, node, hmem, rfl, rfl⟩

/-- The addressed nodes of a query are its nodes. -/
theorem mem_addressed : (address, node) ∈ q.addressed ↔ at? address q = some node := by
  induction q generalizing address with
  | and left right ihl ihr | or left right ihl ihr =>
    rcases address with _ | ⟨_ | _ | n, rest⟩
    · simp [addressed, mem_underOperand, at?, eq_comm (a := node)]
    · simp [addressed, mem_underOperand, at?, operands, ihl]
    · simp [addressed, mem_underOperand, at?, operands, ihr]
    · simp [addressed, mem_underOperand, at?, operands]
  | not inner ih | group inner ih =>
    rcases address with _ | ⟨_ | n, rest⟩
    · simp [addressed, mem_underOperand, at?, eq_comm (a := node)]
    · simp [addressed, mem_underOperand, at?, operands, ih]
    · simp [addressed, mem_underOperand, at?, operands]
  | compare | range | search => cases address <;> simp [addressed, at?, operands, eq_comm (a := node)]

theorem pairwise_underOperand (n : Nat) (h : nodes.Pairwise fun node later => node.1 < later.1) :
    (underOperand n nodes).Pairwise fun node later => node.1 < later.1 :=
  List.pairwise_map.mpr (h.imp fun hlt => List.Lex.cons hlt)

/-- The nodes stand in the order of their addresses, each in front of the nodes below it. -/
theorem pairwise_addressed (q : Query) : q.addressed.Pairwise fun node later => node.1 < later.1 := by
  have htop : ∀ n address, ([] : List Nat) < n :: address := fun _ _ => List.Lex.nil
  induction q with
  | and left right ihl ihr | or left right ihl ihr =>
    refine List.pairwise_cons.mpr ⟨?_, List.pairwise_append.mpr
      ⟨pairwise_underOperand 0 ihl, pairwise_underOperand 1 ihr, ?_⟩⟩
    · rintro ⟨address, node⟩ hmem
      rcases List.mem_append.mp hmem with hmem | hmem <;> obtain ⟨rest, rfl, -⟩ := mem_underOperand.mp hmem
      · exact htop 0 rest
      · exact htop 1 rest
    · rintro ⟨address, node⟩ hleft ⟨address', node'⟩ hright
      obtain ⟨rest, rfl, -⟩ := mem_underOperand.mp hleft
      obtain ⟨rest', rfl, -⟩ := mem_underOperand.mp hright
      exact List.Lex.rel Nat.zero_lt_one
  | not inner ih | group inner ih =>
    refine List.pairwise_cons.mpr ⟨?_, pairwise_underOperand 0 ih⟩
    rintro ⟨address, node⟩ hmem
    obtain ⟨rest, rfl, -⟩ := mem_underOperand.mp hmem
    exact htop 0 rest
  | compare | range | search => exact List.pairwise_singleton _ _

/-! ## One line for each node -/

theorem map_underOperand (level n : Nat) :
    (underOperand n nodes).map (fun node => (level + node.1.length, node.2.outlineLabel)) =
      nodes.map fun node => (level + 1 + node.1.length, node.2.outlineLabel) := by
  rw [underOperand, List.map_map]
  refine List.map_congr_left fun node _ => ?_
  simp only [Function.comp, List.length_cons, Prod.mk.injEq, and_true]
  omega

theorem outlineLines_eq (level : Nat) (q : Query) : outlineLines level q =
    q.addressed.map fun node => (level + node.1.length, node.2.outlineLabel) := by
  induction q generalizing level with
  | and left right ihl ihr | or left right ihl ihr =>
    rw [outlineLines, ihl, ihr, addressed, List.map_cons, List.map_append, map_underOperand, map_underOperand]
    rfl
  | not inner ih | group inner ih =>
    rw [outlineLines, ih, addressed, List.map_cons, map_underOperand]
    rfl
  | compare | range | search => rfl

/-- The lines are those of nodes. -/
theorem exists_of_mem_outlineLines {level : Nat} {line : Nat × List Char} (h : line ∈ outlineLines level q) :
    ∃ (depth : Nat) (node : Query), line = (depth, node.outlineLabel) := by
  rw [outlineLines_eq] at h
  obtain ⟨⟨address, node⟩, -, rfl⟩ := List.mem_map.mp h
  exact ⟨_, node, rfl⟩

theorem visible_outlineLine {line : Nat × List Char} (h : Text.Visible line.2) : Text.Visible (outlineLine line) := by
  have hspace : Text.isHidden ' ' = false := Text.isHidden_of_ascii (by decide) (by decide)
  rw [outlineLine, Text.visible_append]
  refine ⟨fun c hc => ?_, h⟩
  rw [List.eq_of_mem_replicate hc, hspace]

/-- Every line is visible, so the outline breaks nowhere but behind its lines. -/
theorem visible_of_mem_lines {row : List Char} (h : row ∈ (outlineLines 0 q).map outlineLine) : Text.Visible row := by
  obtain ⟨line, hline, rfl⟩ := List.mem_map.mp h
  obtain ⟨depth, node, rfl⟩ := exists_of_mem_outlineLines hline
  exact visible_outlineLine (visible_outlineLabel node)

/-- **The lines of an outline** are those that were written. -/
theorem lines_outline (q : Query) : Text.lines q.outline = (outlineLines 0 q).map outlineLine := by
  have hrows : q.outline = ((outlineLines 0 q).map outlineLine).flatMap (· ++ ['\n']) := by
    rw [outline, List.flatMap_map]
  rw [hrows]
  exact Text.lines_flatMap fun row hrow => (visible_of_mem_lines hrow).not_mem List.mem_cons_self

/-! ## Reading an outline back -/

/-- The level and the label of a line. -/
def readLine (row : List Char) : Nat × List Char :=
  ((row.takeWhile (· = ' ')).length / 2, row.dropWhile (· = ' '))

theorem readLine_outlineLine (level : Nat) (q : Query) :
    readLine (outlineLine (level, q.outlineLabel)) = (level, q.outlineLabel) := by
  have hindent : ∀ c ∈ List.replicate (2 * level) ' ', decide (c = ' ') = true := fun c hc =>
    decide_eq_true (List.eq_of_mem_replicate hc)
  have hlabel : ∀ c, q.outlineLabel.head? = some c → decide (c = ' ') = false := fun c hc =>
    decide_eq_false fun h => q.head?_outlineLabel_ne_space (h ▸ hc)
  rw [readLine, outlineLine, takeWhile_append_eq hindent hlabel, dropWhile_append_eq hindent hlabel,
    List.length_replicate, Nat.mul_div_cancel_left level (by decide)]

/-- The levels and labels are read back from the lines. -/
theorem map_readLine (q : Query) : (Text.lines q.outline).map readLine = outlineLines 0 q := by
  rw [lines_outline, List.map_map]
  conv_rhs => rw [← List.map_id (outlineLines 0 q)]
  refine List.map_congr_left fun line hline => ?_
  obtain ⟨depth, node, rfl⟩ := exists_of_mem_outlineLines hline
  exact readLine_outlineLine depth node

theorem outlineLines_eq_cons (level : Nat) (q : Query) :
    outlineLines level q = (level, q.outlineLabel) :: q.operands.flatMap (outlineLines (level + 1)) := by
  cases q <;> simp [outlineLines, operands]

/-- Lines behind which every text is told apart belong to one row of queries. -/
theorem flatMap_outlineLines_inj {level : Nat} {qs qs' : List Query} {rest rest' : List (Nat × List Char)}
    (hread : ∀ q ∈ qs, ∀ b rest rest', outlineLines level q ++ rest = outlineLines level b ++ rest' →
      q = b ∧ rest = rest')
    (hlength : qs.length = qs'.length)
    (h : qs.flatMap (outlineLines level) ++ rest = qs'.flatMap (outlineLines level) ++ rest') :
    qs = qs' ∧ rest = rest' := by
  induction qs generalizing qs' with
  | nil =>
    obtain rfl := List.eq_nil_of_length_eq_zero hlength.symm
    exact ⟨rfl, h⟩
  | cons q qs ih =>
    cases qs' with
    | nil => cases hlength
    | cons b qs' =>
      obtain ⟨hq, hqs⟩ := List.forall_mem_cons.mp hread
      rw [List.flatMap_cons, List.flatMap_cons, List.append_assoc, List.append_assoc] at h
      obtain ⟨rfl, hmore⟩ := hq _ _ _ h
      obtain ⟨rfl, rfl⟩ := ih hqs (Nat.succ.inj hlength) hmore
      exact ⟨rfl, rfl⟩

/-- **The lines of a query tell which query they are of**, and where they end. -/
theorem outlineLines_append_inj (level : Nat) (rest rest' : List (Nat × List Char))
    (h : outlineLines level a ++ rest = outlineLines level b ++ rest') : a = b ∧ rest = rest' := by
  induction a using induction_operands generalizing b level rest rest' with
  | step a ih =>
    rw [outlineLines_eq_cons level a, outlineLines_eq_cons level b] at h
    obtain ⟨hfirst, hmore⟩ := List.cons.inj h
    have hsame := sameNode_of_label (Prod.mk.inj hfirst).2
    obtain ⟨hoperands, hrest⟩ := flatMap_outlineLines_inj
      (fun p hp b rest rest' h => ih p hp (level + 1) rest rest' h) hsame.length_operands hmore
    exact ⟨hsame.eq hoperands, hrest⟩

/-- **Different queries have different outlines.** -/
theorem outline_injective : Function.Injective outline := by
  intro a b h
  have hlines : outlineLines 0 a = outlineLines 0 b := by rw [← map_readLine, h, map_readLine]
  exact (outlineLines_append_inj 0 [] [] (by rw [hlines])).1

/-- **An outline determines its query**: each node has one line, in the order of the addresses. -/
theorem outline_determines :
    (∀ q : Query, ∃ nodes : List (List Nat × Query),
      nodes.Pairwise (fun node later => node.1 < later.1) ∧
      (∀ address node, (address, node) ∈ nodes ↔ at? address q = some node) ∧
      Text.lines q.outline =
        nodes.map (fun node => List.replicate (2 * node.1.length) ' ' ++ node.2.outlineLabel) ∧
      (∀ node ∈ nodes, node.2.outlineLabel.head? ≠ some ' ') ∧
      ∀ line ∈ Text.lines q.outline, ∀ c ∈ Text.lineBreaks, c ∉ line) ∧
    ∀ q q' : Query, q.outline = q'.outline → q = q' := by
  refine ⟨fun q => ⟨q.addressed, q.pairwise_addressed, fun _ _ => mem_addressed, ?_,
    fun node _ => node.2.head?_outlineLabel_ne_space, fun line hline c hc => ?_⟩, fun q q' h => outline_injective h⟩
  · rw [lines_outline, outlineLines_eq, List.map_map]
    refine List.map_congr_left fun node _ => ?_
    rw [Function.comp, outlineLine, Nat.zero_add]
  · rw [lines_outline] at hline
    exact (visible_of_mem_lines hline).not_mem hc

/-- A line break in a searched text stays visible in the outline. -/
theorem outline_determines_line_break :
    (Query.search .usual "a\nb" true).outline ≠ (Query.search .usual "anb" true).outline :=
  fun h => absurd (outline_determines.2 _ _ h) (by decide)

end KanjiSearch.Query
