import KanjiSearch.Proofs.Grammar.Following
import KanjiSearch.Proofs.Lexer.Lexical
import Mathlib.Data.List.Forall2

/-!
# The places of errors

Reading reports each error at the token where it stands, or at one that it has just taken, and it never goes back. So
the errors of a row of tokens stand at some of its tokens, or at its end, in the order of the row (`ErrorsFrom`).

* `Step.errorsFrom`, `Course.errorsFrom`: a step, and so a course, reports its errors before those that follow.
* `parseTokens_errorsFrom`: whole rows of tokens.
* `tokensFrom_positions`: the tokens of a text stand in the order of their positions.
* `errors_in_order`: the errors of a text.
-/

open KanjiSearch.Parser KanjiSearch.Lexer

namespace KanjiSearch

/-- The errors stand at tokens of the row `ts`, one behind another or at the same place, from the index `n` on. -/
inductive ErrorsFrom (ts : List Token) : Nat → List SyntaxError → Prop
  | nil {n} : ErrorsFrom ts n []
  | cons {n i t fault es} : n ≤ i → ts[i]? = some t → ErrorsFrom ts i es → ErrorsFrom ts n (.on fault t :: es)

section Courses

variable {stop : Token} {lossy : Prop} {c d : Cursor} {qs : List Query} {es fs : List SyntaxError} {ts : List Token}
  {n m : Nat}

theorem ErrorsFrom.mono (h : ErrorsFrom ts n es) (hm : m ≤ n) : ErrorsFrom ts m es := by
  cases h with
  | nil => exact .nil
  | cons hi ht h => exact .cons (Nat.le_trans hm hi) ht h

/-- The token where reading stands is at the index that it has reached, where `stop` stands behind the row. -/
theorem getElem?_here {us : List Token} (h : ts.drop n = us ++ [stop]) : ts[n]? = some (here stop us) := by
  rw [← List.head?_drop, h]
  cases us <;> rfl

theorem Parser.Step.errorsFrom (h : Step stop lossy c qs es d) (hn : ts.drop n = c.tokens ++ [stop]) :
    ∃ m, ts.drop m = d.tokens ++ [stop] ∧ ∀ fs, ErrorsFrom ts m fs → ErrorsFrom ts n (es ++ fs) := by
  have hlater : ∀ k fs, ErrorsFrom ts (n + k) fs → ErrorsFrom ts n ([] ++ fs) := fun k fs hfs =>
    hfs.mono (Nat.le_add_right n k)
  cases h with
  | test => exact ⟨_, drop_add_length _ (hn.trans (List.append_assoc ..)), hlater _⟩
  | @connective _ t | @opening _ t | @closing _ t | @drop _ t => exact ⟨_, drop_add_length [t] hn, hlater _⟩
  | @dashless _ p t => exact ⟨_, drop_add_length [p, t] hn, hlater _⟩
  | unclosed | report => exact ⟨n, hn, fun fs hfs => .cons (Nat.le_refl n) (getElem?_here hn) hfs⟩

theorem Parser.Course.errorsFrom (h : Course stop lossy c qs es d) (hn : ts.drop n = c.tokens ++ [stop]) :
    ∃ m, ts.drop m = d.tokens ++ [stop] ∧ ∀ fs, ErrorsFrom ts m fs → ErrorsFrom ts n (es ++ fs) := by
  induction h generalizing n with
  | done => exact ⟨n, hn, fun fs hfs => hfs⟩
  | step hs _ ih =>
    obtain ⟨m, hm, hfirst⟩ := hs.errorsFrom hn
    obtain ⟨k, hk, hmore⟩ := ih hm
    refine ⟨k, hk, fun fs hfs => ?_⟩
    rw [List.append_assoc]
    exact hfirst _ (hmore fs hfs)

end Courses

/-- The errors of a row of tokens stand at its tokens or at its end. -/
theorem parseTokens_errorsFrom (ts : List Token) :
    ErrorsFrom (tokensBeforeEnd ts ++ [endToken ts]) 0 (parseTokens ts).errors := by
  have hstart : (tokensBeforeEnd ts ++ [endToken ts]).drop 0 = tokensBeforeEnd ts ++ [endToken ts] := List.drop_zero
  obtain ⟨rest, h, -⟩ | ⟨es, o, more, h, -, he⟩ := parseTokens_course ts
  · obtain ⟨m, -, herrors⟩ := h.errorsFrom hstart
    simpa using herrors [] .nil
  · obtain ⟨m, hm, herrors⟩ := h.errorsFrom hstart
    rw [he]
    exact herrors _ (.cons (Nat.le_refl m) (getElem?_here hm) .nil)

/-! ## Positions -/

/-- The tokens of a text stand in it one behind another. -/
theorem tokensFrom_positions (position : Nat) (cs : List Char) :
    (∀ t ∈ tokensFrom position cs, position ≤ t.position ∧ t.position ≤ position + cs.length) ∧
    (tokensFrom position cs).Pairwise fun t u => t.position ≤ u.position := by
  have h := layout_tokensFrom position cs
  generalize tokensFrom position cs = ts at h
  induction h with
  | ending gap => simp
  | @lexeme position text rest kind value ts gap _ _ _ ih =>
    obtain ⟨hbounds, hordered⟩ := ih
    simp only [List.length_append, List.forall_mem_cons, List.pairwise_cons]
    refine ⟨⟨by omega, fun t ht => ?_⟩, fun t ht => ?_, hordered⟩
    · have hbound := hbounds t ht
      omega
    · have hbound := hbounds t ht
      omega
  | unclosed gap =>
    simp only [List.length_append, List.length_cons, List.forall_mem_cons, List.pairwise_pair]
    exact ⟨⟨by omega, ⟨by omega, List.forall_mem_nil _⟩⟩, by omega⟩

/-- The row of all tokens of a text ends with the only end. -/
theorem tokensBeforeEnd_append_endToken (query : String) :
    tokensBeforeEnd (tokenize query) ++ [endToken (tokenize query)] = tokenize query := by
  obtain ⟨ts, hts, hne⟩ := tokensFrom_eq_append 0 query.toList
  have hbefore : ts.find? (·.kind == .eof) = none := by simpa using hne
  rw [tokensBeforeEnd_tokenize, lexemesFrom, tokenize, hts, List.dropLast_concat, endToken, List.find?_append, hbefore]
  rfl

/-! ## Whole queries -/

section Order

variable {ts : List Token} {n : Nat} {es : List SyntaxError}

theorem ErrorsFrom.places (h : ErrorsFrom ts n es) : ∃ places : List Nat, (∀ i ∈ places, n ≤ i) ∧
    places.Pairwise (· ≤ ·) ∧
    List.Forall₂ (fun e i => ∃ t, ts[i]? = some t ∧ e.token = some t ∧ e.position = t.position) es places := by
  induction h with
  | nil => exact ⟨[], List.forall_mem_nil _, .nil, .nil⟩
  | @cons n i t fault es hi ht _ ih =>
    obtain ⟨places, hfrom, hordered, herrors⟩ := ih
    refine ⟨i :: places, List.forall_mem_cons.mpr ⟨hi, fun j hj => Nat.le_trans hi (hfrom j hj)⟩, ?_, ?_⟩
    · exact List.pairwise_cons.mpr ⟨hfrom, hordered⟩
    · exact .cons ⟨t, ht, rfl, rfl⟩ herrors

theorem ErrorsFrom.exists_index (h : ErrorsFrom ts n es) :
    ∀ e ∈ es, ∃ i t, n ≤ i ∧ ts[i]? = some t ∧ e.position = t.position := by
  induction h with
  | nil => exact List.forall_mem_nil _
  | @cons n i t fault es hi ht _ ih =>
    refine List.forall_mem_cons.mpr ⟨⟨i, t, hi, ht, rfl⟩, fun e he => ?_⟩
    obtain ⟨j, u, hj, hu, hpos⟩ := ih e he
    exact ⟨j, u, Nat.le_trans hi hj, hu, hpos⟩

/-- In a row whose positions never decrease, those of its errors do not either. -/
theorem ErrorsFrom.positions (h : ErrorsFrom ts n es) (hts : ts.Pairwise fun t u => t.position ≤ u.position) :
    es.Pairwise fun d e => d.position ≤ e.position := by
  induction h with
  | nil => exact .nil
  | @cons n i t fault es _ ht h ih =>
    refine List.pairwise_cons.mpr ⟨fun e he => ?_, ih⟩
    obtain ⟨j, u, hij, hu, hpos⟩ := h.exists_index e he
    obtain ⟨hi, rfl⟩ := List.getElem?_eq_some_iff.mp ht
    obtain ⟨hj, rfl⟩ := List.getElem?_eq_some_iff.mp hu
    rw [hpos]
    rcases Nat.lt_or_eq_of_le hij with hij | rfl
    · exact List.pairwise_iff_getElem.mp hts i j hi hj hij
    · exact Nat.le_refl _

end Order

/-- No error is behind the end of the query. -/
theorem position_le_of_mem_errors {query : String} {e : SyntaxError} (he : e ∈ (parseQuery query).errors) :
    e.position ≤ query.length := by
  have herrors := parseTokens_errorsFrom (tokenize query)
  rw [tokensBeforeEnd_append_endToken] at herrors
  obtain ⟨i, t, -, ht, hpos⟩ := herrors.exists_index e he
  have hbound := ((tokensFrom_positions 0 query.toList).1 t (List.mem_of_getElem? ht)).2
  rwa [hpos, ← String.length_toList, ← Nat.zero_add query.toList.length]

/-- **Errors stand at tokens of the query, in their order.** Their positions are those of the tokens, lie within the
query or at its end, and never decrease. -/
theorem errors_in_order (query : String) :
    (∃ places : List Nat, places.Pairwise (· ≤ ·) ∧
      List.Forall₂ (fun e i => ∃ t, (tokenize query)[i]? = some t ∧ e.token = some t ∧ e.position = t.position)
        (parseQuery query).errors places) ∧
    (∀ e ∈ (parseQuery query).errors, e.position ≤ query.length) ∧
    (parseQuery query).errors.Pairwise fun d e => d.position ≤ e.position := by
  have herrors := parseTokens_errorsFrom (tokenize query)
  rw [tokensBeforeEnd_append_endToken] at herrors
  obtain ⟨hbounds, hordered⟩ := tokensFrom_positions 0 query.toList
  obtain ⟨places, -, hplaces, hcarried⟩ := herrors.places
  refine ⟨⟨places, hplaces, hcarried⟩, fun e he => ?_, herrors.positions hordered⟩
  obtain ⟨i, t, -, ht, hpos⟩ := herrors.exists_index e he
  have hbound := (hbounds t (List.mem_of_getElem? ht)).2
  rwa [hpos, ← String.length_toList, ← Nat.zero_add query.toList.length]

end KanjiSearch
