import KanjiSearch.Proofs.Grammar.ErrorPlaces
import KanjiSearch.Proofs.Terminal.Marker
import KanjiSearch.Query.Diagnostic

/-!
# Pointing at errors

Errors of a query are shown in two ways. The report of a failed query has a caret below the query, whose column is that
of the last character at most. The lines of a check have a mark in the query and a caret below the mark, whose column
grows with every place behind the query. Since no error is behind the end of its query (`position_le_of_mem_errors`),
both carets stand in the same column, below the mark, and have as many columns before them as the text before the error
is wide (`errors_pointed_at`).
-/

open KanjiSearch.Terminal

namespace KanjiSearch

/-- The end of a report: the hint, if there is one. -/
def SyntaxError.hintLine (e : SyntaxError) : String :=
  (e.hint?.map ("\nhint: " ++ ·)).getD ""

theorem QueryFailure.report_eq (f : QueryFailure) (e : SyntaxError) : f.report e =
    "query syntax error: " ++ e.message ++ "\n  " ++ f.query ++ "\n  " ++
      columns (Text.width (f.query.toList.take e.position)) ++ "^" ++ e.hintLine := by
  unfold report SyntaxError.hintLine
  -- the texts of an error are of no interest here, and must not be computed
  generalize e.hint? = hint
  generalize e.message = message
  cases hint with
  | none => simp only [columns, Option.map_none, Option.getD_none]
  | some hint => simp only [columns, Option.map_some, Option.getD_some]

theorem apply_marked (text : String) : Style.marked.apply text = "\x1b[1m\x1b[31m" ++ text ++ "\x1b[0m" := by
  have hstart : Style.marked.start = "\x1b[1m\x1b[31m" := by decide
  rw [Style.apply, hstart]
  rfl

/-- **Both ways of showing an error point at the same place**, which the check marks in bold red. -/
theorem errors_pointed_at {query : String} {e : SyntaxError} (he : e ∈ (parseQuery query).errors) :
    QueryFailure.report ⟨query, (parseQuery query).errors⟩ e =
      "query syntax error: " ++ e.message ++ "\n  " ++ query ++ "\n  " ++
        columns (Text.width (query.toList.take e.position)) ++ "^" ++ e.hintLine ∧
    caretLine query e.position = columns (Text.width (query.toList.take e.position)) ++ "\x1b[31m^\x1b[0m" ∧
    ((∃ before c after, query.toList = before ++ c :: after ∧ before.length = e.position ∧
        markChar query e.position =
          String.ofList before ++ ("\x1b[1m\x1b[31m" ++ String.ofList [c] ++ "\x1b[0m") ++ String.ofList after) ∨
      e.position = query.length ∧ markChar query e.position = query ++ "\x1b[1m\x1b[31m \x1b[0m") := by
  have hle := position_le_of_mem_errors he
  refine ⟨QueryFailure.report_eq _ e, ?_, ?_⟩
  · rw [caretLine, columnOf_of_le hle]
    rfl
  · obtain ⟨before, c, after, h⟩ := exists_marks query.toList e.position
    have hmark := markChar_of_marks h
    rw [apply_marked] at hmark
    cases h with
    | inside htext hlength => exact .inl ⟨before, c, after, htext, hlength, hmark⟩
    | behind hlength =>
      rw [String.length_toList] at hlength
      refine .inr ⟨Nat.le_antisymm hle hlength, ?_⟩
      rw [hmark, String.ofList_toList, String.ofList_nil, String.append_empty]
      rfl

/-- An error behind a wide character, at the second character and in the third column. -/
theorem errors_pointed_at_paren :
    (parseQuery "火)").errors = [.on (.unexpected ⟨.closeParen, ")", 1⟩) ⟨.closeParen, ")", 1⟩] ∧
    caretLine "火)" 1 = columns 2 ++ "\x1b[31m^\x1b[0m" := by
  have herrors : (parseQuery "火)").errors =
      [.on (.unexpected ⟨.closeParen, ")", 1⟩) ⟨.closeParen, ")", 1⟩] := by decide +kernel
  have herror : SyntaxError.on (.unexpected ⟨.closeParen, ")", 1⟩) ⟨.closeParen, ")", 1⟩ ∈
      (parseQuery "火)").errors := by
    rw [herrors]
    exact List.mem_singleton_self _
  have hwidth : Text.width ("火)".toList.take 1) = 2 := by decide +kernel
  obtain ⟨-, hcaret, -⟩ := errors_pointed_at herror
  exact ⟨herrors, hwidth ▸ hcaret⟩

end KanjiSearch
