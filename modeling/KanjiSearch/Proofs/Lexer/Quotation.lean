import KanjiSearch.Query.Lexer
import KanjiSearch.Query.Written

/-!
# Quotations

What stands behind an opening quote is a quotation exactly when it holds a quote that does not directly follow a
backslash.

* `quotation_append`, `eq_of_quotation`: a quotation ends at the first such quote, and its value is the text up to there
  with a quote for each backslash and quote (`unescaped`).
* `quotation_eq_none_iff`: without such a quote there is no quotation.
* `quotable_escaped`, `unescaped_escaped`: a text that does not end in a backslash is the value of its quoted form.
* `escaped_unescaped`: what stands between the quotes is the quoted form of its value.
-/

namespace KanjiSearch.Lexer

/-- Each quote in `cs` directly follows a backslash. -/
def Guarded (cs : List Char) : Prop :=
  ∀ before after, cs = before ++ '"' :: after → before.getLast? = some '\\'

/-- What may stand between the quotes of a quotation: no quote in it ends the quotation, and no backslash at its end
keeps the quote behind it from doing so. -/
def Quotable (body : List Char) : Prop :=
  Guarded body ∧ body.getLast? ≠ some '\\'

/-- `cs` with a quote for each backslash and quote. -/
def unescaped : List Char → List Char
  | '\\' :: '"' :: cs => '"' :: unescaped cs
  | c :: cs => c :: unescaped cs
  | [] => []

/-! ## Guarded texts -/

theorem guarded_nil : Guarded [] := fun _ _ h => by simp at h

theorem not_guarded_quote (cs : List Char) : ¬ Guarded ('"' :: cs) := fun h => by simpa using h [] cs rfl

theorem guarded_escape {cs : List Char} : Guarded ('\\' :: '"' :: cs) ↔ Guarded cs := by
  constructor
  · rintro h before after rfl
    have := h ('\\' :: '"' :: before) after rfl
    cases before with
    | nil => simp at this
    | cons b bs => simpa using this
  · intro h before after he
    match before with
    | [] => simp at he
    | [b] => simp only [List.cons_append, List.cons.injEq] at he; simp [← he.1]
    | b :: b' :: bs =>
      simp only [List.cons_append, List.cons.injEq] at he
      have := h bs after he.2.2
      cases bs with
      | nil => simp at this
      | cons _ _ => simpa using this

/-- A character that neither is a quote nor guards one may be left away in front. -/
theorem guarded_cons {c : Char} {cs : List Char} (hc : c ≠ '"') (hcs : c = '\\' → ∀ r, cs ≠ '"' :: r) :
    Guarded (c :: cs) ↔ Guarded cs := by
  constructor
  · rintro h before after rfl
    have := h (c :: before) after rfl
    cases before with
    | nil => exact absurd rfl (hcs (by simpa using this) after)
    | cons b bs => simpa using this
  · intro h before after he
    cases before with
    | nil => exact absurd (List.cons.inj he).1 hc
    | cons b bs =>
      have := h bs after (List.cons.inj he).2
      cases bs with
      | nil => simp at this
      | cons _ _ => simpa using this

theorem quotable_escape {cs : List Char} : Quotable ('\\' :: '"' :: cs) ↔ Quotable cs := by
  rw [Quotable, Quotable, guarded_escape]
  cases cs <;> simp

theorem quotable_cons {c : Char} {cs : List Char} (hc : c ≠ '"') (hcs : c = '\\' → ∀ r, cs ≠ '"' :: r)
    (hnil : cs = [] → c ≠ '\\') : Quotable (c :: cs) ↔ Quotable cs := by
  rw [Quotable, Quotable, guarded_cons hc hcs]
  cases cs with
  | nil => simp [hnil rfl]
  | cons _ _ => simp

/-! ## Reading a quotation -/

theorem unescaped_cons {c : Char} {cs : List Char} (h : c = '\\' → ∀ r, cs ≠ '"' :: r) :
    unescaped (c :: cs) = c :: unescaped cs := by
  rw [unescaped]
  exact fun r hc hr => h hc r hr

theorem quotation_cons {c : Char} {cs : List Char} (hc : c ≠ '"') (h : c = '\\' → ∀ r, cs ≠ '"' :: r) :
    quotation (c :: cs) = (quotation cs).map fun (value, count) => (c :: value, count + 1) := by
  rw [quotation]
  · exact hc
  · exact fun r hc hr => h hc r hr

/-- A quotation ends at the first quote that does not follow a backslash. -/
theorem quotation_append {body : List Char} (h : Quotable body) (rest : List Char) :
    quotation (body ++ '"' :: rest) = some (unescaped body, body.length + 1) := by
  fun_induction unescaped body with
  | case1 cs ih =>
    simp only [List.cons_append]
    rw [quotation, ih (quotable_escape.mp h)]
    rfl
  | case2 c cs hne ih =>
    have hc : c ≠ '"' := fun hc => not_guarded_quote cs (hc ▸ h.1)
    have hcs : c = '\\' → ∀ r, cs ≠ '"' :: r := fun hb r hr => hne r hb hr
    have hnil : cs = [] → c ≠ '\\' := by rintro rfl rfl; exact h.2 rfl
    rw [List.cons_append, quotation_cons hc, ih ((quotable_cons hc hcs hnil).mp h)]
    · rfl
    · intro hb r hr
      cases cs with
      | nil => exact hnil rfl hb
      | cons d ds => exact hcs hb ds (by rw [(List.cons.inj hr).1])
  | case3 => simp [quotation]

/-- Inverting `quotation_append`: every quotation is one of these. -/
theorem eq_of_quotation {cs value : List Char} {count : Nat} (h : quotation cs = some (value, count)) :
    ∃ body rest, cs = body ++ '"' :: rest ∧ Quotable body ∧ value = unescaped body ∧ count = body.length + 1 := by
  fun_induction quotation cs generalizing value count with
  | case1 => cases h
  | case2 cs => cases h; exact ⟨[], cs, rfl, ⟨guarded_nil, by simp⟩, rfl, rfl⟩
  | case3 cs ih =>
    obtain ⟨⟨v, n⟩, hq, he⟩ := Option.map_eq_some_iff.mp h
    cases he
    obtain ⟨body, rest, rfl, hb, rfl, rfl⟩ := ih hq
    exact ⟨'\\' :: '"' :: body, rest, rfl, quotable_escape.mpr hb, rfl, rfl⟩
  | case4 c cs hc hne ih =>
    obtain ⟨⟨v, n⟩, hq, he⟩ := Option.map_eq_some_iff.mp h
    cases he
    obtain ⟨body, rest, rfl, hb, rfl, rfl⟩ := ih hq
    have hcs : c = '\\' → ∀ r, body ≠ '"' :: r := fun hb r hr => hne (r ++ '"' :: rest) hb (by rw [hr]; rfl)
    have hnil : body = [] → c ≠ '\\' := by rintro rfl hb; exact hne rest hb rfl
    exact ⟨c :: body, rest, rfl, (quotable_cons hc hcs hnil).mpr hb, (unescaped_cons hcs).symm, rfl⟩

/-- **There is no quotation exactly when every quote is guarded.** -/
theorem quotation_eq_none_iff {cs : List Char} : quotation cs = none ↔ Guarded cs := by
  constructor
  · intro h
    fun_induction quotation cs with
    | case1 => exact guarded_nil
    | case2 => cases h
    | case3 cs ih => exact guarded_escape.mpr (ih (Option.map_eq_none_iff.mp h))
    | case4 c cs hc hne ih => exact (guarded_cons hc fun hb r => hne r hb).mpr (ih (Option.map_eq_none_iff.mp h))
  · intro h
    rw [Option.eq_none_iff_forall_ne_some]
    rintro ⟨value, count⟩ hq
    obtain ⟨body, rest, rfl, hb, -⟩ := eq_of_quotation hq
    exact hb.2 (h body rest rfl)

/-! ## Writing a quotation -/

/-- `value` with a backslash before each quote. -/
def escaped (value : List Char) : List Char :=
  value.flatMap fun c => if c = '"' then ['\\', '"'] else [c]

theorem quoted_eq (value : List Char) : quoted value = '"' :: (escaped value ++ ['"']) := rfl

theorem escaped_quote (cs : List Char) : escaped ('"' :: cs) = '\\' :: '"' :: escaped cs := rfl

theorem escaped_cons {c : Char} (hc : c ≠ '"') (cs : List Char) : escaped (c :: cs) = c :: escaped cs := by
  simp [escaped, hc]

/-- No unguarded quote starts an escaped text. -/
theorem escaped_ne_quote (value r : List Char) : escaped value ≠ '"' :: r := by
  cases value with
  | nil => simp [escaped]
  | cons c cs =>
    by_cases hc : c = '"'
    · subst hc; simp [escaped_quote]
    · simp [escaped_cons hc, hc]

theorem guarded_escaped (value : List Char) : Guarded (escaped value) := by
  induction value with
  | nil => exact guarded_nil
  | cons c cs ih =>
    by_cases hc : c = '"'
    · subst hc; exact guarded_escape.mpr ih
    · rw [escaped_cons hc]
      exact (guarded_cons hc fun _ r => escaped_ne_quote cs r).mpr ih

theorem getLast?_escaped (value : List Char) : (escaped value).getLast? = value.getLast? := by
  rcases List.eq_nil_or_concat value with rfl | ⟨cs, c, rfl⟩
  · rfl
  · rw [List.concat_eq_append, escaped, List.flatMap_append, List.flatMap_singleton, List.getLast?_concat]
    split
    · next hc => rw [hc]; simp
    · simp

/-- A text that does not end in a backslash can be quoted. -/
theorem quotable_escaped {value : List Char} (h : value.getLast? ≠ some '\\') : Quotable (escaped value) :=
  ⟨guarded_escaped value, by rwa [getLast?_escaped]⟩

theorem unescaped_escaped (value : List Char) : unescaped (escaped value) = value := by
  induction value with
  | nil => rfl
  | cons c cs ih =>
    by_cases hc : c = '"'
    · subst hc; rw [escaped_quote, unescaped, ih]
    · rw [escaped_cons hc, unescaped_cons fun _ r => escaped_ne_quote cs r, ih]

/-- Nothing but the backslashes in front of quotes was left out of a quotation. -/
theorem escaped_unescaped {body : List Char} (h : Guarded body) : escaped (unescaped body) = body := by
  fun_induction unescaped body with
  | case1 cs ih => rw [escaped_quote, ih (guarded_escape.mp h)]
  | case2 c cs hne ih =>
    have hc : c ≠ '"' := fun hc => not_guarded_quote cs (hc ▸ h)
    rw [escaped_cons hc, ih ((guarded_cons hc fun hb r hr => hne r hb hr).mp h)]
  | case3 => rfl

theorem getLast?_unescaped (body : List Char) : (unescaped body).getLast? = body.getLast? := by
  fun_induction unescaped body with
  | case1 cs ih => rw [List.getLast?_cons, ih, List.getLast?_cons_cons, List.getLast?_cons]
  | case2 c cs _ ih => rw [List.getLast?_cons, ih, List.getLast?_cons]
  | case3 => rfl

/-- The value of a quotation does not end in a backslash. -/
theorem Quotable.unescaped_getLast? {body : List Char} (h : Quotable body) :
    (unescaped body).getLast? ≠ some '\\' := by
  rw [getLast?_unescaped]
  exact h.2

end KanjiSearch.Lexer
