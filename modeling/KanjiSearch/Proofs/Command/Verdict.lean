import KanjiSearch.Command.Run
import KanjiSearch.Proofs.Grammar.Soundness

/-!
# Valid, blank and faulty queries

A text is valid if it reads as a query without an error, faulty if it has errors, and blank if there is neither a query
nor an error. Only texts without tokens are blank: a rule that makes no query either reports a fault or stands still,
and then the token before it is left over, which is a fault of its own (`parseTokens_isBlank_iff`).

* `parseQuery_isBlank_iff`: the blank texts are those of blanks and colons.
* `search_of_eq`, `search_of_not_isValid`: what a search finds.
* `status_check`, `status_showTree`, `status_explain`: what the commands that look into queries say by their status. All
  of them fail where the current directory is not known. An explanation needs no records, but it is a search, and
  searches load the settings first.
* `entry_points_agree`: all of this together.
* `valid_queries_may_fail`: commands on a valid query fail where the current directory is not known, and an explanation
  of it fails where the settings cannot be loaded.
-/

open KanjiSearch.Lexer (AllLexical IsGap lexemesFrom)

namespace KanjiSearch.Parser

variable {stop : Token} {group : Token → Reader} {t : Token} {ts : List Token}

/-! ## Rules that make no query -/

/-- A row that has started makes a query. -/
theorem conjunctsFrom_query (left : Query) (ts : List Token) : (conjunctsFrom stop group left ts).query ≠ none := by
  fun_induction conjunctsFrom stop group left ts with
  | case1 | case3 | case5 => simp
  | case2 _ _ _ _ _ _ _ ih | case4 _ _ _ _ _ _ ih => exact ih

theorem disjunctsFrom_query (left : Query) (ts : List Token) : (disjunctsFrom stop group left ts).query ≠ none := by
  fun_induction disjunctsFrom stop group left ts with
  | case1 | case3 | case4 => simp
  | case2 _ _ _ _ _ _ _ ih => exact ih

theorem conjunction_reports (h : Reports (operand stop group ts)) : Reports (conjunction stop group ts) := by
  unfold conjunction
  simp only
  split
  · exact fun hnone => absurd hnone (conjunctsFrom_query _ _)
  · exact h

theorem disjunction_reports (h : Reports (operand stop group ts)) : Reports (disjunction stop group ts) := by
  unfold disjunction
  simp only
  split
  · exact fun hnone => absurd hnone (disjunctsFrom_query _ _)
  · exact conjunction_reports h

end KanjiSearch.Parser

open KanjiSearch.Parser

namespace KanjiSearch

/-! ## The three classes -/

/-- The text of a query without errors. -/
def Parse.IsValid (p : Parse) : Prop :=
  p.query ≠ none ∧ p.errors = []

/-- Neither a query nor an error. -/
def Parse.IsBlank (p : Parse) : Prop :=
  p.query = none ∧ p.errors = []

/-- A text with errors. -/
def Parse.IsFaulty (p : Parse) : Prop :=
  p.errors ≠ []

theorem Parse.isValid_iff {p : Parse} : p.IsValid ↔ ∃ q, p = ⟨some q, []⟩ := by
  obtain ⟨query, errors⟩ := p
  cases query <;> simp [IsValid]

theorem Parse.exactly_one (p : Parse) : p.IsValid ∧ ¬ p.IsBlank ∧ ¬ p.IsFaulty ∨
    ¬ p.IsValid ∧ p.IsBlank ∧ ¬ p.IsFaulty ∨ ¬ p.IsValid ∧ ¬ p.IsBlank ∧ p.IsFaulty := by
  obtain ⟨query, errors⟩ := p
  cases query <;> cases errors <;> simp [IsValid, IsBlank, IsFaulty]

/-- Tokens that have the form of their kinds are blank only if there are none before the end. -/
theorem parseTokens_isBlank_iff {ts : List Token} (hts : AllLexical (tokensBeforeEnd ts)) :
    (parseTokens ts).IsBlank ↔ tokensBeforeEnd ts = [] := by
  rw [parseTokens_eq]
  unfold parseUpTo
  cases htokens : tokensBeforeEnd ts with
  | nil => simp [Parse.IsBlank]
  | cons t rest =>
    rw [htokens] at hts
    dsimp only
    rw [expression_read]
    refine iff_of_false ?_ (List.cons_ne_nil t rest)
    cases hstarts : startsOperand t.kind with
    | false => simp [disjunction_of_not_starts hstarts, Parse.IsBlank]
    | true =>
      have hreports : Reports (disjunction (endToken ts) (groupReader (endToken ts) maxNesting) (t :: rest)) :=
        disjunction_reports (operand_reports (groupReader_reports maxNesting) hts.tail hstarts)
      generalize disjunction _ _ (t :: rest) = r at hreports ⊢
      obtain ⟨query, rest', errors⟩ := r
      rintro ⟨hquery, herrors⟩
      cases errors with
      | nil => cases rest' <;> exact hreports hquery rfl
      | cons e es => cases rest' <;> cases herrors

theorem lexemesFrom_eq_nil_iff {position : Nat} {cs : List Char} :
    lexemesFrom position cs = [] ↔ ∀ c ∈ cs, IsGap c := by
  constructor
  · intro h
    have hlayout := Lexer.layout_tokensFrom position cs
    rw [Lexer.tokensFrom_eq, h, List.nil_append] at hlayout
    generalize hts : [(⟨.eof, "", position + cs.length⟩ : Token)] = ts at hlayout
    cases hlayout with
    | ending _ hgap => exact hgap
    | lexeme _ _ hl _ =>
      have hkind := congrArg Token.kind (List.cons.inj hts).1
      exact absurd hkind.symm hl.kind_ne.1
    | unclosed => cases hts
  · intro h
    simpa [Lexer.lexemesFrom_nil] using Lexer.lexemesFrom_gap h position []

/-- **The blank texts** are those of blanks and colons. -/
theorem parseQuery_isBlank_iff {text : String} :
    (parseQuery text).IsBlank ↔ ∀ c ∈ text.toList, Text.isBlank c = true ∨ c = ':' := by
  rw [parseQuery, parseTokens_isBlank_iff (allLexical_tokenize text), tokensBeforeEnd_tokenize,
    lexemesFrom_eq_nil_iff]
  rfl

/-! ## Searches and checks -/

theorem checkSyntax_valid_iff {text : String} : (checkSyntax text).valid = true ↔ (parseQuery text).IsValid := by
  simp [checkSyntax, Parse.IsValid, Option.isSome_iff_ne_none, and_comm]

theorem search_of_eq {text : String} {q : Query} (h : parseQuery text = ⟨some q, []⟩) (records : List Record)
    (limit : Nat) : search text records limit = ⟨(q.filter records).take (min limit resultLimit), []⟩ := by
  rw [search, h]

theorem search_of_not_isValid {text : String} (h : ¬ (parseQuery text).IsValid) (records : List Record)
    (limit : Nat) : search text records limit = ⟨[], (parseQuery text).errors⟩ := by
  rw [Parse.isValid_iff] at h
  unfold search
  split
  · next hq => exact absurd ⟨_, hq⟩ h
  · next herrors => rw [herrors]

theorem errors_search (text : String) (records : List Record) (limit : Nat) :
    (search text records limit).errors = (parseQuery text).errors := by
  by_cases h : (parseQuery text).IsValid
  · obtain ⟨q, hq⟩ := Parse.isValid_iff.mp h
    rw [search_of_eq hq, hq]
  · rw [search_of_not_isValid h]

end KanjiSearch

namespace KanjiSearch.Command

/-! ## Commands -/

variable {around : Surroundings} {text : String}

/-- A command succeeds if the current directory is known and the command succeeds there. -/
theorem status_perform_iff {c : Command} : (c.perform around).report.status = 0 ↔
    ∃ env, around.environment = .ok env ∧ (c.run env).report.status = 0 := by
  unfold perform
  cases around.environment with
  | error cause => simp [reportNoDirectory, Report.failure]
  | ok env => simp

theorem exists_environment_iff :
    (∃ env, around.environment = .ok env) ↔ ∃ directory, around.directory = .ok directory := by
  unfold Surroundings.environment
  cases around.directory <;> simp [Except.map]

theorem status_reportCheck (json : Bool) : (reportCheck text json).status = 0 ↔ (parseQuery text).IsValid := by
  rw [← checkSyntax_valid_iff]
  simp [reportCheck]

theorem status_reportTree (json : Bool) : (reportTree text json).status = 0 ↔ ¬ (parseQuery text).IsFaulty := by
  rcases hp : parseQuery text with ⟨query, _ | ⟨e, es⟩⟩ <;>
    simp [reportTree, hp, Parse.IsFaulty, Report.success, reportFailure, Report.failure]

theorem status_reportExplanation (text : String) :
    (reportExplanation text).status = 0 ↔ ¬ (parseQuery text).IsFaulty := by
  rcases hp : parseQuery text with ⟨_ | q, _ | ⟨e, es⟩⟩ <;>
    simp [reportExplanation, hp, Parse.IsFaulty, Report.after, Report.success, reportFailure, Report.failure]

theorem status_check (json : Bool) : ((check text json).perform around).report.status = 0 ↔
    (∃ directory, around.directory = .ok directory) ∧ (parseQuery text).IsValid := by
  rw [status_perform_iff, ← exists_environment_iff]
  simp only [run, status_reportCheck, exists_and_right]

theorem status_showTree (json : Bool) : ((showTree text json).perform around).report.status = 0 ↔
    (∃ directory, around.directory = .ok directory) ∧ ¬ (parseQuery text).IsFaulty := by
  rw [status_perform_iff, ← exists_environment_iff]
  simp only [run, status_reportTree, exists_and_right]

theorem status_explain {options : SearchOptions} (h : options.explain = true) :
    ((search options).perform around).report.status = 0 ↔
      (∃ env s, around.environment = .ok env ∧ Settings.load env env.directory = .ok s) ∧
        ¬ (parseQuery options.query).IsFaulty := by
  have hrun : ∀ env, ((search options).run env).report.status = 0 ↔
      (∃ s, Settings.load env env.directory = .ok s) ∧ ¬ (parseQuery options.query).IsFaulty := fun env => by
    simp only [run, withSettings]
    cases hload : Settings.load env env.directory with
    | error e => simp [Report.failure]
    | ok s => simp [reportSearch, h, status_reportExplanation]
  simp only [status_perform_iff, hrun, exists_and_left, ← and_assoc, exists_and_right]

end KanjiSearch.Command

namespace KanjiSearch

/-- **All entry points agree on what a query is.** Commands say so by their status, if the current directory is known
and a search can load its settings. -/
theorem entry_points_agree (text : String) :
    let p := parseQuery text
    (p.IsValid ∧ ¬ p.IsBlank ∧ ¬ p.IsFaulty ∨ ¬ p.IsValid ∧ p.IsBlank ∧ ¬ p.IsFaulty ∨
      ¬ p.IsValid ∧ ¬ p.IsBlank ∧ p.IsFaulty) ∧
    (p.IsBlank ↔ ∀ c ∈ text.toList, Text.isBlank c = true ∨ c = ':') ∧
    ((checkSyntax text).valid = true ↔ p.IsValid) ∧ (checkSyntax text).errors = p.errors ∧
    (∀ records limit, (search text records limit).errors = p.errors ∧
      (∀ q, p = ⟨some q, []⟩ →
        (search text records limit).records = (records.filter fun r => q.holds r.fields).take (min limit 50)) ∧
      (¬ p.IsValid → (search text records limit).records = [])) ∧
    (∀ around json, ((Command.check text json).perform around).report.status = 0 ↔
      (∃ directory, around.directory = .ok directory) ∧ p.IsValid) ∧
    (∀ around json, ((Command.showTree text json).perform around).report.status = 0 ↔
      (∃ directory, around.directory = .ok directory) ∧ ¬ p.IsFaulty) ∧
    (∀ around options, options.query = text → options.explain = true →
      (((Command.search options).perform around).report.status = 0 ↔
        (∃ env s, around.environment = .ok env ∧ Settings.load env env.directory = .ok s) ∧ ¬ p.IsFaulty)) := by
  refine ⟨Parse.exactly_one _, parseQuery_isBlank_iff, checkSyntax_valid_iff, rfl, fun records limit => ?_,
    fun around json => Command.status_check json, fun around json => Command.status_showTree json, ?_⟩
  · refine ⟨errors_search text records limit, fun q hq => ?_, fun h => ?_⟩
    · rw [search_of_eq hq]; rfl
    · rw [search_of_not_isValid h]
  · rintro around options rfl hexplain
    exact Command.status_explain hexplain

/-- An explanation on an empty disk. -/
theorem entry_points_agree_fire : ((Command.search { query := "fire", explain := true }).perform
    ⟨Disk.empty, .ok (.ofString "/work"), none⟩).report.status = 0 :=
  ((entry_points_agree "fire").2.2.2.2.2.2.2 _ _ rfl rfl).mpr
    ⟨⟨_, _, rfl, rfl⟩, by unfold Parse.IsFaulty; decide +kernel⟩

/-- A directory with a settings file whose first line breaks off. -/
def brokenSettings : Surroundings where
  disk := (Disk.empty.withDirectories ["work".toList]).put [".kanji.toml".toList, "work".toList]
    (some (.file "[search\n".toUTF8))
  directory := .ok (.ofString "/work")
  home := none

/-- A directory that has been removed. -/
def nowhere : Surroundings where
  disk := Disk.empty
  directory := .error .notFound
  home := none

/-- Commands on a valid query fail where the directory is not known, and an explanation where it has broken settings. -/
theorem valid_queries_may_fail : (parseQuery "fire").IsValid ∧ ¬ (parseQuery "fire").IsFaulty ∧
    ((Command.search { query := "fire", explain := true }).perform brokenSettings).report.status = 1 ∧
    ((Command.check "fire" false).perform nowhere).report.status = 1 ∧
    ((Command.showTree "fire" false).perform nowhere).report.status = 1 := by
  have hfire : parseQuery "fire" = ⟨some (.search .usual "fire" false), []⟩ := by decide +kernel
  rw [hfire]
  exact ⟨⟨by simp, rfl⟩, by simp [Parse.IsFaulty], by decide +kernel, rfl, rfl⟩

end KanjiSearch
