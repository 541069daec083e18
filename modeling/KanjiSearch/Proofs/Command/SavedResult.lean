import KanjiSearch.Command.Run
import KanjiSearch.Proofs.Command.Verdict
import KanjiSearch.Proofs.Disk.Writing
import KanjiSearch.Proofs.Lists
import KanjiSearch.Proofs.Record.Json

/-!
# Results are record files

The report of a search in JSON holds its records in a form that is a record file. When they are saved, loading the file
gives the same records, and the same search in this file has the same report.

* `search_again`: searching what a search has found finds all of it.
* `report_search`, `exists_pretty_resultJson`: what is printed, with the records as a piece of it.
* `load_saved`: a text that spells the records is a file with these records, wherever it is saved.
* `search_saved`: the output is an object with the query, the number of the records, and the records. Every text that
  spells the same array as the piece with the records may be saved in the place of this piece.
-/

namespace KanjiSearch

variable {env : Environment} {s : Settings} {o : SearchOptions} {records found : List Record} {p : Path}

/-! ## Searching again -/

/-- All records that a query matches match it again, and the first ones are as many as before. -/
theorem Query.take_filter_take (q : Query) (records : List Record) (n : Nat) :
    (q.filter ((q.filter records).take n)).take n = (q.filter records).take n := by
  have hall : ∀ r ∈ (q.filter records).take n, q.holds r.fields = true := fun r hr =>
    (List.mem_filter.mp (List.mem_of_mem_take hr)).2
  have hkept : q.filter ((q.filter records).take n) = (q.filter records).take n := List.filter_eq_self.mpr hall
  rw [hkept, List.take_take, Nat.min_self]

/-- Searching what a search has found finds all of it. -/
theorem search_again (text : String) (records : List Record) (limit : Nat) :
    search text (search text records limit).records limit = search text records limit := by
  by_cases h : (parseQuery text).IsValid
  · obtain ⟨q, hq⟩ := Parse.isValid_iff.mp h
    rw [search_of_eq hq, search_of_eq hq, Query.take_filter_take]
  · rw [search_of_not_isValid h, search_of_not_isValid h]

namespace Command

/-! ## What is printed -/

/-- The records of a result as they are printed, one level in. -/
def writtenRecords (found : List Record) : List Char :=
  Json.written 1 (.array (found.map (·.toJson)))

theorem isPlain_resultJson (query : String) (found : List Record) : (resultJson query found).IsPlain := by
  refine .object fun m hm => ?_
  simp only [List.mem_cons, List.not_mem_nil, or_false] at hm
  rcases hm with rfl | rfl | rfl
  · exact .string query
  · exact .natural _
  · exact Record.isPlain_list found

/-- The records are a piece of what is printed. -/
theorem exists_pretty_resultJson (query : String) (found : List Record) :
    ∃ before after, (resultJson query found).pretty = before ++ (writtenRecords found ++ after) := by
  rw [Json.pretty, resultJson, Json.written]
  simp only [Json.writtenMembers, Json.writtenParts]
  rw [List.intercalate_cons_of_ne_nil (by simp), List.intercalate_cons_of_ne_nil (by simp), List.intercalate_singleton]
  generalize Json.writtenString "query" ++ [':', ' '] ++ _ = first
  generalize Json.writtenString "total_matches" ++ [':', ' '] ++ _ = second
  generalize Json.writtenString "results" ++ [':', ' '] = key
  generalize ',' :: Json.newLine (0 + 1) = comma
  refine ⟨'\x7b' :: (Json.newLine 1 ++ (first ++ (comma ++ (second ++ (comma ++ key))))),
    Json.newLine 0 ++ ['\x7d'], ?_⟩
  simp only [List.append_assoc, List.cons_append]
  rfl

theorem toList_jsonLine (j : Json) : (Report.jsonLine j).toList = j.pretty ++ ['\n'] := by
  simp [Report.jsonLine, Report.lines, String.join]

/-- What is printed is read as the result. -/
theorem read?_jsonLine_resultJson (query : String) (found : List Record) :
    Json.read? (Report.jsonLine (resultJson query found)).toList = some (resultJson query found) :=
  (congrArg Json.read? (toList_jsonLine _)).trans
    (Json.read?_written (isPlain_resultJson query found) 0 (List.forall_mem_singleton.mpr rfl))

theorem read?_writtenRecords (found : List Record) :
    Json.read? (writtenRecords found) = some (.array (found.map (·.toJson))) := by
  have hread := Json.read?_written (Record.isPlain_list found) 1 (List.forall_mem_nil _)
  rwa [List.append_nil] at hread

/-- The report of a search for a valid query in record files. -/
theorem report_search (hload : Settings.load env env.directory = .ok s) (hexplain : o.explain = false)
    (hfiles : searchedFiles env s o ≠ []) (hrecords : Record.loadAll env (searchedFiles env s o) = .ok records) :
    ((Command.search o).run env).report = reportResult s o records := by
  obtain ⟨file, files, hsearched⟩ := List.exists_cons_of_ne_nil hfiles
  simp only [run, withSettings, hload, reportSearch, hexplain, Bool.false_eq_true, if_false]
  rw [hsearched] at hrecords ⊢
  simp only [hrecords]

theorem reportResult_json (hjson : o.json = true) (hquery : (parseQuery o.query).IsValid) :
    reportResult s o records = .success (Report.jsonLine
      (resultJson o.query (KanjiSearch.search o.query records (searchLimit s o)).records)) := by
  obtain ⟨q, hq⟩ := Parse.isValid_iff.mp hquery
  rw [reportResult, search_of_eq hq]
  simp only [hjson, if_true]

/-! ## What is saved -/

/-- A text that spells the records of a result is a record file with these records, wherever it is saved. -/
theorem load_saved {text : String} (htext : Json.read? text.toList = some (.array (found.map (·.toJson)))) {disk : Disk}
    (hwrite : env.write p text = .ok disk) : Record.load { env with disk := disk } p = .ok found := by
  have hread : { env with disk := disk }.read p = .ok text := Disk.read_of_write hwrite
  rw [Record.load, hread]
  simp only [Record.listOfText?_of_read? htext]

theorem loadAll_singleton (h : Record.load env p = .ok found) : Record.loadAll env [p] = .ok found := by
  have hrow : [p].mapM (Record.load env) = .ok [found] := mapM_eq_ok_iff.mpr (.cons h .nil)
  rw [Record.loadAll, hrow]
  exact congrArg Except.ok (List.append_nil found)

/-- A path that is read from the current directory already is not read from it again. -/
theorem load_join (hdir : env.directory.isAbsolute = true) (h : Record.load env p = .ok found) :
    Record.load env (env.directory.join p) = .ok found := by
  have hread : env.read (env.directory.join p) = env.read p := by
    rw [Environment.read, Path.join_of_isAbsolute (Path.isAbsolute_join hdir p)]
    rfl
  rw [Record.load] at h ⊢
  rw [hread]
  cases hp : env.read p with
  | error cause => rw [hp] at h; cases h
  | ok text =>
    rw [hp] at h
    dsimp only at h ⊢
    cases hrecords : Record.listOfText? text.toList with
    | none => rw [hrecords] at h; cases h
    | some records => rw [hrecords] at h; exact h

/-- The report of a search in one record file in which it finds all records. -/
theorem report_saved (hload : Settings.load env env.directory = .ok s) (hexplain : o.explain = false)
    (hjson : o.json = true) (hquery : (parseQuery o.query).IsValid) (hdir : env.directory.isAbsolute = true)
    (hsaved : Record.load env p = .ok found) {limit : Option UInt64}
    (hfound : (KanjiSearch.search o.query found (searchLimit s { o with files := [p], limit := limit })).records =
      found) :
    ((Command.search { o with files := [p], limit := limit }).run env).report =
      .success (Report.jsonLine (resultJson o.query found)) := by
  have hrecords : Record.loadAll env [env.directory.join p] = .ok found := loadAll_singleton (load_join hdir hsaved)
  rw [report_search (o := { o with files := [p], limit := limit }) hload hexplain (List.cons_ne_nil _ _) hrecords,
    @reportResult_json s { o with files := [p], limit := limit } found hjson hquery, hfound]

/-- **Results are record files.** Saved anywhere, they are loaded as the records found, and searched again with the same
report. -/
theorem search_saved (hload : Settings.load env env.directory = .ok s) (hexplain : o.explain = false)
    (hjson : o.json = true) (hquery : (parseQuery o.query).IsValid) (hfiles : searchedFiles env s o ≠ [])
    (hrecords : Record.loadAll env (searchedFiles env s o) = .ok records)
    (hfound : (KanjiSearch.search o.query records (searchLimit s o)).records = found) :
    let report := ((Command.search o).run env).report
    report.status = 0 ∧
    ∃ results, Json.read? report.output.toList = some (.object
        [("query", .string o.query), ("total_matches", .natural found.length), ("results", results)]) ∧
      (∃ before piece after, report.output.toList = before ++ (piece ++ after) ∧ Json.read? piece = some results) ∧
      ∀ (env' : Environment) p text disk, Json.read? text.toList = some results → env'.write p text = .ok disk →
        Record.loadAll { env' with disk := disk } [p] = .ok found ∧
        (env'.directory.isAbsolute = true → ∀ s' limit,
          Settings.load { env' with disk := disk } env'.directory = .ok s' →
          searchLimit s' { o with files := [p], limit := limit } = searchLimit s o →
          ((Command.search { o with files := [p], limit := limit }).run { env' with disk := disk }).report =
            report) := by
  have hreport : ((Command.search o).run env).report = .success (Report.jsonLine (resultJson o.query found)) := by
    rw [report_search hload hexplain hfiles hrecords, reportResult_json hjson hquery, hfound]
  rw [hreport]
  refine ⟨rfl, .array (found.map Record.toJson), read?_jsonLine_resultJson o.query found, ?_,
    fun env' p text disk htext hwrite => ?_⟩
  · obtain ⟨before, after, hpretty⟩ := exists_pretty_resultJson o.query found
    refine ⟨before, writtenRecords found, after ++ ['\n'], ?_, read?_writtenRecords found⟩
    rw [Report.success, toList_jsonLine, hpretty]
    simp only [List.append_assoc]
  · have hsaved : Record.load { env' with disk := disk } p = .ok found := load_saved htext hwrite
    have hsame : (KanjiSearch.search o.query found (searchLimit s o)).records = found := by
      rw [← hfound, search_again]
    exact ⟨loadAll_singleton hsaved, fun hdir s' limit hload' hlimit =>
      report_saved hload' hexplain hjson hquery hdir hsaved (hlimit ▸ hsame)⟩

/-- A directory with a record file, in which the first record has the greatest frequency and a control character. -/
def recordDirectory : Environment where
  disk := (Disk.empty.withDirectories ["work".toList]).put ["kanji.json".toList, "work".toList] (some (.file
    ("[\x7b\"kanji\": \"火\", \"meaning\": \"fire\", \"frequency\": 18446744073709551615, " ++
      "\"category\": [\"\\u0001\"]\x7d, [\"水\"]]").toUTF8))
  directory := .ofString "/work"
  home := none

/-- A search that finds the first record of the file. -/
def fireSearch : SearchOptions where
  query := "fire"
  files := [.ofString "kanji.json"]
  limit := some 5
  json := true

/-- This record. -/
def fireRecord : Record where
  kanji := "火"
  meaning := "fire"
  frequency := some 18446744073709551615
  category := ["\x01"]

theorem search_saved_fire : ∃ text disk, recordDirectory.write (.ofString "out.json") text = .ok disk ∧
    Record.loadAll { recordDirectory with disk := disk } [.ofString "out.json"] = .ok [fireRecord] ∧
    ((Command.search { fireSearch with files := [.ofString "out.json"] }).run
        { recordDirectory with disk := disk }).report =
      ((Command.search fireSearch).run recordDirectory).report := by
  have hload : Settings.load recordDirectory recordDirectory.directory = .ok {} := by decide +kernel
  have hrecords : Record.loadAll recordDirectory (searchedFiles recordDirectory {} fireSearch) =
      .ok [fireRecord, { kanji := "水" }] := by decide +kernel
  have hfound : (KanjiSearch.search fireSearch.query [fireRecord, { kanji := "水" }]
      (searchLimit {} fireSearch)).records = [fireRecord] := by decide +kernel
  have hquery : (parseQuery fireSearch.query).IsValid :=
    Parse.isValid_iff.mpr ⟨.search .usual "fire" false, by decide +kernel⟩
  obtain ⟨-, results, -, ⟨-, piece, -, -, hpiece⟩, hsaved⟩ :=
    search_saved hload rfl rfl hquery (List.cons_ne_nil _ _) hrecords hfound
  have hwrite : recordDirectory.write (.ofString "out.json") (String.ofList piece) = .ok
      (recordDirectory.disk.put ["out.json".toList, "work".toList] (some (.file (String.ofList piece).toUTF8))) :=
    Disk.write_eq_ok_iff.mpr ⟨_, by decide +kernel, Disk.isFree_of_none rfl, .inl rfl, rfl⟩
  obtain ⟨hsame, hagain⟩ := hsaved recordDirectory _ _ _ (by rwa [String.toList_ofList]) hwrite
  exact ⟨_, _, hwrite, hsame, hagain rfl {} (some 5) rfl rfl⟩

end Command

end KanjiSearch
