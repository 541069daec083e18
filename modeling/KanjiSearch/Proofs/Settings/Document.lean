import KanjiSearch.Proofs.Toml.List
import KanjiSearch.Proofs.Toml.Number
import KanjiSearch.Settings.Toml

/-!
# The document that settings are written as

The written form of settings is a document of four statements (`statements_document`), and this document says the limit
and the record files and nothing else (`ofText?_document`), whatever the limit and the names of the files are.
-/

namespace KanjiSearch

namespace Toml

theorem statements_cons {fuel : Nat} {cs rest tail : List Char} {c : Char} {s : Statement}
    (hgap : skipGap false cs = some (c :: tail)) (hs : statement? (c :: tail) = some (s, rest))
    (hend : endsLine rest = true) : statements (fuel + 1) cs = (statements fuel rest).map (s :: ·) := by
  rw [statements, hgap]
  simp [hs, hend]

theorem statement?_assign {cs rest rest' : List Char} {path : List String} {v : Toml} (hcs : cs.head? ≠ some '[')
    (hkey : key? cs = some (path, '=' :: rest))
    (hv : value (2 * cs.length + 2) maxNesting (skipSpace rest) = some (v, rest')) :
    statement? cs = some (.assign path v, rest') := by
  rw [statement?]
  · simp only [hkey, hv, Option.map_some]
  · rintro rest rfl; exact hcs rfl
  · rintro rest rfl; exact hcs rfl

end Toml

namespace Settings

open Toml (writtenTexts)

/-- The document that sets the limit `limit` and the record files `files`. -/
def document (limit : UInt64) (files : List (List Char)) : List Char :=
  "[search]\nlimit = ".toList ++ (Text.decimal limit.toNat ++
    ("\n\n[data]\nfiles = ".toList ++ (writtenTexts files ++ ['\n'])))

theorem toToml_eq (s : Settings) : s.toToml = document s.limit (s.files.map (·.text)) := by
  unfold toToml document
  rw [List.append_assoc, List.append_assoc, List.append_assoc]

variable (limit : UInt64) (files : List (List Char))

theorem statement?_search (rest : List Char) :
    Toml.statement? ("[search]\n".toList ++ rest) = some (.header ["search"], '\n' :: rest) := rfl

theorem statement?_data (rest : List Char) :
    Toml.statement? ("[data]\n".toList ++ rest) = some (.header ["data"], '\n' :: rest) := rfl

theorem key?_limit (rest : List Char) : Toml.key? ("limit = ".toList ++ rest) = some (["limit"], '=' :: ' ' :: rest) :=
  rfl

theorem key?_files (rest : List Char) : Toml.key? ("files = ".toList ++ rest) = some (["files"], '=' :: ' ' :: rest) :=
  rfl

theorem skipSpace_of_head? {cs : List Char} {c : Char} (h : cs.head? = some c) (hc : Toml.isSpace c = false) :
    Toml.skipSpace (' ' :: cs) = cs := by
  obtain ⟨tail, rfl⟩ := List.head?_eq_some_iff.mp h
  change (' ' :: c :: tail).dropWhile Toml.isSpace = c :: tail
  rw [List.dropWhile_cons_of_pos rfl, List.dropWhile_cons_of_neg (by simp [hc])]

theorem statement?_limit (rest : List Char) :
    Toml.statement? ("limit = ".toList ++ (Text.decimal limit.toNat ++ '\n' :: rest)) =
      some (.assign ["limit"] (.integer limit.toNat), '\n' :: rest) := by
  obtain ⟨d, ds, hcs, hd⟩ := Text.isNumber_cons (Text.isNumber_decimal limit.toNat)
  have hspace : Toml.isSpace d = false := by
    have hne : ∀ c : Char, c.isDigit = false → d ≠ c := fun _ => Text.ne_of_isDigit hd
    simp [Toml.isSpace, hne]
  refine Toml.statement?_assign (by simp) (key?_limit _) ?_
  rw [skipSpace_of_head? (c := d) (by rw [hcs]; rfl) hspace]
  exact Toml.value_decimal _ _ limit rest

theorem statement?_files :
    Toml.statement? ("files = ".toList ++ (writtenTexts files ++ ['\n'])) =
      some (.assign ["files"] (.array (files.map fun text => .string (String.ofList text))), ['\n']) := by
  have hhead : (writtenTexts files ++ ['\n']).head? = some '[' := by
    match files with
    | [] => rfl
    | [_] => rfl
    | _ :: _ :: _ => rfl
  refine Toml.statement?_assign (by simp) (key?_files _) ?_
  rw [skipSpace_of_head? hhead rfl]
  exact Toml.value_writtenTexts files (by simp; omega) _ _

theorem statements_document (fuel : Nat) : Toml.statements (fuel + 5) (document limit files) = some
    [.header ["search"], .assign ["limit"] (.integer limit.toNat), .header ["data"],
      .assign ["files"] (.array (files.map fun text => .string (String.ofList text)))] := by
  have hlimit := statement?_limit limit ("\n[data]\nfiles = ".toList ++ (writtenTexts files ++ ['\n']))
  have hfiles := statement?_files files
  unfold document
  generalize Text.decimal limit.toNat = digits at *
  generalize writtenTexts files = texts at *
  have hsearch := statement?_search
    ("limit = ".toList ++ (digits ++ '\n' :: ("\n[data]\nfiles = ".toList ++ (texts ++ ['\n']))))
  rw [Toml.statements_cons rfl hsearch rfl]
  rw [Toml.statements_cons rfl hlimit rfl]
  rw [Toml.statements_cons rfl (statement?_data ("files = ".toList ++ (texts ++ ['\n']))) rfl]
  rw [Toml.statements_cons rfl hfiles rfl]
  rfl

theorem read?_document : Toml.read? (document limit files) = some
    [("search", .table .opened [("limit", .integer limit.toNat)]),
     ("data", .table .opened [("files", .array (files.map fun text => .string (String.ofList text)))])] := by
  have hmark : Toml.withoutOrderMark (document limit files) = document limit files := rfl
  obtain ⟨tail, htail⟩ : ∃ tail, document limit files = '[' :: 's' :: 'e' :: 'a' :: tail := ⟨_, rfl⟩
  have hfuel : (document limit files).length + 1 = tail.length + 5 := congrArg (·.length + 1) htail
  rw [Toml.read?, hmark, hfuel, statements_document]
  rfl

/-- **The document says what it sets**, and nothing else. -/
theorem ofText?_document : FileSettings.ofText? (document limit files) =
    some ⟨none, some ⟨some limit⟩, some ⟨some (files.map String.ofList)⟩⟩ := by
  have hlimit : FileSettings.limitOf? (.integer limit.toNat) = some limit := by
    rw [FileSettings.limitOf?, if_pos (Int.natCast_nonneg _)]
    exact Text.fit?_eq_some_iff.mpr rfl
  have hfiles : FileSettings.filesOf? (.array (files.map fun text => .string (String.ofList text))) =
      some (files.map String.ofList) := by
    change (files.map fun text => Toml.string (String.ofList text)).mapM Toml.string? = _
    rw [List.mapM_map]
    exact List.mapM_pure
  rw [FileSettings.ofText?, read?_document, Option.bind_some]
  simp [FileSettings.ofEntries?, FileSettings.setting?, FileSettings.sectionOf?, FileSettings.othersAreWhole, hlimit,
    hfiles, List.lookup_cons]

end Settings

end KanjiSearch
