import KanjiSearch.Proofs.Lists
import KanjiSearch.Proofs.Path.Resolution
import KanjiSearch.Proofs.Settings.Discovery
import KanjiSearch.Proofs.Settings.Document
import KanjiSearch.Proofs.Settings.Precedence

/-!
# Settings survive being written

* `isAbsolute_files`: the settings in force in an absolute directory name record files by absolute paths.
* `merge_contentsFor`: a settings file that names absolute paths names them wherever it stands.
* `load_written`: so the written form of settings in force, read back as the only settings file, gives them again. It
  sets no root mark, sets the limit, and names the record files in order, even if there are none.
-/

namespace KanjiSearch.Settings

variable {env : Environment} {dir home : Path} {s : Settings}

/-- Settings files that apply in an absolute directory have absolute directories. -/
theorem isAbsolute_directory_of_mem_discover (hhome : ∀ home ∈ env.home, home.isAbsolute = true)
    (hdir : dir.isAbsolute = true) {f : SettingsFile} (hf : f.path ∈ discover env dir) :
    f.directory.isAbsolute = true := by
  rcases mem_discover hf with ⟨d, hd, hpath⟩ | ⟨home, hmem, hpath⟩
  · refine isAbsolute_directory hpath ?_
    rcases List.mem_cons.mp hd with rfl | hd
    · exact hdir
    · exact Path.isAbsolute_of_mem_parents hdir hd
  · exact isAbsolute_directory hpath (hhome home hmem)

/-- Every record file is named by one of the settings files. -/
theorem exists_of_mem_files {home : Option Path} {files : List SettingsFile} (hmerge : merge home files = .ok s)
    {p : Path} (hp : p ∈ s.files) : ∃ f ∈ files, ∃ name, Path.resolve? home f.directory name = some p := by
  unfold merge at hmerge
  dsimp only at hmerge
  cases hnaming : naming? files with
  | none =>
    rw [hnaming] at hmerge
    cases hmerge
    cases hp
  | some found =>
    obtain ⟨f, names⟩ := found
    rw [hnaming] at hmerge
    dsimp only at hmerge
    cases hpaths : resolveAll? home f names with
    | none => rw [hpaths] at hmerge; cases hmerge
    | some paths =>
      rw [hpaths] at hmerge
      cases hmerge
      obtain ⟨name, -, hname⟩ := exists_left_of_forall₂ (mapM_eq_some_iff.mp hpaths) hp
      obtain ⟨g, hg, hfound⟩ := List.exists_of_findSome?_eq_some hnaming
      obtain ⟨_, -, heq⟩ := Option.map_eq_some_iff.mp hfound
      cases heq
      exact ⟨f, hg, name.toList, hname⟩

/-- **Record files have absolute paths.** -/
theorem isAbsolute_files (hhome : ∀ home ∈ env.home, home.isAbsolute = true) (hdir : dir.isAbsolute = true)
    (hload : load env dir = .ok s) : ∀ p ∈ s.files, p.isAbsolute = true := by
  intro p hp
  unfold load loadFiles at hload
  cases hfiles : (discover env dir).mapM (readFile env) with
  | error e => rw [hfiles] at hload; cases hload
  | ok files =>
    rw [hfiles] at hload
    obtain ⟨f, hf, name, hname⟩ := exists_of_mem_files hload hp
    have hpath : f.path ∈ discover env dir := by
      obtain ⟨q, hq, hread⟩ := exists_left_of_forall₂ (mapM_eq_ok_iff.mp hfiles) hf
      rwa [(readFile_eq_ok_iff.mp hread).1]
    exact Path.isAbsolute_resolve? (isAbsolute_directory_of_mem_discover hhome hdir hpath) hname

/-- What a settings file says that sets the limit and the record files. -/
def contentsFor (limit : UInt64) (files : List Path) : FileSettings :=
  ⟨none, some ⟨some limit⟩, some ⟨some (files.map (·.toString))⟩⟩

theorem ofText?_toToml (s : Settings) : FileSettings.ofText? s.toToml = some (contentsFor s.limit s.files) := by
  rw [toToml_eq, ofText?_document, List.map_map]
  rfl

/-- A settings file that names absolute paths names them wherever it stands. -/
theorem merge_contentsFor (home : Option Path) (path : Path) (limit : UInt64) {files : List Path}
    (habs : ∀ p ∈ files, p.isAbsolute = true) :
    merge home [⟨path, contentsFor limit files⟩] =
      .ok ⟨limit, files, some path, some (path.parent?.getD (.ofString "."))⟩ := by
  have hresolve : ∀ f : SettingsFile, resolveAll? home f (files.map (·.toString)) = some files := fun f => by
    rw [resolveAll?, mapM_eq_some_iff, List.forall₂_map_left_iff, List.forall₂_same]
    intro p hp
    simpa [Path.toString] using Path.resolve?_text home f.directory (habs p hp)
  have hnaming : naming? [⟨path, contentsFor limit files⟩] =
      some (⟨path, contentsFor limit files⟩, files.map (·.toString)) := rfl
  rw [merge, hnaming]
  dsimp only
  rw [hresolve]
  rfl

/-- **The settings in force survive being written and read back.** Wherever their written form stands, alone it gives
the same limit and the same record files. -/
theorem load_written (hhome : env.home = some home) (hhomeAbs : home.isAbsolute = true)
    (hdir : dir.isAbsolute = true) (hload : load env dir = .ok s) :
    FileSettings.ofText? s.toToml = some ⟨none, some ⟨some s.limit⟩, some ⟨some (s.files.map (·.toString))⟩⟩ ∧
    ∀ contents, FileSettings.ofText? s.toToml = some contents → ∀ home' path,
      ∃ s', merge home' [⟨path, contents⟩] = .ok s' ∧ s'.limit = s.limit ∧ s'.files = s.files := by
  refine ⟨ofText?_toToml s, fun contents hcontents home' path => ?_⟩
  cases (ofText?_toToml s).symm.trans hcontents
  have habs : ∀ p ∈ s.files, p.isAbsolute = true :=
    isAbsolute_files (fun home' hmem => by rw [hhome] at hmem; cases hmem; exact hhomeAbs) hdir hload
  exact ⟨_, merge_contentsFor home' path s.limit habs, rfl, rfl⟩

/-- A directory whose settings file names record files by a quote, a line break with a backslash, and a control code. -/
def oddNames : Environment where
  disk := (Disk.empty.withDirectories ["work".toList]).put [".kanji.toml".toList, "work".toList]
    (some (.file "[search]\nlimit = 7\n[data]\nfiles = ['a\"b', \"\"\"c'\nd\\\\\"\"\", \"~/\\u0001\"]\n".toUTF8))
  directory := .ofString "/work"
  home := some (.ofString "/home/me")

/-- The settings in force there. -/
def oddSettings : Settings where
  limit := 7
  files := [.ofString "/work/a\"b", .ofString "/work/c'\nd\\", .ofString "/home/me/\x01"]
  source := some (.ofString "/work/.kanji.toml")
  directory := some (.ofString "/work")

theorem load_written_odd_names : load oddNames oddNames.directory = .ok oddSettings ∧
    ∃ s', merge none [⟨.ofString "k", ⟨none, some ⟨some 7⟩,
      some ⟨some ["/work/a\"b", "/work/c'\nd\\", "/home/me/\x01"]⟩⟩⟩] = .ok s' ∧ s'.limit = 7 ∧
        s'.files = oddSettings.files := by
  have hload : load oddNames oddNames.directory = .ok oddSettings := by decide +kernel
  obtain ⟨hread, hmerge⟩ :=
    @load_written oddNames (.ofString "/work") (.ofString "/home/me") oddSettings rfl rfl rfl hload
  exact ⟨hload, hmerge _ hread none (.ofString "k")⟩

end KanjiSearch.Settings
