import KanjiSearch.Proofs.Lists
import KanjiSearch.Proofs.Path.Resolution
import KanjiSearch.Settings.Discovery

/-!
# The nearest file that has a setting decides

The limit is found by letting nearer files replace what farther ones say, the record files by looking for the first file
that names some. Both come to the same: a setting is the one of the first file that has it (`Decides`), and files behind
that one do not matter.

* `limitOf_eq`, `naming?_of_decides`: the two settings.
* `exists_merge`: when the home directory is known, files always have settings.
* `loadFiles_fails_iff`, `first_of_error`: files cannot be loaded when one of them cannot be read, and the first such
  one is named.
* `settings_precedence`: all of this together.
-/

namespace KanjiSearch.Settings

/-! ## The file that decides -/

/-- `f` is the first of `files` that has a setting, and has the value `a` for it. -/
def Decides {α : Type} (setting? : SettingsFile → Option α) (files : List SettingsFile) (f : SettingsFile) (a : α) :
    Prop :=
  ∃ before after, files = before ++ f :: after ∧ (∀ g ∈ before, setting? g = none) ∧ setting? f = some a

section Decides

variable {α : Type} {setting? : SettingsFile → Option α} {files : List SettingsFile} {f : SettingsFile} {a : α}

theorem Decides.findSome? (h : Decides setting? files f a) : files.findSome? setting? = some a := by
  obtain ⟨before, after, rfl, hbefore, hf⟩ := h
  exact List.findSome?_eq_some_iff.mpr ⟨before, f, after, rfl, hf, hbefore⟩

/-- Where a file has a setting, files behind it do not decide. -/
theorem exists_decides (hf : setting? f ≠ none) (before : List SettingsFile) :
    ∃ g a, ∀ after, Decides setting? (before ++ f :: after) g a := by
  induction before with
  | nil =>
    obtain ⟨a, ha⟩ := Option.ne_none_iff_exists'.mp hf
    exact ⟨f, a, fun after => ⟨[], after, rfl, by simp, ha⟩⟩
  | cons g before ih =>
    cases hg : setting? g with
    | some a => exact ⟨g, a, fun after => ⟨[], before ++ f :: after, rfl, by simp, hg⟩⟩
    | none =>
      obtain ⟨g', a, h⟩ := ih
      refine ⟨g', a, fun after => ?_⟩
      obtain ⟨before', after', hsplit, hbefore, ha⟩ := h after
      exact ⟨g :: before', after', congrArg (g :: ·) hsplit, List.forall_mem_cons.mpr ⟨hg, hbefore⟩, ha⟩

end Decides

/-- Nearer files replace what farther ones say, and so the nearest one decides. -/
theorem limitOf_eq (files : List SettingsFile) :
    limitOf files = (files.findSome? (·.contents.limit?)).getD 50 := by
  unfold limitOf
  induction files with
  | nil => rfl
  | cons f files ih =>
    rw [List.foldr_cons, withLimitOf, List.findSome?_cons]
    cases f.contents.limit? with
    | some limit => rfl
    | none => exact ih

theorem naming?_of_decides {files : List SettingsFile} {f : SettingsFile} {names : List String}
    (h : Decides (·.contents.files?) files f names) : naming? files = some (f, names) := by
  obtain ⟨before, after, rfl, hbefore, hf⟩ := h
  refine List.findSome?_eq_some_iff.mpr ⟨before, f, after, rfl, by simp [hf], fun g hg => ?_⟩
  simp [hbefore g hg]

/-! ## Merged files -/

section Merge

variable {home : Path} {files : List SettingsFile}

theorem exists_resolveAll? (home : Path) (f : SettingsFile) (names : List String) :
    ∃ paths, resolveAll? (some home) f names = some paths ∧
      List.Forall₂ (fun name p => Path.resolve? (some home) f.directory name.toList = some p) names paths := by
  suffices h : ∃ paths, List.Forall₂
      (fun name p => Path.resolve? (some home) f.directory name.toList = some p) names paths by
    obtain ⟨paths, h⟩ := h
    exact ⟨paths, mapM_eq_some_iff.mpr h, h⟩
  induction names with
  | nil => exact ⟨[], .nil⟩
  | cons name names ih =>
    obtain ⟨paths, h⟩ := ih
    obtain ⟨p, hp⟩ := Path.exists_resolve? home f.directory name.toList
    exact ⟨p :: paths, .cons hp h⟩

/-- The settings `s` are those of `files`, the nearest first. -/
structure Follows (home : Path) (files : List SettingsFile) (s : Settings) : Prop where
  /-- the limit is the one of the first file that sets one -/
  limit : ∀ f limit, Decides (·.contents.limit?) files f limit → s.limit = limit
  limit_default : (∀ f ∈ files, f.contents.limit? = none) → s.limit = 50
  /-- the record files are those of the first file that names some, even if these are none at all, read from the
  directory of that file -/
  records : ∀ f names, Decides (·.contents.files?) files f names →
    List.Forall₂ (fun name p => Path.resolve? (some home) f.directory name.toList = some p) names s.files ∧
      s.source = some f.path
  records_default : (∀ f ∈ files, f.contents.files? = none) → s.files = [] ∧ s.source = none
  /-- the directory is the one of the nearest file, whatever that file says -/
  directory : s.directory = files.head?.map (·.directory)

theorem exists_merge (home : Path) (files : List SettingsFile) :
    ∃ s, merge (some home) files = .ok s ∧ Follows home files s := by
  have hlimit : ∀ f limit, Decides (·.contents.limit?) files f limit → limitOf files = limit := fun f limit h => by
    rw [limitOf_eq, h.findSome?]; rfl
  have hdefault : (∀ f ∈ files, f.contents.limit? = none) → limitOf files = 50 := fun h => by
    rw [limitOf_eq, List.findSome?_eq_none_iff.mpr h]; rfl
  unfold merge
  cases hnaming : naming? files with
  | none =>
    refine ⟨_, rfl, hlimit, hdefault, fun f names h => ?_, fun _ => ⟨rfl, rfl⟩, rfl⟩
    cases hnaming.symm.trans (naming?_of_decides h)
  | some found =>
    obtain ⟨f, names⟩ := found
    obtain ⟨paths, hpaths, hresolved⟩ := exists_resolveAll? home f names
    simp only [hpaths]
    refine ⟨_, rfl, hlimit, hdefault, fun g names' h => ?_, fun hnone => ?_, rfl⟩
    · cases hnaming.symm.trans (naming?_of_decides h)
      exact ⟨hresolved, rfl⟩
    · have hnaming' : naming? files = none := List.findSome?_eq_none_iff.mpr fun g hg => by simp [hnone g hg]
      cases hnaming.symm.trans hnaming'

theorem follows_of_merge {s : Settings} (h : merge (some home) files = .ok s) : Follows home files s := by
  obtain ⟨s', hs', hfollows⟩ := exists_merge home files
  cases h.symm.trans hs'
  exact hfollows

/-- Files behind one that has a setting do not matter to it. -/
theorem limit_eq_of_follows {before after after' : List SettingsFile} {f : SettingsFile} {s s' : Settings}
    (h : Follows home (before ++ f :: after) s) (h' : Follows home (before ++ f :: after') s')
    (hf : f.contents.limit? ≠ none) : s.limit = s'.limit := by
  obtain ⟨g, limit, hg⟩ := @exists_decides _ (·.contents.limit?) _ hf before
  exact (h.limit g limit (hg after)).trans (h'.limit g limit (hg after')).symm

theorem records_eq_of_follows {before after after' : List SettingsFile} {f : SettingsFile} {s s' : Settings}
    (h : Follows home (before ++ f :: after) s) (h' : Follows home (before ++ f :: after') s')
    (hf : f.contents.files? ≠ none) : s.files = s'.files ∧ s.source = s'.source := by
  obtain ⟨g, names, hg⟩ := @exists_decides _ (·.contents.files?) _ hf before
  obtain ⟨hfiles, hsource⟩ := h.records g names (hg after)
  obtain ⟨hfiles', hsource'⟩ := h'.records g names (hg after')
  refine ⟨?_, hsource.trans hsource'.symm⟩
  exact Option.some.inj ((mapM_eq_some_iff.mpr hfiles).symm.trans (mapM_eq_some_iff.mpr hfiles'))

end Merge

/-! ## Loaded files -/

/-- The file at a path can be read, and is a settings file. -/
def CanBeRead (env : Environment) (p : Path) : Prop :=
  ∃ text contents, env.read p = .ok text ∧ FileSettings.ofText? text.toList = some contents

section Load

variable {env : Environment} {home : Path} {p : Path} {paths : List Path}

theorem readFile_eq_ok_iff {f : SettingsFile} : readFile env p = .ok f ↔
    f.path = p ∧ ∃ text, env.read p = .ok text ∧ FileSettings.ofText? text.toList = some f.contents := by
  obtain ⟨path, contents⟩ := f
  unfold readFile
  cases env.read p with
  | error cause => simp
  | ok text => cases hcontents : FileSettings.ofText? text.toList <;> simp [hcontents, eq_comm]

theorem canBeRead_iff : CanBeRead env p ↔ ∃ f, readFile env p = .ok f := by
  constructor
  · rintro ⟨text, contents, hread, hcontents⟩
    exact ⟨⟨p, contents⟩, readFile_eq_ok_iff.mpr ⟨rfl, text, hread, hcontents⟩⟩
  · rintro ⟨f, hf⟩
    obtain ⟨-, text, hread, hcontents⟩ := readFile_eq_ok_iff.mp hf
    exact ⟨text, f.contents, hread, hcontents⟩

theorem not_canBeRead_iff : ¬ CanBeRead env p ↔ ∃ e, readFile env p = .error e := by
  rw [canBeRead_iff]
  cases readFile env p <;> simp

/-- An error names the file that could not be read. -/
theorem error_of_readFile {e : SettingsError} (h : readFile env p = .error e) :
    (∃ cause, e = .unreadable p cause) ∨ e = .malformed p := by
  unfold readFile at h
  split at h
  · next cause _ =>
    cases h
    exact .inl ⟨cause, rfl⟩
  · split at h
    · cases h
    · cases h
      exact .inr rfl

theorem loadFiles_of_forall₂ {files : List SettingsFile}
    (h : List.Forall₂ (fun p f => readFile env p = .ok f) paths files) :
    loadFiles env paths = merge env.home files := by
  rw [loadFiles, mapM_eq_ok_iff.mpr h]

/-- When the home directory is known, only reading may fail. -/
theorem loadFiles_eq_error_iff (hhome : env.home = some home) {e : SettingsError} :
    loadFiles env paths = .error e ↔ paths.mapM (readFile env) = .error e := by
  unfold loadFiles
  cases paths.mapM (readFile env) with
  | error e' => simp
  | ok files =>
    obtain ⟨s, hs, -⟩ := exists_merge home files
    simp [hhome, hs]

/-- Loading fails exactly when one of the files cannot be read. -/
theorem loadFiles_fails_iff (hhome : env.home = some home) :
    (∃ e, loadFiles env paths = .error e) ↔ ∃ p ∈ paths, ¬ CanBeRead env p := by
  simp only [loadFiles_eq_error_iff hhome, exists_mapM_error_iff, not_canBeRead_iff]

/-- The error of the first file that cannot be read. -/
theorem first_of_error (hhome : env.home = some home) {e : SettingsError} (h : loadFiles env paths = .error e) :
    ∃ before p after, paths = before ++ p :: after ∧ (∀ q ∈ before, CanBeRead env q) ∧ ¬ CanBeRead env p ∧
      ((∃ cause, e = .unreadable p cause) ∨ e = .malformed p) := by
  obtain ⟨before, p, after, hpaths, hbefore, hp⟩ := first_of_mapM_error ((loadFiles_eq_error_iff hhome).mp h)
  exact ⟨before, p, after, hpaths, fun q hq => canBeRead_iff.mpr (hbefore q hq), not_canBeRead_iff.mpr ⟨e, hp⟩,
    error_of_readFile hp⟩

end Load

/-- **Each setting is the one of the nearest file that has it**, and an error names the first file that cannot
be read. -/
theorem settings_precedence {env : Environment} {home : Path} (hhome : env.home = some home) :
    (∀ files, ∃ s, merge env.home files = .ok s ∧ Follows home files s) ∧
    (∀ before f after after' s s', merge env.home (before ++ f :: after) = .ok s →
      merge env.home (before ++ f :: after') = .ok s' →
      (f.contents.limit? ≠ none → s.limit = s'.limit) ∧
      (f.contents.files? ≠ none → s.files = s'.files ∧ s.source = s'.source)) ∧
    (∀ paths, (∀ files, List.Forall₂ (fun p f => readFile env p = .ok f) paths files →
        loadFiles env paths = merge env.home files) ∧
      ((∃ e, loadFiles env paths = .error e) ↔ ∃ p ∈ paths, ¬ CanBeRead env p) ∧
      (∀ e, loadFiles env paths = .error e → ∃ before p after, paths = before ++ p :: after ∧
        (∀ q ∈ before, CanBeRead env q) ∧ ¬ CanBeRead env p ∧
        ((∃ cause, e = .unreadable p cause) ∨ e = .malformed p))) := by
  refine ⟨fun files => ?_, fun before f after after' s s' h h' => ?_, fun paths => ?_⟩
  · rw [hhome]
    exact exists_merge home files
  · rw [hhome] at h h'
    exact ⟨limit_eq_of_follows (follows_of_merge h) (follows_of_merge h'),
      records_eq_of_follows (follows_of_merge h) (follows_of_merge h')⟩
  · exact ⟨fun _ => loadFiles_of_forall₂, loadFiles_fails_iff hhome, fun _ => first_of_error hhome⟩

/-- The nearer file names no record files at all, and the farther one sets the limit; neither is on the disk. -/
theorem settings_precedence_no_records :
    let near : SettingsFile := ⟨.ofString "/work/a/.kanji.toml", ⟨none, none, some ⟨some []⟩⟩⟩
    let far : SettingsFile := ⟨.ofString "/work/.kanji.toml", ⟨none, some ⟨some 7⟩, some ⟨some ["k.json"]⟩⟩⟩
    let env : Environment := ⟨Disk.empty, .ofString "/work/a", some (.ofString "/home/me")⟩
    (∃ s, merge env.home [near, far] = .ok s ∧ s.limit = 7 ∧ s.files = [] ∧ s.source = some near.path) ∧
      ∃ e, loadFiles env [near.path, far.path] = .error e := by
  intro near far env
  obtain ⟨hmerge, -, hload⟩ := @settings_precedence env _ rfl
  obtain ⟨s, hs, hfollows⟩ := hmerge [near, far]
  have hlimit := hfollows.limit far 7 ⟨[near], [], rfl, by simp [near, FileSettings.limit?], rfl⟩
  obtain ⟨hnone, hsource⟩ := hfollows.records near [] ⟨[], [far], rfl, by simp, rfl⟩
  refine ⟨⟨s, hs, hlimit, List.forall₂_nil_left_iff.mp hnone, hsource⟩, ?_⟩
  refine (hload [near.path, far.path]).2.1.mpr ⟨near.path, List.mem_cons_self, ?_⟩
  rintro ⟨text, contents, hread, -⟩
  cases (show env.read near.path = .error .notFound by rfl).symm.trans hread

end KanjiSearch.Settings
