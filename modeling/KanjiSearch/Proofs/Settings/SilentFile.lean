import KanjiSearch.Proofs.Disk.Writing
import KanjiSearch.Proofs.Settings.Discovery
import KanjiSearch.Proofs.Settings.Precedence
import KanjiSearch.Proofs.Settings.RootMark
import KanjiSearch.Proofs.Settings.Template

/-!
# Settings files that say nothing change nothing

A file that says nothing is put where nothing was. Wherever it stands on the way up from a directory, or in the home
directory, it is found among the other files (`filter_discover`), which are found as before; and as none of the settings
is taken from it, the same ones are in force (`load_withText`).

* `decided_mapM`: files that say nothing may be left out of those that are read.
* `silent_or_same`: a path leads to the new file, where nothing was before, or to the same bytes as before.
* `filter_localFiles`, `filter_discover`: without the new file, the files found are those found before.
-/

namespace KanjiSearch

/-- The environment with a text in the file at a place. -/
def Environment.withText (env : Environment) (place : Place) (text : String) : Environment :=
  { env with disk := env.disk.put place (some (.file text.toUTF8)) }

namespace Settings

/-! ## What decides -/

section Decided

variable {env env' : Environment} {p : Path} {paths : List Path} {f : SettingsFile} {files files' : List SettingsFile}

/-- What is taken from settings files: the limit, if one is set, and the file that names record files. -/
abbrev Taken := Option UInt64 × Option (SettingsFile × List String)

/-- What is taken from several files. -/
def decided (files : List SettingsFile) : Taken :=
  (files.findSome? (·.contents.limit?), naming? files)

/-- What is taken when a nearer file comes in front of others. -/
def Taken.behind (f : SettingsFile) (taken : Taken) : Taken :=
  (f.contents.limit?.or taken.1, (f.contents.files?.map fun names => (f, names)).or taken.2)

theorem decided_cons (f : SettingsFile) (files : List SettingsFile) :
    decided (f :: files) = Taken.behind f (decided files) := by
  simp only [decided, naming?, List.findSome?_cons, Taken.behind]
  cases f.contents.limit? <;> cases f.contents.files? <;> rfl

theorem behind_silent (h : f.contents = silent) (taken : Taken) : Taken.behind f taken = taken := by
  rw [Taken.behind, h]
  rfl

/-- What matters of settings to a search. -/
def effective (s : Settings) : UInt64 × List Path × Option Path :=
  (s.limit, s.files, s.source)

/-- Settings depend on what is taken from the files. -/
theorem merge_congr (home : Option Path) (h : decided files = decided files') :
    (merge home files).map effective = (merge home files').map effective := by
  obtain ⟨hlimit, hnaming⟩ := Prod.mk.inj h
  unfold merge
  rw [limitOf_eq, limitOf_eq, hlimit, hnaming]
  cases naming? files' with
  | none => rfl
  | some found =>
    obtain ⟨f, names⟩ := found
    dsimp only
    cases resolveAll? home f names <;> rfl

theorem decided_mapM_cons (hp : readFile env p = .ok f) (paths : List Path) :
    ((p :: paths).mapM (readFile env)).map decided =
      ((paths.mapM (readFile env)).map decided).map (Taken.behind f) := by
  rw [List.mapM_cons, hp]
  cases paths.mapM (readFile env) with
  | error e => rfl
  | ok files => exact congrArg Except.ok (decided_cons f files)

/-- Files that say nothing may be left out of those that are read. -/
theorem decided_mapM {keep : Path → Bool} (hkeep : ∀ p ∈ paths, keep p = true → readFile env' p = readFile env p)
    (hdrop : ∀ p ∈ paths, keep p = false → readFile env' p = .ok ⟨p, silent⟩) :
    (paths.mapM (readFile env')).map decided = ((paths.filter keep).mapM (readFile env)).map decided := by
  induction paths with
  | nil => rfl
  | cons p paths ih =>
    obtain ⟨hkeep, hkeeps⟩ := List.forall_mem_cons.mp hkeep
    obtain ⟨hdrop, hdrops⟩ := List.forall_mem_cons.mp hdrop
    have ih := ih hkeeps hdrops
    cases hp : keep p with
    | false =>
      rw [List.filter_cons_of_neg (by simp [hp]), decided_mapM_cons (hdrop hp), ← ih]
      cases (paths.mapM (readFile env')).map decided with
      | error e => rfl
      | ok taken => exact congrArg Except.ok (behind_silent rfl taken)
    | true =>
      rw [List.filter_cons_of_pos hp]
      cases hread : readFile env p with
      | error e =>
        rw [List.mapM_cons, List.mapM_cons, hkeep hp, hread]
        rfl
      | ok f => rw [decided_mapM_cons ((hkeep hp).trans hread), decided_mapM_cons hread, ih]

/-- Files that are read in the same way give the same settings. -/
theorem loadFiles_of_decided {paths' : List Path} (hhome : env'.home = env.home)
    (h : (paths'.mapM (readFile env')).map decided = (paths.mapM (readFile env)).map decided) :
    (loadFiles env' paths').map effective = (loadFiles env paths).map effective := by
  unfold loadFiles
  cases hread : paths.mapM (readFile env) with
  | error e =>
    cases hread' : paths'.mapM (readFile env') with
    | error e' =>
      rw [hread, hread'] at h
      cases h
      rfl
    | ok files' => rw [hread, hread'] at h; cases h
  | ok files =>
    cases hread' : paths'.mapM (readFile env') with
    | error e' => rw [hread, hread'] at h; cases h
    | ok files' =>
      rw [hread, hread'] at h
      dsimp only
      rw [hhome]
      exact merge_congr env.home (Except.ok.inj h)

end Decided

/-! ## The new file -/

section WithText

variable {env : Environment} {place : Place} {text : String} {p dir : Path}

/-- The path leads to the place. -/
def LeadsTo (env : Environment) (place : Place) (p : Path) : Prop :=
  env.disk.locate (env.directory.join p) = .ok place

theorem bytes?_eq_some_iff {bytes : ByteArray} :
    env.bytes? p = some bytes ↔ env.disk.find (env.directory.join p) = .ok (.file bytes) := by
  unfold Environment.bytes?
  rcases env.disk.find (env.directory.join p) with _ | (_ | _) <;> simp

theorem bytes?_withText_eq_some_iff (hfree : env.disk.IsFree place) {bytes : ByteArray} :
    (env.withText place text).bytes? p = some bytes ↔
      LeadsTo env place p ∧ text.toUTF8 = bytes ∨ ¬ LeadsTo env place p ∧ env.bytes? p = some bytes := by
  have hfind : (env.withText place text).disk.find (env.directory.join p) = .ok (.file bytes) ↔
      LeadsTo env place p ∧ some (Entry.file text.toUTF8) = some (.file bytes) ∨
        ¬ LeadsTo env place p ∧ env.disk.find (env.directory.join p) = .ok (.file bytes) :=
    Disk.find_put_eq_ok_iff hfree (by simp)
  rw [bytes?_eq_some_iff, bytes?_eq_some_iff]
  exact hfind.trans (by simp)

variable (hnone : env.disk.entry? place = none) (hsilent : FileSettings.ofText? text.toList = some silent)
include hnone hsilent

/-- A path leads to the new file, where nothing was before, or to the same bytes as before. -/
theorem silent_or_same (p : Path) :
    LeadsTo env place p ∧ env.isFile p = false ∧ (env.withText place text).isFile p = true ∧
        readFile (env.withText place text) p = .ok ⟨p, silent⟩ ∨
      ¬ LeadsTo env place p ∧ (env.withText place text).bytes? p = env.bytes? p := by
  have hfree := Disk.isFree_of_none hnone
  by_cases hp : LeadsTo env place p
  · have hbytes : (env.withText place text).bytes? p = some text.toUTF8 :=
      (bytes?_withText_eq_some_iff hfree).mpr (.inl ⟨hp, rfl⟩)
    have hbefore : env.bytes? p = none := Option.eq_none_iff_forall_ne_some.mpr fun bytes h => by
      obtain ⟨q, hq, hentry⟩ := Disk.find_eq_ok_iff.mp (bytes?_eq_some_iff.mp h)
      cases hp.symm.trans hq
      cases hnone.symm.trans hentry
    have hread : (env.withText place text).read p = .ok text := by
      rw [read_of_bytes? hbytes, Disk.fromUTF8?_toUTF8]
      rfl
    refine .inl ⟨hp, ?_, ?_, readFile_eq_ok_iff.mpr ⟨rfl, text, hread, hsilent⟩⟩
    · rw [isFile_eq, hbefore]
      rfl
    · rw [isFile_eq, hbytes]
      rfl
  · refine .inr ⟨hp, Option.ext fun bytes => ?_⟩
    rw [bytes?_withText_eq_some_iff hfree]
    simp [hp]

/-! ## Finding files again -/

/-- On the way up, the new file comes in between the files that were found before. -/
theorem filter_localFiles (dirs : List Path) :
    (localFiles (env.withText place text) dirs).1.filter env.isFile = (localFiles env dirs).1 ∧
      (localFiles (env.withText place text) dirs).2 = (localFiles env dirs).2 := by
  induction dirs with
  | nil => exact ⟨rfl, rfl⟩
  | cons d dirs ih =>
    obtain ⟨hfiles, hmark⟩ := ih
    rcases silent_or_same hnone hsilent (fileIn d) with ⟨-, hbefore, hisFile, hread⟩ | ⟨-, hsame⟩
    · have hroot : isRoot (env.withText place text) (fileIn d) = false := by
        rw [isRoot, hread]
        rfl
      simp only [localFiles, hbefore, hisFile, hroot, Bool.not_true, Bool.not_false, Bool.false_eq_true, if_true,
        if_false]
      exact ⟨by rw [List.filter_cons_of_neg (by simp [hbefore]), hfiles], hmark⟩
    · have hisFile : (env.withText place text).isFile (fileIn d) = env.isFile (fileIn d) := by
        rw [isFile_eq, isFile_eq, hsame]
      have hroot : isRoot (env.withText place text) (fileIn d) = isRoot env (fileIn d) := isRoot_congr hsame
      simp only [localFiles, hisFile, hroot]
      cases hfile : env.isFile (fileIn d) with
      | false => exact ⟨hfiles, hmark⟩
      | true =>
        cases isRoot env (fileIn d) with
        | true => exact ⟨List.filter_cons_of_pos hfile, rfl⟩
        | false => exact ⟨by simp [hfile, hfiles], hmark⟩

/-- The new file is not taken for a file that was found before. -/
theorem isFile_of_same {p file : Path} (hp : (env.withText place text).isFile p = true)
    (hfile : env.isFile file = true) (hsame : p.same file = true) : env.isFile p = true := by
  rcases silent_or_same hnone hsilent p with ⟨hleads, -⟩ | ⟨-, hbytes⟩
  · rw [isFile_eq, Option.isSome_iff_exists] at hfile
    obtain ⟨bytes, hbytes⟩ := hfile
    obtain ⟨q, hq, hentry⟩ := Disk.find_eq_ok_iff.mp (bytes?_eq_some_iff.mp hbytes)
    have hplace : place = q := Disk.locate_join_of_same hsame hleads hq
    cases (hplace ▸ hnone).symm.trans hentry
  · rwa [isFile_eq, ← hbytes, ← isFile_eq]

/-- On the way up, a file that was there before is met as before. -/
theorem any_same_localFiles (dirs : List Path) {file : Path} (hfile : env.isFile file = true) :
    (localFiles (env.withText place text) dirs).1.any (·.same file) =
      (localFiles env dirs).1.any (·.same file) := by
  rw [← (filter_localFiles hnone hsilent dirs).1, Bool.eq_iff_iff, List.any_eq_true, List.any_eq_true]
  refine ⟨fun ⟨p, hp, hsame⟩ => ⟨p, List.mem_filter.mpr ⟨hp, ?_⟩, hsame⟩, fun ⟨p, hp, hsame⟩ => ?_⟩
  · exact isFile_of_same hnone hsilent (isFile_of_mem_localFiles hp) hfile hsame
  · exact ⟨p, (List.mem_filter.mp hp).1, hsame⟩

/-- Without the new file, the files that apply in a directory are those that applied before. -/
theorem filter_discover (dir : Path) :
    (discover (env.withText place text) dir).filter env.isFile = discover env dir := by
  obtain ⟨hfiles, hmark⟩ := filter_localFiles hnone hsilent (dir :: dir.parents)
  unfold discover
  dsimp only
  rw [hmark]
  have hhome : (env.withText place text).home = env.home := rfl
  rw [hhome]
  cases globalFile? env.home with
  | none => exact hfiles
  | some file =>
    dsimp only
    cases hfile : env.isFile file with
    | false =>
      have hdropped : ∀ files : List Path, (files ++ [file]).filter env.isFile = files.filter env.isFile := by
        simp [List.filter_append, hfile]
      split
      · simp [hdropped, hfiles]
      · simp [hfiles]
    | true =>
      have hisFile : (env.withText place text).isFile file = true := by
        rcases silent_or_same hnone hsilent file with ⟨-, hbefore, -⟩ | ⟨-, hbytes⟩
        · rw [hbefore] at hfile
          cases hfile
        · rw [isFile_eq, hbytes, ← isFile_eq, hfile]
      rw [hisFile, any_same_localFiles hnone hsilent _ hfile]
      split
      · simp [List.filter_append, hfile, hfiles]
      · exact hfiles

/-- **A new file that says nothing changes no settings**, and loading them fails as before. -/
theorem load_withText (dir : Path) :
    (load (env.withText place text) dir).map effective = (load env dir).map effective := by
  have hread : ((discover (env.withText place text) dir).mapM (readFile (env.withText place text))).map decided =
      ((discover env dir).mapM (readFile env)).map decided := by
    rw [← filter_discover hnone hsilent dir]
    refine decided_mapM (fun p _ hp => ?_) (fun p hmem hp => ?_)
    · rcases silent_or_same hnone hsilent p with ⟨-, hbefore, -⟩ | ⟨-, hbytes⟩
      · rw [hbefore] at hp
        cases hp
      · exact (readFile_congr hbytes.symm hp).symm
    · rcases silent_or_same hnone hsilent p with ⟨-, -, -, hread⟩ | ⟨-, hbytes⟩
      · exact hread
      · have hisFile := isFile_of_mem_discover hmem
        rw [isFile_eq, hbytes, ← isFile_eq, hp] at hisFile
        cases hisFile
  exact loadFiles_of_decided rfl hread

end WithText

end Settings

end KanjiSearch
