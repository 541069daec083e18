import KanjiSearch.Command.Run
import KanjiSearch.Proofs.Settings.SilentFile

/-!
# Starting changes no settings

The command that writes a new settings file leaves the disk alone, or puts the file at its place, or a beginning of it
where writing breaks off (`run_start_cases`). All of this says nothing, and so the settings in force stay as they are,
unless another file was overwritten. Once there is a file, the command fails, unless it is told to overwrite.

* `status_start_iff`: the command succeeds when there is a file to be started, the command may write it, and there is
  room for it at a place where a file can stand.
* `broken_of_failed`: if it fails, the disk is as before, or the file has broken off.
* `exists_started`: if it succeeds, the place of the file may differ from before, and no other place.
* `load_started`: if it was not told to overwrite, the settings stay as they are for all commands in all directories:
  loading them fails as before, or gives the same limit and the same record files from the same source.
* `run_start_again`: another start of the same file fails and leaves the disk alone. Only where the first one has done
  nothing, this rests on what kept it from writing.
* `start_confined`: all of this together.
* `start_breaks_off`: a start that fails may leave a file behind, and a start of another file may succeed.
-/

namespace KanjiSearch.Command

variable {env : Environment} {atHome overwrite : Bool} {f : NewFile} {disk : Disk}

/-! ## The file to be written -/

theorem isHome_iff : isHome env = true ↔ ∃ home, env.home = some home ∧ home.same env.directory = true := by
  unfold isHome
  cases hhome : env.home with
  | none => simp [Settings.globalFile?]
  | some home =>
    obtain ⟨q, hq, hcomponents⟩ := Settings.exists_parent?_fileIn home
    have hparent : (Settings.globalFile? (some home)).bind (·.parent?) = some q := hq
    rw [hparent]
    simp [Path.same, hcomponents]

/-- The settings file that is started: that of the home directory if it is asked for or if the command runs there, or
else that of the current directory. -/
def IsTarget (env : Environment) (atHome : Bool) (f : NewFile) : Prop :=
  (∃ home, env.home = some home ∧ (atHome = true ∨ home.same env.directory = true) ∧
      f = ⟨Settings.fileIn home, Settings.homeTemplate⟩) ∨
    atHome = false ∧ (∀ home, env.home = some home → home.same env.directory = false) ∧
      f = ⟨Settings.fileIn env.directory, Settings.projectTemplate⟩

theorem isTarget_iff : IsTarget env atHome f ↔ newFile? env atHome = some f := by
  constructor
  · rintro (⟨home, hhome, hasked, rfl⟩ | ⟨hnot, hother, rfl⟩)
    · have hcondition : (atHome || isHome env) = true := by
        rw [Bool.or_eq_true, isHome_iff]
        exact hasked.imp_right fun hsame => ⟨home, hhome, hsame⟩
      rw [newFile?, if_pos hcondition, hhome]
      rfl
    · have hcondition : ¬ (atHome || isHome env) = true := by
        rw [Bool.or_eq_true, not_or, isHome_iff]
        refine ⟨by simp [hnot], fun ⟨home, hhome, hsame⟩ => ?_⟩
        rw [hother home hhome] at hsame
        cases hsame
      exact if_neg hcondition
  · intro h
    unfold newFile? at h
    split at h
    · next hasked =>
      obtain ⟨path, hpath, rfl⟩ := Option.map_eq_some_iff.mp h
      obtain ⟨home, hhome, rfl⟩ := Option.map_eq_some_iff.mp hpath
      refine .inl ⟨home, hhome, ?_, rfl⟩
      rw [Bool.or_eq_true, isHome_iff] at hasked
      refine hasked.imp_right fun ⟨home', hhome', hsame⟩ => ?_
      cases hhome.symm.trans hhome'
      exact hsame
    · next hasked =>
      cases h
      rw [Bool.or_eq_true, not_or, Bool.not_eq_true, isHome_iff] at hasked
      refine .inr ⟨hasked.1, fun home hhome => ?_, rfl⟩
      exact Bool.eq_false_iff.mpr fun hsame => hasked.2 ⟨home, hhome, hsame⟩

/-- New settings files say nothing, however much of them is there. -/
theorem IsTarget.silent (h : IsTarget env atHome f) {beginning : List Char} (hbeginning : beginning <+: f.text.toList) :
    FileSettings.ofText? beginning = some Settings.silent := by
  rcases h with ⟨home, -, -, rfl⟩ | ⟨-, -, rfl⟩
  · exact Settings.ofText?_homeTemplate hbeginning
  · exact Settings.ofText?_projectTemplate hbeginning

theorem IsTarget.utf8Size (h : IsTarget env atHome f) : ∀ c ∈ f.text.toList, c.utf8Size = 1 := by
  rcases h with ⟨home, -, -, rfl⟩ | ⟨-, -, rfl⟩
  · exact Settings.utf8Size_of_mem_homeTemplate
  · exact Settings.utf8Size_of_mem_projectTemplate

/-! ## What the command does -/

theorem planStart_eq_ok_iff : planStart env atHome overwrite = .ok f ↔
    IsTarget env atHome f ∧ (overwrite = true ∨ env.hasEntry f.path = false) := by
  rw [isTarget_iff, planStart]
  cases newFile? env atHome with
  | none => simp
  | some f' =>
    by_cases hkept : (env.hasEntry f'.path && !overwrite) = true
    · simp only [hkept, if_true, reduceCtorEq, Option.some.injEq, false_iff, not_and]
      rintro rfl
      simpa [and_comm] using hkept
    · simp only [hkept, Bool.false_eq_true, if_false, Except.ok.injEq, Option.some.injEq]
      refine (and_iff_left_of_imp ?_).symm
      rintro rfl
      cases overwrite with
      | true => exact .inl rfl
      | false => exact .inr (by simpa using hkept)

theorem status_of_planStart {report : Report} (h : planStart env atHome overwrite = .error report) :
    report.status ≠ 0 := by
  unfold planStart at h
  split at h
  · cases h
    simp [Report.failure]
  · split at h <;> cases h
    simp [Report.failure]

theorem run_start_unplanned {report : Report} (hplan : planStart env atHome overwrite = .error report) :
    (start atHome overwrite).run env = ⟨report, env.disk⟩ := by
  simp only [run, runStart, hplan]

theorem run_start_written (hplan : planStart env atHome overwrite = .ok f)
    (hwrite : env.write f.path f.text = .ok disk) : (start atHome overwrite).run env = ⟨reportWritten f, disk⟩ := by
  simp only [run, runStart, hplan, hwrite]

theorem run_start_unwritten {u : Disk.Unwritten} (hplan : planStart env atHome overwrite = .ok f)
    (hwrite : env.write f.path f.text = .error u) :
    (start atHome overwrite).run env = ⟨reportNotWritten f u.cause.message, u.disk⟩ := by
  simp only [run, runStart, hplan, hwrite]

/-- The file `f` may be written to a place, and stands there as far as it was written. -/
structure Leaves (env : Environment) (atHome overwrite : Bool) (f : NewFile) (place : Place) (written : String)
    (disk : Disk) : Prop where
  isTarget : IsTarget env atHome f
  isNew : overwrite = true ∨ env.hasEntry f.path = false
  locate : env.disk.locate (env.directory.join f.path) = .ok place
  isFree : env.disk.IsFree place
  isBeginning : written.toList <+: f.text.toList
  disk_eq : disk = env.disk.put place (some (.file written.toUTF8))

/-- The command fails and leaves the disk alone, or writes the file, or breaks off. -/
theorem run_start_cases (env : Environment) (atHome overwrite : Bool) :
    let outcome := (start atHome overwrite).run env
    outcome.report.status ≠ 0 ∧ outcome.disk = env.disk ∨
      ∃ f place written, Leaves env atHome overwrite f place written outcome.disk ∧
        (outcome.report.status = 0 ∧ written = f.text ∧ env.disk.HasRoom f.text.toUTF8.size ∨
          outcome.report.status ≠ 0 ∧ env.disk.BrokenOff place f.text.toUTF8 outcome.disk) := by
  intro outcome
  cases hplan : planStart env atHome overwrite with
  | error report =>
    have houtcome : outcome = ⟨report, env.disk⟩ := run_start_unplanned hplan
    rw [houtcome]
    exact .inl ⟨status_of_planStart hplan, rfl⟩
  | ok f =>
    obtain ⟨htarget, hnew⟩ := planStart_eq_ok_iff.mp hplan
    cases hwrite : env.write f.path f.text with
    | ok disk =>
      have houtcome : outcome = ⟨reportWritten f, disk⟩ := run_start_written hplan hwrite
      rw [houtcome]
      obtain ⟨place, hlocate, hfree, hroom, hdisk⟩ := Disk.write_eq_ok_iff.mp hwrite
      exact .inr ⟨f, place, f.text, ⟨htarget, hnew, hlocate, hfree, List.prefix_refl _, hdisk⟩, .inl ⟨rfl, rfl, hroom⟩⟩
    | error unwritten =>
      have houtcome : outcome = ⟨reportNotWritten f unwritten.cause.message, unwritten.disk⟩ :=
        run_start_unwritten hplan hwrite
      rw [houtcome]
      have hstatus : (reportNotWritten f unwritten.cause.message).status ≠ 0 := by
        simp [reportNotWritten, Report.failure]
      rcases Disk.disk_of_write_error hwrite with hdisk | ⟨place, hlocate, hfree, hbroken⟩
      · exact .inl ⟨hstatus, hdisk⟩
      · obtain ⟨room, cause, hobstacle, hroom, hdisk⟩ := hbroken
        have hbytes := Disk.extract_toUTF8 htarget.utf8Size hroom
        refine .inr ⟨f, place, String.ofList (f.text.toList.take room), ⟨htarget, hnew, hlocate, hfree, ?_, ?_⟩, .inr
          ⟨hstatus, room, cause, hobstacle, hroom, hdisk⟩⟩
        · rw [String.toList_ofList]
          exact List.take_prefix ..
        · rw [← hbytes]
          exact hdisk

/-- The command succeeds when there is a file to be started, it may write it, and a file can stand there. -/
theorem status_start_iff : ((start atHome overwrite).run env).report.status = 0 ↔ ∃ f place,
    IsTarget env atHome f ∧ (overwrite = true ∨ env.hasEntry f.path = false) ∧
      env.disk.locate (env.directory.join f.path) = .ok place ∧ env.disk.IsFree place ∧
      env.disk.HasRoom f.text.toUTF8.size := by
  constructor
  · intro hstatus
    rcases run_start_cases env atHome overwrite with ⟨hfails, -⟩ | ⟨f, place, written, hleaves, hhow⟩
    · exact absurd hstatus hfails
    · rcases hhow with ⟨-, -, hroom⟩ | ⟨hfails, -⟩
      · exact ⟨f, place, hleaves.isTarget, hleaves.isNew, hleaves.locate, hleaves.isFree, hroom⟩
      · exact absurd hstatus hfails
  · rintro ⟨f, place, htarget, hnew, hlocate, hfree, hroom⟩
    have hplan := planStart_eq_ok_iff.mpr ⟨htarget, hnew⟩
    have hwrite : env.write f.path f.text = .ok _ := Disk.write_eq_ok_iff.mpr ⟨place, hlocate, hfree, hroom, rfl⟩
    rw [run_start_written hplan hwrite]
    rfl

theorem broken_of_failed (hstatus : ((start atHome overwrite).run env).report.status ≠ 0) :
    ((start atHome overwrite).run env).disk = env.disk ∨ ∃ f place, IsTarget env atHome f ∧
      (overwrite = true ∨ env.hasEntry f.path = false) ∧ env.disk.locate (env.directory.join f.path) = .ok place ∧
      env.disk.BrokenOff place f.text.toUTF8 ((start atHome overwrite).run env).disk := by
  rcases run_start_cases env atHome overwrite with ⟨-, hdisk⟩ | ⟨f, place, written, hleaves, hhow⟩
  · exact .inl hdisk
  · rcases hhow with ⟨hsucceeds, -⟩ | ⟨-, hbroken⟩
    · exact absurd hsucceeds hstatus
    · exact .inr ⟨f, place, hleaves.isTarget, hleaves.isNew, hleaves.locate, hbroken⟩

theorem exists_started (hstatus : ((start atHome overwrite).run env).report.status = 0) :
    ∃ f place, IsTarget env atHome f ∧ (overwrite = true ∨ env.hasEntry f.path = false) ∧
      env.disk.locate (env.directory.join f.path) = .ok place ∧ env.disk.IsFree place ∧
      ((start atHome overwrite).run env).disk = env.disk.put place (some (.file f.text.toUTF8)) := by
  rcases run_start_cases env atHome overwrite with ⟨hfails, -⟩ | ⟨f, place, written, hleaves, hhow⟩
  · exact absurd hstatus hfails
  · rcases hhow with ⟨-, rfl, -⟩ | ⟨hfails, -⟩
    · exact ⟨f, place, hleaves.isTarget, hleaves.isNew, hleaves.locate, hleaves.isFree, hleaves.disk_eq⟩
    · exact absurd hstatus hfails

/-- Where nothing was, a start leaves the settings as they are, even if it breaks off. -/
theorem load_started (env : Environment) (atHome : Bool) {env' : Environment} (hsame : env'.disk = env.disk)
    (dir : Path) :
    (Settings.load { env' with disk := ((start atHome false).run env).disk } dir).map Settings.effective =
      (Settings.load env' dir).map Settings.effective := by
  rcases run_start_cases env atHome false with ⟨-, hdisk⟩ | ⟨f, place, written, hleaves, -⟩
  · rw [hdisk, ← hsame]
  · have hnone : env.hasEntry f.path = false := hleaves.isNew.resolve_left Bool.false_ne_true
    have hempty : env'.disk.entry? place = none := hsame ▸ Disk.entry_eq_none_of_locate hleaves.locate hnone
    rw [hleaves.disk_eq, ← hsame]
    exact Settings.load_withText hempty (hleaves.isTarget.silent hleaves.isBeginning) dir

theorem Leaves.hasEntry {place : Place} {written : String} (h : Leaves env atHome overwrite f place written disk)
    (obstacle : Option Disk.Obstacle) :
    { env with disk := { disk with obstacle := obstacle } }.hasEntry f.path = true := by
  have hfind : disk.find (env.directory.join f.path) = .ok (.file written.toUTF8) := by
    rw [h.disk_eq]
    exact (Disk.find_put_eq_ok_iff h.isFree (by simp)).mpr (.inl ⟨h.locate, rfl⟩)
  simp only [Environment.hasEntry, Disk.hasEntry, Disk.find_withObstacle, hfind]

/-- Where a start has done nothing, another one for the same file does nothing either, if it may not overwrite. -/
theorem run_start_idle {atHome' : Bool} (hsame : newFile? env atHome' = newFile? env atHome)
    (hstatus : ((start atHome overwrite).run env).report.status ≠ 0)
    (hdisk : ((start atHome overwrite).run env).disk = env.disk) :
    ((start atHome' false).run env).report.status ≠ 0 ∧ ((start atHome' false).run env).disk = env.disk := by
  cases hplan : planStart env atHome' false with
  | error report =>
    rw [run_start_unplanned hplan]
    exact ⟨status_of_planStart hplan, rfl⟩
  | ok f =>
    obtain ⟨htarget, hnew⟩ := planStart_eq_ok_iff.mp hplan
    have hplan' : planStart env atHome overwrite = .ok f := planStart_eq_ok_iff.mpr
      ⟨isTarget_iff.mpr (hsame ▸ isTarget_iff.mp htarget), .inr (hnew.resolve_left Bool.false_ne_true)⟩
    have hrun : (start atHome' false).run env = (start atHome overwrite).run env := by
      simp only [run, runStart, hplan, hplan']
    rw [hrun]
    exact ⟨hstatus, hdisk⟩

/-- Once the command has run, it fails when it may not overwrite. -/
theorem run_start_again {atHome' : Bool} {obstacle : Option Disk.Obstacle} {left : Disk}
    (hleft : left = { ((start atHome overwrite).run env).disk with obstacle := obstacle })
    (hsame : newFile? env atHome' = newFile? env atHome)
    (hobstacle : ((start atHome overwrite).run env).report.status ≠ 0 →
      ((start atHome overwrite).run env).disk = env.disk → obstacle = env.disk.obstacle) :
    ((start atHome' false).run { env with disk := left }).report.status ≠ 0 ∧
      ((start atHome' false).run { env with disk := left }).disk = left := by
  rcases run_start_cases env atHome overwrite with ⟨hstatus, hdisk⟩ | ⟨f, place, written, hfirst, -⟩
  · rw [hdisk, hobstacle hstatus hdisk] at hleft
    subst hleft
    exact run_start_idle hsame hstatus hdisk
  · rcases run_start_cases { env with disk := left } atHome' false with hfails | ⟨f', _, _, hsecond, -⟩
    · exact hfails
    · have hfile : newFile? env atHome' = some f' := isTarget_iff.mp hsecond.isTarget
      have hnone : { env with disk := left }.hasEntry f'.path = false :=
        hsecond.isNew.resolve_left Bool.false_ne_true
      cases (isTarget_iff.mp hfirst.isTarget).symm.trans (hsame.symm.trans hfile)
      rw [hleft, hfirst.hasEntry obstacle] at hnone
      cases hnone

/-- **Starting changes the started file only, and no settings.** A start that fails leaves the disk alone, unless
writing has broken off, and another start of the same file fails. -/
theorem start_confined (env : Environment) (atHome overwrite : Bool) :
    let first := (start atHome overwrite).run env
    (first.report.status = 0 ↔ ∃ f place, IsTarget env atHome f ∧
      (overwrite = true ∨ env.hasEntry f.path = false) ∧ env.disk.locate (env.directory.join f.path) = .ok place ∧
      env.disk.IsFree place ∧ env.disk.HasRoom f.text.toUTF8.size) ∧
    (first.report.status ≠ 0 → first.disk = env.disk ∨ ∃ f place, IsTarget env atHome f ∧
      (overwrite = true ∨ env.hasEntry f.path = false) ∧ env.disk.locate (env.directory.join f.path) = .ok place ∧
      env.disk.BrokenOff place f.text.toUTF8 first.disk ∧ ∀ q, q ≠ place → first.disk.entry? q = env.disk.entry? q) ∧
    (first.report.status = 0 → ∃ f place, IsTarget env atHome f ∧
      (overwrite = true ∨ env.hasEntry f.path = false) ∧ env.disk.locate (env.directory.join f.path) = .ok place ∧
      first.disk.entry? place = some (.file f.text.toUTF8) ∧ ∀ q, q ≠ place → first.disk.entry? q = env.disk.entry? q) ∧
    (overwrite = false → ∀ env' : Environment, env'.disk = env.disk → ∀ dir,
      (Settings.load { env' with disk := first.disk } dir).map Settings.effective =
        (Settings.load env' dir).map Settings.effective) ∧
    (∀ atHome' obstacle, newFile? env atHome' = newFile? env atHome →
      (first.report.status ≠ 0 → first.disk = env.disk → obstacle = env.disk.obstacle) →
      let left : Disk := { first.disk with obstacle := obstacle }
      let second := (start atHome' false).run { env with disk := left }
      second.report.status ≠ 0 ∧ second.disk = left) := by
  intro first
  refine ⟨status_start_iff, fun hstatus => ?_, fun hstatus => ?_, ?_, fun atHome' obstacle hsame hobstacle =>
    run_start_again rfl hsame hobstacle⟩
  · refine (broken_of_failed hstatus).imp_right ?_
    rintro ⟨f, place, htarget, hnew, hlocate, hbroken⟩
    refine ⟨f, place, htarget, hnew, hlocate, hbroken, fun q hq => ?_⟩
    obtain ⟨room, cause, -, -, hdisk⟩ := hbroken
    exact hdisk ▸ Disk.entry_put_of_ne hq
  · obtain ⟨f, place, htarget, hnew, hlocate, hfree, hdisk⟩ := exists_started hstatus
    refine ⟨f, place, htarget, hnew, hlocate, hdisk ▸ Disk.entry_put_self hfree.ne_nil, fun q hq => ?_⟩
    exact hdisk ▸ Disk.entry_put_of_ne hq
  · rintro rfl env' hsame dir
    exact load_started env atHome hsame dir

/-- A directory without a settings file, below one with a limit. -/
def unstarted : Environment where
  disk := ((Disk.empty.withDirectories ["work".toList]).withDirectories ["me".toList, "home".toList]).put
    [".kanji.toml".toList] (some (.file "[search]\nlimit = 7\n".toUTF8))
  directory := .ofString "/work"
  home := some (.ofString "/home/me")

theorem start_confined_work :
    let first := (start false false).run unstarted
    first.report.status = 0 ∧
    (Settings.load { unstarted with disk := first.disk } unstarted.directory).map Settings.effective =
      .ok (7, [], none) ∧
    ((start false false).run { unstarted with disk := first.disk }).report.status ≠ 0 := by
  intro first
  have hstatus : first.report.status = 0 := by decide +kernel
  have hload : (Settings.load unstarted unstarted.directory).map Settings.effective = .ok (7, [], none) := by
    decide +kernel
  obtain ⟨-, -, -, hquiet, hagain⟩ := start_confined unstarted false false
  exact ⟨hstatus, (hquiet rfl unstarted rfl unstarted.directory).trans hload,
    (hagain false _ rfl fun hfails => absurd hstatus hfails).1⟩

/-- The same directory, on a disk with room for seven bytes only. -/
def crowded : Environment :=
  { unstarted with disk := { unstarted.disk with
      obstacle := some (.full 7 (.other "No space left on device (os error 28)")) } }

set_option maxRecDepth 4000 in
theorem begins_projectTemplate : "# kanji configuration".toList <+: Settings.projectTemplate.toList := by
  unfold Settings.projectTemplate Settings.projectSettings
  rw [Settings.toList_commentOut]
  decide +kernel

/-- There, the settings file that is started breaks off. -/
theorem write_crowded : crowded.write (.ofString "/work/.kanji.toml") Settings.projectTemplate =
    .error ⟨.other "No space left on device (os error 28)",
      crowded.disk.put [".kanji.toml".toList, "work".toList] (some (.file "# kanji".toUTF8))⟩ := by
  have hsmall := Settings.utf8Size_of_mem_projectTemplate
  obtain ⟨rest, hrest⟩ := begins_projectTemplate
  have hroom : 7 < Settings.projectTemplate.toUTF8.size := by
    rw [Disk.size_toUTF8 hsmall, ← hrest, List.length_append]
    exact Nat.lt_add_right _ (by decide)
  have hkept : Settings.projectTemplate.toUTF8.extract 0 7 = "# kanji".toUTF8 := by
    rw [Disk.extract_toUTF8 hsmall hroom, ← hrest]
    rfl
  have hfree : crowded.disk.IsFree [".kanji.toml".toList, "work".toList] := Disk.isFree_of_none (by rfl)
  rw [← hkept]
  exact Disk.write_of_full (by decide +kernel) hfree rfl hroom

/-- A start that fails may leave a file behind, and behind a start another one for the home directory may succeed. -/
theorem start_breaks_off :
    ((start false false).run crowded).report.status ≠ 0 ∧
    crowded.hasEntry (.ofString "/work/.kanji.toml") = false ∧
    ((start false false).run crowded).disk.read (.ofString "/work/.kanji.toml") = .ok "# kanji" ∧
    ((start true false).run { unstarted with disk := ((start false false).run unstarted).disk }).report.status = 0 := by
  have hplan : planStart crowded false false = .ok ⟨.ofString "/work/.kanji.toml", Settings.projectTemplate⟩ := by
    rfl
  have hrun := run_start_unwritten hplan write_crowded
  rw [hrun]
  refine ⟨?_, ?_, ?_, ?_⟩ <;> decide +kernel

end KanjiSearch.Command
