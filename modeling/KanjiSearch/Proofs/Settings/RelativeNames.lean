import KanjiSearch.Proofs.Lists
import KanjiSearch.Proofs.Path.Resolution
import KanjiSearch.Proofs.Settings.Precedence

/-!
# Names in settings files with relative paths

A name that is read from a directory which is itself relative is folded along the trail of both (`Path.FoldsFrom`): what
comes out has the names of that trail, but one level up at most.

So a folded name has the steps of its trail exactly if that leads at most one level up.

* `isAbsolute_directory_of_relative`: the directory of a settings file with a relative path is relative.
* `relative_names_fold`: names with neither a slash nor a tilde at their start, read from such directories or standing
  in files that are merged or loaded, are folded so. When the home directory is known there are always settings.
* `two_levels_lost`: a name that leads two levels up comes out as if it led nowhere up.
-/

namespace KanjiSearch

namespace Path

variable {dir p : Path} {text : List Char}

/-- `p` is the folded form of the name `text` in the directory `dir`: of an odd number of levels up one is left. -/
def FoldsFrom (dir : Path) (text : List Char) (p : Path) : Prop :=
  let trail := Trail.ofSteps (dir.steps ++ steps ⟨text⟩)
  p = ofComponents trail.pairedOff.steps ∧ p.components = trail.pairedOff.steps ∧
    (p.components = trail.steps ↔ trail.levels ≤ 1)

theorem exists_resolve?_foldsFrom (hdir : dir.isAbsolute = false) (hrel : (⟨text⟩ : Path).isAbsolute = false)
    (hhome : ¬ NamesHome text) (home : Option Path) : ∃ p, resolve? home dir text = some p ∧ FoldsFrom dir text p := by
  have hjoin := isAbsolute_join_of_relative hdir hrel
  have htrail : (dir.join ⟨text⟩).trail = Trail.ofSteps (dir.steps ++ steps ⟨text⟩) := by
    rw [trail, steps_join dir hrel]
  have horigin : (dir.join ⟨text⟩).origin = [] := by rw [origin, hjoin]; rfl
  have hfolded := folded_eq (dir.join ⟨text⟩)
  have hcomponents := components_folded (dir.join ⟨text⟩)
  rw [horigin, htrail, List.nil_append] at hfolded hcomponents
  refine ⟨_, resolve?_eq_folded hrel hhome home dir, hfolded, hcomponents, ?_⟩
  rw [hcomponents, Trail.steps_pairedOff_iff]

end Path

namespace Settings

variable {files : List SettingsFile} {f : SettingsFile} {names : List String} {s : Settings}

theorem isAbsolute_directory_of_relative (hf : f.path.isAbsolute = false) : f.directory.isAbsolute = false := by
  unfold SettingsFile.directory
  cases h : f.path.parent? with
  | none => rfl
  | some q => exact Path.isAbsolute_of_mem_parents_of_relative hf (List.mem_of_mem_head? h)

/-- The record files `s.files` are those that `f` names by `names`, and names with neither a slash nor a tilde at their
start are folded from the directory of `f`. -/
def NamesFoldFrom (f : SettingsFile) (names : List String) (s : Settings) : Prop :=
  List.Forall₂ (fun name p => (Path.ofString name).isAbsolute = false → ¬ Path.NamesHome name.toList →
    Path.FoldsFrom f.directory name.toList p) names s.files

theorem namesFoldFrom_of_merge {home : Option Path} (hf : f.path.isAbsolute = false)
    (hdecides : Decides (·.contents.files?) files f names) (hmerge : merge home files = .ok s) :
    NamesFoldFrom f names s := by
  unfold merge at hmerge
  dsimp only at hmerge
  rw [naming?_of_decides hdecides] at hmerge
  dsimp only at hmerge
  cases hpaths : resolveAll? home f names with
  | none => rw [hpaths] at hmerge; cases hmerge
  | some paths =>
    rw [hpaths] at hmerge
    cases hmerge
    refine (mapM_eq_some_iff.mp hpaths).imp fun name p hname hrel hhome => ?_
    obtain ⟨q, hq, hfolds⟩ :=
      Path.exists_resolve?_foldsFrom (isAbsolute_directory_of_relative hf) hrel hhome home
    cases hname.symm.trans hq
    exact hfolds

theorem exists_merge_of_ne_none {home : Option Path} (hhome : home ≠ none) (files : List SettingsFile) :
    ∃ s, merge home files = .ok s := by
  obtain ⟨home, rfl⟩ := Option.ne_none_iff_exists'.mp hhome
  obtain ⟨s, hs, -⟩ := exists_merge home files
  exact ⟨s, hs⟩

/-- **Names in relative directories are folded, but lead at most one level up**, also where they stand in settings files
that are merged or loaded. -/
theorem relative_names_fold (env : Environment) :
    (∀ dir text, dir.isAbsolute = false → (⟨text⟩ : Path).isAbsolute = false → ¬ Path.NamesHome text →
      ∃ p, Path.resolve? env.home dir text = some p ∧ Path.FoldsFrom dir text p) ∧
    (∀ files f names, f.path.isAbsolute = false → Decides (·.contents.files?) files f names →
      (∀ s, merge env.home files = .ok s → NamesFoldFrom f names s) ∧
      (env.home ≠ none → ∃ s, merge env.home files = .ok s)) ∧
    (∀ paths files f names, List.Forall₂ (fun p f => readFile env p = .ok f) paths files →
      f.path.isAbsolute = false → Decides (·.contents.files?) files f names →
      (∀ s, loadFiles env paths = .ok s → NamesFoldFrom f names s) ∧
      (env.home ≠ none → ∃ s, loadFiles env paths = .ok s)) := by
  refine ⟨fun dir text hdir hrel hhome => Path.exists_resolve?_foldsFrom hdir hrel hhome env.home,
    fun files f names hf hdecides => ⟨fun s hmerge => namesFoldFrom_of_merge hf hdecides hmerge,
      fun hhome => exists_merge_of_ne_none hhome files⟩,
    fun paths files f names hfiles hf hdecides => ?_⟩
  rw [loadFiles_of_forall₂ hfiles]
  exact ⟨fun s hload => namesFoldFrom_of_merge hf hdecides hload, fun hhome => exists_merge_of_ne_none hhome files⟩

/-- A settings file that is given by a relative path names a file one level above. -/
theorem relative_names_fold_above :
    let f : SettingsFile := ⟨.ofString "conf/.kanji.toml", ⟨none, none, some ⟨some ["../../k.json", "/k.json"]⟩⟩⟩
    f.path.isAbsolute = false ∧ Path.FoldsFrom (.ofString "conf") "../../k.json".toList (.ofString "../k.json") ∧
      ∃ s, merge (some (.ofString "/home/me")) [f] = .ok s ∧ NamesFoldFrom f ["../../k.json", "/k.json"] s := by
  intro f
  have hf : f.path.isAbsolute = false := by decide
  obtain ⟨hname, hmerge, -⟩ := relative_names_fold ⟨Disk.empty, .ofString "/work", some (.ofString "/home/me")⟩
  obtain ⟨p, hp, hfolds⟩ := hname (.ofString "conf") "../../k.json".toList (by decide) (by decide) (by decide)
  obtain ⟨hfold, hexists⟩ := hmerge [f] f ["../../k.json", "/k.json"] hf
    ⟨[], [], rfl, by simp, rfl⟩
  obtain ⟨s, hs⟩ := hexists (by simp)
  have hk : p = .ofString "../k.json" := Option.some.inj (hp.symm.trans (by decide))
  exact ⟨hf, hk ▸ hfolds, s, hs, hfold s hs⟩

/-- Three steps up from a directory of one name: the trail leads two levels up, the path that comes out none. -/
theorem two_levels_lost :
    Path.resolve? none (.ofString "conf") "../../../k.json".toList = some (.ofString "k.json") ∧
    (Trail.ofSteps ((Path.ofString "conf").steps ++ (Path.ofString "../../../k.json").steps)).steps =
      [.up, .up, .name "k.json".toList] ∧
    (Path.ofString "k.json").components = [.name "k.json".toList] := by
  decide

end Settings

end KanjiSearch
