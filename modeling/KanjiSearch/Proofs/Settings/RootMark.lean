import KanjiSearch.Settings.Discovery

/-!
# What a root mark keeps out

Settings are found by walking up from a directory, and the walk ends behind the first file that is marked as the root.
So two disks that hold the same files on this way give the same settings, whatever they hold further up or at home.

* `readFile_congr`, `isRoot_congr`: what is made of a settings file depends on its bytes only.
* `localFiles_shielded`: both walks find the same files and the mark, by induction on the directories below the mark.
* `load_shielded`: so the settings are the same, or cannot be loaded for the same reason. If there are several marks,
  the nearest one asks for the least.
-/

namespace KanjiSearch

/-- The bytes of the file at a path, if there is a file. -/
def Environment.bytes? (env : Environment) (p : Path) : Option ByteArray :=
  match env.disk.find (env.directory.join p) with
  | .ok (.file bytes) => some bytes
  | _ => none

namespace Settings

variable {env env' : Environment} {p : Path}

/-! ## Single files -/

theorem isFile_eq (env : Environment) (p : Path) : env.isFile p = (env.bytes? p).isSome := by
  unfold Environment.isFile Disk.isFile Environment.bytes?
  rcases env.disk.find (env.directory.join p) with _ | (_ | _) <;> rfl

theorem read_of_bytes? {bytes : ByteArray} (h : env.bytes? p = some bytes) :
    env.read p = (String.fromUTF8? bytes).elim (.error .notText) .ok := by
  unfold Environment.bytes? at h
  unfold Environment.read Disk.read
  split at h
  · next hfind =>
    cases h
    simp only [hfind]
    cases String.fromUTF8? bytes <;> rfl
  · cases h

theorem readFile_congr (h : env.bytes? p = env'.bytes? p) (hfile : env.isFile p = true) :
    readFile env p = readFile env' p := by
  rw [isFile_eq] at hfile
  obtain ⟨bytes, hbytes⟩ := Option.isSome_iff_exists.mp hfile
  rw [readFile, readFile, read_of_bytes? hbytes, read_of_bytes? (h.symm.trans hbytes)]

/-- Only files are marked as the root. -/
theorem isFile_of_isRoot (h : isRoot env p = true) : env.isFile p = true := by
  unfold isRoot readFile Environment.read Disk.read at h
  unfold Environment.isFile Disk.isFile
  cases hfind : env.disk.find (env.directory.join p) with
  | error cause => simp [hfind] at h
  | ok entry =>
    cases entry with
    | file bytes => rfl
    | directory => simp [hfind] at h

theorem isRoot_congr (h : env.bytes? p = env'.bytes? p) : isRoot env p = isRoot env' p := by
  by_cases hfile : env.isFile p = true
  · rw [isRoot, isRoot, readFile_congr h hfile]
  · have hfile' : ¬ env'.isFile p = true := by rwa [isFile_eq, ← h, ← isFile_eq]
    rw [Bool.eq_false_iff.mpr (mt isFile_of_isRoot hfile), Bool.eq_false_iff.mpr (mt isFile_of_isRoot hfile')]

/-! ## The walk -/

variable {root : Path} {inside above : List Path}

/-- The walk ends behind the mark, and has found the same files on both disks. -/
theorem localFiles_shielded (hroot : isRoot env (fileIn root) = true)
    (hagree : ∀ d ∈ inside ++ [root], env.bytes? (fileIn d) = env'.bytes? (fileIn d)) :
    ∃ files, localFiles env (inside ++ root :: above) = (files, true) ∧
      localFiles env' (inside ++ root :: above) = (files, true) ∧ ∀ p ∈ files, readFile env p = readFile env' p := by
  induction inside with
  | nil =>
    have hmark := hagree root (by simp)
    have hfile := isFile_of_isRoot hroot
    have hroot' : isRoot env' (fileIn root) = true := isRoot_congr hmark ▸ hroot
    refine ⟨[fileIn root], ?_, ?_, List.forall_mem_singleton.mpr (readFile_congr hmark hfile)⟩
    · simp [localFiles, hfile, hroot]
    · simp [localFiles, isFile_of_isRoot hroot', hroot']
  | cons d inside ih =>
    obtain ⟨hd, hrest⟩ := List.forall_mem_cons.mp hagree
    obtain ⟨files, hfiles, hfiles', hread⟩ := ih hrest
    have hfile : env.isFile (fileIn d) = env'.isFile (fileIn d) := by rw [isFile_eq, isFile_eq, hd]
    have hmark := isRoot_congr hd
    simp only [List.cons_append, localFiles, ← hfile, ← hmark, hfiles, hfiles']
    cases hf : env.isFile (fileIn d) with
    | false => exact ⟨files, rfl, rfl, hread⟩
    | true =>
      have hboth := readFile_congr hd hf
      cases isRoot env (fileIn d) with
      | true => exact ⟨[fileIn d], rfl, rfl, List.forall_mem_singleton.mpr hboth⟩
      | false => exact ⟨fileIn d :: files, rfl, rfl, List.forall_mem_cons.mpr ⟨hboth, hread⟩⟩

/-- Behind a mark, the file of the home directory does not count. -/
theorem discover_of_rooted {dir : Path} {files : List Path} (h : localFiles env (dir :: dir.parents) = (files, true)) :
    discover env dir = files := by
  unfold discover
  rw [h]
  cases globalFile? env.home <;> rfl

theorem loadFiles_congr {paths : List Path} (hhome : env.home = env'.home)
    (h : ∀ p ∈ paths, readFile env p = readFile env' p) : loadFiles env paths = loadFiles env' paths := by
  have hrow : paths.mapM (readFile env) = paths.mapM (readFile env') := by
    induction paths with
    | nil => rfl
    | cons p paths ih =>
      obtain ⟨hp, hpaths⟩ := List.forall_mem_cons.mp h
      rw [List.mapM_cons, List.mapM_cons, hp, ih hpaths]
  rw [loadFiles, loadFiles, hrow, hhome]

/-- **A root mark shields from the files further up**: two disks with the same settings files up to it give the same
settings. -/
theorem load_shielded {disk : Disk} {dir : Path} (hchain : dir :: dir.parents = inside ++ root :: above)
    (hroot : isRoot env (fileIn root) = true)
    (hagree : ∀ d ∈ inside ++ [root], env.bytes? (fileIn d) = { env with disk := disk }.bytes? (fileIn d)) :
    load env dir = load { env with disk := disk } dir := by
  obtain ⟨files, hfiles, hfiles', hread⟩ := @localFiles_shielded _ _ _ _ above hroot hagree
  rw [← hchain] at hfiles hfiles'
  rw [load, load, discover_of_rooted hfiles, discover_of_rooted hfiles']
  exact loadFiles_congr rfl hread

/-- A mark in `/work`, below a file that is no settings file on one disk and is missing on another. -/
theorem load_shielded_work :
    let marked := (Disk.empty.withDirectories ["sub".toList, "work".toList]).put [".kanji.toml".toList, "work".toList]
      (some (.file "root = true\n".toUTF8))
    let env : Environment := ⟨marked.put [".kanji.toml".toList] (some (.file "[".toUTF8)), .ofString "/work/sub", none⟩
    env.isFile (.ofString "/.kanji.toml") = true ∧
      { env with disk := marked }.isFile (.ofString "/.kanji.toml") = false ∧
      load env env.directory = load { env with disk := marked } env.directory := by
  intro marked env
  refine ⟨by decide +kernel, by decide +kernel, ?_⟩
  refine @load_shielded env (.ofString "/work") [.ofString "/work/sub"] [.ofString "/"] marked _ (by decide +kernel)
    (by decide +kernel) ?_
  intro d hd
  rcases List.mem_cons.mp hd with rfl | hd
  · rfl
  · cases List.mem_singleton.mp hd
    rfl

end Settings

end KanjiSearch
