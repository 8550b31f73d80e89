import FacetQuery.Config.Load
import FacetQuery.Proofs.Paths
import Mathlib.Data.List.Forall2

/-!
Which files make up the configuration of a directory, and what loading them comes to. A root file
hides all that lies above it and the global file.
-/
namespace FacetQuery

section UpTo

variable {α : Type} {p : α → Bool} {x : α} {xs : List α}

/-- The beginning of a list up to the first element of a kind and with it; all of the list if there
is none. -/
def upTo (p : α → Bool) (xs : List α) : List α :=
  xs.takeWhile (fun x => !p x) ++ (xs.dropWhile fun x => !p x).take 1

theorem upTo_cons (p : α → Bool) (x : α) (xs : List α) :
    upTo p (x :: xs) = if p x then [x] else x :: upTo p xs := by
  cases hx : p x <;> simp [upTo, hx]

theorem upTo_sublist (p : α → Bool) (xs : List α) : (upTo p xs).Sublist xs := by
  induction xs with
  | nil => exact List.Sublist.refl _
  | cons x xs ih =>
    rw [upTo_cons]
    split
    · simp
    · exact ih.cons_cons x

theorem any_upTo (p : α → Bool) (xs : List α) : (upTo p xs).any p = xs.any p := by
  induction xs with
  | nil => rfl
  | cons x xs ih =>
    rw [upTo_cons]
    cases hx : p x <;> simp [hx, ih]

/-- Only the last element can be of the kind. -/
theorem eq_false_of_mem_dropLast_upTo (h : x ∈ (upTo p xs).dropLast) : p x = false := by
  induction xs with
  | nil => cases h
  | cons y xs ih =>
    rw [upTo_cons] at h
    cases hy : p y with
    | true => simp [hy] at h
    | false =>
      simp only [hy, Bool.false_eq_true, if_false] at h
      cases hu : upTo p xs with
      | nil => simp [hu] at h
      | cons z zs =>
        rw [hu, List.dropLast_cons_cons, List.mem_cons] at h
        rcases h with rfl | h
        · exact hy
        · exact ih (by rwa [hu])

end UpTo

/-- Where the configuration files of a directory may be, the closest first. -/
def configPlaces (dir : Path) : List Path := dir.ancestors.map fun p => p.child configFileName

namespace Disk

variable {d d' : Disk} {home dir p q : Path} {ps : List Path} {f : ConfigFile} {text : String}

theorem isFile_iff : d.isFile p = true ↔ ∃ bytes, d.stat p = .ok (.file bytes) := by
  rw [isFile]
  split
  · rename_i bytes hstat
    simp [hstat]
  · rename_i hno
    simp only [Bool.false_eq_true, false_iff, not_exists]
    exact hno

theorem readText_eq_ok_iff : d.readText p = .ok text ↔
    ∃ bytes, d.stat p = .ok (.file bytes) ∧ String.fromUTF8? bytes = some text := by
  rw [readText]
  cases hstat : d.stat p with
  | error e => simp
  | ok entry =>
    cases entry with
    | directory => simp
    | file bytes => cases htext : String.fromUTF8? bytes <;> simp [htext]

theorem readConfig_eq_ok_iff : d.readConfig p = .ok f ↔
    f.path = p ∧ ∃ text, d.readText p = .ok text ∧ Settings.read text = .ok f.settings := by
  obtain ⟨path, settings⟩ := f
  rw [readConfig]
  cases htext : d.readText p with
  | error e => simp
  | ok text =>
    cases hread : Settings.read text with
    | error e => simp [readSettings, hread]
    | ok settings' => simp [readSettings, hread, eq_comm]

/-- A file of text that is a configuration and says that it is a root. -/
def MarksRoot (d : Disk) (p : Path) : Prop :=
  ∃ bytes text settings, d.stat p = .ok (.file bytes) ∧ String.fromUTF8? bytes = some text ∧
    Settings.read text = .ok settings ∧ settings.root = some true

theorem marksRoot_iff :
    d.MarksRoot p ↔ ∃ f, d.readConfig p = .ok f ∧ f.settings.root = some true := by
  constructor
  · rintro ⟨bytes, text, settings, hstat, htext, hread, hroot⟩
    have hok : d.readText p = .ok text := readText_eq_ok_iff.mpr ⟨bytes, hstat, htext⟩
    exact ⟨⟨p, settings⟩, readConfig_eq_ok_iff.mpr ⟨rfl, text, hok, hread⟩, hroot⟩
  · rintro ⟨f, hf, hroot⟩
    obtain ⟨-, text, hok, hread⟩ := readConfig_eq_ok_iff.mp hf
    obtain ⟨bytes, hstat, htext⟩ := readText_eq_ok_iff.mp hok
    exact ⟨bytes, text, f.settings, hstat, htext, hread, hroot⟩

theorem isRootConfig_iff : d.isRootConfig p = true ↔ d.MarksRoot p := by
  rw [marksRoot_iff, isRootConfig]
  cases hread : d.readConfig p <;> simp

instance (d : Disk) : DecidablePred d.MarksRoot := fun _ => decidable_of_iff _ isRootConfig_iff

theorem isRootConfig_eq : d.isRootConfig p = decide (d.MarksRoot p) := by
  rw [Bool.eq_iff_iff, isRootConfig_iff, decide_eq_true_iff]

theorem MarksRoot.isFile (h : d.MarksRoot p) : d.isFile p = true := by
  obtain ⟨bytes, -, -, hstat, -⟩ := h
  exact isFile_iff.mpr ⟨bytes, hstat⟩

/-- The configuration files in a directory and above it, the closest first, up to a root file. -/
def walked (d : Disk) (dir : Path) : List Path :=
  upTo (fun p => d.MarksRoot p) ((configPlaces dir).filter d.isFile)

/-- The files that make up the configuration of a directory: those on the way up and, unless one of
them is a root, the global file, if it is there and not among them. -/
def sources (d : Disk) (home dir : Path) : List Path :=
  let found := d.walked dir
  if ∃ p ∈ found, d.MarksRoot p then found
  else found ++ [globalPath home].filter fun g => d.isFile g && found.all fun p => !p.isSame g

theorem search_eq (d : Disk) (ps : List Path) :
    d.search ps = ⟨upTo (fun p => d.MarksRoot p) (ps.filter d.isFile),
      (ps.filter d.isFile).any fun p => d.MarksRoot p⟩ := by
  induction ps with
  | nil => rfl
  | cons p ps ih =>
    rw [search, isRootConfig_eq]
    cases hfile : d.isFile p with
    | false => simp [hfile, ih]
    | true => by_cases hroot : d.MarksRoot p <;> simp [hfile, hroot, upTo_cons, ih]

theorem search_configPlaces (d : Disk) (dir : Path) :
    d.search (configPlaces dir) = ⟨d.walked dir, ∃ p ∈ d.walked dir, d.MarksRoot p⟩ := by
  rw [search_eq, ← any_upTo, walked]
  simp [List.any_eq]

theorem isSame_comm (p q : Path) : p.isSame q = q.isSame p := by
  simp only [Path.isSame, eq_comm]

theorem files_discover (d : Disk) (home dir : Path) :
    (d.discover home dir).files = d.sources home dir := by
  have hsearch : d.search (dir.ancestors.map fun p => p.child configFileName) =
      ⟨d.walked dir, ∃ p ∈ d.walked dir, d.MarksRoot p⟩ := d.search_configPlaces dir
  rw [discover, hsearch, sources]
  by_cases hroot : ∃ p ∈ d.walked dir, d.MarksRoot p
  · simp [hroot]
  · have hsame : (d.walked dir).any (globalPath home).isSame =
        !(d.walked dir).all fun p => !p.isSame (globalPath home) := by
      have hcomm : (globalPath home).isSame = fun p => p.isSame (globalPath home) :=
        funext (isSame_comm _)
      simp only [List.all_eq_not_any_not, Bool.not_not, hcomm]
    simp only [hroot, hsame, decide_false, Bool.not_false, Bool.true_and, Bool.not_not, if_false]
    cases hadd : d.isFile (globalPath home) &&
      (d.walked dir).all fun p => !p.isSame (globalPath home) <;> simp [hadd]

theorem walked_sublist (d : Disk) (dir : Path) : (d.walked dir).Sublist (configPlaces dir) :=
  (upTo_sublist _ _).trans List.filter_sublist

theorem pairwise_configPlaces (dir : Path) :
    (configPlaces dir).Pairwise fun p q => p.isSame q = false := by
  refine List.pairwise_map.mpr (dir.pairwise_ancestors.imp ?_)
  intro p q hlt
  have hn : '/' ∉ configFileName.toList := by decide
  have hfill : Path.isFiller configFileName.toList = false := by decide
  simp only [Path.isSame, decide_eq_false_iff_not, Path.components_child _ hn hfill]
  intro he
  have hlength := congrArg List.length he
  simp only [List.length_append] at hlength
  omega

/-- No path is among the files of a directory twice. -/
theorem pairwise_sources (d : Disk) (home dir : Path) :
    (d.sources home dir).Pairwise fun p q => p.isSame q = false := by
  have hwalked := (pairwise_configPlaces dir).sublist (d.walked_sublist dir)
  rw [sources]
  split
  · exact hwalked
  · refine List.pairwise_append.mpr ⟨hwalked, (List.pairwise_singleton _ _).filter _, ?_⟩
    intro p hp g hg
    obtain ⟨hg, hnew⟩ := List.mem_filter.mp hg
    simp only [Bool.and_eq_true, List.all_eq_true, Bool.not_eq_true'] at hnew
    exact hnew.2 p hp

/-- Only the last of the files of a directory can be a root. -/
theorem not_marksRoot_of_mem_dropLast (h : p ∈ (d.sources home dir).dropLast) :
    ¬ d.MarksRoot p := by
  rw [sources] at h
  split at h
  · have hfalse := eq_false_of_mem_dropLast_upTo h
    simpa using hfalse
  · rename_i hnone
    have hmem : p ∈ d.walked dir := by
      rw [List.filter_singleton, Bool.cond_eq_ite] at h
      split at h
      · rwa [List.dropLast_concat] at h
      · rw [List.append_nil] at h
        exact (List.dropLast_sublist _).subset h
    exact fun hroot => hnone ⟨p, hmem, hroot⟩

/-- What loading files comes to, the closest first: the error of the first one that cannot be read
or is no configuration, or else a configuration with the keywords of all files in order, each with
the file that it is from and whether that is the global one, with the files themselves and with the
directory of the closest. Then only the last file is a root. -/
inductive LoadedAs (d : Disk) (home : Path) : List Path → Except ConfigError Config → Prop where
  | fails {front back : List Path} {p : Path} {e : ConfigError}
      (before : ∀ q ∈ front, ∃ f, d.readConfig q = .ok f) (here : d.readConfig p = .error e) :
      LoadedAs d home (front ++ p :: back) (.error e)
  | merges {paths : List Path} {files : List ConfigFile} {c : Config}
      (read : List.Forall₂ (fun p f => d.readConfig p = .ok f) paths files)
      (root : ∀ f ∈ files.dropLast, f.settings.root ≠ some true)
      (declared : c.declarations = files.flatMap fun f =>
        f.settings.keywords.map fun name => ⟨name, f.path, f.path.isSame (globalPath home)⟩)
      (listed : c.files = paths)
      (directory : c.directory = paths.head?.bind Path.parent?) :
      LoadedAs d home paths (.ok c)

end Disk

section FirstError

variable {α β ε : Type} {f : α → Except ε β} {xs : List α}

/-- Taking a list through a function that may fail stops at the first failure. -/
theorem mapM_first_error (f : α → Except ε β) (xs : List α) :
    (∃ front x back e, xs = front ++ x :: back ∧ (∀ y ∈ front, ∃ z, f y = .ok z) ∧
      f x = .error e ∧ xs.mapM f = .error e) ∨
    ∃ ys, List.Forall₂ (fun x y => f x = .ok y) xs ys ∧ xs.mapM f = .ok ys := by
  induction xs with
  | nil => exact Or.inr ⟨[], .nil, rfl⟩
  | cons x xs ih =>
    cases hx : f x with
    | error e =>
      refine Or.inl ⟨[], x, xs, e, rfl, by simp, hx, ?_⟩
      rw [List.mapM_cons, hx]
      rfl
    | ok y =>
      rcases ih with ⟨front, z, back, e, rfl, hfront, hz, hm⟩ | ⟨ys, hys, hm⟩
      · refine Or.inl ⟨x :: front, z, back, e, rfl, ?_, hz, ?_⟩
        · intro w hw
          rcases List.mem_cons.mp hw with rfl | hw
          · exact ⟨y, hx⟩
          · exact hfront w hw
        · rw [List.mapM_cons, hx, hm]
          rfl
      · refine Or.inr ⟨y :: ys, .cons hx hys, ?_⟩
        rw [List.mapM_cons, hx, hm]
        rfl

theorem exists_mem_dropLast {R : α → β → Prop} {ys : List β} {y : β}
    (h : List.Forall₂ R xs ys) (hy : y ∈ ys.dropLast) : ∃ x ∈ xs.dropLast, R x y := by
  induction h with
  | nil => cases hy
  | @cons x z xs zs hxz h ih =>
    cases h with
    | nil => cases hy
    | cons =>
      rw [List.dropLast_cons_cons, List.mem_cons] at hy
      rcases hy with rfl | hy
      · exact ⟨x, by simp, hxz⟩
      · obtain ⟨w, hw, hr⟩ := ih hy
        exact ⟨w, by simp [hw], hr⟩

end FirstError

namespace Disk

variable {d d' : Disk} {home dir p q : Path} {ps : List Path}

theorem paths_of_read {files : List ConfigFile}
    (h : List.Forall₂ (fun p f => d.readConfig p = .ok f) ps files) :
    files.map ConfigFile.path = ps := by
  induction h with
  | nil => rfl
  | cons hfile _ ih => rw [List.map_cons, ih, (readConfig_eq_ok_iff.mp hfile).1]

theorem loadedAs_load (d : Disk) (home dir : Path) :
    d.LoadedAs home (d.sources home dir) (d.load home dir) := by
  rw [load, files_discover, loadFiles]
  rcases mapM_first_error d.readConfig (d.sources home dir) with
    ⟨front, p, back, e, hs, hfront, hp, hm⟩ | ⟨files, hfiles, hm⟩
  · rw [hm, hs]
    exact .fails hfront hp
  · rw [hm]
    have hpaths := paths_of_read hfiles
    refine .merges hfiles ?_ rfl hpaths ?_
    · intro f hf hroot
      obtain ⟨p, hp, hread⟩ := exists_mem_dropLast hfiles hf
      exact not_marksRoot_of_mem_dropLast hp (marksRoot_iff.mpr ⟨f, hread, hroot⟩)
    · rw [← hpaths]
      cases files <;> rfl

/-- Two disks have the same file at a path, or neither has one there. -/
def SameFile (d d' : Disk) (p : Path) : Prop :=
  ∀ bytes, d.stat p = .ok (.file bytes) ↔ d'.stat p = .ok (.file bytes)

theorem SameFile.isFile_eq (h : d.SameFile d' p) : d.isFile p = d'.isFile p := by
  rw [Bool.eq_iff_iff, isFile_iff, isFile_iff]
  exact exists_congr h

theorem SameFile.marksRoot_iff (h : d.SameFile d' p) : d.MarksRoot p ↔ d'.MarksRoot p := by
  simp only [MarksRoot, h _]

theorem SameFile.readConfig_eq (h : d.SameFile d' p) (hf : d.isFile p = true) :
    d.readConfig p = d'.readConfig p := by
  obtain ⟨bytes, hstat⟩ := isFile_iff.mp hf
  have hstat' := (h bytes).mp hstat
  rw [readConfig, readConfig, readText, readText, hstat, hstat']

/-- The search depends on the files at its places only. -/
theorem search_congr (h : ∀ p ∈ ps, d.SameFile d' p) : d.search ps = d'.search ps := by
  induction ps with
  | nil => rfl
  | cons p ps ih =>
    have hp := h p (by simp)
    have hroot : d.isRootConfig p = d'.isRootConfig p := by
      simp only [isRootConfig_eq, hp.marksRoot_iff]
    rw [search, search, hp.isFile_eq, hroot, ih fun q hq => h q (by simp [hq])]

/-- Behind a root file the search does not go on. -/
theorem search_root (front back : List Path) (h : d.MarksRoot p) :
    d.search (front ++ p :: back) = d.search (front ++ [p]) ∧
      (d.search (front ++ [p])).stopped = true := by
  induction front with
  | nil => simp [search, h.isFile, isRootConfig_iff.mpr h]
  | cons q front ih =>
    obtain ⟨hsearch, hstopped⟩ := ih
    refine ⟨by simp only [List.cons_append, search, hsearch], ?_⟩
    rw [List.cons_append, search]
    split
    · split
      · rfl
      · exact hstopped
    · exact hstopped

/-- Up to a root file, the files of a directory are those that the search finds. -/
theorem discover_root {front back : List Path} (hc : configPlaces dir = front ++ p :: back)
    (h : d.MarksRoot p) : d.discover home dir = d.search (front ++ [p]) := by
  obtain ⟨hsearch, hstopped⟩ := search_root front back h
  have hfound : d.search (dir.ancestors.map fun p => p.child configFileName) =
      d.search (front ++ [p]) := by
    rw [← hsearch, ← hc]
    rfl
  rw [discover, hfound]
  simp [hstopped]

theorem isFile_of_mem_search (h : p ∈ (d.search ps).files) : d.isFile p = true ∧ p ∈ ps := by
  rw [search_eq] at h
  have hm := (upTo_sublist _ _).subset h
  exact ⟨(List.mem_filter.mp hm).2, (List.mem_filter.mp hm).1⟩

theorem loadFiles_congr (h : ∀ p ∈ ps, d.readConfig p = d'.readConfig p) :
    d.loadFiles home ps = d'.loadFiles home ps := by
  have hm : ps.mapM d.readConfig = ps.mapM d'.readConfig := by
    induction ps with
    | nil => rfl
    | cons p ps ih =>
      rw [List.mapM_cons, List.mapM_cons, h p (by simp), ih fun q hq => h q (by simp [hq])]
  rw [loadFiles, loadFiles, hm]

/-- What lies above a root file, and the global file, have no part in the configuration. -/
theorem load_root {front back : List Path} (hc : configPlaces dir = front ++ p :: back)
    (h : d.MarksRoot p) (hsame : ∀ q ∈ front ++ [p], d.SameFile d' q) :
    d.load home dir = d'.load home dir := by
  have h' : d'.MarksRoot p := (hsame p (by simp)).marksRoot_iff.mp h
  rw [load, load, discover_root hc h, discover_root hc h', ← search_congr hsame]
  apply loadFiles_congr
  intro q hq
  obtain ⟨hf, hm⟩ := isFile_of_mem_search hq
  exact (hsame q hm).readConfig_eq hf

/-- The configuration of a directory comes from its own file and those above it, up to a root file,
and from the global file if there is no root. No file counts twice, the first that cannot be loaded
is the error, and disks that agree up to a root file have the same configuration. -/
theorem load_exact (d : Disk) (home dir : Path) :
    (d.discover home dir).files = d.sources home dir ∧
    ((d.sources home dir).Pairwise fun p q => p.isSame q = false) ∧
    d.LoadedAs home (d.sources home dir) (d.load home dir) ∧
    ∀ (d' : Disk) (front : List Path) (p : Path) (back : List Path),
      configPlaces dir = front ++ p :: back → d.MarksRoot p →
      (∀ q ∈ front ++ [p], d.SameFile d' q) → d.load home dir = d'.load home dir := by
  refine ⟨d.files_discover home dir, d.pairwise_sources home dir, d.loadedAs_load home dir, ?_⟩
  intro d' front p back hc hroot hsame
  exact load_root hc hroot hsame

/-- A disk with a root file, a file in a directory below it, and nothing above it. -/
def rooted : Disk :=
  ((empty.makeDirectories ⟨"/work/notes"⟩).put ["work", configFileName]
    (.file "root = true\nquery.keywords = 'owner'".toUTF8)).put ["work", "notes", configFileName]
    (.file "query.keywords = ['tag', 'status']".toUTF8)

/-- The same disk with a file above the root that is no configuration, and with a global file. -/
def surrounded : Disk :=
  ((rooted.put [configFileName] (.file "[query".toUTF8)).makeDirectories ⟨"/home"⟩).put
    ["home", configFileName] (.file "query.keywords = 'mine'".toUTF8)

/-- The keywords of a directory and of the root file above it are loaded in this order, and neither
a broken file above the root nor the global file is noticed. -/
theorem load_exact_surrounded :
    configPlaces ⟨"/work/notes"⟩ =
      [⟨"/work/notes/.sift.toml"⟩] ++ ⟨"/work/.sift.toml"⟩ :: [⟨"/.sift.toml"⟩] ∧
    rooted.MarksRoot ⟨"/work/.sift.toml"⟩ ∧
    (∀ q ∈ [⟨"/work/notes/.sift.toml"⟩] ++ [⟨"/work/.sift.toml"⟩],
      rooted.SameFile surrounded q) ∧
    surrounded.readConfig ⟨"/.sift.toml"⟩ = .error (.invalid ⟨"/.sift.toml"⟩ ⟨"[query"⟩) ∧
    surrounded.isFile (globalPath ⟨"/home"⟩) = true ∧
    rooted.load ⟨"/home"⟩ ⟨"/work/notes"⟩ = surrounded.load ⟨"/home"⟩ ⟨"/work/notes"⟩ ∧
    surrounded.load ⟨"/home"⟩ ⟨"/work/notes"⟩ = .ok
      { declarations := [⟨"tag", ⟨"/work/notes/.sift.toml"⟩, false⟩,
          ⟨"status", ⟨"/work/notes/.sift.toml"⟩, false⟩, ⟨"owner", ⟨"/work/.sift.toml"⟩, false⟩]
        files := [⟨"/work/notes/.sift.toml"⟩, ⟨"/work/.sift.toml"⟩]
        directory := some ⟨"/work/notes"⟩ } := by
  have hplaces : configPlaces ⟨"/work/notes"⟩ =
      [⟨"/work/notes/.sift.toml"⟩] ++ ⟨"/work/.sift.toml"⟩ :: [⟨"/.sift.toml"⟩] := by
    decide +kernel
  have hroot : rooted.MarksRoot ⟨"/work/.sift.toml"⟩ :=
    isRootConfig_iff.mp (by decide +kernel)
  have hsame : ∀ q ∈ [⟨"/work/notes/.sift.toml"⟩] ++ [⟨"/work/.sift.toml"⟩],
      rooted.SameFile surrounded q := by
    have hstat : ∀ q ∈ [⟨"/work/notes/.sift.toml"⟩] ++ [⟨"/work/.sift.toml"⟩],
        rooted.stat q = surrounded.stat q := by decide +kernel
    intro q hq bytes
    rw [hstat q hq]
  obtain ⟨-, -, -, hload⟩ := load_exact rooted ⟨"/home"⟩ ⟨"/work/notes"⟩
  have hloaded := hload surrounded _ _ _ hplaces hroot hsame
  refine ⟨hplaces, hroot, hsame, by decide +kernel, by decide +kernel, hloaded, ?_⟩
  rw [← hloaded]
  decide +kernel

end Disk

end FacetQuery
