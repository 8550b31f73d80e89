import FacetQuery.Proofs.Discovery

/-!
The rank of the global file. It comes last of all files but for those in directories above the home
directory, which a search that starts in the home directory or below it meets behind it.
-/
namespace FacetQuery

variable {d : Disk} {home dir p q g : Path} {c : Config}

/-- The configuration file of a directory above another one. -/
def LiesAbove (dir p : Path) : Prop :=
  ∃ outer : Path, p = outer.child configFileName ∧ outer.components <+: dir.components ∧
    outer.components ≠ dir.components

theorem components_configFile (dir : Path) : (dir.child configFileName).components =
    dir.components ++ [Path.component configFileName.toList] :=
  Path.components_child dir (by decide) (by decide)

theorem isGlobalPath_child_iff :
    isGlobalPath home (dir.child configFileName) = true ↔ dir.components = home.components := by
  simp [isGlobalPath, Path.isSame, globalPath, components_configFile]

/-- On the way up, each file lies above all those before it. -/
theorem pairwise_configPlaces_liesAbove (dir : Path) :
    (configPlaces dir).Pairwise fun p q => ∃ inner : Path, p = inner.child configFileName ∧
      inner.components <+: dir.components ∧ LiesAbove inner q := by
  refine List.pairwise_map.mpr (dir.pairwise_ancestors.imp_of_mem ?_)
  intro inner outer hinner houter hlt
  have hin := Path.components_prefix_of_mem_ancestors hinner
  have hout := Path.components_prefix_of_mem_ancestors houter
  have hbelow := List.prefix_of_prefix_length_le hout hin (Nat.le_of_lt hlt)
  refine ⟨inner, rfl, hin, outer, rfl, hbelow, ?_⟩
  intro he
  simp [he] at hlt

theorem LiesAbove.congr (h : LiesAbove dir p) (he : dir.components = home.components) :
    LiesAbove home p := by
  obtain ⟨outer, hp, hbelow, hne⟩ := h
  exact ⟨outer, hp, he ▸ hbelow, he ▸ hne⟩

theorem LiesAbove.length_lt (h : LiesAbove dir p) :
    p.components.length < (dir.child configFileName).components.length := by
  obtain ⟨outer, rfl, hbelow, hne⟩ := h
  have hle := hbelow.length_le
  have hlength : outer.components.length ≠ dir.components.length := fun he =>
    hne (hbelow.eq_of_length he)
  simp only [components_configFile, List.length_append]
  omega

namespace Disk

/-- Behind the global file the search meets only files above the home directory, and it has then
begun in the home directory or below it. -/
theorem pairwise_walked_global (d : Disk) (home dir : Path) :
    (d.walked dir).Pairwise fun p q => isGlobalPath home p = true →
      LiesAbove home q ∧ home.components <+: dir.components := by
  refine ((pairwise_configPlaces_liesAbove dir).sublist (d.walked_sublist dir)).imp ?_
  rintro p q ⟨inner, rfl, hinner, habove⟩ hglobal
  have he := isGlobalPath_child_iff.mp hglobal
  exact ⟨habove.congr he, he ▸ hinner⟩

/-- The global file is added behind the files on the way up only if it is not among them. -/
theorem sources_cases (d : Disk) (home dir : Path) :
    d.sources home dir = d.walked dir ∨
      d.sources home dir = d.walked dir ++ [globalPath home] ∧
        ∀ p ∈ d.walked dir, isGlobalPath home p = false := by
  rw [sources]
  split
  · exact Or.inl rfl
  · rw [List.filter_singleton, Bool.cond_eq_ite]
    split
    · rename_i hadd
      simp only [Bool.and_eq_true, List.all_eq_true, Bool.not_eq_true'] at hadd
      exact Or.inr ⟨rfl, hadd.2⟩
    · exact Or.inl (List.append_nil _)

theorem pairwise_sources_global (d : Disk) (home dir : Path) :
    (d.sources home dir).Pairwise fun p q => isGlobalPath home p = true →
      LiesAbove home q ∧ home.components <+: dir.components := by
  have hwalked := d.pairwise_walked_global home dir
  rcases d.sources_cases home dir with hsources | ⟨hsources, hnone⟩
  · rwa [hsources]
  · rw [hsources]
    refine List.pairwise_append.mpr ⟨hwalked, List.pairwise_singleton _ _, ?_⟩
    intro p hp q hq hglobal
    simp [hnone p hp] at hglobal

theorem length_components_global (h : isGlobalPath home g = true) :
    g.components.length = (home.child configFileName).components.length := by
  have he : g.components = (globalPath home).components := by
    simpa [isGlobalPath, Path.isSame] using h
  rw [he, globalPath]

/-- No file above the home directory is met before the last file if that is the global one. -/
theorem not_liesAbove_of_getLast? (hlast : (d.walked dir).getLast? = some g)
    (hglobal : isGlobalPath home g = true) (hp : p ∈ d.walked dir) : ¬ LiesAbove home p := by
  intro habove
  have hlt := habove.length_lt
  obtain ⟨front, hwalked⟩ := List.getLast?_eq_some_iff.mp hlast
  have hpairwise := (pairwise_configPlaces_liesAbove dir).sublist (d.walked_sublist dir)
  rw [hwalked] at hp hpairwise
  rcases List.mem_append.mp hp with hp | hp
  · -- the global file lies above the file before it, which has the longer path then
    obtain ⟨inner, rfl, -, hg⟩ := (List.pairwise_append.mp hpairwise).2.2 p hp g (by simp)
    have hlt' := hg.length_lt
    have hlength := length_components_global hglobal
    omega
  · obtain rfl := List.mem_singleton.mp hp
    have hlength := length_components_global hglobal
    omega

/-- The global file is the last one unless it was met on the way up and a file above the home
directory was met behind it. -/
theorem getLast?_sources_iff (hg : g ∈ d.sources home dir) (hglobal : isGlobalPath home g = true) :
    (d.sources home dir).getLast? = some g ↔
      (g ∈ d.walked dir → ∀ p ∈ d.sources home dir, ¬ LiesAbove home p) := by
  rcases d.sources_cases home dir with hsources | ⟨hsources, hnew⟩
  · have hpairwise := d.pairwise_sources_global home dir
    rw [hsources] at hg hpairwise ⊢
    constructor
    · intro hlast _ p hp
      exact not_liesAbove_of_getLast? hlast hglobal hp
    · intro hnone
      obtain ⟨front, back, hsplit⟩ := List.append_of_mem hg
      have hback : back = [] := by
        rw [List.eq_nil_iff_forall_not_mem]
        intro p hp
        rw [hsplit] at hpairwise hnone
        have hbehind := List.rel_of_pairwise_cons (List.pairwise_append.mp hpairwise).2.1 hp
        exact hnone (by simp) p (by simp [hp]) (hbehind hglobal).1
      simp [hsplit, hback]
  · have hnot : g ∉ d.walked dir := by
      intro hmet
      simp [hnew g hmet] at hglobal
    obtain rfl : g = globalPath home := by
      rw [hsources] at hg
      simpa [hnot] using hg
    simp [hsources, hnot]

theorem declarations_load (h : d.load home dir = .ok c) :
    ∃ files : List ConfigFile, files.map ConfigFile.path = d.sources home dir ∧
      c.declarations = files.flatMap (ConfigFile.declarations home) := by
  have hloaded := d.loadedAs_load home dir
  rw [h] at hloaded
  generalize d.sources home dir = paths at hloaded ⊢
  cases hloaded with
  | merges hread _ hdeclared _ _ => exact ⟨_, paths_of_read hread, hdeclared⟩

theorem pairwise_declarations_global (h : d.load home dir = .ok c) :
    c.declarations.Pairwise fun x y => x.isGlobal = true → y.isGlobal = true ∨
      LiesAbove home y.source ∧ home.components <+: dir.components := by
  obtain ⟨files, hpaths, hdeclarations⟩ := declarations_load h
  have hpairwise := d.pairwise_sources_global home dir
  rw [← hpaths, List.pairwise_map] at hpairwise
  rw [hdeclarations]
  refine List.pairwise_flatMap.mpr ⟨?_, hpairwise.imp ?_⟩
  · intro f _
    refine List.pairwise_map.mpr (List.pairwise_of_forall ?_)
    intro x y hx
    exact Or.inl hx
  · intro f g hfg x hx y hy hglobal
    obtain ⟨name, -, rfl⟩ := List.mem_map.mp hx
    obtain ⟨name', -, rfl⟩ := List.mem_map.mp hy
    exact Or.inr (hfg hglobal)

/-- The global file is the last of the files of a directory exactly if no file above the home
directory is found behind it, and only a declaration of such a file can come behind one of the
global file. -/
theorem global_file_precedence (d : Disk) (home dir : Path) :
    (∀ g ∈ (d.discover home dir).files, isGlobalPath home g = true →
      ((d.discover home dir).files.getLast? = some g ↔
        (g ∈ d.walked dir → ∀ p ∈ (d.discover home dir).files, ¬ LiesAbove home p))) ∧
    ∀ c, d.load home dir = .ok c → c.declarations.Pairwise fun x y =>
      x.isGlobal = true → y.isGlobal = true ∨
        LiesAbove home y.source ∧ home.components <+: dir.components := by
  rw [files_discover]
  refine ⟨?_, ?_⟩
  · intro g hg hglobal
    exact getLast?_sources_iff hg hglobal
  · intro c hc
    exact pairwise_declarations_global hc

/-- A disk with a home directory that has a file, and a file in a directory below it. -/
def homely : Disk :=
  ((empty.makeDirectories ⟨"/home/work"⟩).put ["home", configFileName]
    (.file "query.keywords = 'mine'".toUTF8)).put ["home", "work", configFileName]
    (.file "query.keywords = 'ours'".toUTF8)

/-- Without files above the home directory, its file comes last also for directories below it. -/
theorem global_file_precedence_homely :
    (homely.discover ⟨"/home"⟩ ⟨"/home/work"⟩).files =
      [⟨"/home/work/.sift.toml"⟩, ⟨"/home/.sift.toml"⟩] ∧
    isGlobalPath ⟨"/home"⟩ ⟨"/home/.sift.toml"⟩ = true ∧
    (homely.discover ⟨"/home"⟩ ⟨"/home/work"⟩).files.getLast? = some ⟨"/home/.sift.toml"⟩ := by
  have hfiles : (homely.discover ⟨"/home"⟩ ⟨"/home/work"⟩).files =
      [⟨"/home/work/.sift.toml"⟩, ⟨"/home/.sift.toml"⟩] := by
    decide +kernel
  have hglobal : isGlobalPath ⟨"/home"⟩ ⟨"/home/.sift.toml"⟩ = true := by decide +kernel
  obtain ⟨hlast, -⟩ := global_file_precedence homely ⟨"/home"⟩ ⟨"/home/work"⟩
  refine ⟨hfiles, hglobal, (hlast _ (by simp [hfiles]) hglobal).mpr ?_⟩
  intro _ p hp habove
  have hlt := habove.length_lt
  rw [hfiles] at hp
  have hle : ∀ q ∈ [Path.mk "/home/work/.sift.toml", ⟨"/home/.sift.toml"⟩],
      ((Path.mk "/home").child configFileName).components.length ≤ q.components.length := by
    decide +kernel
  exact absurd hlt (Nat.not_lt.mpr (hle p hp))

/-- The same disk with one more file above the home directory. -/
def overtaken : Disk := homely.put [configFileName] (.file "query.keywords = 'theirs'".toUTF8)

/-- The file above the home directory comes behind the global file, and so do its declarations. -/
theorem global_file_overtaken :
    (overtaken.discover ⟨"/home"⟩ ⟨"/home/work"⟩).files =
      [⟨"/home/work/.sift.toml"⟩, ⟨"/home/.sift.toml"⟩, ⟨"/.sift.toml"⟩] ∧
    ((overtaken.load ⟨"/home"⟩ ⟨"/home/work"⟩).map fun c =>
      c.declarations.map fun x => (x.name, x.isGlobal)) =
      .ok [("ours", false), ("mine", true), ("theirs", false)] := by
  decide +kernel

end Disk

end FacetQuery
