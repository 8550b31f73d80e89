import FacetQuery.Proofs.Discovery
import FacetQuery.Proofs.FileEffects
import FacetQuery.Proofs.Templates

/-!
Fresh configuration files. A file that sets nothing makes no difference wherever it is added: every
directory has the same declarations with it and without it, and fails to load for the same reason.
What `init` writes is such a file.
-/
namespace FacetQuery

namespace Disk

variable {d d' : Disk} {home dir p q : Path} {ps : List Path} {place : Location} {text : String}

/-- A file that is no root and declares nothing. -/
def SetsNothing (d : Disk) (p : Path) : Prop :=
  ∃ f, d.readConfig p = .ok f ∧ f.settings.root ≠ some true ∧ f.settings.keywords = []

/-- A disk that has the files of another as they are and, at other paths, files that set nothing. -/
structure GrowsIdly (d d' : Disk) : Prop where
  old : ∀ p, d.isFile p = true → d.SameFile d' p
  new : ∀ p, d.isFile p = false → d'.isFile p = true → d'.SetsNothing p
  apart : ∀ p q, d.isFile p = true → d.isFile q = false → d'.isFile q = true →
    p.isSame q = false

theorem SetsNothing.isRootConfig_eq (h : d.SetsNothing p) : d.isRootConfig p = false := by
  obtain ⟨f, hread, hroot, -⟩ := h
  simp [isRootConfig, hread, hroot]

namespace GrowsIdly

theorem isFile (h : GrowsIdly d d') (hp : d.isFile p = true) : d'.isFile p = true := by
  rw [← (h.old p hp).isFile_eq, hp]

/-- The search finds the files that it found before among those that it finds now. -/
theorem search (h : GrowsIdly d d') (ps : List Path) :
    d.search ps = ⟨(d'.search ps).files.filter d.isFile, (d'.search ps).stopped⟩ := by
  induction ps with
  | nil => rfl
  | cons p ps ih =>
    rw [Disk.search, Disk.search, ih]
    cases hp : d.isFile p with
    | true =>
      have hroot : d.isRootConfig p = d'.isRootConfig p := by
        simp only [isRootConfig_eq, (h.old p hp).marksRoot_iff]
      rw [h.isFile hp, hroot]
      cases d'.isRootConfig p <;> simp [hp]
    | false =>
      cases hp' : d'.isFile p with
      | true => simp [(h.new p hp hp').isRootConfig_eq, hp]
      | false => simp

theorem any_isSame (h : GrowsIdly d d') (hp : d.isFile p = true) :
    (d.search ps).files.any p.isSame = (d'.search ps).files.any p.isSame := by
  rw [h.search, List.any_filter, Bool.eq_iff_iff, List.any_eq_true, List.any_eq_true]
  refine exists_congr fun q => and_congr_right ?_
  intro hq
  -- a file with the same path is no new one
  have hold : p.isSame q = true → d.isFile q = true := by
    intro hsame
    by_contra hnew
    rw [Bool.not_eq_true] at hnew
    simp [h.apart p q hp hnew (isFile_of_mem_search hq).1] at hsame
  simpa using hold

/-- Discovery finds the files that it found before among those that it finds now. -/
theorem files_discover (h : GrowsIdly d d') (home dir : Path) :
    (d.discover home dir).files = (d'.discover home dir).files.filter d.isFile := by
  rw [discover, discover]
  generalize dir.ancestors.map (fun p => p.child configFileName) = places
  have hfiles : (d.search places).files = (d'.search places).files.filter d.isFile := by
    rw [h.search]
  have hstopped : (d.search places).stopped = (d'.search places).stopped := by rw [h.search]
  cases hg : d.isFile (globalPath home) with
  | true =>
    rw [h.any_isSame hg, hstopped, h.isFile hg]
    split
    · simp [hfiles, hg]
    · exact hfiles
  | false =>
    simp only [Bool.and_false, Bool.false_and, Bool.false_eq_true, if_false]
    split
    · simp [hfiles, hg]
    · exact hfiles

end GrowsIdly

theorem isFile_of_mem_discover (h : p ∈ (d.discover home dir).files) : d.isFile p = true := by
  rw [discover] at h
  split at h
  · rename_i hadd
    simp only [Bool.and_eq_true] at hadd
    rcases List.mem_append.mp h with h | h
    · exact (isFile_of_mem_search h).1
    · rw [List.mem_singleton.mp h]
      exact hadd.1.2
  · exact (isFile_of_mem_search h).1

theorem declarations_loadFiles_cons (d : Disk) (home p : Path) (ps : List Path) :
    (d.loadFiles home (p :: ps)).map Config.declarations = do
      let f ← d.readConfig p
      let more ← (d.loadFiles home ps).map Config.declarations
      return f.declarations home ++ more := by
  rw [loadFiles, loadFiles, List.mapM_cons]
  cases d.readConfig p with
  | error e => rfl
  | ok f =>
    cases ps.mapM d.readConfig with
    | error e => rfl
    | ok files => rfl

namespace GrowsIdly

/-- Files that set nothing may be left out. -/
theorem declarations_loadFiles (h : GrowsIdly d d') (home : Path)
    (hps : ∀ p ∈ ps, d'.isFile p = true) :
    (d.loadFiles home (ps.filter d.isFile)).map Config.declarations =
      (d'.loadFiles home ps).map Config.declarations := by
  induction ps with
  | nil => rfl
  | cons p ps ih =>
    have hrest := ih fun q hq => hps q (by simp [hq])
    cases hp : d.isFile p with
    | true =>
      rw [List.filter_cons_of_pos hp, declarations_loadFiles_cons, declarations_loadFiles_cons,
        hrest, (h.old p hp).readConfig_eq hp]
    | false =>
      obtain ⟨f, hread, -, hnone⟩ := h.new p hp (hps p (by simp))
      have hnothing : f.declarations home = [] := by simp [ConfigFile.declarations, hnone]
      rw [List.filter_cons_of_neg (by simp [hp]), declarations_loadFiles_cons, hread, hrest]
      cases (d'.loadFiles home ps).map Config.declarations with
      | error e => rfl
      | ok more => simp [bind, Except.bind, hnothing, pure, Except.pure]

/-- Every directory has the same declarations, or fails to load for the same reason. -/
theorem declarations_load (h : GrowsIdly d d') (home dir : Path) :
    (d.load home dir).map Config.declarations = (d'.load home dir).map Config.declarations := by
  rw [load, load, h.files_discover]
  exact h.declarations_loadFiles home fun p hp => isFile_of_mem_discover hp

end GrowsIdly

/-- A new file that sets nothing, wherever it is. -/
theorem AddsFile.growsIdly (h : AddsFile d d' place text.toUTF8)
    (htext : Settings.read text = .ok ⟨none, none⟩) : GrowsIdly d d' := by
  have hold : ∀ p, d.isFile p = true → ∃ bytes,
      d.stat p = .ok (.file bytes) ∧ d'.stat p = .ok (.file bytes) := by
    intro p hp
    obtain ⟨bytes, hstat⟩ := isFile_iff.mp hp
    exact ⟨bytes, hstat, h.stat_of_ok hstat⟩
  have hnew : ∀ p, d.isFile p = false → d'.isFile p = true →
      d'.stat p = .ok (.file text.toUTF8) ∧ d'.placeOf p = .ok place := by
    intro p hp hp'
    obtain ⟨bytes, hstat⟩ := isFile_iff.mp hp'
    have hno : d.stat p ≠ .ok (.file bytes) := by
      intro hstat
      simp [isFile_iff.mpr ⟨bytes, hstat⟩] at hp
    obtain ⟨hfile, hplace⟩ := h.eq_of_stat hstat hno
    exact ⟨hfile ▸ hstat, hplace⟩
  refine ⟨?_, ?_, ?_⟩
  · intro p hp bytes
    obtain ⟨found, hstat, hstat'⟩ := hold p hp
    rw [hstat, hstat']
  · intro p hp hp'
    have hok : d'.readText p = .ok text :=
      readText_eq_ok_iff.mpr ⟨_, (hnew p hp hp').1, fromUTF8?_toUTF8 text⟩
    exact ⟨⟨p, none, none⟩, readConfig_eq_ok_iff.mpr ⟨rfl, text, hok, htext⟩, by simp, rfl⟩
  · intro p q hp hq hq'
    by_contra hsame
    rw [Bool.not_eq_false] at hsame
    obtain ⟨bytes, hstat, -⟩ := hold p hp
    obtain ⟨other, hother, hentry⟩ := stat_eq_ok_iff.mp hstat
    obtain rfl := place_eq_of_isSame h.here hsame hother (hnew q hq hq').2
    simp [h.before] at hentry

end Disk

theorem map_eq_of_declarations {α : Type} {x y : Except ConfigError Config} {see : Config → α}
    (hsee : ∀ c c', c.declarations = c'.declarations → see c = see c')
    (h : x.map Config.declarations = y.map Config.declarations) : x.map see = y.map see := by
  rcases cases_of_map_eq h with ⟨e, rfl, rfl⟩ | ⟨c, c', rfl, rfl, hsame⟩
  · rfl
  · simp [Except.map, hsee c c' hsame]

theorem read_initTemplate (ctx : Context) (useGlobal : Bool) :
    Settings.read (initTemplate ctx useGlobal) = .ok ⟨none, none⟩ := by
  rw [initTemplate]
  split
  · exact read_globalTemplate
  · exact read_localTemplate

namespace World

variable {w : World} {level : Option Level} {useGlobal : Bool}

theorem addsFile_run (hinit : Request.ofArguments w.args = .run level (.init useGlobal false))
    (hok : w.run.exitCode = 0) :
    ∃ place, w.disk.AddsFile w.run.disk place
      (initTemplate (w.context .empty) useGlobal).toUTF8 := by
  rcases w.run_cases with ⟨hidle, -⟩ | ⟨-, hwrite, hfresh⟩
  · exact (hidle ⟨hok, _, _, _, hinit⟩).elim
  · have hforce : "--force" ∉ w.args := fun h => by simpa using (flags_of_init hinit).2.mpr h
    rw [(made_eq hinit).2]
    exact Disk.addsFile_of_write hwrite (hfresh hforce)

/-- A fresh configuration file changes nothing: with it and without it every directory has the same
declarations and keywords, or the same error, and every run on queries looks the same, in whatever
working directory it is. -/
theorem init_changes_nothing
    (hinit : Request.ofArguments w.args = .run level (.init useGlobal false))
    (hok : w.run.exitCode = 0) :
    (∃ place, w.disk.AddsFile w.run.disk place
      (initTemplate (w.context .empty) useGlobal).toUTF8) ∧
    (∀ here home dir : Path,
      ((w.disk.seenFrom here).load home dir).map Config.declarations =
        ((w.run.disk.seenFrom here).load home dir).map Config.declarations ∧
      ((w.disk.seenFrom here).load home dir).map Config.keywords =
        ((w.run.disk.seenFrom here).load home dir).map Config.keywords) ∧
    ∀ later : World, later.AsksQueries → (later.on w.disk).LooksLike (later.on w.run.disk) := by
  obtain ⟨place, hadds⟩ := addsFile_run hinit hok
  have hload : ∀ here home dir : Path,
      ((w.disk.seenFrom here).load home dir).map Config.declarations =
        ((w.run.disk.seenFrom here).load home dir).map Config.declarations := by
    intro here
    exact ((hadds.seenFrom here).growsIdly (read_initTemplate _ _)).declarations_load
  have hkeywords : ∀ c c' : Config, c.declarations = c'.declarations →
      c.keywords = c'.keywords := by
    intro c c' hsame
    simp only [Config.keywords, Config.names, hsame]
  refine ⟨⟨place, hadds⟩, ?_, ?_⟩
  · intro here home dir
    exact ⟨hload here home dir, map_eq_of_declarations hkeywords (hload here home dir)⟩
  · intro later hlater
    refine looksLike_on (w := later.on w.disk) ?_
    intro level command hargs
    obtain ⟨k, hk⟩ := hlater level command hargs
    refine ⟨k, hk, loaded_map_eq (map_eq_of_declarations ?_ (hload _ later.home later.directory))⟩
    intro c c' hsame
    simp only [KeywordChoice.keywordsWith, hkeywords c c' hsame]

/-- A new file is made in a directory below a home directory that has one. -/
def newcomer : World where
  args := ["init"]
  disk := ((Disk.empty.seenFrom ⟨"/home/work"⟩).makeDirectories ⟨"/home/work"⟩).put
    ["home", configFileName] (.file "query.keywords = 'mine'".toUTF8)
  home := ⟨"/home"⟩
  input := .empty
  terminal := false
  logSetting := none
  wording := .plain

/-- A query in the directory of the new file. -/
def afterwards : World := { newcomer with args := ["parse", "mine:x"] }

/-- The keyword of the home directory stays the only one, and a query is answered as before. -/
theorem init_changes_nothing_newcomer :
    newcomer.run.exitCode = 0 ∧
    ((newcomer.run.disk.seenFrom ⟨"/"⟩).load ⟨"/home"⟩ ⟨"/home/work"⟩).map Config.keywords =
      .ok ["mine"] ∧
    afterwards.LooksLike (afterwards.on newcomer.run.disk) := by
  have hinit : Request.ofArguments newcomer.args = .run none (.init false false) := by
    decide +kernel
  have hok : newcomer.run.exitCode = 0 := by decide +kernel
  obtain ⟨-, hload, hlater⟩ := init_changes_nothing hinit hok
  refine ⟨hok, ?_, hlater afterwards ?_⟩
  · rw [← (hload ⟨"/"⟩ ⟨"/home"⟩ ⟨"/home/work"⟩).2]
    decide +kernel
  · intro level command hargs
    have hparse : Request.ofArguments afterwards.args =
        .run none (.parse ["mine:x"] ⟨[], false⟩ false) := by decide +kernel
    obtain ⟨-, rfl⟩ := Request.run.inj (hargs.symm.trans hparse)
    exact ⟨_, rfl⟩

end World

end FacetQuery
