import FacetQuery.Proofs.Flags
import FacetQuery.Proofs.Places
import FacetQuery.Proofs.QueryRuns

/-!
What runs do to the files. A run writes at most one file, which it does if it is asked to make a
configuration file and succeeds. Without the option to overwrite there was nothing where it writes.
-/
namespace FacetQuery

variable {ctx : Context} {k : KeywordChoice} {w : World} {level : Option Level}
  {command : Command} {useGlobal force : Bool} {d : Disk} {place : Location} {p : Path}
  {entry : Entry} {ws : List World}

theorem disk_withVocabulary {run : Vocabulary → Report} (hrun : ∀ v, (run v).disk = ctx.disk) :
    (withVocabulary ctx k run).disk = ctx.disk := by
  unfold withVocabulary
  split
  · rfl
  · exact hrun _

theorem disk_runParse (queries : List String) (json : Bool) :
    (runParse ctx queries k json).disk = ctx.disk := by
  refine disk_withVocabulary ?_
  intro v
  cases queries with
  | nil =>
    dsimp only
    split <;> rfl
  | cons query queries => rfl

theorem disk_runTokens (query : String) (json : Bool) :
    (runTokens ctx query k json).disk = ctx.disk := by
  refine disk_withVocabulary ?_
  intro v
  cases v.tokenize query <;> rfl

theorem disk_runStatus (ctx : Context) : (runStatus ctx).disk = ctx.disk := by
  unfold runStatus
  split
  · rfl
  · dsimp only
    split <;> rfl

/-- Making a configuration file fails and leaves the files alone, or it writes the template. -/
theorem runInit_cases (ctx : Context) (useGlobal force : Bool) :
    (runInit ctx useGlobal force).failed = true ∧
        (runInit ctx useGlobal force).disk = ctx.disk ∨
      (runInit ctx useGlobal force).failed = false ∧
        ctx.disk.write (initPath ctx useGlobal) (initTemplate ctx useGlobal).toUTF8 =
          .ok (runInit ctx useGlobal force).disk ∧
        (force = false → ctx.disk.pathExists (initPath ctx useGlobal) = false) := by
  unfold runInit
  dsimp only
  split
  · exact Or.inl ⟨rfl, rfl⟩
  · rename_i hexists
    split
    · exact Or.inl ⟨rfl, rfl⟩
    · rename_i disk hwrite
      refine Or.inr ⟨rfl, hwrite, ?_⟩
      rintro rfl
      simpa using hexists

/-- The home directory holds the global file, so that making a file there makes the global one. -/
theorem makesGlobal_iff :
    makesGlobal ctx useGlobal = true ↔ useGlobal = true ∨ ctx.directory.isSame ctx.home = true := by
  have hslash : '/' ∉ configFileName.toList := by decide
  obtain ⟨q, hparent, hsame⟩ := Path.exists_parent ctx.home hslash (by decide)
  simp [makesGlobal, globalPath, hparent, Path.isSame, hsame]

namespace World

theorem disk_withConfig {run : Context → Report} (hrun : ∀ ctx, (run ctx).disk = ctx.disk) :
    (w.withConfig run).disk = w.disk := by
  unfold withConfig
  dsimp only
  split
  · rfl
  · exact hrun _

/-- Only making a configuration file touches the files. -/
theorem disk_runCommand (h : ∀ useGlobal force, command ≠ .init useGlobal force) :
    (w.runCommand command).disk = w.disk := by
  cases command with
  | parse queries choice json =>
    rw [runCommand]
    exact disk_withConfig fun ctx => disk_runParse queries json
  | tokens query choice json =>
    rw [runCommand]
    exact disk_withConfig fun ctx => disk_runTokens query json
  | init useGlobal force => exact (h useGlobal force rfl).elim
  | status =>
    rw [runCommand]
    exact disk_withConfig disk_runStatus
  | config =>
    rw [runCommand]
    exact disk_withConfig fun ctx => rfl

/-- A run that is asked to make a configuration file and succeeds. -/
def MakesFile (w : World) : Prop :=
  w.run.exitCode = 0 ∧
    ∃ level useGlobal force, Request.ofArguments w.args = .run level (.init useGlobal force)

/-- The global file is made on request and in the home directory, however that is written. -/
def asksGlobal (w : World) : Bool := w.args.contains "--global" || w.directory.isSame w.home

/-- The path of the configuration file that a run makes. -/
def madePath (w : World) : Path :=
  (if w.asksGlobal then w.home else w.directory).child configFileName

/-- The text of the configuration file that a run makes. -/
def madeText (w : World) : String := if w.asksGlobal then globalTemplate else localTemplate

/-- What a run may do to the files. -/
structure FileEffects (w : World) : Prop where
  idle : ¬ w.MakesFile → w.run.disk = w.disk
  made : w.MakesFile → ∃ place, w.disk.placeOf w.madePath = .ok place ∧
    w.disk.SetsFile w.run.disk place w.madeText.toUTF8 ∧
    w.run.disk.stat w.madePath = .ok (.file w.madeText.toUTF8)
  fresh : w.MakesFile → "--force" ∉ w.args → w.disk.pathExists w.madePath = false

/-- A run that overwrites what is at a place, being told to. -/
def Overwrites (w : World) (place : Location) : Prop :=
  w.MakesFile ∧ "--force" ∈ w.args ∧ w.disk.placeOf w.madePath = .ok place

theorem made_eq (h : Request.ofArguments w.args = .run level (.init useGlobal force)) :
    initPath (w.context .empty) useGlobal = w.madePath ∧
      initTemplate (w.context .empty) useGlobal = w.madeText := by
  have hglobal : makesGlobal (w.context .empty) useGlobal = w.asksGlobal := by
    rw [Bool.eq_iff_iff, makesGlobal_iff, (flags_of_init h).1]
    simp [asksGlobal, context]
  rw [initPath, initTemplate, madePath, madeText, hglobal]
  cases w.asksGlobal <;> exact ⟨rfl, rfl⟩

/-- A run that is not asked to make a configuration file leaves the files alone. -/
theorem disk_run (h : ∀ level useGlobal force,
    Request.ofArguments w.args ≠ .run level (.init useGlobal force)) : w.run.disk = w.disk := by
  cases hargs : Request.ofArguments w.args with
  | run level command =>
    rw [run_of_request hargs]
    refine disk_runCommand ?_
    rintro useGlobal force rfl
    exact h level useGlobal force hargs
  | _ => rw [run, hargs]

/-- A run that is asked to make a configuration file fails and leaves the files alone, or it
writes that file. -/
theorem run_init_cases (h : Request.ofArguments w.args = .run level (.init useGlobal force)) :
    w.run.exitCode ≠ 0 ∧ w.run.disk = w.disk ∨
      w.run.exitCode = 0 ∧ w.disk.write w.madePath w.madeText.toUTF8 = .ok w.run.disk ∧
        ("--force" ∉ w.args → w.disk.pathExists w.madePath = false) := by
  obtain ⟨hpath, htext⟩ := made_eq h
  rw [run_of_request h, runCommand]
  rcases runInit_cases (w.context .empty) useGlobal force with
    ⟨hfailed, hdisk⟩ | ⟨hdone, hwrite, hfresh⟩
  · exact Or.inl ⟨by simp [Report.outcome, hfailed], hdisk⟩
  · rw [hpath, htext] at hwrite
    refine Or.inr ⟨by simp [Report.outcome, hdone], hwrite, ?_⟩
    intro hno
    have hforce : force = false := by
      rw [← (flags_of_init h).2] at hno
      simpa using hno
    rw [← hpath]
    exact hfresh hforce

/-- A run leaves the files alone, or it writes its configuration file. -/
theorem run_cases (w : World) : ¬ w.MakesFile ∧ w.run.disk = w.disk ∨
    w.MakesFile ∧ w.disk.write w.madePath w.madeText.toUTF8 = .ok w.run.disk ∧
      ("--force" ∉ w.args → w.disk.pathExists w.madePath = false) := by
  by_cases hinit : ∃ level useGlobal force,
      Request.ofArguments w.args = .run level (.init useGlobal force)
  · obtain ⟨level, useGlobal, force, hargs⟩ := hinit
    rcases run_init_cases hargs with ⟨hexit, hdisk⟩ | ⟨hexit, hwrite⟩
    · exact Or.inl ⟨fun hmakes => hexit hmakes.1, hdisk⟩
    · exact Or.inr ⟨⟨hexit, level, useGlobal, force, hargs⟩, hwrite⟩
  · refine Or.inl ⟨fun hmakes => hinit hmakes.2, disk_run ?_⟩
    intro level useGlobal force hargs
    exact hinit ⟨level, useGlobal, force, hargs⟩

theorem fileEffects (w : World) : w.FileEffects := by
  rcases w.run_cases with ⟨hidle, hdisk⟩ | ⟨hmakes, hwrite, hfresh⟩
  · exact ⟨fun _ => hdisk, fun h => (hidle h).elim, fun h => (hidle h).elim⟩
  · obtain ⟨place, hplace, hsets⟩ := Disk.setsFile_of_write hwrite
    exact ⟨fun h => (h hmakes).elim, fun _ => ⟨place, hplace, hsets, hsets.stat hplace⟩,
      fun _ => hfresh⟩

/-- What a path leads to is the same behind a run, unless it is a file that the run overwrites. The
path may be seen from another working directory than that of the run. -/
theorem stat_run (here : Path) (h : (w.disk.seenFrom here).stat p = .ok entry) :
    (w.run.disk.seenFrom here).stat p = .ok entry ∨ entry ≠ .directory ∧
      ∃ place, (w.disk.seenFrom here).placeOf p = .ok place ∧ w.Overwrites place := by
  rcases w.run_cases with ⟨-, hdisk⟩ | ⟨hmakes, hwrite, hfresh⟩
  · left
    rw [hdisk, h]
  · obtain ⟨made, hmade, hsets⟩ := Disk.setsFile_of_write hwrite
    have hseen := hsets.seenFrom here
    obtain ⟨place, hplace, hentry⟩ := Disk.stat_eq_ok_iff.mp h
    by_cases hsame : place = made
    · right
      subst hsame
      have hfile : entry ≠ .directory := by
        rintro rfl
        exact hseen.before hentry
      refine ⟨hfile, place, hplace, hmakes, ?_, hmade⟩
      by_contra hno
      have hstat := Disk.stat_eq_ok_iff.mpr ⟨place, hmade, hentry⟩
      simpa [Disk.pathExists, hstat, Except.isOk, Except.toBool] using hfresh hno
    · left
      exact Disk.stat_eq_ok_iff.mpr
        ⟨place, hseen.placeOf hplace, by rw [hseen.others place hsame, hentry]⟩

end World

/-- The files behind a run on them, seen from where they were seen before it. -/
def Disk.afterRun (d : Disk) (w : World) : Disk := (w.on d).run.disk.seenFrom d.here

/-- The files behind runs, each of which has those that the ones before it left. -/
def Disk.after (d : Disk) (ws : List World) : Disk := ws.foldl afterRun d

namespace World

/-- In a session, what a path leads to stays the same as long as no run overwrites it. -/
theorem stat_after (h : d.stat p = .ok entry) : (d.after ws).stat p = .ok entry ∨
    entry ≠ .directory ∧ ∃ front w back place, ws = front ++ w :: back ∧
      (d.after front).placeOf p = .ok place ∧ (w.on (d.after front)).Overwrites place := by
  induction ws generalizing d with
  | nil => exact Or.inl h
  | cons w ws ih =>
    rcases (w.on d).stat_run d.here h with hstat | ⟨hfile, place, hplace, hover⟩
    · rcases ih hstat with hafter | ⟨hfile, front, w', back, place, rfl, hplace, hover⟩
      · exact Or.inl hafter
      · exact Or.inr ⟨hfile, w :: front, w', back, place, rfl, hplace, hover⟩
    · exact Or.inr ⟨hfile, [], w, ws, place, rfl, hplace, hover⟩

/-- Only making a configuration file touches the files, and it writes one file, which was not there
unless it may overwrite. In a session of any length, a file that is there is overwritten by a run
that is told to, if at all. -/
theorem only_init_writes :
    (∀ w : World, w.FileEffects) ∧
    ∀ (d : Disk) (ws : List World) (p : Path) (entry : Entry), d.stat p = .ok entry →
      (d.after ws).stat p = .ok entry ∨
        entry ≠ .directory ∧ ∃ front w back place, ws = front ++ w :: back ∧
          (d.after front).placeOf p = .ok place ∧ (w.on (d.after front)).Overwrites place := by
  refine ⟨fileEffects, ?_⟩
  intro d ws p entry h
  exact stat_after h

/-- A run that makes the global file of a home directory with a relative path. -/
def settling : World where
  args := ["init", "--global"]
  disk := (Disk.empty.seenFrom ⟨"/work"⟩).makeDirectories ⟨"home"⟩
  home := ⟨"home"⟩
  input := .empty
  terminal := false
  logSetting := none
  wording := .plain

/-- One file is written where there was nothing, and a second run, which is turned away, leaves it as
it is. -/
theorem only_init_writes_settling :
    settling.MakesFile ∧ "--force" ∉ settling.args ∧
    settling.madePath = ⟨"home/.sift.toml"⟩ ∧
    settling.disk.placeOf settling.madePath = .ok ["work", "home", ".sift.toml"] ∧
    settling.disk.pathExists settling.madePath = false ∧
    settling.disk.SetsFile settling.run.disk ["work", "home", ".sift.toml"]
      globalTemplate.toUTF8 ∧
    (settling.on settling.run.disk).run.exitCode = 1 ∧
    (settling.run.disk.after [settling]).stat settling.madePath =
      .ok (.file globalTemplate.toUTF8) := by
  have hmakes : settling.MakesFile :=
    ⟨by decide +kernel, none, true, false, by decide +kernel⟩
  have hno : "--force" ∉ settling.args := by decide
  have hplace : settling.disk.placeOf settling.madePath = .ok ["work", "home", ".sift.toml"] := by
    decide +kernel
  obtain ⟨-, hmade, hfresh⟩ := only_init_writes.1 settling
  obtain ⟨place, hfound, hsets, hstat⟩ := hmade hmakes
  obtain rfl := Except.ok.inj (hplace.symm.trans hfound)
  refine ⟨hmakes, hno, by decide +kernel, hplace, hfresh hmakes hno, hsets, by decide +kernel, ?_⟩
  rcases only_init_writes.2 settling.run.disk [settling] _ _ hstat with
    hkept | ⟨-, front, w, back, place, hws, -, hover⟩
  · exact hkept
  · -- the only run of the session is not told to overwrite
    have hw : w ∈ [settling] := by simp [hws]
    obtain rfl := List.mem_singleton.mp hw
    exact (hno hover.2.1).elim

end World

end FacetQuery
