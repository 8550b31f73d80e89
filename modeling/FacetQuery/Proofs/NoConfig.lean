import FacetQuery.Proofs.Flags
import FacetQuery.Proofs.Places
import FacetQuery.Proofs.QueryRuns

/-!
Runs without the keywords of the configuration. The option that leaves them out is found wherever it
stands among the arguments. What is left of the configuration is whether it can be loaded, since it
is loaded all the same.
-/
namespace FacetQuery

variable {kind : CommandKind} {g : Given} {args lead rest : List String}
  {level given : Option Level} {command : Command}

/-- The commands that have the option. -/
def queryKinds : List CommandKind := [.parse, .tokens]

theorem noConfig_mem_flags (hkind : kind ∈ queryKinds) : .noConfig ∈ kind.flags := by
  have hall : ∀ kind ∈ queryKinds, .noConfig ∈ kind.flags := by decide
  exact hall kind hkind

/-- A command line for queries that leaves out the keywords of the configuration: the name of the
command is the first one on it, and the option stands somewhere behind it, before two hyphens. -/
def LeavesOutConfig (args : List String) : Prop :=
  ∃ lead kind rest, args = lead ++ CommandKind.name kind :: rest ∧
    (∀ arg ∈ lead, CommandKind.ofName? arg = none) ∧ kind ∈ queryKinds ∧
    "--no-config" ∈ rest.takeWhile (· ≠ "--")

theorem choice?_command? (hkind : kind ∈ queryKinds) (h : g.command? kind = some command) :
    ∃ k, command.choice? = some k ∧ k.noConfig = g.flags.contains .noConfig := by
  unfold Given.command? at h
  dsimp only at h
  split at h
  · obtain rfl := Option.some.inj h
    exact ⟨_, rfl, rfl⟩
  · obtain rfl := Option.some.inj h
    exact ⟨_, rfl, rfl⟩
  · simp [queryKinds] at hkind
  · simp [queryKinds] at hkind
  · simp [queryKinds] at hkind
  · cases h

theorem noConfig_readCommand (hkind : kind ∈ queryKinds)
    (hflag : "--no-config" ∈ rest.takeWhile (· ≠ "--"))
    (h : readCommand given kind rest = .run level command) :
    ∃ k, command.choice? = some k ∧ k.noConfig = true := by
  obtain ⟨g, hread, hcommand⟩ := exists_given_of_readCommand h
  obtain ⟨k, hk, hno⟩ := choice?_command? hkind hcommand
  have hset := mem_flags_readArguments (noConfig_mem_flags hkind) hread
  refine ⟨k, hk, ?_⟩
  simpa [hno] using hset.mpr (Or.inr hflag)

theorem noConfig_readRequest (hlead : ∀ arg ∈ lead, CommandKind.ofName? arg = none)
    (hkind : kind ∈ queryKinds) (hflag : "--no-config" ∈ rest.takeWhile (· ≠ "--"))
    (h : readRequest given (lead ++ kind.name :: rest) = .run level command) :
    ∃ k, command.choice? = some k ∧ k.noConfig = true := by
  have hname : CommandKind.ofName? kind.name = some kind ∧ levelOfName? kind.name = none := by
    have hall : ∀ kind ∈ queryKinds,
        CommandKind.ofName? kind.name = some kind ∧ levelOfName? kind.name = none := by decide
    exact hall kind hkind
  generalize hargs : lead ++ kind.name :: rest = args at h
  fun_induction readRequest given args generalizing lead with
  | case2 given arg more other harg =>
    rcases List.append_eq_cons_iff.mp hargs with ⟨rfl, heq⟩ | ⟨lead, rfl, -⟩
    · obtain ⟨rfl, rfl⟩ := List.cons.inj heq
      obtain rfl := Option.some.inj (hname.1.symm.trans harg)
      exact noConfig_readCommand hkind hflag h
    · simp [hlead arg (by simp)] at harg
  | case8 given arg harg name more hleading found hlevel ih =>
    rcases List.append_eq_cons_iff.mp hargs with ⟨rfl, heq⟩ | ⟨lead, rfl, hmore⟩
    · obtain ⟨rfl, -⟩ := List.cons.inj heq
      simp [hname.1] at harg
    · exact ih (fun a ha => hlead a (by simp [ha])) hmore.symm h
  | case10 given arg harg name more hleading found hlevel ih =>
    rcases List.append_eq_cons_iff.mp hargs with ⟨rfl, heq⟩ | ⟨lead, rfl, hmore⟩
    · obtain ⟨rfl, -⟩ := List.cons.inj heq
      simp [hname.1] at harg
    · rcases List.append_eq_cons_iff.mp hmore.symm with ⟨rfl, heq⟩ | ⟨lead, rfl, hrest⟩
      -- the name of the command is not taken for a log level
      · obtain ⟨rfl, -⟩ := List.cons.inj heq
        simp [setLevel, hname.2] at hlevel
      · exact ih (fun a ha => hlead a (by simp [ha])) hrest.symm h
  | _ => cases h

/-- What such a command line asks for, if it is a command, leaves out the keywords of the
configuration. -/
theorem LeavesOutConfig.noConfig (hargs : LeavesOutConfig args)
    (h : Request.ofArguments args = .run level command) :
    ∃ k, command.choice? = some k ∧ k.noConfig = true := by
  obtain ⟨lead, kind, rest, rfl, hlead, hkind, hflag⟩ := hargs
  rw [Request.ofArguments] at h
  exact noConfig_readRequest hlead hkind hflag h

section Failure

variable {α β ε : Type} {x y : Except ε α} {see : α → β} {z : β}

/-- Why there is no result, if there is none. -/
def failure? : Except ε α → Option ε
  | .error e => some e
  | .ok _ => none

theorem map_eq_of_failure? (h : failure? x = failure? y) (hsee : ∀ a, see a = z) :
    x.map see = y.map see := by
  cases x with
  | error e =>
    cases y with
    | error e' => simpa [failure?, Except.map] using h
    | ok b => simp [failure?] at h
  | ok a =>
    cases y with
    | error e' => simp [failure?] at h
    | ok b => simp [Except.map, hsee]

end Failure

namespace Disk

variable {d d' : Disk} {outer : Location} {bytes : ByteArray}

/-- Disks that are told apart by the presence and content of configuration files at most. -/
structure SameButConfigs (d d' : Disk) : Prop where
  here : d'.here = d.here
  others : ∀ place, d'.entry place = d.entry place ∨
    (∃ outer, place = outer ++ [configFileName]) ∧
      d.entry place ≠ some .directory ∧ d'.entry place ≠ some .directory

theorem AddsFile.sameButConfigs (h : AddsFile d d' (outer ++ [configFileName]) bytes) :
    d.SameButConfigs d' := by
  refine ⟨h.here, ?_⟩
  intro place
  by_cases hplace : place = outer ++ [configFileName]
  · refine Or.inr ⟨⟨outer, hplace⟩, ?_, ?_⟩
    · simp [hplace, h.before]
    · simp [hplace, h.after]
  · exact Or.inl (h.others place hplace)

end Disk

namespace World

variable {w : World}

/-- A run without the keywords of the configuration looks the same with any other files, provided
that the configuration can be loaded with both, or that the same is told with both where it cannot.
If it cannot be loaded, the run fails and says why. -/
theorem no_config_independence (hargs : LeavesOutConfig w.args) :
    (∀ d : Disk, failure? w.loaded = failure? (w.on d).loaded → w.LooksLike (w.on d)) ∧
    ∀ level command e, Request.ofArguments w.args = .run level command →
      w.disk.load w.home w.directory = .error e →
      w.run.exitCode = 1 ∧ w.run.stdout = "" ∧ (w.Quiet → w.run.stderr =
        errorText ("failed to load configuration: " ++ e.message w.wording.explain) ++ "\n") := by
  refine ⟨?_, ?_⟩
  · intro d hload
    refine looksLike_on ?_
    intro level command hrun
    obtain ⟨k, hk, hno⟩ := hargs.noConfig hrun
    have hsee : ∀ c, k.keywordsWith c = k.keywords := by
      intro c
      simp [KeywordChoice.keywordsWith, hno]
    exact ⟨k, hk, map_eq_of_failure? hload hsee⟩
  · intro level command e hrun hload
    obtain ⟨k, hk, -⟩ := hargs.noConfig hrun
    exact run_of_load_error hrun hk hload

/-- A query in a directory that has no configuration file. -/
def unconfigured : World where
  args := ["parse", "--no-config", "tag:bug"]
  disk := (Disk.empty.seenFrom ⟨"/work"⟩).makeDirectories ⟨"/work"⟩
  home := ⟨"/home"⟩
  input := .empty
  terminal := false
  logSetting := none
  wording := .plain

/-- The same query in a directory whose configuration file is none, with what is said to its text. -/
def refused (explain : String → String) : World :=
  { unconfigured with disk := .furnished "[query", wording := { Wording.plain with explain } }

theorem leavesOutConfig_unconfigured : LeavesOutConfig unconfigured.args :=
  ⟨[], .parse, ["--no-config", "tag:bug"], rfl, by simp, by decide, by decide⟩

/-- A file that can be loaded makes no difference, and one that cannot makes the run fail with the
explanation of its text, whatever that is. -/
theorem no_config_independence_unconfigured :
    unconfigured.LooksLike (unconfigured.on (Disk.furnished "query.keywords = 'tag'")) ∧
    ∀ explain, (refused explain).run.exitCode = 1 ∧ (refused explain).run.stdout = "" ∧
      (refused explain).run.stderr =
        "error: failed to load configuration: failed to parse config file /work/.sift.toml: " ++
          explain "[query" ++ "\n" := by
  have hloads : failure? unconfigured.loaded =
      failure? (unconfigured.on (Disk.furnished "query.keywords = 'tag'")).loaded := by decide +kernel
  have hparse : Request.ofArguments unconfigured.args =
      .run none (.parse ["tag:bug"] ⟨[], true⟩ false) := by decide +kernel
  have herror : (Disk.furnished "[query").load ⟨"/home"⟩ (Disk.furnished "[query").here =
      .error (.invalid ⟨"/work/.sift.toml"⟩ ⟨"[query"⟩) := by decide +kernel
  refine ⟨(no_config_independence leavesOutConfig_unconfigured).1 _ hloads, ?_⟩
  intro explain
  have hquiet : (refused explain).Quiet := by
    intro level command hrun
    obtain ⟨rfl, -⟩ := Request.run.inj (hrun.symm.trans hparse)
    exact Filter.quiet_choose
  obtain ⟨-, hfails⟩ := no_config_independence (w := refused explain) leavesOutConfig_unconfigured
  obtain ⟨hexit, hstdout, hstderr⟩ := hfails _ _ _ hparse herror
  refine ⟨hexit, hstdout, ?_⟩
  have hexplain : (refused explain).wording.explain = explain := rfl
  rw [hstderr hquiet, ConfigError.message_invalid, hexplain]
  simp only [errorText, ← String.append_assoc, String.reduceAppend]

/-- A file that cannot be loaded fails even a run that leaves out its keywords, where without the
file the run succeeds. -/
theorem no_config_dependence :
    LeavesOutConfig unconfigured.args ∧
    unconfigured.disk.SameButConfigs (Disk.furnished "[query") ∧
    unconfigured.disk.stat unconfigured.directory = .ok .directory ∧
    (Disk.furnished "[query").stat unconfigured.directory = .ok .directory ∧
    unconfigured.run.exitCode = 0 ∧
    (unconfigured.on (Disk.furnished "[query")).run.exitCode = 1 := by
  have hdir : unconfigured.disk.entry ["work"] = some .directory := by decide +kernel
  have hnone : unconfigured.disk.entry (["work"] ++ [configFileName]) = none := by decide +kernel
  refine ⟨leavesOutConfig_unconfigured, ?_, ?_, ?_, ?_, ?_⟩
  · exact (Disk.addsFile_put hdir hnone "[query".toUTF8).sameButConfigs
  all_goals decide +kernel

end World

end FacetQuery
