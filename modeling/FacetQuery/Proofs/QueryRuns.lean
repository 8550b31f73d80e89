import FacetQuery.Cli.Run

/-!
Runs on queries. Such a run sees the files only through the configuration that they load to, and of
a configuration only the keywords that its own choice takes from it. Log events apart, runs that
have these in common look the same.
-/
namespace FacetQuery

variable {r r' : Report} {f : Filter} {notes notes' : List Note} {ctx ctx' : Context}
  {k : KeywordChoice} {w : World} {d : Disk} {level : Option Level} {command : Command}
  {e : ConfigError} {c : Config} {told : String}

section Except

variable {α β ε : Type} {x y : Except ε α} {see : α → β}

/-- Two outcomes that cannot be told apart by what is seen of them. -/
theorem cases_of_map_eq (h : x.map see = y.map see) :
    (∃ e, x = .error e ∧ y = .error e) ∨ ∃ a b, x = .ok a ∧ y = .ok b ∧ see a = see b := by
  cases x with
  | error e =>
    cases y with
    | error e' => exact Or.inl ⟨e, rfl, by simpa [Except.map, eq_comm] using h⟩
    | ok b => simp [Except.map] at h
  | ok a =>
    cases y with
    | error e => simp [Except.map] at h
    | ok b => exact Or.inr ⟨a, b, rfl, rfl, by simpa [Except.map] using h⟩

end Except

def Note.message? : Note → Option String
  | message text => some text
  | event _ => none

namespace Report

/-- The messages for the user among the notes. -/
def messages (r : Report) : List String := r.notes.filterMap Note.message?

/-- Reports that are told apart by log events and files at most. -/
structure Alike (r r' : Report) : Prop where
  failed : r.failed = r'.failed
  output : r.output = r'.output
  messages : r.messages = r'.messages

theorem Alike.symm (h : r.Alike r') : r'.Alike r :=
  ⟨h.failed.symm, h.output.symm, h.messages.symm⟩

theorem Alike.trans {r'' : Report} (h : r.Alike r') (h' : r'.Alike r'') : r.Alike r'' :=
  ⟨h.failed.trans h'.failed, h.output.trans h'.output, h.messages.trans h'.messages⟩

theorem Alike.after (h : r.Alike r')
    (hn : notes.filterMap Note.message? = notes'.filterMap Note.message?) :
    (r.after notes).Alike (r'.after notes') where
  failed := h.failed
  output := h.output
  messages := by
    have hm := h.messages
    simp only [Report.messages] at hm
    simp only [Report.messages, Report.after, List.filterMap_append, hn, hm]

/-- Log events in front of a report are not noticed. -/
theorem after_alike (r : Report) (hn : notes.filterMap Note.message? = []) :
    (r.after notes).Alike r where
  failed := rfl
  output := rfl
  messages := by simp [messages, Report.after, hn]

theorem failure_alike (d d' : Disk) (text : String) : (failure d text).Alike (failure d' text) :=
  ⟨rfl, rfl, rfl⟩

theorem success_alike (d d' : Disk) (text : String) : (success d text).Alike (success d' text) :=
  ⟨rfl, rfl, rfl⟩

end Report

/-- A filter that shows no log events. -/
def Filter.Quiet (f : Filter) : Prop := ∀ e, f.shows e = false

/-- Without a log level and a log setting nothing is shown, since all events are below a warning. -/
theorem Filter.quiet_choose : (Filter.choose none none).Quiet := by
  intro e
  have hdeciding : (Filter.choose none none).deciding e = some ⟨none, none, false, .warn⟩ := rfl
  cases e <;> simp [Filter.shows, hdeciding, Event.level, Level.rank]

theorem Report.stderr_of_quiet (hf : f.Quiet) (r : Report) :
    (r.outcome f).stderr = String.join (r.messages.map fun text => text ++ "\n") := by
  have hnotes : ∀ notes : List Note, String.join (notes.map (Note.render f)) =
      String.join ((notes.filterMap Note.message?).map fun text => text ++ "\n") := by
    intro notes
    induction notes with
    | nil => rfl
    | cons note notes ih =>
      cases note with
      | message text => simp [Note.render, Note.message?, ih]
      | event e => simp [Note.render, Note.message?, List.filterMap_cons, ih, hf e]
  exact hnotes r.notes

/-- Reports that are alike are shown alike. -/
theorem Report.Alike.outcome (h : r.Alike r') (f : Filter) :
    (r.outcome f).exitCode = (r'.outcome f).exitCode ∧
      (r.outcome f).stdout = (r'.outcome f).stdout ∧
      (f.Quiet → (r.outcome f).stderr = (r'.outcome f).stderr) := by
  refine ⟨?_, h.output, ?_⟩
  · simp only [Report.outcome, h.failed]
  · intro hf
    rw [Report.stderr_of_quiet hf, Report.stderr_of_quiet hf, h.messages]

theorem withVocabulary_alike {run run' : Vocabulary → Report}
    (hk : k.keywordsWith ctx.config = k.keywordsWith ctx'.config)
    (hrun : ∀ v, (run v).Alike (run' v)) :
    (withVocabulary ctx k run).Alike (withVocabulary ctx' k run') := by
  rw [withVocabulary, withVocabulary, hk]
  split
  · exact Report.failure_alike _ _ _
  · exact (hrun _).after rfl

theorem runParse_alike (hk : k.keywordsWith ctx.config = k.keywordsWith ctx'.config)
    (hi : ctx.input = ctx'.input) (ht : ctx.terminal = ctx'.terminal) (queries : List String)
    (json : Bool) : (runParse ctx queries k json).Alike (runParse ctx' queries k json) := by
  have hall : ∀ v queries, (parseAll ctx json v queries).Alike (parseAll ctx' json v queries) := by
    intro v queries
    exact ⟨rfl, by simp only [parseAll, ht], rfl⟩
  refine withVocabulary_alike hk ?_
  intro v
  cases queries with
  | nil =>
    dsimp only
    rw [hi]
    split
    · exact hall _ _
    · exact Report.failure_alike _ _ _
  | cons query queries => exact hall _ _

theorem runTokens_alike (hk : k.keywordsWith ctx.config = k.keywordsWith ctx'.config)
    (ht : ctx.terminal = ctx'.terminal) (query : String) (json : Bool) :
    (runTokens ctx query k json).Alike (runTokens ctx' query k json) := by
  refine withVocabulary_alike hk ?_
  intro v
  refine Report.Alike.after ?_ rfl
  rw [ht]
  cases v.tokenize query with
  | error e => exact Report.failure_alike _ _ _
  | ok tokens => exact Report.success_alike _ _ _

/-- The keyword choice of a command on queries; the other commands have none. -/
def Command.choice? : Command → Option KeywordChoice
  | parse _ choice _ | tokens _ choice _ => some choice
  | _ => none

namespace World

/-- The same world with other files, in the same working directory. -/
def on (w : World) (d : Disk) : World := { w with disk := d.seenFrom w.directory }

/-- The configuration of the working directory, or what is told if it cannot be loaded. -/
def loaded (w : World) : Except String Config :=
  match w.disk.load w.home w.directory with
  | .error e => .error (e.message w.wording.explain)
  | .ok c => .ok c

theorem loaded_eq_error_iff : w.loaded = .error told ↔
    ∃ e, w.disk.load w.home w.directory = .error e ∧ e.message w.wording.explain = told := by
  unfold loaded
  cases w.disk.load w.home w.directory <;> simp

theorem loaded_eq_ok_iff : w.loaded = .ok c ↔ w.disk.load w.home w.directory = .ok c := by
  unfold loaded
  cases w.disk.load w.home w.directory <;> simp

/-- Files that load alike, errors included, are told of alike. -/
theorem loaded_map_eq {α : Type} {see : Config → α}
    (h : (w.disk.load w.home w.directory).map see =
      ((w.on d).disk.load w.home w.directory).map see) :
    w.loaded.map see = (w.on d).loaded.map see := by
  rcases cases_of_map_eq h with ⟨e, hw, hd⟩ | ⟨c, c', hw, hd, hsee⟩
  · have hloaded : w.loaded = .error (e.message w.wording.explain) :=
      loaded_eq_error_iff.mpr ⟨e, hw, rfl⟩
    have hloaded' : (w.on d).loaded = .error (e.message w.wording.explain) :=
      loaded_eq_error_iff.mpr ⟨e, hd, rfl⟩
    rw [hloaded, hloaded']
  · rw [loaded_eq_ok_iff.mpr hw, loaded_eq_ok_iff.mpr hd, Except.map, Except.map, hsee]

theorem withConfig_of_error {run : Context → Report} (h : w.loaded = .error told) :
    (w.withConfig run).Alike (.failure w.disk
      (errorText ("failed to load configuration: " ++ told))) := by
  obtain ⟨e, hload, rfl⟩ := loaded_eq_error_iff.mp h
  have hfiles : w.disk.loadFiles w.home (w.disk.discover w.home w.directory).files = .error e :=
    hload
  unfold withConfig
  dsimp only
  rw [hfiles]
  exact Report.after_alike _ rfl

theorem withConfig_of_ok {run : Context → Report} (h : w.disk.load w.home w.directory = .ok c) :
    (w.withConfig run).Alike (run (w.context c)) := by
  have hfiles : w.disk.loadFiles w.home (w.disk.discover w.home w.directory).files = .ok c := h
  unfold withConfig
  dsimp only
  rw [hfiles]
  exact Report.after_alike _ rfl

/-- What a command does with a configuration decides what it does with the files. -/
theorem withConfig_alike {α : Type} {see : Config → α} {run : Context → Report}
    (hload : w.loaded.map see = (w.on d).loaded.map see)
    (hrun : ∀ c c', see c = see c' → (run (w.context c)).Alike (run ((w.on d).context c'))) :
    (w.withConfig run).Alike ((w.on d).withConfig run) := by
  rcases cases_of_map_eq hload with ⟨told, hw, hd⟩ | ⟨c, c', hw, hd, hsee⟩
  · exact (withConfig_of_error hw).trans
      ((Report.failure_alike _ _ _).trans (withConfig_of_error hd).symm)
  · exact (withConfig_of_ok (loaded_eq_ok_iff.mp hw)).trans
      ((hrun c c' hsee).trans (withConfig_of_ok (loaded_eq_ok_iff.mp hd)).symm)

/-- A command on queries runs on the configuration, and sees of it what its choice of keywords
takes from it. -/
theorem runCommand_of_choice (hcommand : command.choice? = some k) :
    ∃ run : Context → Report, (∀ w : World, w.runCommand command = w.withConfig run) ∧
      ∀ ctx ctx', k.keywordsWith ctx.config = k.keywordsWith ctx'.config →
        ctx.input = ctx'.input → ctx.terminal = ctx'.terminal → (run ctx).Alike (run ctx') := by
  cases command with
  | parse queries choice json =>
    obtain rfl := Option.some.inj hcommand
    refine ⟨fun ctx => runParse ctx queries choice json, fun w => by rw [runCommand], ?_⟩
    intro ctx ctx' hk hi ht
    exact runParse_alike hk hi ht queries json
  | tokens query choice json =>
    obtain rfl := Option.some.inj hcommand
    refine ⟨fun ctx => runTokens ctx query choice json, fun w => by rw [runCommand], ?_⟩
    intro ctx ctx' hk _ ht
    exact runTokens_alike hk ht query json
  | init => cases hcommand
  | status => cases hcommand
  | config => cases hcommand

/-- Files that load to configurations with the same keywords for a command are the same to it. -/
theorem runCommand_alike (hcommand : command.choice? = some k)
    (hload : w.loaded.map k.keywordsWith = (w.on d).loaded.map k.keywordsWith) :
    (w.runCommand command).Alike ((w.on d).runCommand command) := by
  obtain ⟨run, hrun, halike⟩ := runCommand_of_choice hcommand
  rw [hrun, hrun]
  refine withConfig_alike hload ?_
  intro c c' hk
  exact halike _ _ hk rfl rfl

/-- A command line that asks for no command but one on queries. -/
def AsksQueries (w : World) : Prop :=
  ∀ level command, Request.ofArguments w.args = .run level command → ∃ k, command.choice? = some k

/-- A run that shows no log events. -/
def Quiet (w : World) : Prop :=
  ∀ level command, Request.ofArguments w.args = .run level command →
    (Filter.choose level w.logSetting).Quiet

/-- Runs that look the same: they have the exit code and the output in common and, where no log
events are shown, what they tell on the side. -/
structure LooksLike (w w' : World) : Prop where
  exitCode : w.run.exitCode = w'.run.exitCode
  stdout : w.run.stdout = w'.run.stdout
  stderr : w.Quiet → w.run.stderr = w'.run.stderr

theorem run_of_request (h : Request.ofArguments w.args = .run level command) :
    w.run = (w.runCommand command).outcome (Filter.choose level w.logSetting) := by
  rw [World.run, h]

theorem looksLike_of_run {w' : World} {d' : Disk} {code : Nat} {out err : String}
    (h : w.run = ⟨code, out, err, d⟩) (h' : w'.run = ⟨code, out, err, d'⟩) : w.LooksLike w' := by
  refine ⟨?_, ?_, ?_⟩ <;> simp [h, h']

/-- A run on queries looks the same with other files if its choice of keywords takes the same from
the configuration that they load to. -/
theorem looksLike_on
    (h : ∀ level command, Request.ofArguments w.args = .run level command →
      ∃ k, command.choice? = some k ∧
        w.loaded.map k.keywordsWith = (w.on d).loaded.map k.keywordsWith) :
    w.LooksLike (w.on d) := by
  cases hargs : Request.ofArguments w.args with
  | run level command =>
    obtain ⟨k, hcommand, hload⟩ := h level command hargs
    have hshown := (runCommand_alike hcommand hload).outcome (Filter.choose level w.logSetting)
    have hrun : (w.on d).run =
      ((w.on d).runCommand command).outcome (Filter.choose level w.logSetting) :=
      run_of_request hargs
    rw [← run_of_request hargs, ← hrun] at hshown
    exact ⟨hshown.1, hshown.2.1, fun hquiet => hshown.2.2 (hquiet level command hargs)⟩
  -- a command line that asks for no command has the same answer everywhere
  | _ => exact looksLike_of_run (by rw [World.run, hargs]) (by rw [World.run, on, hargs])

/-- A command on queries fails if the configuration cannot be loaded, and says why. -/
theorem run_of_load_error (hargs : Request.ofArguments w.args = .run level command)
    (hcommand : command.choice? = some k) (h : w.disk.load w.home w.directory = .error e) :
    w.run.exitCode = 1 ∧ w.run.stdout = "" ∧
      (w.Quiet → w.run.stderr =
        errorText ("failed to load configuration: " ++ e.message w.wording.explain) ++ "\n") := by
  have halike : (w.runCommand command).Alike (.failure w.disk
      (errorText ("failed to load configuration: " ++ e.message w.wording.explain))) := by
    obtain ⟨run, hrun, -⟩ := runCommand_of_choice hcommand
    rw [hrun]
    exact withConfig_of_error (loaded_eq_error_iff.mpr ⟨e, h, rfl⟩)
  obtain ⟨hexit, hstdout, hstderr⟩ := halike.outcome (Filter.choose level w.logSetting)
  rw [← run_of_request hargs] at hexit hstdout hstderr
  refine ⟨hexit, hstdout, ?_⟩
  intro hquiet
  have hfilter := hquiet level command hargs
  rw [hstderr hfilter, Report.stderr_of_quiet hfilter]
  simp [Report.messages, Report.failure, Note.message?]

end World

/-- A disk whose working directory has a configuration file with a text, with nothing above it. -/
def Disk.furnished (text : String) : Disk :=
  ((empty.seenFrom ⟨"/work"⟩).makeDirectories ⟨"/work"⟩).put ["work", configFileName]
    (.file text.toUTF8)

end FacetQuery
