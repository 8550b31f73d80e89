import FacetQuery.Cli.Command

/-!
Flags on a command line. A flag of a command is set if its option stands among the arguments of the
command, wherever that is in front of two hyphens, and by nothing else.
-/
namespace FacetQuery

/-- The option that sets a flag. -/
def Flag.option (f : Flag) : String := "--" ++ f.name

variable {kind : CommandKind} {flag : Flag} {g g' : Given} {arg name : String} {text : List Char}
  {args : List String} {given level : Option Level} {command : Command}
  {useGlobal force : Bool}

@[simp] theorem toList_option (flag : Flag) :
    flag.option.toList = '-' :: '-' :: flag.name.toList := by
  simp [Flag.option]

theorem ofOption_eq_done {x : Option Given} : OptionStep.ofOption x = .done g ↔ x = some g := by
  cases x <;> simp [OptionStep.ofOption]

theorem readOption_flag (kind : CommandKind) (g : Given) (flag : Flag) :
    readOption kind g flag.option = .ofOption (g.setFlag kind flag.name) := by
  cases flag <;> rfl

/-- The option of a flag has no value that it could wait for. -/
theorem readOption_flag_complete (kind : CommandKind) (g : Given) (flag : Flag) :
    readOption kind g flag.option ≠ .awaitLevel ∧
      readOption kind g flag.option ≠ .awaitKeyword := by
  rw [readOption_flag]
  cases g.setFlag kind flag.name <;> simp [OptionStep.ofOption]

/-- Neither the option of a flag nor two hyphens are taken for a log level. -/
theorem setLevel_ne {given : Option Level} {level : Level}
    (h : setLevel given name = some level) (flag : Flag) : name ≠ "--" ∧ flag.option ≠ name := by
  unfold setLevel at h
  split at h
  · cases h
  · refine ⟨?_, ?_⟩
    · rintro rfl
      have hnone : levelOfName? "--" = none := by decide
      simp [hnone] at h
    · rintro rfl
      have hnone : levelOfName? flag.option = none := by cases flag <;> decide
      simp [hnone] at h

/-- The option of a flag and two hyphens look like options. -/
theorem ne_of_not_looksLikeOption (h : ¬ looksLikeOption name = true) (flag : Flag) :
    name ≠ "--" ∧ flag.option ≠ name := by
  refine ⟨?_, ?_⟩
  · rintro rfl
    exact h (by decide)
  · rintro rfl
    exact h (by cases flag <;> decide)

theorem setFlag_cases (h : g.setFlag kind name = some g') :
    g'.others = g.others ∧ ∃ flag : Flag, flag.name = name ∧ g'.flags = flag :: g.flags := by
  unfold Given.setFlag at h
  split at h
  · cases h
  · rename_i flag hflag
    have hname : flag.name = name := by simpa using List.find?_some hflag
    split at h
    · cases h
    · obtain rfl := Option.some.inj h
      exact ⟨rfl, flag, hname, rfl⟩

theorem exists_level (h : g.setLevel name = some g') :
    ∃ level, setLevel g.level name = some level ∧ g' = { g with level := some level } := by
  obtain ⟨level, hlevel, rfl⟩ := Option.map_eq_some_iff.mp h
  exact ⟨level, hlevel, rfl⟩

/-- The parts of an option and the equals sign between them, if there is one, give back its text. -/
theorem splitOption_append (text : List Char) :
    (splitOption text).1 ++ (splitOption text).2.elim [] ('=' :: ·) = text := by
  unfold splitOption
  split
  · simp
  · rename_i c value hvalue
    have hc : c = '=' := by simpa [hvalue] using List.head?_dropWhile_not (· != '=') text
    calc text.takeWhile (· != '=') ++ '=' :: value
        = text.takeWhile (· != '=') ++ text.dropWhile (· != '=') := by rw [hvalue, hc]
      _ = text := List.takeWhile_append_dropWhile

theorem readLong_cases (h : readLong kind g text = .done g') : g'.others = g.others ∧
    (g'.flags = g.flags ∨ ∃ flag : Flag, flag.name.toList = text ∧ g'.flags = flag :: g.flags) := by
  have hparts := splitOption_append text
  unfold readLong at h
  generalize splitOption text = parts at h hparts
  obtain ⟨name, value⟩ := parts
  dsimp only at h hparts
  split at h
  · cases h
  · obtain ⟨level, -, rfl⟩ := exists_level (ofOption_eq_done.mp h)
    exact ⟨rfl, Or.inl rfl⟩
  · cases h
  · split at h <;> cases h
  · split at h <;> cases h
    exact ⟨rfl, Or.inl rfl⟩
  · obtain ⟨hothers, flag, hname, hflags⟩ := setFlag_cases (ofOption_eq_done.mp h)
    obtain rfl : name = text := by simpa using hparts
    exact ⟨hothers, Or.inr ⟨flag, by simp [hname], hflags⟩⟩
  · cases h

theorem readShort_cases (h : readShort kind g text = .done g') :
    g'.others = g.others ∧ g'.flags = g.flags := by
  unfold readShort at h
  split at h
  · cases h
  · split at h
    · split at h <;> cases h <;> exact ⟨rfl, rfl⟩
    · cases h
  · cases h

/-- A complete option sets the flag that it is the option of, if any. -/
theorem readOption_cases (h : readOption kind g arg = .done g') : g'.others = g.others ∧
    (g'.flags = g.flags ∨ ∃ flag : Flag, flag.option = arg ∧ g'.flags = flag :: g.flags) := by
  unfold readOption at h
  split at h
  · rename_i text harg
    obtain ⟨hothers, hflags | ⟨flag, hname, hflags⟩⟩ := readLong_cases h
    · exact ⟨hothers, Or.inl hflags⟩
    · refine ⟨hothers, Or.inr ⟨flag, ?_, hflags⟩⟩
      apply String.toList_inj.mp
      rw [toList_option, hname, harg]
  · obtain ⟨hothers, hflags⟩ := readShort_cases h
    exact ⟨hothers, Or.inl hflags⟩
  · cases h

theorem find?_flags (hflag : flag ∈ kind.flags) :
    kind.flags.find? (fun f => f.name = flag.name) = some flag := by
  cases kind <;> cases flag <;> first | rfl | simp [CommandKind.flags] at hflag

theorem mem_flags_readOption (hflag : flag ∈ kind.flags) (h : readOption kind g arg = .done g') :
    flag ∈ g'.flags ↔ flag ∈ g.flags ∨ flag.option = arg := by
  by_cases harg : flag.option = arg
  · rw [← harg, readOption_flag, ofOption_eq_done, Given.setFlag, find?_flags hflag] at h
    dsimp only at h
    split at h
    · cases h
    · obtain rfl := Option.some.inj h
      simp [harg]
  · obtain ⟨-, hflags | ⟨flag', rfl, hflags⟩⟩ := readOption_cases h
    · simp [hflags, harg]
    · have hne : flag ≠ flag' := by
        rintro rfl
        exact harg rfl
      simp [hflags, hne, harg]

/-- A flag is set by its option in front of two hyphens. -/
theorem mem_flags_readArguments (hflag : flag ∈ kind.flags)
    (h : readArguments kind g args = .ok g') :
    flag ∈ g'.flags ↔ flag ∈ g.flags ∨ flag.option ∈ args.takeWhile (· ≠ "--") := by
  fun_induction readArguments kind g args with
  | case1 g =>
    obtain rfl := Except.ok.inj h
    simp
  | case2 g rest =>
    obtain rfl := Except.ok.inj h
    simp
  | case3 g arg harg _ g₁ rest hread ih =>
    rw [ih h, mem_flags_readOption hflag hread]
    simp [harg, or_assoc]
  | case7 g arg harg _ value rest hread g₁ hlevel ih =>
    have hne : flag.option ≠ arg := by
      rintro rfl
      exact (readOption_flag_complete kind g flag).1 hread
    obtain ⟨level, hvalue, rfl⟩ := exists_level hlevel
    rw [ih h]
    simp [harg, hne, setLevel_ne hvalue flag]
  | case9 g arg harg _ value rest hread hoption ih =>
    have hne : flag.option ≠ arg := by
      rintro rfl
      exact (readOption_flag_complete kind g flag).2 hread
    rw [ih h]
    simp [harg, hne, ne_of_not_looksLikeOption hoption flag, Given.addKeyword]
  | case12 g arg rest harg hoption ih =>
    rw [ih h]
    simp [harg, ne_of_not_looksLikeOption hoption flag]
  | _ => cases h

/-- Nothing stands behind two hyphens. -/
def OnlyOptions (args : List String) : Prop :=
  ∀ arg ∈ args, arg = "--" ∨ arg ∈ args.takeWhile (· ≠ "--")

theorem OnlyOptions.cons (h : OnlyOptions args) (harg : arg ≠ "--") :
    OnlyOptions (arg :: args) := by
  intro other hother
  rcases List.mem_cons.mp hother with rfl | hother
  · simp [harg]
  · rcases h other hother with rfl | hmem
    · exact Or.inl rfl
    · simpa [harg] using Or.inr (Or.inr hmem)

/-- What is no option is kept, so that without such arguments there are only options. -/
theorem onlyOptions_of_others (h : readArguments kind g args = .ok g') (hnone : g'.others = []) :
    g.others = [] ∧ OnlyOptions args := by
  fun_induction readArguments kind g args with
  | case1 g =>
    obtain rfl := Except.ok.inj h
    exact ⟨hnone, by simp [OnlyOptions]⟩
  | case2 g rest =>
    obtain rfl := Except.ok.inj h
    obtain ⟨hothers, rfl⟩ := List.append_eq_nil_iff.mp hnone
    exact ⟨hothers, by simp [OnlyOptions]⟩
  | case3 g arg harg _ g₁ rest hread ih =>
    obtain ⟨hothers, hrest⟩ := ih h
    rw [(readOption_cases hread).1] at hothers
    exact ⟨hothers, hrest.cons harg⟩
  | case7 g arg harg _ value rest hread g₁ hlevel ih =>
    obtain ⟨hothers, hrest⟩ := ih h
    obtain ⟨level, hvalue, rfl⟩ := exists_level hlevel
    exact ⟨hothers, (hrest.cons (setLevel_ne hvalue .json).1).cons harg⟩
  | case9 g arg harg _ value rest hread hoption ih =>
    obtain ⟨hothers, hrest⟩ := ih h
    exact ⟨hothers, (hrest.cons (ne_of_not_looksLikeOption hoption .json).1).cons harg⟩
  | case12 g arg rest harg hoption ih =>
    simp at ih
    exact (ih h).elim
  | _ => cases h

/-- The option of a flag is neither a command nor anything that may stand in front of one. -/
theorem option_not_leading (flag : Flag) :
    CommandKind.ofName? flag.option = none ∧ readLeading flag.option = .wrong := by
  cases flag <;> decide

theorem command?_init (h : g.command? kind = some (.init useGlobal force)) :
    kind = .init ∧ g.others = [] ∧ useGlobal = g.flags.contains .useGlobal ∧
      force = g.flags.contains .force := by
  unfold Given.command? at h
  dsimp only at h
  split at h <;> simp_all

theorem exists_given_of_readCommand (h : readCommand given kind args = .run level command) :
    ∃ g, readArguments kind .start args = .ok g ∧ g.command? kind = some command := by
  rw [readCommand] at h
  split at h
  · cases h
  · cases h
  · rename_i g hread
    split at h
    · cases h
    · rename_i hcommand
      obtain ⟨-, rfl⟩ := Request.run.inj h
      exact ⟨g, hread, hcommand⟩

theorem readCommand_init (h : readCommand given kind args = .run level (.init useGlobal force)) :
    (useGlobal = true ↔ Flag.useGlobal.option ∈ args) ∧
      (force = true ↔ Flag.force.option ∈ args) := by
  obtain ⟨g, hread, hcommand⟩ := exists_given_of_readCommand h
  obtain ⟨rfl, hothers, rfl, rfl⟩ := command?_init hcommand
  have hset : ∀ flag ∈ CommandKind.init.flags,
      (g.flags.contains flag = true ↔ flag.option ∈ args) := by
    intro flag hflag
    rw [List.contains_iff_mem, mem_flags_readArguments hflag hread]
    constructor
    · rintro (hnone | hmem)
      · cases hnone
      · exact List.takeWhile_subset _ hmem
    · intro hmem
      rcases (onlyOptions_of_others hread hothers).2 _ hmem with hhyphens | hmem
      · exact absurd hhyphens (by cases flag <;> decide)
      · exact Or.inr hmem
  exact ⟨hset _ (by decide), hset _ (by decide)⟩

theorem readRequest_init (h : readRequest given args = .run level (.init useGlobal force)) :
    (useGlobal = true ↔ Flag.useGlobal.option ∈ args) ∧
      (force = true ↔ Flag.force.option ∈ args) := by
  fun_induction readRequest given args with
  | case2 given arg more kind harg =>
    have hne : ∀ flag : Flag, flag.option ≠ arg := by
      rintro flag rfl
      simp [(option_not_leading flag).1] at harg
    simpa [hne] using readCommand_init h
  | case8 given arg harg name more hleading found hlevel ih =>
    have hne : ∀ flag : Flag, flag.option ≠ arg := by
      rintro flag rfl
      simp [(option_not_leading flag).2] at hleading
    simpa [hne] using ih h
  | case10 given arg harg name more hleading found hlevel ih =>
    have hne : ∀ flag : Flag, flag.option ≠ arg := by
      rintro flag rfl
      simp [(option_not_leading flag).2] at hleading
    have hvalue : ∀ flag : Flag, flag.option ≠ name := fun flag => (setLevel_ne hlevel flag).2
    simpa [hne, hvalue] using ih h
  | _ => cases h

/-- The flags of a command line that makes a configuration file are its options, since nothing else
stands in it that they could be taken for. -/
theorem flags_of_init (h : Request.ofArguments args = .run level (.init useGlobal force)) :
    (useGlobal = true ↔ "--global" ∈ args) ∧ (force = true ↔ "--force" ∈ args) :=
  readRequest_init h

end FacetQuery
