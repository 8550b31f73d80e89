import FacetQuery.Proofs.FileEffects

/-!
Logging. A log level in front of a command line is added to what the command line asks for and
changes nothing else in it, and the log setting is no part of it. Runs that differ in these end with
the same exit code, the same output and the same files, and so do sessions of such runs.
-/
namespace FacetQuery

/-- The option for the log level, with its value behind an equals sign or in the next argument. -/
def IsLevelOption (arg : String) : Prop :=
  arg = "--log-level" ∨ "--log-level=".toList <+: arg.toList

instance (arg : String) : Decidable (IsLevelOption arg) := inferInstanceAs (Decidable (_ ∨ _))

/-- A command line without a log level: no argument in front of two hyphens is the option for it. -/
def LeavesLevel (args : List String) : Prop :=
  ∀ arg ∈ args.takeWhile (· ≠ "--"), ¬ IsLevelOption arg

instance (args : List String) : Decidable (LeavesLevel args) :=
  inferInstanceAs (Decidable (∀ arg ∈ args.takeWhile (· ≠ "--"), ¬ IsLevelOption arg))

/-- The arguments that set a log level, which is any but the one that shows nothing. -/
inductive SetsLevel (level : Level) : List String → Prop
  | apart (named : level ≠ .off) : SetsLevel level ["--log-level", level.name]
  | joined (named : level ≠ .off) : SetsLevel level ["--log-level=" ++ level.name]

namespace World

/-- Worlds that differ in what is logged at most: in the log setting, which may be anything, and in
a log level in front of a command line that has none itself. -/
inductive SameButLogging (w : World) : World → Prop
  | setting (logSetting : Option String) : SameButLogging w { w with logSetting }
  | level {level : Level} {option : List String} (sets : SetsLevel level option)
      (free : LeavesLevel w.args) (logSetting : Option String) :
      SameButLogging w { w with args := option ++ w.args, logSetting }

end World

/-- What the runs of a session show, the exit code and the output of each. -/
def Disk.shown (d : Disk) : List World → List (Nat × String)
  | [] => []
  | w :: ws => ((w.on d).run.exitCode, (w.on d).run.stdout) :: (d.afterRun w).shown ws

variable {arg : String} {args option : List String} {level : Level} {name : Option String}
  {w w' : World} {ws ws' : List World}

namespace World

theorem SameButLogging.on (h : w.SameButLogging w') (d : Disk) :
    (w.on d).SameButLogging (w'.on d) := by
  cases h with
  | setting logSetting => exact .setting logSetting
  | level sets free logSetting => exact SameButLogging.level (w := w.on d) sets free logSetting

end World

end FacetQuery
