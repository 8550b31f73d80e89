import FacetQuery.Cli.Configuration

/-! One run of the program, as a function of all that it can see. -/
namespace FacetQuery

/-- All that a run depends on: the command line, the files and the working directory, the home
directory, the input, whether the output is a terminal, the log setting of the environment, and the
texts that the program takes from elsewhere. -/
structure World where
  args : List String
  disk : Disk
  home : Path
  input : ByteArray
  terminal : Bool
  logSetting : Option String
  wording : Wording

namespace World

variable (w : World)

/-- The working directory. -/
def directory : Path := w.disk.here

def context (config : Config) : Context :=
  ⟨w.disk, w.home, w.directory, config, w.input, w.terminal, w.wording⟩

/-- Runs a command on the configuration of the working directory. -/
def withConfig (command : Context → Report) : Report :=
  let discovery := w.disk.discover w.home w.directory
  let found : Note := .event (.filesDiscovered discovery)
  match w.disk.loadFiles w.home discovery.files with
  | .error e =>
    let text := "failed to load configuration: " ++ e.message w.wording.explain
    (Report.failure w.disk (errorText text)).after [found]
  | .ok config =>
    (command (w.context config)).after
      [found, .event (.configLoaded config.files.length config.declarations.length)]

def runCommand : Command → Report
  | .parse queries choice json => w.withConfig fun ctx => runParse ctx queries choice json
  | .tokens query choice json => w.withConfig fun ctx => runTokens ctx query choice json
  | .init useGlobal force => runInit (w.context .empty) useGlobal force
  | .status => w.withConfig runStatus
  | .config => w.withConfig runConfig

def versionText : String := "sift 0.1.0\n"

/-- The run of a whole command line. -/
def run : Outcome :=
  match Request.ofArguments w.args with
  | .usage level arguments => ⟨2, "", w.wording.complain level arguments, w.disk⟩
  | .help topic => ⟨0, w.wording.help topic w.terminal, "", w.disk⟩
  | .version => ⟨0, versionText, "", w.disk⟩
  | .run level command => (w.runCommand command).outcome (Filter.choose level w.logSetting)

end World

end FacetQuery
