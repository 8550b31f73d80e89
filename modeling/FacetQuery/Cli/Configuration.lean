import FacetQuery.Cli.Queries
import FacetQuery.Config.Template
import FacetQuery.Config.Warning

/-! The commands on configuration files: making one, checking them, and printing the result. -/
namespace FacetQuery

/-- A document as a terminal shows it, in colours that are switched off behind its last line end. -/
def highlighted (ctx : Context) (text : String) : String := ctx.wording.colour text ++ Style.off

/-- The home directory has the global file, so a new file there is global. -/
def makesGlobal (ctx : Context) (useGlobal : Bool) : Bool :=
  useGlobal || (globalPath ctx.home).parent?.any ctx.directory.isSame

/-- The file that a new configuration goes to. -/
def initPath (ctx : Context) (useGlobal : Bool) : Path :=
  if makesGlobal ctx useGlobal then globalPath ctx.home
  else ctx.directory.child configFileName

def initTemplate (ctx : Context) (useGlobal : Bool) : String :=
  if makesGlobal ctx useGlobal then globalTemplate else localTemplate

def createdText (ctx : Context) (path : Path) (template : String) : String :=
  "Created " ++ path.text ++ "\n\n" ++ subheader "Configuration written:" ++ "\n" ++
    indented (highlighted ctx template) ++ "\n"

/-- Writes a template. A file that exists is kept unless `force` is set. -/
def runInit (ctx : Context) (useGlobal force : Bool) : Report :=
  let path := initPath ctx useGlobal
  let template := initTemplate ctx useGlobal
  if ctx.disk.pathExists path && !force then
    .failure ctx.disk
      (errorText ("configuration file already exists: " ++ path.text) ++
        "\nuse --force to overwrite")
  else
    match ctx.disk.write path template.toUTF8 with
    | .error e =>
      .failure ctx.disk (errorText ("failed to write " ++ path.text ++ ": " ++ e.message))
    | .ok disk => .success disk (createdText ctx path template)

/-- A path as it is shown in a directory: relative to it if below it. -/
def shownPath (directory path : Path) : String :=
  ((path.relativeTo? directory).getD path).text

def listLine (text : String) : String := "   " ++ text ++ "\n"

def filesText (ctx : Context) : String :=
  subheader "Config files:" ++ "\n" ++
    String.join (ctx.config.files.map fun p => listLine (shownPath ctx.directory p)) ++ "\n"

/-- A keyword with the file that first declares it. -/
def declarationText (directory : Path) (d : Declaration) : String :=
  d.name ++ " " ++ aside (if d.isGlobal then "(global)" else "(local)") ++ " " ++
    aside ("<- " ++ shownPath directory d.source)

/-- The first declaration of each name. -/
def Config.firstDeclarations (c : Config) : List Declaration :=
  c.names.filterMap fun name => c.declarations.find? fun d => d.name = name

def keywordsText (ctx : Context) : String :=
  subheader "Keywords:" ++ "\n" ++
    (if ctx.config.names.isEmpty then listLine (aside "(none defined)") else "") ++
    String.join (ctx.config.firstDeclarations.map fun d =>
      listLine (declarationText ctx.directory d)) ++
    listLine (fulltextKey ++ " " ++ aside "(always)") ++ "\n"

/-- The warnings, and below them each of their hints once. -/
def warningsText (warnings : List ConfigWarning) : String :=
  subheader ("Warnings (" ++ toString warnings.length ++ "):") ++ "\n" ++
    String.join (warnings.map fun w => listLine (warningText w.message)) ++ "\n" ++
    String.join ((warnings.filterMap ConfigWarning.hint).eraseDups.map fun hint =>
      aside ("Hint: " ++ hint) ++ "\n")

def noFilesText : String :=
  aside "No configuration files found." ++ "\n\nRun " ++ subheader "sift init" ++
    " to create a configuration file.\n"

/-- Shows the configuration in force and fails if it has warnings. -/
def runStatus (ctx : Context) : Report :=
  if ctx.config.files.isEmpty then .success ctx.disk noFilesText
  else
    let overview := filesText ctx ++ keywordsText ctx
    match ctx.config.warnings with
    | [] => .success ctx.disk (overview ++ "No issues found.\n")
    | warnings => ⟨true, overview ++ warningsText warnings, [], ctx.disk⟩

/-- Prints the configuration in force as a file. -/
def runConfig (ctx : Context) : Report :=
  let text := ctx.config.toToml
  .success ctx.disk (if ctx.terminal then highlighted ctx text else text)

end FacetQuery
