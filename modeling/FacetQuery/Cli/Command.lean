import FacetQuery.Log.Event

/-!
Command lines. Options may stand before and behind other arguments, two hyphens end the options,
and the log level may also be set before the command.
-/
namespace FacetQuery

/-- Keywords given for one run, and whether those of the configuration are left out. -/
structure KeywordChoice where
  keywords : List String
  noConfig : Bool
  deriving DecidableEq, Repr

inductive Command where
  | parse (queries : List String) (choice : KeywordChoice) (json : Bool)
  | tokens (query : String) (choice : KeywordChoice) (json : Bool)
  | init (useGlobal force : Bool)
  | status
  | config
  deriving DecidableEq, Repr

/-- What help is asked about, the program unless there is a name, and whether it is asked for in
brief. -/
structure HelpTopic where
  name : Option String
  brief : Bool
  deriving DecidableEq, Repr

/-- What a command line asks for. Of one that cannot be read it keeps what a complaint may speak of:
the log level in front, and the arguments behind that as far as they matter. -/
inductive Request where
  | run (level : Option Level) (command : Command)
  | version
  | help (topic : HelpTopic)
  | usage (level : Option Level) (arguments : List String)
  deriving DecidableEq, Repr

inductive Flag where
  | json
  | noConfig
  | useGlobal
  | force
  deriving DecidableEq, Repr

def Flag.name : Flag → String
  | json => "json"
  | noConfig => "no-config"
  | useGlobal => "global"
  | force => "force"

/-- The kind of a command, which decides what arguments it takes. -/
inductive CommandKind where
  | parse
  | tokens
  | init
  | status
  | config
  deriving DecidableEq, Repr

namespace CommandKind

def all : List CommandKind := [parse, tokens, init, status, config]

def name : CommandKind → String
  | parse => "parse"
  | tokens => "tokens"
  | init => "init"
  | status => "status"
  | config => "config"

def ofName? (name : String) : Option CommandKind := all.find? fun k => k.name = name

def flags : CommandKind → List Flag
  | parse | tokens => [.json, .noConfig]
  | init => [.useGlobal, .force]
  | status | config => []

def takesKeywords : CommandKind → Bool
  | parse | tokens => true
  | init | status | config => false

end CommandKind

/-- The arguments of a command as far as they have been read. -/
structure Given where
  level : Option Level
  keywords : List String
  flags : List Flag
  others : List String
  deriving DecidableEq, Repr

/-- The part of an option behind its hyphens: its name, and the value behind an equals sign. -/
def splitOption (text : List Char) : List Char × Option (List Char) :=
  match text.dropWhile (· != '=') with
  | [] => (text, none)
  | _ :: value => (text.takeWhile (· != '='), some value)

/-- An argument that cannot be the value of an option in front of it. -/
def looksLikeOption (arg : String) : Bool :=
  match arg.toList with
  | '-' :: _ :: _ => true
  | _ => false

/-- A log level by name; the level that shows nothing is not among them. -/
def levelOfName? (name : String) : Option Level :=
  (Level.all.filter (· ≠ .off)).find? fun l => l.name = name

/-- Sets the log level by name, once. -/
def setLevel (level : Option Level) (name : String) : Option Level :=
  if level.isSome then none else levelOfName? name

namespace Given

/-- Before any argument. -/
def start : Given := ⟨none, [], [], []⟩

def setLevel (g : Given) (name : String) : Option Given :=
  (FacetQuery.setLevel g.level name).map fun level => { g with level := some level }

def addKeyword (g : Given) (keyword : String) : Given :=
  { g with keywords := g.keywords ++ [keyword] }

/-- Sets a flag that the command knows, once. -/
def setFlag (kind : CommandKind) (g : Given) (name : String) : Option Given :=
  match kind.flags.find? fun f => f.name = name with
  | none => none
  | some f => if g.flags.contains f then none else some { g with flags := f :: g.flags }

end Given

/-- An option: one that lacks its value, one that is complete, or a call for help. -/
inductive OptionStep where
  | awaitLevel
  | awaitKeyword
  | done (g : Given)
  | help (brief : Bool)
  | wrong
  deriving DecidableEq, Repr

def OptionStep.ofOption : Option Given → OptionStep
  | none => wrong
  | some g => done g

/-- A long option, given without its hyphens. -/
def readLong (kind : CommandKind) (g : Given) (text : List Char) : OptionStep :=
  let (name, value) := splitOption text
  match String.ofList name, value with
  | "log-level", none => .awaitLevel
  | "log-level", some v => .ofOption (g.setLevel (String.ofList v))
  | "help", none => .help false
  | "keyword", none => if kind.takesKeywords then .awaitKeyword else .wrong
  | "keyword", some v =>
    if kind.takesKeywords then .done (g.addKeyword (String.ofList v)) else .wrong
  | name, none => .ofOption (g.setFlag kind name)
  | _, some _ => .wrong

/-- A short option, given without its hyphen; its value may follow directly. -/
def readShort (kind : CommandKind) (g : Given) : List Char → OptionStep
  | 'h' :: _ => .help true
  | 'k' :: value =>
    if kind.takesKeywords then
      match value with
      | [] => .awaitKeyword
      | '=' :: v => .done (g.addKeyword (String.ofList v))
      | v => .done (g.addKeyword (String.ofList v))
    else .wrong
  | _ => .wrong

/-- An argument that begins with a hyphen and is longer. -/
def readOption (kind : CommandKind) (g : Given) (arg : String) : OptionStep :=
  match arg.toList with
  | '-' :: '-' :: text => readLong kind g text
  | '-' :: text => readShort kind g text
  | _ => .wrong

/-- Why reading the arguments of a command stopped. -/
inductive ArgumentStop where
  | help (brief : Bool)
  | usage
  deriving DecidableEq, Repr

/-- The arguments behind a command's name. -/
def readArguments (kind : CommandKind) (g : Given) : List String → Except ArgumentStop Given
  | [] => .ok g
  | arg :: rest =>
    if arg = "--" then .ok { g with others := g.others ++ rest }
    else if looksLikeOption arg then
      match readOption kind g arg, rest with
      | .done g, rest => readArguments kind g rest
      | .help brief, _ => .error (.help brief)
      | .wrong, _ => .error .usage
      | .awaitLevel, value :: rest =>
        match g.setLevel value with
        | none => .error .usage
        | some g => readArguments kind g rest
      | .awaitKeyword, value :: rest =>
        if looksLikeOption value then .error .usage
        else readArguments kind (g.addKeyword value) rest
      | .awaitLevel, [] | .awaitKeyword, [] => .error .usage
    else readArguments kind { g with others := g.others ++ [arg] } rest

/-- The command of a kind, if the number of other arguments is right. -/
def Given.command? (kind : CommandKind) (g : Given) : Option Command :=
  let choice : KeywordChoice := ⟨g.keywords, g.flags.contains .noConfig⟩
  let json := g.flags.contains .json
  match kind, g.others with
  | .parse, queries => some (.parse queries choice json)
  | .tokens, [query] => some (.tokens query choice json)
  | .init, [] => some (.init (g.flags.contains .useGlobal) (g.flags.contains .force))
  | .status, [] => some .status
  | .config, [] => some .config
  | _, _ => none

/-- A command with its arguments; a log level behind the command's name wins over `level`. What
stands behind two hyphens matters only to the number of arguments. -/
def readCommand (level : Option Level) (kind : CommandKind) (args : List String) : Request :=
  match readArguments kind .start args with
  | .error (.help brief) => .help ⟨some kind.name, brief⟩
  | .error .usage => .usage level (kind.name :: args.takeWhile (· ≠ "--"))
  | .ok g =>
    match g.command? kind with
    | none => .usage level (kind.name :: args)
    | some command => .run (g.level <|> level) command

/-- The word that calls for help as a command does. -/
def helpName : String := "help"

/-- The topic that is named behind the word for help: none, a command, or that word itself. -/
def readTopic : List String → Option HelpTopic
  | [] => some ⟨none, false⟩
  | [name] =>
    if name = helpName || (CommandKind.ofName? name).isSome then some ⟨some name, false⟩ else none
  | _ => none

/-- What may stand before the command: a log level, perhaps without its value yet, a call for the
version or for help, or the word for help, which may have a topic. -/
inductive Leading where
  | level (name : Option String)
  | version
  | help (brief : Bool)
  | helpWord
  | wrong
  deriving DecidableEq, Repr

def readLeading (arg : String) : Leading :=
  match arg.toList with
  | '-' :: 'V' :: _ => .version
  | '-' :: 'h' :: _ => .help true
  | '-' :: '-' :: text =>
    let (name, value) := splitOption text
    match String.ofList name, value with
    | "log-level", value => .level (value.map String.ofList)
    | "version", none => .version
    | "help", none => .help false
    | _, _ => .wrong
  | _ => if arg = helpName then .helpWord else .wrong

/-- A command line, with the log level read so far. -/
def readRequest (level : Option Level) : List String → Request
  | [] => .usage level []
  | arg :: rest =>
    match CommandKind.ofName? arg with
    | some kind => readCommand level kind rest
    | none =>
      match readLeading arg, rest with
      | .version, _ => .version
      | .help brief, _ => .help ⟨none, brief⟩
      | .helpWord, names =>
        match readTopic names with
        | none => .usage level (arg :: names)
        | some topic => .help topic
      | .level (some name), rest =>
        match setLevel level name with
        | none => .usage level (arg :: rest)
        | some level => readRequest (some level) rest
      | .level none, name :: rest =>
        match setLevel level name with
        | none => .usage level (arg :: name :: rest)
        | some level => readRequest (some level) rest
      | .level none, [] | .wrong, _ => .usage level (arg :: rest)

/-- What a command line asks for. -/
def Request.ofArguments (args : List String) : Request := readRequest none args

end FacetQuery
