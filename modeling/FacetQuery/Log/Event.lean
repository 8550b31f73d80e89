import FacetQuery.Config.Load
import FacetQuery.Query.Token

/-! Log events: what the program tells about its work, apart from its results. -/
namespace FacetQuery

/-- How much is shown; each level shows more than those before it. -/
inductive Level where
  | off
  | error
  | warn
  | info
  | debug
  | trace
  deriving DecidableEq, Repr

namespace Level

def rank : Level → Nat
  | off => 0
  | error => 1
  | warn => 2
  | info => 3
  | debug => 4
  | trace => 5

def name : Level → String
  | off => "off"
  | error => "error"
  | warn => "warn"
  | info => "info"
  | debug => "debug"
  | trace => "trace"

def all : List Level := [off, error, warn, info, debug, trace]

end Level

inductive Event where
  | filesDiscovered (discovery : Discovery)
  | configLoaded (files keywords : Nat)
  | vocabularyBuilt (keys : List String)
  | tokenRead (token : Token)
  | queryParsed (literals : Nat)
  | queriesGiven (count : Nat)
  deriving DecidableEq, Repr

namespace Event

def level : Event → Level
  | tokenRead _ => .trace
  | _ => .debug

/-- The part of the program that an event comes from. -/
def target : Event → String
  | filesDiscovered _ => "sift_config::discovery"
  | configLoaded _ _ => "sift_config"
  | vocabularyBuilt _ => "sift_query::grammar"
  | tokenRead _ => "sift_query::lexer"
  | queryParsed _ => "sift_query::parser"
  | queriesGiven _ => "sift::cli::commands::parse"

/-- What happened. -/
def headline : Event → String
  | filesDiscovered ⟨_, stopped⟩ =>
    if stopped then "discovery stopped at root config" else "discovered config files"
  | configLoaded _ _ => "loaded configuration"
  | vocabularyBuilt _ => "built keyword grammar"
  | tokenRead _ => "token"
  | queryParsed _ => "parsed query"
  | queriesGiven _ => "parsing queries"

/-- The fields of an event besides its headline: their names and what they hold. -/
def fields : Event → List (String × String)
  | filesDiscovered ⟨files, _⟩ =>
    [("configs", bracketed (files.map fun path => quoteText path.text))]
  | configLoaded files keywords =>
    [("files", toString files), ("keywords", toString keywords)]
  | vocabularyBuilt keys => [("keys", bracketed (keys.map quoteText))]
  | tokenRead t => [("kind", t.kind.name), ("text", t.text), ("span", t.span.render)]
  | queryParsed literals => [("literals", toString literals)]
  | queriesGiven count => [("count", toString count)]

/-- The headline is a field too, by the name of `message`. -/
def hasField (e : Event) (name : String) : Bool :=
  name = "message" || e.fields.any fun field => field.1 = name

def message (e : Event) : String :=
  e.headline ++ String.join (e.fields.map fun (name, value) => " " ++ name ++ "=" ++ value)

/-- The label of an event: its level in upper case. All events have labels of the same width. -/
def label (e : Event) : String := if e.level = .trace then "TRACE" else "DEBUG"

def render (e : Event) : String := e.label ++ " " ++ e.target ++ ": " ++ e.message ++ "\n"

end Event

end FacetQuery
