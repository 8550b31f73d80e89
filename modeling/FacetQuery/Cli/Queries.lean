import FacetQuery.Cli.Command
import FacetQuery.Cli.Report
import FacetQuery.Query.Assembly
import FacetQuery.Query.Styled
import FacetQuery.Text.Json
import FacetQuery.Text.Table

/-! The commands on queries: parsing them, and showing the tokens of one. -/
namespace FacetQuery

/-- The texts that are not the program's own but those of the libraries it is built on: what is wrong
with a document that is no configuration, the help on a topic, for a terminal or not, the complaint
about a command line that cannot be read, and a document in the colours of its parts. -/
structure Wording where
  explain : String → String
  help : HelpTopic → Bool → String
  complain : Option Level → List String → String
  colour : String → String

/-- Plain texts, for where there are no such libraries. -/
def Wording.plain : Wording where
  explain _ := "the text is not a valid configuration\n"
  help _ _ := "usage: sift [OPTIONS] COMMAND\n"
  complain _ _ := "usage: sift [OPTIONS] COMMAND\n"
  colour text := text

/-- What a command sees: where it runs, the merged configuration, its input, whether its output
goes to a terminal, and the texts that are not its own. -/
structure Context where
  disk : Disk
  home : Path
  directory : Path
  config : Config
  input : ByteArray
  terminal : Bool
  wording : Wording

/-- The keywords of a run: those of the configuration unless they are left out, then its own. -/
def KeywordChoice.keywordsWith (k : KeywordChoice) (c : Config) : List String :=
  (if k.noConfig then [] else c.keywords) ++ k.keywords

/-- Runs a command that needs a vocabulary. -/
def withVocabulary (ctx : Context) (k : KeywordChoice) (command : Vocabulary → Report) : Report :=
  match Vocabulary.ofKeywords (k.keywordsWith ctx.config) with
  | .error e => .failure ctx.disk (errorText e.render)
  | .ok v => (command v).after [.event (.vocabularyBuilt v.keys)]

/-- The queries on standard input: all lines that are not blank. -/
def readQueries (input : ByteArray) : Option (List String) :=
  (String.fromUTF8? input).map fun text =>
    (textLines text).filter fun line => !line.toList.all isBlank

/-- The events of reading tokens. -/
def scanNotes (s : Scan) : List Note := s.tokens.map fun t => .event (.tokenRead t)

/-- The notes of parsing a query: its events, and its error if there is one. -/
def parseNotes (v : Vocabulary) (query : String) : List Note :=
  scanNotes (v.scan query) ++
    match v.parse query with
    | .ok f => [.event (.queryParsed f.size)]
    | .error e => [.message (errorText e.render)]

/-- The queries that can be parsed, with their formulas. -/
def parsedQueries (v : Vocabulary) (queries : List String) : List (String × Formula) :=
  queries.filterMap fun query => (v.parse query).toOption.map (query, ·)

def Formula.display (terminal : Bool) (f : Formula) : String :=
  if terminal then f.styled else f.render

/-- The headline of one of several queries. -/
def headline (terminal : Bool) (query : String) : String :=
  (if terminal then subheader query else query) ++ "\n"

/-- The output for one query: its formula, if it has one. -/
def parseText (terminal : Bool) (v : Vocabulary) (query : String) : String :=
  match v.parse query with
  | .ok f => f.display terminal
  | .error _ => ""

/-- The output for queries. Several have headlines and blank lines between them. -/
def parseTexts (terminal : Bool) (v : Vocabulary) : List String → String
  | [query] => parseText terminal v query
  | queries =>
    "\n".intercalate
      (queries.map fun query => headline terminal query ++ parseText terminal v query)

def Literal.toJson (l : Literal) : JsonValue :=
  .object <|
    ("key", .string l.key) ::
      (match l.operator with
        | none => []
        | some o => [("operator", .string o.symbol)]) ++
      [("values", .array (l.values.map .string))]

def Formula.toJson (f : Formula) : JsonValue := .array (f.literals.map Literal.toJson)

/-- The document of parsed queries. -/
def queriesJson (parsed : List (String × Formula)) : JsonValue :=
  .object [("queries", .array (parsed.map fun (query, f) =>
    .object [("query", .string query), ("literals", f.toJson)]))]

/-- Parses queries with a vocabulary. -/
def parseAll (ctx : Context) (json : Bool) (v : Vocabulary) (queries : List String) : Report where
  failed := queries.any fun query => !(v.parse query).isOk
  output :=
    if json then (queriesJson (parsedQueries v queries)).render ++ "\n"
    else parseTexts ctx.terminal v queries
  notes := .event (.queriesGiven queries.length) :: queries.flatMap (parseNotes v)
  disk := ctx.disk

/-- Parses the queries given as arguments, or those on standard input if there are none. -/
def runParse (ctx : Context) (queries : List String) (k : KeywordChoice) (json : Bool) : Report :=
  withVocabulary ctx k fun v =>
    match queries with
    | [] =>
      match readQueries ctx.input with
      | some queries => parseAll ctx json v queries
      | none =>
        .failure ctx.disk
          (errorText ("failed to read queries from stdin: " ++ FileError.notText.message))
    | queries => parseAll ctx json v queries

def Token.toJson (t : Token) : JsonValue :=
  .object [("kind", .string t.kind.name), ("text", .string t.text),
    ("span", .object [("start", .number t.span.start), ("end", .number t.span.stop)])]

def tokensJson (query : String) (tokens : List Token) : JsonValue :=
  .object [("query", .string query), ("tokens", .array (tokens.map Token.toJson))]

def tokensTable (tokens : List Token) : String :=
  table ["Kind", "Span", "Text"] (tokens.map fun t => [t.kind.name, t.span.render, t.text])

/-- The tokens of a query for reading: on a terminal below the query in styles. -/
def tokensText (terminal : Bool) (query : String) (tokens : List Token) : String :=
  (if terminal then styledTokens query tokens ++ "\n\n" else "") ++
    if tokens.isEmpty then aside "(no tokens)" ++ "\n" else tokensTable tokens

/-- Shows the tokens of a query. -/
def runTokens (ctx : Context) (query : String) (k : KeywordChoice) (json : Bool) : Report :=
  withVocabulary ctx k fun v =>
    let report : Report :=
      match v.tokenize query with
      | .error e => .failure ctx.disk (errorText e.render)
      | .ok tokens =>
        .success ctx.disk
          (if json then (tokensJson query tokens).render ++ "\n"
           else tokensText ctx.terminal query tokens)
    report.after (scanNotes (v.scan query))

end FacetQuery
