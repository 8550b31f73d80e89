import FacetQuery.Proofs.FrontEnds

/-!
Queries on lines of the input. A run that is given its queries line by line is the run that is given
them as arguments behind two hyphens, whatever its options are.
-/
namespace FacetQuery

/-- What may end a line. -/
inductive LineEnd : List Char → Prop
  | feed : LineEnd ['\n']
  | returned : LineEnd ['\r', '\n']

/-- A line with nothing to be seen on it. -/
def IsBlankLine (line : List Char) : Prop := '\n' ∉ line ∧ ∀ c ∈ line, isBlank c = true

/-- A text that lists queries, one on a line, with any number of blank lines among them. The last
line need not have an end. -/
inductive Listed : List String → List Char → Prop
  | lastBlank {line : List Char} (blank : IsBlankLine line) : Listed [] line
  | last (query : String) : Listed [query] query.toList
  | blank {line ending text : List Char} {queries : List String} (blank : IsBlankLine line)
      (ends : LineEnd ending) (more : Listed queries text) :
      Listed queries (line ++ (ending ++ text))
  | query {query : String} {ending text : List Char} {queries : List String}
      (ends : LineEnd ending) (more : Listed queries text) :
      Listed (query :: queries) (query.toList ++ (ending ++ text))

/-- A query that can stand on a line of its own: something is to be seen in it, and it holds no line
end and nothing at its end that would be taken for a part of one. -/
structure FitsLine (query : String) : Prop where
  visible : ∃ c ∈ query.toList, isBlank c = false
  one : '\n' ∉ query.toList
  ends : query.toList.getLast? ≠ some '\r'

/-- Arguments of `parse` that are options only: two hyphens, which would end the options, are not
among them, and none of them is kept as a query. -/
structure AreOptions (options : List String) : Prop where
  noHyphens : "--" ∉ options
  noQuery : ∀ g, readArguments .parse .start options = .ok g → g.others = []

variable {queries options more : List String} {query text : String} {cs line ending : List Char}
  {kind : CommandKind} {g : Given} {w : World}

/-- The lines with something to be seen on them. -/
def visibleLines (cs : List Char) : List String :=
  ((lines cs).map String.ofList).filter fun line => !line.toList.all isBlank

theorem lines_blank (h : IsBlankLine line) (hends : LineEnd ending) (rest : List Char) :
    ∃ other, lines (line ++ (ending ++ rest)) = other :: lines rest ∧
      ∀ c ∈ other, isBlank c = true := by
  cases hends with
  | returned => exact ⟨line, lines_append_return h.1, h.2⟩
  | feed =>
    by_cases hreturn : line.getLast? = some '\r'
    · -- the carriage return at the end of the line is taken for a part of the line end
      obtain ⟨front, rfl⟩ := List.getLast?_eq_some_iff.mp hreturn
      have hfront : '\n' ∉ front := fun hmem => h.1 (by simp [hmem])
      refine ⟨front, ?_, fun c hc => h.2 c (by simp [hc])⟩
      simpa using lines_append_return hfront
    · exact ⟨line, lines_append_feed h.1 hreturn, h.2⟩

theorem visibleLines_blank (h : IsBlankLine line) (hends : LineEnd ending) (rest : List Char) :
    visibleLines (line ++ (ending ++ rest)) = visibleLines rest := by
  obtain ⟨other, hlines, hblank⟩ := lines_blank h hends rest
  have hall : other.all isBlank = true := by simpa using hblank
  simp [visibleLines, hlines, hall]

theorem visibleLines_lastBlank (h : IsBlankLine line) : visibleLines line = [] := by
  cases line with
  | nil => rfl
  | cons c line =>
    have hall : (c :: line).all isBlank = true := by simpa using h.2
    rw [visibleLines, lines_last h.1 (List.cons_ne_nil c line)]
    simp [hall]

namespace FitsLine

theorem all_isBlank (h : FitsLine query) : query.toList.all isBlank = false := by
  simpa using h.visible

theorem visibleLines_eq (h : FitsLine query) (hends : LineEnd ending) (rest : List Char) :
    visibleLines (query.toList ++ (ending ++ rest)) = query :: visibleLines rest := by
  have hlines : lines (query.toList ++ (ending ++ rest)) = query.toList :: lines rest := by
    cases hends with
    | feed => exact lines_append_feed h.one h.ends
    | returned => exact lines_append_return h.one
  simp [visibleLines, hlines, h.all_isBlank]

theorem visibleLines_last (h : FitsLine query) : visibleLines query.toList = [query] := by
  have hne : query.toList ≠ [] := by
    intro hnil
    simpa [hnil] using h.visible
  rw [visibleLines, lines_last h.one hne]
  simp [h.all_isBlank]

end FitsLine

/-- A list of queries has them as its visible lines. -/
theorem visibleLines_listed (h : Listed queries cs) (hqueries : ∀ query ∈ queries, FitsLine query) :
    visibleLines cs = queries := by
  induction h with
  | lastBlank blank => exact visibleLines_lastBlank blank
  | last query => exact (hqueries query (by simp)).visibleLines_last
  | blank blank ends _ ih => rw [visibleLines_blank blank ends, ih hqueries]
  | @query query _ _ queries ends _ ih =>
    have hrest := ih fun other hother => hqueries other (by simp [hother])
    rw [(hqueries query (by simp)).visibleLines_eq ends, hrest]

theorem readQueries_listed (h : Listed queries text.toList)
    (hqueries : ∀ query ∈ queries, FitsLine query) :
    readQueries text.toUTF8 = some queries := by
  rw [readQueries, fromUTF8?_toUTF8, Option.map_some]
  exact congrArg some (visibleLines_listed h hqueries)

theorem readArguments_hyphens :
    readArguments kind g ("--" :: more) = .ok { g with others := g.others ++ more } := by
  unfold readArguments
  simp

theorem readArguments_other {arg : String} (harg : arg ≠ "--") (hoption : ¬looksLikeOption arg) :
    readArguments kind g (arg :: more) =
      readArguments kind { g with others := g.others ++ [arg] } more := by
  conv_lhs => unfold readArguments
  simp [harg, hoption]

/-- What stands behind two hyphens is kept as it is, if what stands before them can be read. -/
theorem readArguments_append (h : "--" ∉ options) (more : List String) :
    readArguments kind g (options ++ "--" :: more) =
      (readArguments kind g options).map fun g => { g with others := g.others ++ more } := by
  have hlooks : looksLikeOption "--" = true := by decide
  have hlevel : ∀ g : Given, g.setLevel "--" = none := by
    intro g
    have hnone : levelOfName? "--" = none := by decide
    simp [Given.setLevel, setLevel, hnone]
  fun_induction readArguments kind g options with
  | case1 g => exact readArguments_hyphens
  | case2 g rest => simp at h
  | case3 g arg harg hoption g₁ rest hread ih =>
    have hrest := ih fun hmem => h (by simp [hmem])
    simpa [readArguments, harg, hoption, hread] using hrest
  | case4 g arg rest harg hoption brief hread =>
    simp [readArguments, harg, hoption, hread, Except.map]
  | case5 g arg rest harg hoption hread =>
    simp [readArguments, harg, hoption, hread, Except.map]
  | case6 g arg harg hoption value rest hread hset =>
    simp [readArguments, harg, hoption, hread, hset, Except.map]
  | case7 g arg harg hoption value rest hread g₁ hset ih =>
    have hrest := ih fun hmem => h (by simp [hmem])
    simpa [readArguments, harg, hoption, hread, hset] using hrest
  | case8 g arg harg hoption value rest hread hvalue =>
    simp [readArguments, harg, hoption, hread, hvalue, Except.map]
  | case9 g arg harg hoption value rest hread hvalue ih =>
    have hrest := ih fun hmem => h (by simp [hmem])
    simpa [readArguments, harg, hoption, hread, hvalue] using hrest
  -- an option that lacks its value lacks it all the more in front of two hyphens
  | case10 g arg harg hoption hread =>
    simp [readArguments, harg, hoption, hread, hlevel, Except.map]
  | case11 g arg harg hoption hread =>
    simp [readArguments, harg, hoption, hread, hlooks, Except.map]
  | case12 g arg rest harg hoption ih =>
    have hrest := ih fun hmem => h (by simp [hmem])
    rwa [List.cons_append, readArguments_other harg hoption]

theorem ofArguments_parse (args : List String) :
    Request.ofArguments ("parse" :: args) = readCommand none .parse args := by
  have hname : CommandKind.ofName? "parse" = some .parse := by decide
  rw [Request.ofArguments]
  unfold readRequest
  simp only [hname]

/-- Queries behind two hyphens change nothing in what a command line asks for but the queries. -/
theorem ofArguments_options (h : AreOptions options) (queries : List String) :
    Request.ofArguments ("parse" :: (options ++ "--" :: queries)) =
        Request.ofArguments ("parse" :: options) ∧
      (∀ level command, Request.ofArguments ("parse" :: options) ≠ .run level command) ∨
    ∃ level choice json,
      Request.ofArguments ("parse" :: options) = .run level (.parse [] choice json) ∧
      Request.ofArguments ("parse" :: (options ++ "--" :: queries)) =
        .run level (.parse queries choice json) := by
  have hfront : (options ++ "--" :: queries).takeWhile (· ≠ "--") =
      options.takeWhile (· ≠ "--") := by
    have hall : ∀ option ∈ options, decide (option ≠ "--") = true := by
      intro option hoption
      rw [decide_eq_true_iff]
      rintro rfl
      exact h.noHyphens hoption
    rw [List.takeWhile_append_of_pos hall, List.takeWhile_cons_of_neg (by simp), List.append_nil,
      List.takeWhile_eq_self_iff.mpr hall]
  simp only [ofArguments_parse, readCommand, readArguments_append h.noHyphens]
  cases hread : readArguments .parse .start options with
  | error stop =>
    left
    cases stop with
    | help brief => exact ⟨rfl, nofun⟩
    | usage => exact ⟨congrArg (Request.usage none <| "parse" :: ·) hfront, nofun⟩
  | ok g => simp [Except.map, Given.command?, h.noQuery g hread]

/-- The input does not matter to queries that are given as arguments. -/
theorem runParse_lines {ctx : Context} (hsome : queries ≠ [])
    (hinput : readQueries ctx.input = some queries) (ignored : ByteArray) (k : KeywordChoice)
    (json : Bool) :
    runParse ctx [] k json = runParse { ctx with input := ignored } queries k json := by
  have hlines : givenQueries ctx.input [] = some queries := hinput
  have harguments : givenQueries ignored queries = some queries := by
    cases queries with
    | nil => exact absurd rfl hsome
    | cons query queries => rfl
  rw [runParse_eq hlines, runParse_eq harguments]
  simp only [withVocabulary, parseAll]

theorem runCommand_lines (hsome : queries ≠ []) (hinput : readQueries w.input = some queries)
    (ignored : ByteArray) (args : List String) (choice : KeywordChoice) (json : Bool) :
    w.runCommand (.parse [] choice json) =
      { w with args, input := ignored : World }.runCommand (.parse queries choice json) := by
  have hrun : ∀ c : Config, runParse (w.context c) [] choice json =
      runParse ({ w with args, input := ignored : World }.context c) queries choice json := by
    intro c
    have hc : readQueries (w.context c).input = some queries := hinput
    exact runParse_lines hsome hc ignored choice json
  rw [World.runCommand, World.runCommand]
  unfold World.withConfig
  simp only [hrun, World.directory]

/-- Queries on lines of the input are parsed as queries behind two hyphens are, in every world and
with every list of options. -/
theorem run_lines_eq_run_arguments (w : World) (hoptions : AreOptions options)
    (hsome : queries ≠ []) (hqueries : ∀ query ∈ queries, FitsLine query)
    (hlisted : Listed queries text.toList) (ignored : ByteArray) :
    { w with args := "parse" :: options, input := text.toUTF8 : World }.run =
      { w with args := "parse" :: (options ++ "--" :: queries), input := ignored : World }.run := by
  rcases ofArguments_options hoptions queries with
    ⟨hsame, hstop⟩ | ⟨level, choice, json, hlines, harguments⟩
  · rw [World.run, World.run, hsame]
    cases hrequest : Request.ofArguments ("parse" :: options) with
    | run level command => exact (hstop level command hrequest).elim
    | _ => rfl
  · have hread := readQueries_listed hlisted hqueries
    have hrun := runCommand_lines (w := { w with args := "parse" :: options, input := text.toUTF8 })
      hsome hread ignored ("parse" :: (options ++ "--" :: queries)) choice json
    rw [World.run, World.run, hlines, harguments]
    simp only [hrun]

/-- The options of a run that answers with a document. -/
def documentOptions : List String := ["-k", "tag", "--json"]

/-- One query that begins with a hyphen and one that breaks off. -/
def givenTwo : List String := ["-tag:a", "\"b"]

/-- The two queries on the input, with a blank line between them. -/
def fromLines : World :=
  { World.unsettled with
    args := "parse" :: documentOptions, input := "-tag:a\r\n \t\n\"b".toUTF8 }

/-- The same queries behind two hyphens. -/
def fromArguments : World :=
  { World.unsettled with args := "parse" :: (documentOptions ++ "--" :: givenTwo) }

/-- The document holds the one query, and the other is told of. -/
theorem run_lines_eq_run_arguments_two :
    AreOptions documentOptions ∧ (∀ query ∈ givenTwo, FitsLine query) ∧
    Listed givenTwo "-tag:a\r\n \t\n\"b".toList ∧
    fromLines.run = fromArguments.run ∧ fromArguments.run.exitCode = 1 ∧
    fromArguments.run.stdout =
      "\x7b\n" ++
      "  \"queries\": [\n" ++
      "    \x7b\n" ++
      "      \"query\": \"-tag:a\",\n" ++
      "      \"literals\": [\n" ++
      "        \x7b\n" ++
      "          \"key\": \"tag\",\n" ++
      "          \"operator\": \"-\",\n" ++
      "          \"values\": [\n" ++
      "            \"a\"\n" ++
      "          ]\n" ++
      "        \x7d\n" ++
      "      ]\n" ++
      "    \x7d\n" ++
      "  ]\n" ++
      "\x7d\n" ∧
    fromArguments.run.stderr =
      "error: query syntax error: unterminated quoted phrase (missing closing \")\n" ++
      "  \"b\n" ++
      "  ^\n" ++
      "hint: Add a closing quote (\") to complete the phrase\n" := by
  have hread : readArguments .parse .start documentOptions =
      .ok ⟨none, ["tag"], [.json], []⟩ := by decide +kernel
  have hoptions : AreOptions documentOptions := by
    refine ⟨by decide, ?_⟩
    intro g hg
    obtain rfl := Except.ok.inj (hread.symm.trans hg)
    rfl
  have hqueries : ∀ query ∈ givenTwo, FitsLine query := by
    simp only [givenTwo, List.forall_mem_cons]
    refine ⟨⟨⟨'a', ?_, ?_⟩, ?_, ?_⟩, ⟨⟨'b', ?_, ?_⟩, ?_, ?_⟩, nofun⟩
    all_goals decide
  have hblank : IsBlankLine [' ', '\t'] := ⟨by decide, List.all_eq_true.mp (by decide)⟩
  have hlisted : Listed givenTwo "-tag:a\r\n \t\n\"b".toList :=
    .query .returned (.blank hblank .feed (.last "\"b"))
  refine ⟨hoptions, hqueries, hlisted, ?_, by decide +kernel, by decide +kernel, by decide +kernel⟩
  exact run_lines_eq_run_arguments World.unsettled hoptions (by simp [givenTwo]) hqueries hlisted
    .empty

end FacetQuery
