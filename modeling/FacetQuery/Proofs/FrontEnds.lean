import FacetQuery.Proofs.Parsing
import FacetQuery.Proofs.QueryRuns

/-!
The front ends for queries. Text and documents are made of the same answers, one for each query, so
that they succeed and fail together. The tokens of a query are shown if it can be parsed, since
reading tokens is all that can fail in parsing.
-/
namespace FacetQuery

variable {r r' : Report} {keep : Note → Bool} {notes : List Note} {f : Filter} {ctx : Context}
  {k : KeywordChoice} {v : Vocabulary} {w : World} {c : Config} {given queries : List String}
  {query : String} {e : QueryError} {level : Option Level} {command : Command}

/-- A log event of the command that parses queries, and of no other. -/
def Note.ofParsing : Note → Bool
  | event (.queriesGiven _) | event (.queryParsed _) => true
  | message _ | event _ => false

theorem Note.render_of_quiet {note : Note} (hf : f.Quiet) (h : note.ofParsing = true) :
    note.render f = "" := by
  cases note with
  | message text => cases h
  | event e => simp [Note.render, hf e]

/-- A report that ends as another one does, and tells of its notes only those to keep. -/
structure Report.Keeps (keep : Note → Bool) (r r' : Report) : Prop where
  failed : r.failed = r'.failed
  notes : r.notes = r'.notes.filter keep

/-- Notes that are not shown may be left out. -/
theorem Report.Keeps.outcome (h : r.Keeps keep r')
    (hf : ∀ note, keep note = false → note.render f = "") :
    (r.outcome f).exitCode = (r'.outcome f).exitCode ∧
      (r.outcome f).stderr = (r'.outcome f).stderr := by
  have hnotes : ∀ notes : List Note, String.join ((notes.filter keep).map (Note.render f)) =
      String.join (notes.map (Note.render f)) := by
    intro notes
    induction notes with
    | nil => rfl
    | cons note notes ih =>
      cases hkeep : keep note with
      | true => simp [hkeep, ih]
      | false => simp [hkeep, ih, hf note hkeep]
  refine ⟨?_, ?_⟩
  · simp only [Report.outcome, h.failed]
  · simp only [Report.outcome, h.notes, hnotes]

section Keeps

variable (hkeep : ∀ note, note.ofParsing = false → keep note = true)

include hkeep

theorem keeps_self (h : ∀ note ∈ r.notes, note.ofParsing = false) : r.Keeps keep r :=
  ⟨rfl, (List.filter_eq_self.mpr fun note hnote => hkeep note (h note hnote)).symm⟩

theorem Report.Keeps.after (h : r.Keeps keep r') (hnotes : ∀ note ∈ notes, note.ofParsing = false) :
    (r.after notes).Keeps keep (r'.after notes) := by
  have hfilter : notes.filter keep = notes :=
    List.filter_eq_self.mpr fun note hnote => hkeep note (hnotes note hnote)
  refine ⟨h.failed, ?_⟩
  simp only [Report.after, List.filter_append, hfilter, h.notes]

theorem keeps_withVocabulary {run run' : Vocabulary → Report}
    (hrun : ∀ v, (run v).Keeps keep (run' v)) :
    (withVocabulary ctx k run).Keeps keep (withVocabulary ctx k run') := by
  unfold withVocabulary
  split
  · exact keeps_self hkeep (by simp [Report.failure, Note.ofParsing])
  · exact (hrun _).after hkeep (by simp [Note.ofParsing])

theorem World.keeps_withConfig {run run' : Context → Report}
    (hrun : ∀ c, (run (w.context c)).Keeps keep (run' (w.context c))) :
    (w.withConfig run).Keeps keep (w.withConfig run') := by
  unfold withConfig
  dsimp only
  split
  · exact keeps_self hkeep (by simp [Report.failure, Report.after, Note.ofParsing])
  · exact (hrun _).after hkeep (by simp [Note.ofParsing])

end Keeps

/-- The queries of a run: those given as arguments, or those on its input if there are none. -/
def givenQueries (input : ByteArray) : List String → Option (List String)
  | [] => readQueries input
  | queries => some queries

theorem runParse_eq (h : givenQueries ctx.input given = some queries) (json : Bool) :
    runParse ctx given k json = withVocabulary ctx k fun v => parseAll ctx json v queries := by
  unfold runParse
  cases given with
  | nil =>
    simp only [givenQueries] at h
    simp only [h]
  | cons query given =>
    obtain rfl := Option.some.inj h
    rfl

/-- Queries end alike as text and as a document, and tell the same. -/
theorem keeps_runParse (h : givenQueries ctx.input given = some queries) :
    (runParse ctx given k false).Keeps (fun _ => true) (runParse ctx given k true) := by
  rw [runParse_eq h, runParse_eq h]
  refine keeps_withVocabulary (fun _ _ => rfl) ?_
  intro v
  exact ⟨rfl, by simp [parseAll]⟩

/-- The tokens of a query end as the query itself does, but for the log events of parsing. -/
theorem keeps_runTokens (h : givenQueries ctx.input given = some [query]) (json json' : Bool) :
    (runTokens ctx query k json).Keeps (!·.ofParsing) (runParse ctx given k json') := by
  rw [runParse_eq h]
  refine keeps_withVocabulary (by simp) ?_
  intro v
  have hscan : (scanNotes (v.scan query)).filter (!·.ofParsing) = scanNotes (v.scan query) := by
    simp [scanNotes, Note.ofParsing]
  have hcount : (Note.event (.queriesGiven 1)).ofParsing = true := rfl
  cases hparse : v.parse query with
  | error e =>
    have hread := parse_eq_error_iff.mp hparse
    simp only [hread]
    refine ⟨?_, ?_⟩
    · simp [Report.after, Report.failure, parseAll, hparse, Except.isOk, Except.toBool]
    · have hmessage : (Note.message (errorText e.render)).ofParsing = false := rfl
      simp [Report.after, Report.failure, parseAll, parseNotes, hparse, hscan, hcount, hmessage]
  | ok formula =>
    cases hread : v.tokenize query with
    | error e => simp [parse_eq_error_iff.mpr hread] at hparse
    | ok tokens =>
      refine ⟨?_, ?_⟩
      · simp [Report.after, Report.success, parseAll, hparse, Except.isOk, Except.toBool]
      · have hsize : (Note.event (.queryParsed formula.size)).ofParsing = true := rfl
        simp [Report.after, Report.success, parseAll, parseNotes, hparse, hscan, hcount, hsize]

/-- The messages for queries that cannot be parsed, in the order of the queries. -/
def complaints (v : Vocabulary) (queries : List String) : List String :=
  queries.filterMap fun query =>
    match v.parse query with
    | .ok _ => none
    | .error e => some (errorText e.render)

theorem messages_parseAll (json : Bool) :
    (parseAll ctx json v queries).messages = complaints v queries := by
  have hscan : ∀ s : Scan, (scanNotes s).filterMap Note.message? = [] := by
    intro s
    simp [scanNotes, List.filterMap_map, Function.comp_def, Note.message?]
  have hnotes : ∀ queries, (queries.flatMap (parseNotes v)).filterMap Note.message? =
      complaints v queries := by
    intro queries
    induction queries with
    | nil => rfl
    | cons query queries ih =>
      rw [List.flatMap_cons, List.filterMap_append, ih, complaints, complaints,
        List.filterMap_cons, parseNotes, List.filterMap_append, hscan]
      cases v.parse query <;> rfl
  exact hnotes queries

/-- What stands in front of the answer to each query: nothing if it is the only one, or else its
headline, with a blank line before all but the first. -/
def frames (terminal : Bool) : List String → List String
  | [] => []
  | [_] => [""]
  | query :: queries =>
    headline terminal query :: queries.map fun query => "\n" ++ headline terminal query

theorem intercalate_eq_join (separator : String) (t : String) (ts : List String) :
    separator.intercalate (t :: ts) = t ++ String.join (ts.map (separator ++ ·)) := by
  induction ts generalizing t with
  | nil => simp
  | cons t' ts ih => simp [String.intercalate_cons_cons, ih, String.append_assoc]

/-- Text is one answer behind another, each in its frame. -/
theorem parseTexts_eq (terminal : Bool) (v : Vocabulary) (queries : List String) :
    parseTexts terminal v queries = String.join (List.zipWith (· ++ ·) (frames terminal queries)
      (queries.map (parseText terminal v))) := by
  cases queries with
  | nil => rfl
  | cons query queries =>
    cases queries with
    | nil => simp [parseTexts, frames]
    | cons query' queries =>
      simp only [parseTexts, List.map_cons, intercalate_eq_join, frames, List.zipWith_cons_cons,
        List.zipWith_map, List.zipWith_self, String.join_cons, List.map_map, Function.comp_def,
        String.append_assoc]

/-- The same formulas, in the order of the queries that have one, make up a text and a document. -/
structure Answers (v : Vocabulary) (terminal : Bool) (queries : List String)
    (parsed : List (String × Formula)) (text json : String) : Prop where
  names : parsed.map Prod.fst = queries.filter fun query => (v.parse query).isOk
  formulas : ∀ answer ∈ parsed, v.parse answer.1 = .ok answer.2
  json : json = (queriesJson parsed).render ++ "\n"
  text : text = String.join (List.zipWith (· ++ ·) (frames terminal queries)
    (queries.map (parseText terminal v)))
  shown : (queries.filter fun query => (v.parse query).isOk).map (parseText terminal v) =
    parsed.map fun answer => answer.2.display terminal
  silent : ∀ query, (v.parse query).isOk = false → parseText terminal v query = ""

theorem names_parsedQueries (v : Vocabulary) (queries : List String) :
    (parsedQueries v queries).map Prod.fst = queries.filter fun query => (v.parse query).isOk := by
  induction queries with
  | nil => rfl
  | cons query queries ih =>
    cases hparse : v.parse query <;>
      simpa [parsedQueries, hparse, Except.toOption, Except.isOk, Except.toBool] using ih

theorem parse_of_mem_parsedQueries {answer : String × Formula}
    (h : answer ∈ parsedQueries v queries) : v.parse answer.1 = .ok answer.2 := by
  obtain ⟨query, -, hquery⟩ := List.mem_filterMap.mp h
  cases hparse : v.parse query with
  | error e => simp [hparse, Except.toOption] at hquery
  | ok formula =>
    obtain rfl : (query, formula) = answer := by simpa [hparse, Except.toOption] using hquery
    exact hparse

theorem answers_parsedQueries (terminal : Bool) (v : Vocabulary) (queries : List String) :
    Answers v terminal queries (parsedQueries v queries) (parseTexts terminal v queries)
      ((queriesJson (parsedQueries v queries)).render ++ "\n") := by
  refine ⟨names_parsedQueries v queries, fun _ => parse_of_mem_parsedQueries, rfl,
    parseTexts_eq terminal v queries, ?_, ?_⟩
  · rw [← names_parsedQueries, List.map_map]
    refine List.map_congr_left ?_
    intro answer hanswer
    simp [parseText, parse_of_mem_parsedQueries hanswer]
  · intro query hquery
    cases hparse : v.parse query with
    | error e => simp [parseText, hparse]
    | ok formula => simp [hparse, Except.isOk, Except.toBool] at hquery

namespace World

/-- What comes of a command at a log level. -/
def answer (w : World) (level : Option Level) (command : Command) : Outcome :=
  (w.runCommand command).outcome (Filter.choose level w.logSetting)

theorem run_eq_answer (h : Request.ofArguments w.args = .run level command) :
    w.run = w.answer level command :=
  run_of_request h

theorem keeps_parse (hgiven : givenQueries w.input given = some queries) :
    (w.runCommand (.parse given k false)).Keeps (fun _ => true)
      (w.runCommand (.parse given k true)) := by
  rw [runCommand, runCommand]
  refine keeps_withConfig (fun _ _ => rfl) ?_
  intro c
  have hcontext : givenQueries (w.context c).input given = some queries := hgiven
  exact keeps_runParse hcontext

theorem keeps_tokens (hgiven : givenQueries w.input given = some [query]) (json json' : Bool) :
    (w.runCommand (.tokens query k json)).Keeps (!·.ofParsing)
      (w.runCommand (.parse given k json')) := by
  rw [runCommand, runCommand]
  refine keeps_withConfig (by simp) ?_
  intro c
  have hcontext : givenQueries (w.context c).input given = some [query] := hgiven
  exact keeps_runTokens hcontext json json'

/-- Without good keywords there is nothing but the message about the first bad one. -/
theorem parse_alike_of_error (hload : w.disk.load w.home w.directory = .ok c)
    (he : Vocabulary.ofKeywords (k.keywordsWith c) = .error e) (json : Bool) :
    (w.runCommand (.parse given k json)).Alike (.failure w.disk (errorText e.render)) := by
  rw [runCommand]
  refine (withConfig_of_ok hload).trans ?_
  simp only [runParse, withVocabulary, context, he]
  exact Report.failure_alike _ _ _

/-- With good keywords all queries are parsed. -/
theorem parse_alike_of_ok (hload : w.disk.load w.home w.directory = .ok c)
    (hgiven : givenQueries w.input given = some queries)
    (hv : Vocabulary.ofKeywords (k.keywordsWith c) = .ok v) (json : Bool) :
    (w.runCommand (.parse given k json)).Alike (parseAll (w.context c) json v queries) := by
  rw [runCommand]
  refine (withConfig_of_ok hload).trans ?_
  have hcontext : givenQueries (w.context c).input given = some queries := hgiven
  rw [runParse_eq hcontext]
  simp only [withVocabulary, context, hv]
  exact Report.after_alike _ rfl

theorem answer_of_error (hload : w.disk.load w.home w.directory = .ok c)
    (he : Vocabulary.ofKeywords (k.keywordsWith c) = .error e) (level : Option Level)
    (json : Bool) :
    (w.answer level (.parse given k json)).exitCode = 1 ∧
      (w.answer level (.parse given k json)).stdout = "" ∧
      ((Filter.choose level w.logSetting).Quiet →
        (w.answer level (.parse given k json)).stderr = errorText e.render ++ "\n") := by
  obtain ⟨hexit, hstdout, hstderr⟩ :=
    (parse_alike_of_error hload he json).outcome (Filter.choose level w.logSetting)
  refine ⟨hexit, hstdout, ?_⟩
  intro hf
  rw [answer, hstderr hf, Report.stderr_of_quiet hf]
  simp [Report.messages, Report.failure, Note.message?]

theorem answer_of_ok (hload : w.disk.load w.home w.directory = .ok c)
    (hgiven : givenQueries w.input given = some queries)
    (hv : Vocabulary.ofKeywords (k.keywordsWith c) = .ok v) (level : Option Level)
    (json : Bool) :
    ((w.answer level (.parse given k json)).exitCode = 0 ↔
      ∀ query ∈ queries, (v.parse query).isOk = true) ∧
    (w.answer level (.parse given k json)).stdout =
      (parseAll (w.context c) json v queries).output ∧
    ((Filter.choose level w.logSetting).Quiet → (w.answer level (.parse given k json)).stderr =
      String.join ((complaints v queries).map (· ++ "\n"))) := by
  obtain ⟨hexit, hstdout, hstderr⟩ :=
    (parse_alike_of_ok hload hgiven hv json).outcome (Filter.choose level w.logSetting)
  refine ⟨?_, hstdout, ?_⟩
  · rw [answer, hexit]
    simp [Report.outcome, parseAll]
  · intro hf
    rw [answer, hstderr hf, Report.stderr_of_quiet hf, messages_parseAll]

/-- Text and documents agree: they have the exit code and all that is told on the side in common,
and they are made of the same formulas. A run succeeds if the keywords are good and every query can
be parsed; without log events it tells the errors in the order of the queries. The tokens of a
single query end alike, but for the log events of parsing. -/
theorem front_ends_agree (hload : w.disk.load w.home w.directory = .ok c)
    (hgiven : givenQueries w.input given = some queries) (k : KeywordChoice)
    (level : Option Level) :
    let text := w.answer level (.parse given k false)
    let json := w.answer level (.parse given k true)
    let f := Filter.choose level w.logSetting
    (text.exitCode = json.exitCode ∧ text.stderr = json.stderr) ∧
    (text.exitCode = 0 ↔ ∃ v, Vocabulary.ofKeywords (k.keywordsWith c) = .ok v ∧
      ∀ query ∈ queries, (v.parse query).isOk = true) ∧
    (∀ e, Vocabulary.ofKeywords (k.keywordsWith c) = .error e →
      text.stdout = "" ∧ json.stdout = "" ∧
      (f.Quiet → text.stderr = errorText e.render ++ "\n")) ∧
    (∀ v, Vocabulary.ofKeywords (k.keywordsWith c) = .ok v →
      (∃ parsed, Answers v w.terminal queries parsed text.stdout json.stdout) ∧
      (f.Quiet → text.stderr = String.join ((complaints v queries).map (· ++ "\n")))) ∧
    ∀ query, queries = [query] → ∀ asJson,
      (w.answer level (.tokens query k asJson)).exitCode = text.exitCode ∧
      (w.runCommand (.tokens query k asJson)).notes =
        (w.runCommand (.parse given k false)).notes.filter (!·.ofParsing) ∧
      (f.Quiet → (w.answer level (.tokens query k asJson)).stderr = text.stderr) := by
  intro text json f
  refine ⟨?_, ?_, ?_, ?_, ?_⟩
  · exact (keeps_parse hgiven).outcome (by simp)
  · cases hv : Vocabulary.ofKeywords (k.keywordsWith c) with
    | error e =>
      have hexit : text.exitCode = 1 := (answer_of_error hload hv level false).1
      simp [hexit]
    | ok v => simpa using (answer_of_ok hload hgiven hv level false).1
  · intro e he
    obtain ⟨-, htext, hstderr⟩ := answer_of_error hload he level false
    obtain ⟨-, hjson, -⟩ := answer_of_error hload he level true
    exact ⟨htext, hjson, hstderr⟩
  · intro v hv
    obtain ⟨-, htext, hstderr⟩ := answer_of_ok hload hgiven hv level false
    obtain ⟨-, hjson, -⟩ := answer_of_ok hload hgiven hv level true
    refine ⟨⟨parsedQueries v queries, ?_⟩, hstderr⟩
    rw [htext, hjson]
    exact answers_parsedQueries w.terminal v queries
  · rintro query rfl asJson
    have hkeeps := keeps_tokens (k := k) hgiven asJson false
    refine ⟨?_, hkeeps.notes, ?_⟩
    · simp only [text, answer, Report.outcome, hkeeps.failed]
    · intro hf
      exact (hkeeps.outcome fun note hnote => Note.render_of_quiet hf (by simpa using hnote)).2

/-- A directory without a configuration file, and queries of which one breaks off. -/
def unsettled : World where
  args := ["parse", "-k", "tag", "tag:a", "\"b", "c"]
  disk := (Disk.empty.seenFrom ⟨"/work"⟩).makeDirectories ⟨"/work"⟩
  home := ⟨"/home"⟩
  input := .empty
  terminal := false
  logSetting := none
  wording := .plain

/-- The other queries are answered, and the one that breaks off is told of, in both formats. -/
theorem front_ends_agree_unsettled :
    unsettled.run.exitCode = 1 ∧
    unsettled.run.stdout = "tag:a\ntag: [a]\n\n\"b\n\nc\nfulltext: [c]\n" ∧
    unsettled.run.stderr =
      errorText (QueryError.mk (.unterminatedPhrase '"') (some 0) (some "\"b")).render ++ "\n" ∧
    (unsettled.answer none (.parse ["tag:a", "\"b", "c"] ⟨["tag"], false⟩ true)).stderr =
      unsettled.run.stderr := by
  have hargs : Request.ofArguments unsettled.args =
      .run none (.parse ["tag:a", "\"b", "c"] ⟨["tag"], false⟩ false) := by decide +kernel
  have hload : unsettled.disk.load unsettled.home unsettled.directory = .ok .empty := rfl
  have hgiven : givenQueries unsettled.input ["tag:a", "\"b", "c"] =
      some ["tag:a", "\"b", "c"] := rfl
  have hv : Vocabulary.ofKeywords ((KeywordChoice.mk ["tag"] false).keywordsWith .empty) =
      .ok (.ofValid ["tag"]) := rfl
  obtain ⟨⟨-, hsame⟩, -, -, hanswers, -⟩ := front_ends_agree hload hgiven ⟨["tag"], false⟩ none
  have hcomplaints : String.join ((complaints (.ofValid ["tag"]) ["tag:a", "\"b", "c"]).map
      (· ++ "\n")) = errorText (QueryError.mk (.unterminatedPhrase '"') (some 0)
        (some "\"b")).render ++ "\n" := by decide +kernel
  refine ⟨by decide +kernel, by decide +kernel, ?_, ?_⟩
  · rw [run_eq_answer hargs, (hanswers _ hv).2 Filter.quiet_choose, hcomplaints]
  · rw [run_eq_answer hargs, hsame]

/-- A query where log events are shown. -/
def logged : World := { unsettled with args := ["parse", "bug"], logSetting := some "debug" }

/-- The log events of parsing a query are not among those of its tokens. -/
theorem front_ends_logged :
    logged.disk.load logged.home logged.directory = .ok .empty ∧
    Request.ofArguments logged.args = .run none (.parse ["bug"] ⟨[], false⟩ false) ∧
    Request.ofArguments ["tokens", "bug"] = .run none (.tokens "bug" ⟨[], false⟩ false) ∧
    (World.run { logged with args := ["tokens", "bug"] }).exitCode = logged.run.exitCode ∧
    (World.run { logged with args := ["tokens", "bug"] }).stderr ≠ logged.run.stderr := by
  refine ⟨rfl, ?_, ?_, ?_, ?_⟩
  all_goals decide +kernel

end World

end FacetQuery
