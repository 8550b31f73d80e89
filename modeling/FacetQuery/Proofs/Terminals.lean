import FacetQuery.Proofs.FrontEnds
import FacetQuery.Proofs.Visible

/-!
Formulas on a terminal. All that a formula says stands in its query, so a query without escape
sequences has a formula without them, and its text in styles shows the same characters as its text
without. Runs that parse queries therefore print the same on a terminal and on a pipe, styles apart.
-/
namespace FacetQuery

open Style

variable {v : Vocabulary} {query : String} {f : Formula} {l : Literal} {p : Piece}
  {ps : List Piece} {t : Term} {r r' : Report} {shows : String → String → Prop} {ctx ctx' : Context}
  {k : KeywordChoice} {w : World} {given queries : List String} {level : Option Level}

theorem Written.infix_text (w : Written) : w.text <:+: w.chars := by
  cases w with
  | phrase quote content => exact ⟨[quote], [quote], rfl⟩
  | word text => exact List.infix_rfl

theorem Piece.infix_terms (ht : t ∈ p.terms) :
    (t.key = fulltextKey ∨ t.key.toList <:+: p.chars) ∧ t.value.toList <:+: p.chars := by
  cases p with
  | gap c => cases ht
  | term w =>
    obtain rfl := List.mem_singleton.mp ht
    refine ⟨Or.inl rfl, ?_⟩
    simp only [String.toList_ofList]
    exact w.infix_text
  | pair negated key n w =>
    obtain rfl := List.mem_singleton.mp ht
    refine ⟨Or.inr ⟨hyphen negated, colons n ++ w.chars, by simp [chars]⟩, ?_⟩
    simp only [String.toList_ofList]
    exact w.infix_text.trans (List.suffix_append _ _).isInfix

theorem infix_spelled (hp : p ∈ ps) : p.chars <:+: spelled ps := by
  obtain ⟨front, back, rfl⟩ := List.append_of_mem hp
  exact ⟨spelled front, spelled back, by simp⟩

/-- The values of a formula stand in its query, and so do its keys, but for that of bare words. -/
theorem infix_of_parse (h : v.parse query = .ok f) (hl : l ∈ f.literals) :
    (l.key = fulltextKey ∨ l.key.toList <:+: query.toList) ∧
      ∀ value ∈ l.values, value.toList <:+: query.toList := by
  obtain ⟨ps, hps, rfl⟩ := exists_splits_of_parse h
  have hterms : ∀ t ∈ ps.flatMap Piece.terms,
      (t.key = fulltextKey ∨ t.key.toList <:+: query.toList) ∧
        t.value.toList <:+: query.toList := by
    intro t ht
    obtain ⟨p, hp, ht⟩ := List.mem_flatMap.mp ht
    obtain ⟨hkey, hvalue⟩ := Piece.infix_terms ht
    have hpiece : p.chars <:+: query.toList := by
      rw [← hps.1]
      exact infix_spelled hp
    exact ⟨hkey.imp_right (·.trans hpiece), hvalue.trans hpiece⟩
  obtain ⟨g, hg, rfl⟩ := List.mem_map.mp hl
  refine ⟨?_, ?_⟩
  · obtain ⟨t, ht, rfl⟩ := List.mem_map.mp (mem_groupsOf.mp hg)
    exact (hterms t ht).1
  · intro value hvalue
    obtain ⟨t, ht, -, rfl⟩ := mem_valuesOf hvalue
    exact (hterms t ht).2

theorem IsPlain.of_infix {s : String} (hplain : IsPlain query) (h : s.toList <:+: query.toList) :
    IsPlain s :=
  fun hmem => hplain (h.subset hmem)

theorem isPlain_newline : IsPlain "\n" := by decide

/-- A literal in which no escape sequence begins. -/
structure Literal.Plain (l : Literal) : Prop where
  key : IsPlain l.key
  values : ∀ value ∈ l.values, IsPlain value

theorem plain_of_parse (h : v.parse query = .ok f) (hplain : IsPlain query)
    (hl : l ∈ f.literals) : l.Plain := by
  obtain ⟨hkey, hvalues⟩ := infix_of_parse h hl
  refine ⟨?_, fun value hvalue => hplain.of_infix (hvalues value hvalue)⟩
  rcases hkey with hkey | hkey
  · rw [hkey]
    decide
  · exact hplain.of_infix hkey

/-- Items between separators are shown between what the separators show. -/
theorem Shows.intercalate {α : Type} {separator separator' : String} {xs : List α}
    {f g : α → String} (hs : Shows separator separator') (h : ∀ x ∈ xs, Shows (f x) (g x)) :
    Shows (separator.intercalate (xs.map f)) (separator'.intercalate (xs.map g)) := by
  cases xs with
  | nil => exact Shows.empty
  | cons x xs =>
    simp only [List.map_cons, intercalate_eq_join, List.map_map]
    refine (h x (by simp)).append (Shows.join ?_)
    intro y hy
    exact hs.append (h y (by simp [hy]))

theorem shows_operator (operator : Option Operator) :
    Shows (match operator with
      | none => ""
      | some o => o.styled) (operatorText operator) := by
  cases operator with
  | none => exact Shows.empty
  | some o =>
    have hsymbol : IsPlain o.symbol := by
      cases o
      decide
    exact hsymbol.shows.paint red

theorem Literal.Plain.shows_styled (h : l.Plain) : Shows l.styled (l.render ++ "\n") := by
  have htext : ∀ s, IsPlain s → ∀ style : Style, Shows (style.paint s) s :=
    fun s hs style => hs.shows.paint style
  have hkey := ((shows_operator l.operator).append (Shows.on bold)).append (htext _ h.key cyan)
  have hcolon : IsPlain ": " := by decide
  have hopen := (hkey.append hcolon.shows).append (htext "[" (by decide) dim)
  have hvalues := hopen.append (Shows.intercalate (htext "," (by decide) dim)
    fun value hvalue => htext value (h.values value hvalue) green)
  have hall := (hvalues.append (htext "]" (by decide) dim)).append isPlain_newline.shows
  have hbracket : ": [" = ": " ++ "[" := by decide
  simp only [String.append_empty, List.map_id'] at hall
  simp only [Literal.styled, Literal.render, hbracket, ← String.append_assoc]
  exact hall

theorem Formula.shows_styled (h : ∀ l ∈ f.literals, l.Plain) : Shows f.styled f.render :=
  Shows.join fun l hl => (h l hl).shows_styled

theorem shows_parseText (h : IsPlain query) :
    Shows (parseText true v query) (parseText false v query) := by
  cases hparse : v.parse query with
  | error e => simpa [parseText, hparse] using Shows.empty
  | ok f =>
    have hstyled := Formula.shows_styled fun l hl => plain_of_parse hparse h hl
    simpa [parseText, hparse, Formula.display] using hstyled

theorem shows_headline (h : IsPlain query) :
    Shows (headline true query) (headline false query) := by
  have hquery : Shows (subheader query) query := h.shows.paint bold
  simpa [headline] using hquery.append isPlain_newline.shows

theorem shows_parseTexts (h : ∀ query ∈ queries, IsPlain query) :
    Shows (parseTexts true v queries) (parseTexts false v queries) := by
  have hseveral : Shows
      ("\n".intercalate (queries.map fun query => headline true query ++ parseText true v query))
      ("\n".intercalate (queries.map fun query => headline false query ++ parseText false v query)) :=
    Shows.intercalate isPlain_newline.shows fun query hquery =>
      (shows_headline (h query hquery)).append (shows_parseText (h query hquery))
  rcases queries with _ | ⟨query, _ | ⟨query', queries⟩⟩
  · exact hseveral
  · exact shows_parseText (h query (by simp))
  · exact hseveral

/-- Reports that differ in their outputs at most, which are related. -/
structure Report.SameBut (shows : String → String → Prop) (r r' : Report) : Prop where
  failed : r.failed = r'.failed
  notes : r.notes = r'.notes
  disk : r.disk = r'.disk
  output : shows r.output r'.output

theorem Report.SameBut.after (h : r.SameBut shows r') (notes : List Note) :
    (r.after notes).SameBut shows (r'.after notes) where
  failed := h.failed
  notes := by simp only [Report.after, h.notes]
  disk := h.disk
  output := h.output

theorem Report.SameBut.outcome (h : r.SameBut shows r') (f : Filter) :
    (r.outcome f).exitCode = (r'.outcome f).exitCode ∧
      (r.outcome f).stderr = (r'.outcome f).stderr ∧
      (r.outcome f).disk = (r'.outcome f).disk ∧
      shows (r.outcome f).stdout (r'.outcome f).stdout := by
  refine ⟨?_, ?_, h.disk, h.output⟩
  · simp only [Report.outcome, h.failed]
  · simp only [Report.outcome, h.notes]

/-- The same context with its output on a terminal, or not. -/
def Context.showing (ctx : Context) (terminal : Bool) : Context := { ctx with terminal }

/-- The same world with the output on a terminal, or not. -/
def World.showing (w : World) (terminal : Bool) : World := { w with terminal }

section Related

variable (hempty : shows "" "")

include hempty

theorem sameBut_withVocabulary {run run' : Vocabulary → Report}
    (hrun : ∀ v, (run v).SameBut shows (run' v)) :
    (withVocabulary (ctx.showing true) k run).SameBut shows
      (withVocabulary (ctx.showing false) k run') := by
  unfold withVocabulary
  simp only [Context.showing]
  split
  · exact ⟨rfl, rfl, rfl, hempty⟩
  · exact (hrun _).after _

theorem sameBut_runParse {json : Bool}
    (hprint : ∀ v queries, givenQueries ctx.input given = some queries →
      shows (parseAll (ctx.showing true) json v queries).output
        (parseAll (ctx.showing false) json v queries).output) :
    (runParse (ctx.showing true) given k json).SameBut shows
      (runParse (ctx.showing false) given k json) := by
  cases hgiven : givenQueries ctx.input given with
  | none =>
    -- the input is no text, and nothing is printed
    cases given with
    | nil =>
      have hinput : readQueries ctx.input = none := hgiven
      refine sameBut_withVocabulary hempty ?_
      intro v
      simp only [Context.showing, hinput]
      exact ⟨rfl, rfl, rfl, hempty⟩
    | cons query given => cases hgiven
  | some queries =>
    have hshowing : ∀ terminal, givenQueries (ctx.showing terminal).input given = some queries :=
      fun _ => hgiven
    rw [runParse_eq (hshowing true), runParse_eq (hshowing false)]
    refine sameBut_withVocabulary hempty ?_
    intro v
    exact ⟨rfl, rfl, rfl, hprint v queries hgiven⟩

theorem World.sameBut_withConfig {run : Context → Report}
    (hrun : ∀ c, (run ((w.context c).showing true)).SameBut shows
      (run ((w.context c).showing false))) :
    ((w.showing true).withConfig run).SameBut shows ((w.showing false).withConfig run) := by
  unfold withConfig
  simp only [showing, directory]
  split
  · exact ⟨rfl, rfl, rfl, hempty⟩
  · exact (hrun _).after _

end Related

/-- Text on a terminal shows what goes to a pipe, and a document is the same on both. -/
def PrintedAlike (json : Bool) (shown piped : String) : Prop :=
  if json then shown = piped else Shows shown piped

theorem printedAlike_parseAll {json : Bool} (h : ∀ query ∈ queries, IsPlain query) :
    PrintedAlike json (parseAll (ctx.showing true) json v queries).output
      (parseAll (ctx.showing false) json v queries).output := by
  cases json with
  | true => rfl
  | false => exact shows_parseTexts h

/-- The formula of a query without escape sequences shows its plain text in styles. A run that
parses such queries ends alike on a terminal and on a pipe, tells the same, and prints the same
characters, with styles around them on the terminal only and only as text. -/
theorem terminal_shows_pipe :
    (∀ (v : Vocabulary) (query : String) (f : Formula), v.parse query = .ok f → IsPlain query →
      strip f.styled = f.render) ∧
    ∀ (w : World) (level : Option Level) (given : List String) (k : KeywordChoice) (json : Bool),
      Request.ofArguments w.args = .run level (.parse given k json) →
      (∀ queries, givenQueries w.input given = some queries → ∀ query ∈ queries, IsPlain query) →
      (w.showing true).run.exitCode = (w.showing false).run.exitCode ∧
      (w.showing true).run.stderr = (w.showing false).run.stderr ∧
      (w.showing true).run.disk = (w.showing false).run.disk ∧
      if json then (w.showing true).run.stdout = (w.showing false).run.stdout
      else strip (w.showing true).run.stdout = (w.showing false).run.stdout := by
  refine ⟨?_, ?_⟩
  · intro v query f hparse hplain
    exact (Formula.shows_styled fun l hl => plain_of_parse hparse hplain hl).strip_eq
  · intro w level given k json hargs hplain
    have hrun : ∀ terminal, (w.showing terminal).run =
        ((w.showing terminal).runCommand (.parse given k json)).outcome
          (Filter.choose level w.logSetting) :=
      fun terminal => World.run_of_request (w := w.showing terminal) hargs
    have hempty : PrintedAlike json "" "" := by
      cases json with
      | true => rfl
      | false => exact Shows.empty
    have hsame : ((w.showing true).runCommand (.parse given k json)).SameBut (PrintedAlike json)
        ((w.showing false).runCommand (.parse given k json)) := by
      rw [World.runCommand, World.runCommand]
      refine World.sameBut_withConfig hempty fun c => sameBut_runParse hempty ?_
      intro v queries hgiven
      exact printedAlike_parseAll (hplain queries hgiven)
    obtain ⟨hexit, hstderr, hdisk, hstdout⟩ := hsame.outcome (Filter.choose level w.logSetting)
    rw [hrun, hrun]
    refine ⟨hexit, hstderr, hdisk, ?_⟩
    cases json with
    | true => exact hstdout
    | false => exact Shows.strip_eq hstdout

/-- Values that look like the marks of a literal or the end of an escape sequence, and a run with
headlines in which one query breaks off. -/
theorem terminal_shows_pipe_unsettled :
    (Vocabulary.ofValid ["tag"]).parse "-tag:'a,]' tag:\"\" -tag:m" =
      .ok ⟨[⟨"tag", some .negate, ["a,]", "m"]⟩, ⟨"tag", none, [""]⟩]⟩ ∧
    strip (Formula.styled ⟨[⟨"tag", some .negate, ["a,]", "m"]⟩, ⟨"tag", none, [""]⟩]⟩) =
      "-tag: [a,],m]\ntag: []\n" ∧
    (World.unsettled.showing true).run.exitCode = 1 ∧
    strip (World.unsettled.showing true).run.stdout =
      "tag:a\ntag: [a]\n\n\"b\n\nc\nfulltext: [c]\n" := by
  have hparse : (Vocabulary.ofValid ["tag"]).parse "-tag:'a,]' tag:\"\" -tag:m" =
      .ok ⟨[⟨"tag", some .negate, ["a,]", "m"]⟩, ⟨"tag", none, [""]⟩]⟩ := by decide +kernel
  have hargs : Request.ofArguments World.unsettled.args =
      .run none (.parse ["tag:a", "\"b", "c"] ⟨["tag"], false⟩ false) := by decide +kernel
  have hplain : ∀ queries, givenQueries World.unsettled.input ["tag:a", "\"b", "c"] = some queries →
      ∀ query ∈ queries, IsPlain query := by
    rintro queries ⟨⟩
    decide +kernel
  obtain ⟨hexit, -, -, hstdout⟩ := terminal_shows_pipe.2 World.unsettled _ _ _ _ hargs hplain
  refine ⟨hparse, ?_, ?_, ?_⟩
  · rw [terminal_shows_pipe.1 _ _ _ hparse (by decide +kernel)]
    decide +kernel
  · rw [hexit]
    decide +kernel
  · rw [if_neg (by decide)] at hstdout
    rw [hstdout]
    decide +kernel

end FacetQuery
