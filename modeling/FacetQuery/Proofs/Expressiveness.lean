import FacetQuery.Proofs.Keywords
import FacetQuery.Proofs.Parsing

/-! The formulas that queries can express, and a query for each of them. -/
namespace FacetQuery

/-- A text that lacks at least one of the two quotes. -/
def Quotable (text : String) : Prop := '"' ∉ text.toList ∨ '\'' ∉ text.toList

/-- Conditions on the literals of a formula: no group twice, no group without values, known keys
only, and in no value both quotes. -/
structure Expressible (v : Vocabulary) (ls : List Literal) : Prop where
  distinct : (ls.map Literal.group).Nodup
  nonempty : ∀ l ∈ ls, l.values ≠ []
  known : ∀ l ∈ ls, l.key ∈ v.keys
  quotable : ∀ l ∈ ls, ∀ value ∈ l.values, Quotable value

/-- A quote that can stand around the value of a term. -/
def Encloses (quote : Char) (t : Term) : Prop := isQuote quote = true ∧ quote ∉ t.value.toList

/-- A term as a pair with its value in quotes. -/
def writeTerm (quote : Char) (t : Term) : String :=
  operatorText t.operator ++ t.key ++ ":" ++ String.singleton quote ++ t.value ++
    String.singleton quote

/-- Terms as a query, with a quote for each. -/
def writeQuery (quotes : List Char) (terms : List Term) : String :=
  " ".intercalate (List.zipWith writeTerm quotes terms)

/-- The piece that a written term is. -/
def writtenPiece (quote : Char) (t : Term) : Piece :=
  .pair t.operator.isSome t.key.toList 1 (.phrase quote t.value.toList)

variable {v : Vocabulary} {keywords : List String} {ls : List Literal} {terms : List Term}
  {t : Term} {quote : Char} {quotes : List Char} {ps : List Piece} {p : Piece}
  {before after : List Char}

theorem chars_writtenPiece (quote : Char) (t : Term) :
    (writtenPiece quote t).chars = (writeTerm quote t).toList := by
  obtain ⟨key, _ | _, value⟩ := t <;>
    simp [writtenPiece, Piece.chars, Written.chars, writeTerm, operatorText, Operator.symbol]

theorem terms_writtenPiece (quote : Char) (t : Term) : (writtenPiece quote t).terms = [t] := by
  obtain ⟨key, _ | _, value⟩ := t <;> simp [writtenPiece, Piece.terms, signOf, Written.text]

/-- A written term fits wherever a word may begin. -/
theorem fits_writtenPiece (hk : t.key ∈ v.keys) (hm : isMatchable t.key = true)
    (hq : Encloses quote t) (hb : ∀ c ∈ before.getLast?, isSeparator c = true) :
    (writtenPiece quote t).Fits v before after := by
  obtain ⟨hne, hw⟩ := isMatchable_iff.mp hm
  refine ⟨⟨⟨hne, hw, ?_, ?_⟩, ?_⟩, hq, by simp⟩
  · cases t.operator with
    | none => simpa using hb
    | some o =>
      simp only [Option.isSome_some, hyphen_true, List.getLast?_append, List.getLast?_singleton,
        Option.some_or, Option.mem_some]
      rintro c rfl
      decide
  · simp only [colons_succ, colons_zero, List.cons_append, List.head?_cons, Option.mem_some]
    rintro c rfl
    decide
  · simpa [Vocabulary.isKey] using hk

theorem spelled_intersperse (ps : List Piece) :
    spelled (ps.intersperse (.gap ' ')) = [' '].intercalate (ps.map Piece.chars) := by
  induction ps with
  | nil => rfl
  | cons p ps ih =>
    cases ps with
    | nil => simp
    | cons q ps =>
      rw [List.intersperse_cons_cons, spelled_cons, spelled_cons, ih]
      simp [Piece.chars, List.intercalate_cons_cons]

theorem terms_intersperse (ps : List Piece) :
    (ps.intersperse (.gap ' ')).flatMap Piece.terms = ps.flatMap Piece.terms := by
  induction ps with
  | nil => rfl
  | cons p ps ih =>
    cases ps with
    | nil => rfl
    | cons q ps =>
      rw [List.intersperse_cons_cons, List.flatMap_cons, List.flatMap_cons, ih]
      simp [Piece.terms]

/-- Pieces that fit wherever a word may begin fit one behind the other with blanks between. -/
theorem allFit_intersperse
    (hps : ∀ p ∈ ps, ∀ before after, (∀ c ∈ before.getLast?, isSeparator c = true) →
      p.Fits v before after)
    (hb : ∀ c ∈ before.getLast?, isSeparator c = true) :
    AllFit v before (ps.intersperse (.gap ' ')) [] := by
  induction ps generalizing before with
  | nil => trivial
  | cons p ps ih =>
    have hp := hps p (by simp)
    cases ps with
    | nil => exact ⟨hp _ _ hb, trivial⟩
    | cons q ps =>
      rw [List.intersperse_cons_cons]
      refine ⟨hp _ _ hb, ⟨by decide, by decide, fun h => absurd h (by decide)⟩, ?_⟩
      refine ih (fun r hr => hps r (by simp [hr])) ?_
      simp [Piece.chars, List.getLast?_append]
      decide

theorem terms_zipWith_writtenPiece (h : List.Forall₂ Encloses quotes terms) :
    (List.zipWith writtenPiece quotes terms).flatMap Piece.terms = terms := by
  induction h with
  | nil => rfl
  | cons _ _ ih => simp [terms_writtenPiece, ih]

theorem exists_of_mem_zipWith (h : List.Forall₂ Encloses quotes terms)
    (hp : p ∈ List.zipWith writtenPiece quotes terms) :
    ∃ quote, ∃ t ∈ terms, Encloses quote t ∧ p = writtenPiece quote t := by
  induction h with
  | nil => cases hp
  | @cons quote t _ _ hq _ ih =>
    rw [List.zipWith_cons_cons, List.mem_cons] at hp
    rcases hp with rfl | hp
    · exact ⟨quote, t, by simp, hq, rfl⟩
    · obtain ⟨quote', t', ht, hq', he⟩ := ih hp
      exact ⟨quote', t', by simp [ht], hq', he⟩

/-- A written query splits into its terms and the blanks between them. -/
theorem splits_writeQuery (hk : ∀ t ∈ terms, t.key ∈ v.keys ∧ isMatchable t.key = true)
    (hq : List.Forall₂ Encloses quotes terms) :
    Splits v (writeQuery quotes terms)
      ((List.zipWith writtenPiece quotes terms).intersperse (.gap ' ')) := by
  refine ⟨?_, allFit_intersperse ?_ (by simp)⟩
  · rw [spelled_intersperse, writeQuery, String.toList_intercalate, List.map_zipWith,
      List.map_zipWith]
    simp only [chars_writtenPiece]
    rfl
  · intro p hp before after hb
    obtain ⟨quote, t, ht, hq', rfl⟩ := exists_of_mem_zipWith hq hp
    exact fits_writtenPiece (hk t ht).1 (hk t ht).2 hq' hb

theorem parse_writeQuery_terms (hk : ∀ t ∈ terms, t.key ∈ v.keys ∧ isMatchable t.key = true)
    (hq : List.Forall₂ Encloses quotes terms) :
    v.parse (writeQuery quotes terms) = .ok ⟨grouped terms⟩ := by
  rw [parse_of_splits (splits_writeQuery hk hq), terms_intersperse, terms_zipWith_writtenPiece hq]

theorem AllFit.exists_fits (h : AllFit v before ps after) (hp : p ∈ ps) :
    ∃ left right, p.Fits v left right := by
  induction ps generalizing before with
  | nil => cases hp
  | cons q ps ih =>
    rcases List.mem_cons.mp hp with rfl | hp
    · exact ⟨_, _, h.1⟩
    · exact ih h.2 hp

theorem Written.Fits.quotable {w : Written} (h : w.Fits before after) :
    Quotable (String.ofList w.text) := by
  simp only [Quotable, String.toList_ofList]
  cases w with
  | phrase quote content =>
    obtain ⟨hq, hn⟩ := h
    simp only [isQuote, Bool.or_eq_true, decide_eq_true_eq] at hq
    rcases hq with rfl | rfl
    · exact Or.inl hn
    · exact Or.inr hn
  | word text =>
    left
    intro hm
    have hc := MaximalRun.wordChars h _ hm
    revert hc
    decide

/-- The terms of a piece have known keys and values that can be quoted. -/
theorem Piece.Fits.term_facts (h : p.Fits v before after) (hf : fulltextKey ∈ v.keys)
    (ht : t ∈ p.terms) :
    t.key ∈ v.keys ∧ Quotable t.value := by
  cases p with
  | gap c => cases ht
  | term w =>
    obtain rfl := List.mem_singleton.mp ht
    exact ⟨hf, h.1.quotable⟩
  | pair negated key n w =>
    obtain rfl := List.mem_singleton.mp ht
    exact ⟨by simpa [Vocabulary.isKey] using h.1.isKey, h.2.1.quotable⟩

theorem terms_of_parse {query : String} {f : Formula} (hf : fulltextKey ∈ v.keys)
    (h : v.parse query = .ok f) :
    ∃ terms, f.literals = grouped terms ∧ ∀ t ∈ terms, t.key ∈ v.keys ∧ Quotable t.value := by
  obtain ⟨ps, hps, rfl⟩ := exists_splits_of_parse h
  refine ⟨_, rfl, ?_⟩
  intro t ht
  obtain ⟨p, hp, ht⟩ := List.mem_flatMap.mp ht
  obtain ⟨left, right, hfits⟩ := hps.2.exists_fits hp
  exact hfits.term_facts hf ht

theorem expressible_grouped (h : ∀ t ∈ terms, t.key ∈ v.keys ∧ Quotable t.value) :
    Expressible v (grouped terms) := by
  refine ⟨?_, ?_, ?_, ?_⟩
  · rw [groups_grouped]
    exact nodup_groupsOf terms
  · exact fun l => values_ne_nil_of_mem_grouped
  · intro l hl
    obtain ⟨g, hg, rfl⟩ := List.mem_map.mp hl
    obtain ⟨t, ht, rfl⟩ := List.mem_map.mp (mem_groupsOf.mp hg)
    exact (h t ht).1
  · intro l hl value hvalue
    obtain ⟨g, hg, rfl⟩ := List.mem_map.mp hl
    obtain ⟨t, ht, -, rfl⟩ := mem_valuesOf hvalue
    exact (h t ht).2

theorem exists_encloses (h : ∀ t ∈ terms, Quotable t.value) :
    ∃ quotes, List.Forall₂ Encloses quotes terms := by
  induction terms with
  | nil => exact ⟨[], .nil⟩
  | cons t terms ih =>
    obtain ⟨quotes, hq⟩ := ih fun u hu => h u (by simp [hu])
    rcases h t (by simp) with hn | hn
    · exact ⟨'"' :: quotes, .cons ⟨rfl, hn⟩ hq⟩
    · exact ⟨'\'' :: quotes, .cons ⟨rfl, hn⟩ hq⟩

theorem mem_spelledOut (h : t ∈ spelledOut ls) : ∃ l ∈ ls, t.key = l.key ∧ t.value ∈ l.values := by
  obtain ⟨l, hl, ht⟩ := List.mem_flatMap.mp h
  obtain ⟨value, hvalue, rfl⟩ := List.mem_map.mp ht
  exact ⟨l, hl, rfl, hvalue⟩

/-- An expressible formula is what its written terms are parsed to. -/
theorem Expressible.parse_writeQuery (h : Vocabulary.ofKeywords keywords = .ok v)
    (he : Expressible v ls) (hq : List.Forall₂ Encloses quotes (spelledOut ls)) :
    v.parse (writeQuery quotes (spelledOut ls)) = .ok ⟨ls⟩ := by
  have hk : ∀ t ∈ spelledOut ls, t.key ∈ v.keys ∧ isMatchable t.key = true := by
    intro t ht
    obtain ⟨l, hl, hkey, -⟩ := mem_spelledOut ht
    rw [hkey]
    exact ⟨he.known l hl, isMatchable_of_mem_keys h (he.known l hl)⟩
  rw [parse_writeQuery_terms hk hq, grouped_spelledOut he.distinct he.nonempty]

/-- The formulas of queries are the expressible ones, and writing out their terms in quotes gives
a query for them, whichever quotes are taken. -/
theorem parse_image (h : Vocabulary.ofKeywords keywords = .ok v) (ls : List Literal) :
    ((∃ query f, v.parse query = .ok f ∧ f.literals = ls) ↔ Expressible v ls) ∧
    (Expressible v ls → ∀ quotes, List.Forall₂ Encloses quotes (spelledOut ls) →
      ∃ f, v.parse (writeQuery quotes (spelledOut ls)) = .ok f ∧ f.literals = ls) := by
  refine ⟨⟨?_, ?_⟩, ?_⟩
  · rintro ⟨query, f, hparse, rfl⟩
    obtain ⟨terms, hf, hterms⟩ := terms_of_parse (fulltextKey_mem_keys h) hparse
    rw [hf]
    exact expressible_grouped hterms
  · intro he
    obtain ⟨quotes, hq⟩ : ∃ quotes, List.Forall₂ Encloses quotes (spelledOut ls) := by
      apply exists_encloses
      intro t ht
      obtain ⟨l, hl, -, hvalue⟩ := mem_spelledOut ht
      exact he.quotable l hl _ hvalue
    exact ⟨_, _, he.parse_writeQuery h hq, rfl⟩
  · intro he quotes hq
    exact ⟨_, he.parse_writeQuery h hq, rfl⟩

/-- A value with a quote, a value like a negated pair, and an empty one, in quotes of both kinds. -/
theorem parse_image_quoted :
    Vocabulary.ofKeywords ["status"] = .ok (Vocabulary.ofValid ["status"]) ∧
    ∃ f, (Vocabulary.ofValid ["status"]).parse
        "-status:\"it's\" -status:'-status: é' fulltext:''" = .ok f ∧
      f.literals =
        [⟨"status", some .negate, ["it's", "-status: é"]⟩, ⟨"fulltext", none, [""]⟩] := by
  have hv : Vocabulary.ofKeywords ["status"] = .ok (Vocabulary.ofValid ["status"]) := rfl
  have he : Expressible (Vocabulary.ofValid ["status"])
      [⟨"status", some .negate, ["it's", "-status: é"]⟩, ⟨"fulltext", none, [""]⟩] := by
    constructor <;> simp [Literal.group, Quotable, mem_keys_ofValid, fulltextKey]
  refine ⟨hv, (parse_image hv _).2 he ['"', '\'', '\''] ?_⟩
  simp [spelledOut, Literal.terms, Encloses, isQuote]

end FacetQuery
