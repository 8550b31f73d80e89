import FacetQuery.Proofs.Failures
import FacetQuery.Proofs.Grouping
import FacetQuery.Query.Assembly
import Mathlib.Data.List.Chain

/-!
Parsing is scanning and then grouping. The terms are read off the tokens without any state, each
from its token and the two before it.
-/
namespace FacetQuery

/-- The term that a token stands for, where `back` are the tokens before it, the nearest first. A
value has the key right before it, and is negated if an operator stands before the key. -/
def Token.term? (back : List Token) (t : Token) : Option Term :=
  match t.kind, back with
  | .fulltext, _ => some ⟨fulltextKey, none, t.text⟩
  | .value, key :: back =>
    some ⟨key.text, if back.head?.any (·.kind = .operator) then some .negate else none, t.text⟩
  | _, _ => none

/-- The terms of tokens that come behind the tokens `back`. -/
def termsBehind (back : List Token) : List Token → List Term
  | [] => []
  | t :: rest => (t.term? back).toList ++ termsBehind (t :: back) rest

def termsOf (tokens : List Token) : List Term := termsBehind [] tokens

/-- A token that stands for a term. -/
def Token.isTerm (t : Token) : Bool := t.kind = .value || t.kind = .fulltext

def signOf (negated : Bool) : Option Operator := if negated then some .negate else none

/-- The term that a piece asks for, if any. -/
def Piece.terms : Piece → List Term
  | gap _ => []
  | term w => [⟨fulltextKey, none, String.ofList w.text⟩]
  | pair negated key _ value => [⟨String.ofList key, signOf negated, String.ofList value.text⟩]

variable {v : Vocabulary} {query : String} {ps : List Piece} {f : Flaw}
  {back ts us : List Token}

namespace Assembly

theorem pushAll_append {a b : Assembly} (h : a.pushAll ts = .ok b) :
    a.pushAll (ts ++ us) = b.pushAll us := by
  induction ts generalizing a with
  | nil =>
    cases h
    rfl
  | cons t ts ih =>
    rw [List.cons_append, pushAll]
    rw [pushAll] at h
    split at h
    · cases h
    · exact ih h

theorem pushAll_headTokens (ls : List Literal) (negated : Bool) (key : List Char) (position : Nat) :
    pushAll ⟨ls, none, none⟩ (headTokens negated key position) =
      .ok ⟨ls, signOf negated, some (String.ofList key)⟩ := by
  cases negated <;> rfl

theorem pushAll_piece (ls : List Literal) (p : Piece) (position : Nat) :
    pushAll ⟨ls, none, none⟩ (p.tokens position) = .ok ⟨addTerms p.terms ls, none, none⟩ := by
  cases p with
  | gap c => rfl
  | term w => rfl
  | pair negated key n w =>
    rw [Piece.tokens, pushAll_append (pushAll_headTokens ls negated key position)]
    rfl

/-- The tokens of pieces are taken without an error, and nothing is left waiting. -/
theorem pushAll_pieces (ls : List Literal) (ps : List Piece) (position : Nat) :
    pushAll ⟨ls, none, none⟩ (tokensFrom position ps) =
      .ok ⟨addTerms (ps.flatMap Piece.terms) ls, none, none⟩ := by
  induction ps generalizing ls position with
  | nil => rfl
  | cons p ps ih =>
    rw [tokensFrom, pushAll_append (pushAll_piece ls p position), ih]
    simp [addTerms]

theorem pushAll_flaw (ls : List Literal) (f : Flaw) (position : Nat) :
    ∃ b, pushAll ⟨ls, none, none⟩ (f.tokens position) = .ok b := by
  cases f with
  | phrase quote rest => exact ⟨_, rfl⟩
  | pair negated key n rest => exact ⟨_, pushAll_headTokens ls negated key position⟩

end Assembly

theorem parse_of_splits (h : Splits v query ps) :
    v.parse query = .ok ⟨grouped (ps.flatMap Piece.terms)⟩ := by
  have hpush := Assembly.pushAll_pieces [] ps 0
  rw [addTerms_nil] at hpush
  simp only [Vocabulary.parse, scan_of_splits h, Assembly.empty, hpush, Assembly.finish]

theorem parse_of_flaw (hq : query.toList = spelled ps ++ f.chars) (hps : AllFit v [] ps f.chars)
    (hf : f.Fits v (spelled ps)) :
    v.parse query =
      .error ⟨f.fault, some (byteLength (spelled ps ++ f.lead)), some query⟩ := by
  have hpush := Assembly.pushAll_pieces [] ps 0
  obtain ⟨b, hb⟩ := Assembly.pushAll_flaw (addTerms (ps.flatMap Piece.terms) []) f
    (byteLength (spelled ps))
  simp only [Vocabulary.parse, scan_of_flaw hq hps hf, Assembly.empty,
    Assembly.pushAll_append hpush, hb]

/-- A query that cannot be parsed cannot be scanned, for the same reason, and the other way. -/
theorem parse_eq_error_iff {e : QueryError} :
    v.parse query = .error e ↔ v.tokenize query = .error e := by
  rcases splits_or_flaw v query with ⟨ps, hps⟩ | ⟨ps, f, hq, hps, hf⟩
  · simp [parse_of_splits hps, tokenize_of_splits hps]
  · simp [parse_of_flaw hq hps hf, tokenize_of_flaw hq hps hf]

theorem exists_splits_of_parse {g : Formula} (h : v.parse query = .ok g) :
    ∃ ps, Splits v query ps ∧ g = ⟨grouped (ps.flatMap Piece.terms)⟩ := by
  rcases splits_or_flaw v query with ⟨ps, hps⟩ | ⟨ps, f, hq, hps, hf⟩
  · rw [parse_of_splits hps] at h
    exact ⟨ps, hps, (Except.ok.inj h).symm⟩
  · rw [parse_of_flaw hq hps hf] at h
    cases h

theorem exists_flaw_of_parse {e : QueryError} (h : v.parse query = .error e) :
    ∃ (ps : List Piece) (f : Flaw), query.toList = spelled ps ++ f.chars ∧
      AllFit v [] ps f.chars ∧ f.Fits v (spelled ps) ∧
      e = ⟨f.fault, some (byteLength (spelled ps ++ f.lead)), some query⟩ :=
  exists_flaw_of_tokenize (parse_eq_error_iff.mp h)

theorem termsBehind_append (back ts us : List Token) :
    termsBehind back (ts ++ us) = termsBehind back ts ++ termsBehind (ts.reverse ++ back) us := by
  induction ts generalizing back with
  | nil => rfl
  | cons t ts ih => simp [termsBehind, ih]

/-- A pair is read as its term unless an operator stands before it that is not its own. -/
theorem termsBehind_piece (p : Piece) (position : Nat)
    (hb : back.head?.any (·.kind = .operator) = false) :
    termsBehind back (p.tokens position) = p.terms := by
  cases p with
  | gap c => rfl
  | term w => rfl
  | pair negated key n w =>
    cases negated with
    | false =>
      simp [Piece.tokens, headTokens, termsBehind, Token.term?, Written.token, Written.text, hb,
        Piece.terms, signOf]
    | true => rfl

theorem head?_behind_piece (p : Piece) (position : Nat)
    (hb : back.head?.any (·.kind = .operator) = false) :
    ((p.tokens position).reverse ++ back).head?.any (·.kind = .operator) = false := by
  cases p with
  | gap c => exact hb
  | term w => rfl
  | pair negated key n w => simp [Piece.tokens, Written.token]

/-- The tokens of pieces are read as the terms of the pieces. -/
theorem termsBehind_pieces (ps : List Piece) (position : Nat)
    (hb : back.head?.any (·.kind = .operator) = false) :
    termsBehind back (tokensFrom position ps) = ps.flatMap Piece.terms := by
  induction ps generalizing back position with
  | nil => rfl
  | cons p ps ih =>
    rw [tokensFrom, termsBehind_append, termsBehind_piece p position hb,
      ih _ (head?_behind_piece p position hb), List.flatMap_cons]

theorem termsOf_tokensFrom (ps : List Piece) : termsOf (tokensFrom 0 ps) = ps.flatMap Piece.terms :=
  termsBehind_pieces ps 0 rfl

theorem countP_isTerm_pieces (ps : List Piece) (position : Nat) :
    (tokensFrom position ps).countP Token.isTerm = (ps.flatMap Piece.terms).length := by
  induction ps generalizing position with
  | nil => rfl
  | cons p ps ih =>
    have hp : (p.tokens position).countP Token.isTerm = p.terms.length := by
      cases p with
      | gap c => rfl
      | term w => rfl
      | pair negated key n w => cases negated <;> rfl
    simp [tokensFrom, ih, hp]

theorem head?_tokensFrom (ps : List Piece) (position : Nat) :
    ∀ t ∈ (tokensFrom position ps).head?, t.kind ≠ .value := by
  induction ps generalizing position with
  | nil => simp [tokensFrom]
  | cons p ps ih =>
    cases p with
    | gap c => exact ih _
    | term w => simp [tokensFrom, Piece.tokens, Written.token]
    | pair negated key n w =>
      cases negated <;> simp [tokensFrom, Piece.tokens, headTokens, Written.token]

theorem isChain_tokensFrom (ps : List Piece) (position : Nat) :
    (tokensFrom position ps).IsChain fun a b => b.kind = .value → a.kind = .key := by
  induction ps generalizing position with
  | nil => simp [tokensFrom]
  | cons p ps ih =>
    have hp : (p.tokens position).IsChain fun a b => b.kind = .value → a.kind = .key := by
      cases p with
      | gap c => simp [Piece.tokens]
      | term w => simp [Piece.tokens]
      | pair negated key n w =>
        cases negated <;> simp [Piece.tokens, headTokens, Written.token]
    refine List.isChain_append.mpr ⟨hp, ih _, ?_⟩
    intro a _ b hb hv
    exact (head?_tokensFrom ps _ b hb hv).elim

/-- A query is parsed to the error of its scan or to the group-by of the terms of its tokens. Every
value follows its key, each group is looked up with its values, and no value is lost. -/
theorem parse_exact (v : Vocabulary) (query : String) :
    match v.tokenize query with
    | .error e => v.parse query = .error e
    | .ok tokens =>
      (∀ t ∈ tokens.head?, t.kind ≠ .value) ∧
      tokens.IsChain (fun a b => b.kind = .value → a.kind = .key) ∧
      ∃ f, v.parse query = .ok f ∧ f.literals = grouped (termsOf tokens) ∧
        (∀ key operator, f.get? key operator =
          if (key, operator) ∈ (termsOf tokens).map Term.group then
            some ⟨key, operator, valuesOf (termsOf tokens) (key, operator)⟩
          else none) ∧
        valueCount f.literals = tokens.countP Token.isTerm := by
  rcases splits_or_flaw v query with ⟨ps, hps⟩ | ⟨ps, f, hq, hps, hf⟩
  · simp only [tokenize_of_splits hps, termsOf_tokensFrom]
    refine ⟨head?_tokensFrom ps 0, isChain_tokensFrom ps 0, _, parse_of_splits hps, rfl,
      get?_grouped _, ?_⟩
    rw [valueCount_grouped, countP_isTerm_pieces]
  · rw [tokenize_of_flaw hq hps hf]
    exact parse_of_flaw hq hps hf

end FacetQuery
