import FacetQuery.Query.Vocabulary
import FacetQuery.Query.Token

/-!
The scanner, which cuts a query into tokens. It is a machine with two modes that walks over the
characters once: between items it looks for the next one, and behind a key it looks for the
value. Each mode tries its rules in a fixed order. Every step that goes on leaves less to read.
-/
namespace FacetQuery

/-- What the scanner looks for: the next item, or the value of a key. -/
inductive Mode where
  | scanning
  | pairing (key : String)
  deriving DecidableEq, Repr

/-- A place in a query: the byte position, the character before it if there is one, the characters
from there on, and the mode. -/
structure Scanner where
  position : Nat
  last : Option Char
  rest : List Char
  mode : Mode
  deriving DecidableEq, Repr

/-- What one step of the scanner comes to. -/
inductive Step where
  | stop
  | fail (position : Nat) (fault : Fault)
  | skip (next : Scanner)
  | emit (token : Token) (next : Scanner)
  deriving DecidableEq, Repr

/-- The tokens of a query up to its end or its first error. -/
structure Scan where
  tokens : List Token
  failure : Option QueryError
  deriving DecidableEq, Repr

/-- The outcome of a scan as a value: the tokens, if there was no error. -/
def Scan.result (s : Scan) : Except QueryError (List Token) :=
  match s.failure with
  | some e => .error e
  | none => .ok s.tokens

namespace Scanner

variable (v : Vocabulary)

def start (input : List Char) : Scanner := ⟨0, none, input, .scanning⟩

/-- The scanner behind the next characters, `lexeme`. -/
def advance (s : Scanner) (lexeme rest : List Char) (mode : Mode) : Scanner :=
  ⟨s.position + byteLength lexeme, lexeme.getLast?.or s.last, rest, mode⟩

/-- A token made of the next characters, `lexeme`, and the scanner behind it. -/
def emit (s : Scanner) (kind : TokenKind) (text lexeme rest : List Char) (mode : Mode) : Step :=
  .emit ⟨kind, String.ofList text, ⟨s.position, s.position + byteLength lexeme⟩⟩
    (s.advance lexeme rest mode)

/-- Passes over one character. -/
def skip (s : Scanner) (c : Char) (rest : List Char) : Step := .skip (s.advance [c] rest s.mode)

/-- A phrase whose opening quote has been seen; it runs to the next quote of the same kind. -/
def phrase (s : Scanner) (kind : TokenKind) (quote : Char) (rest : List Char) : Step :=
  let content := rest.takeWhile (· != quote)
  match rest.dropWhile (· != quote) with
  | [] => .fail s.position (.unterminatedPhrase quote)
  | close :: after => s.emit kind content (quote :: content ++ [close]) after .scanning

/-- A word as a token; it runs to the next separator. -/
def word (s : Scanner) (kind : TokenKind) (mode : Mode) : Step :=
  let text := leadingWord s.rest
  s.emit kind text text (s.rest.drop text.length) mode

/-- A phrase or a word, if one begins at the next character, `c`. -/
def term? (s : Scanner) (kind : TokenKind) (c : Char) (rest : List Char) : Option Step :=
  if isQuote c then some (s.phrase kind c rest)
  else if opensWord s.last && isWordChar c then some (s.word kind .scanning)
  else none

/-- A step between items. Blanks are passed over, a hyphen right before a key is an operator, then
come keys, fulltext phrases and words, and any other separator is passed over. -/
def scan (s : Scanner) : Step :=
  match s.rest with
  | [] => .stop
  | c :: rest =>
    if isBlank c then s.skip c rest
    else if c = '-' ∧ (v.keyBehind? (some c) rest).isSome then
      s.emit .operator [c] [c] rest .scanning
    else
      match v.keyBehind? s.last s.rest with
      | some key => s.word .key (.pairing key)
      | none =>
        match s.term? .fulltext c rest with
        | some step => step
        | none =>
          if isSeparator c then s.skip c rest else .fail s.position (.unexpectedInput c)

/-- A step behind a key: colons are passed over up to a phrase or a word, the value. -/
def pair (s : Scanner) (key : String) : Step :=
  match s.rest with
  | [] => .fail s.position (.expectedValue key)
  | c :: rest =>
    if c = ':' then s.skip c rest
    else
      match s.term? .value c rest with
      | some step => step
      | none => .fail s.position (.expectedValue key)

def step (s : Scanner) : Step :=
  match s.mode with
  | .scanning => s.scan v
  | .pairing key => s.pair key

end Scanner

/-- The scanner that a step goes on with. -/
def Step.next? : Step → Option Scanner
  | .stop | .fail _ _ => none
  | .skip next | .emit _ next => some next

namespace Scanner

variable {v : Vocabulary} {s n : Scanner} {key : String} {c : Char} {rest : List Char}

theorem emit_shorter {kind : TokenKind} {text lexeme : List Char} {mode : Mode}
    (h : rest.length < s.rest.length) (hn : (s.emit kind text lexeme rest mode).next? = some n) :
    n.rest.length < s.rest.length := by
  simp only [emit, advance, Step.next?, Option.some.injEq] at hn
  subst hn
  exact h

theorem skip_shorter (h : s.rest = c :: rest) (hn : (s.skip c rest).next? = some n) :
    n.rest.length < s.rest.length := by
  simp only [skip, advance, Step.next?, Option.some.injEq] at hn
  subst hn
  simp [h]

theorem phrase_shorter {kind : TokenKind} (h : s.rest = c :: rest)
    (hn : (s.phrase kind c rest).next? = some n) : n.rest.length < s.rest.length := by
  have hd := (rest.dropWhile_suffix (· != c)).length_le
  unfold phrase at hn
  split at hn
  · simp [Step.next?] at hn
  · rename_i close after hclose
    apply emit_shorter ?_ hn
    simp only [hclose, List.length_cons, h] at hd ⊢
    omega

theorem word_shorter {kind : TokenKind} {mode : Mode} (h : s.rest = c :: rest)
    (hc : isWordChar c = true) (hn : (s.word kind mode).next? = some n) :
    n.rest.length < s.rest.length := by
  apply emit_shorter ?_ hn
  simp only [h, leadingWord, List.takeWhile_cons, hc, if_true, List.length_cons,
    List.drop_succ_cons, List.length_drop]
  omega

theorem term_shorter {kind : TokenKind} {step : Step} (h : s.rest = c :: rest)
    (ht : s.term? kind c rest = some step) (hn : step.next? = some n) :
    n.rest.length < s.rest.length := by
  unfold term? at ht
  split at ht
  · cases ht
    exact phrase_shorter h hn
  · split at ht
    · rename_i hw
      simp only [Bool.and_eq_true] at hw
      cases ht
      exact word_shorter h hw.2 hn
    · cases ht

theorem scan_shorter (hn : (s.scan v).next? = some n) : n.rest.length < s.rest.length := by
  unfold scan at hn
  split at hn
  · simp [Step.next?] at hn
  · rename_i c rest h
    split at hn
    · exact skip_shorter h hn
    · split at hn
      · exact emit_shorter (by simp [h]) hn
      · split at hn
        · rename_i key hk
          rw [h] at hk
          exact word_shorter h (Vocabulary.isWordChar_of_keyBehind hk) hn
        · split at hn
          · rename_i ht
            exact term_shorter h ht hn
          · split at hn
            · exact skip_shorter h hn
            · simp [Step.next?] at hn

theorem pair_shorter (hn : (s.pair key).next? = some n) : n.rest.length < s.rest.length := by
  unfold pair at hn
  split at hn
  · simp [Step.next?] at hn
  · rename_i c rest h
    split at hn
    · exact skip_shorter h hn
    · split at hn
      · rename_i ht
        exact term_shorter h ht hn
      · simp [Step.next?] at hn

/-- A step that goes on has read at least one character. -/
theorem step_shorter (hn : (s.step v).next? = some n) : n.rest.length < s.rest.length := by
  unfold step at hn
  split at hn
  · exact scan_shorter hn
  · exact pair_shorter hn

/-- Steps until the end or an error; `query` goes into the error. -/
def run (v : Vocabulary) (query : String) (s : Scanner) : Scan :=
  match _h : s.step v with
  | .stop => ⟨[], none⟩
  | .fail position fault => ⟨[], some ⟨fault, some position, some query⟩⟩
  | .skip next => run v query next
  | .emit token next =>
    let tail := run v query next
    ⟨token :: tail.tokens, tail.failure⟩
termination_by s.rest.length
decreasing_by all_goals exact step_shorter (v := v) (by rw [_h]; rfl)

end Scanner

namespace Vocabulary

/-- The scan of a whole query. -/
def scan (v : Vocabulary) (query : String) : Scan :=
  (Scanner.start query.toList).run v query

/-- The tokens of a query, or its first error. -/
def tokenize (v : Vocabulary) (query : String) : Except QueryError (List Token) :=
  (v.scan query).result

end Vocabulary

end FacetQuery
