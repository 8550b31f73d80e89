import FacetQuery.Proofs.Words
import FacetQuery.Query.Token

/-!
The items of a query as they are written. A piece is a separator between items, a term, or a pair
of a key and a value. What begins at a seam begins with one piece at most, and the pieces of a text
are determined by it.
-/
namespace FacetQuery

/-- A phrase in its quotes, or a bare word. -/
inductive Written where
  | phrase (quote : Char) (content : List Char)
  | word (text : List Char)
  deriving DecidableEq, Repr

namespace Written

def text : Written → List Char
  | phrase _ content => content
  | word text => text

def chars : Written → List Char
  | phrase quote content => quote :: content ++ [quote]
  | word text => text

/-- The token read at a byte position: quotes belong to its span but not to its text. -/
def token (w : Written) (kind : TokenKind) (position : Nat) : Token :=
  ⟨kind, String.ofList w.text, ⟨position, position + byteLength w.chars⟩⟩

/-- A phrase has its quote at both ends and nowhere else; a word is a maximal run. -/
def Fits (before : List Char) (w : Written) (after : List Char) : Prop :=
  match w with
  | phrase quote content => isQuote quote = true ∧ quote ∉ content
  | word text => MaximalRun before text after

end Written

/-- The hyphen of a negated pair. -/
def hyphen (negated : Bool) : List Char := if negated then ['-'] else []

def colons (n : Nat) : List Char := List.replicate n ':'

/-- The tokens of a hyphen, if there is one, and of the key behind it. -/
def headTokens (negated : Bool) (key : List Char) (position : Nat) : List Token :=
  (if negated then [(Written.word ['-']).token .operator position] else []) ++
    [(Written.word key).token .key (position + byteLength (hyphen negated))]

/-- What a query is made of: separators, terms of their own, and pairs. -/
inductive Piece where
  | gap (c : Char)
  | term (w : Written)
  | pair (negated : Bool) (key : List Char) (colonCount : Nat) (value : Written)
  deriving DecidableEq, Repr

namespace Piece

def chars : Piece → List Char
  | gap c => [c]
  | term w => w.chars
  | pair negated key n value => hyphen negated ++ key ++ colons n ++ value.chars

/-- The tokens of a piece that begins at a byte position. -/
def tokens (position : Nat) : Piece → List Token
  | gap _ => []
  | term w => [w.token .fulltext position]
  | pair negated key n value =>
    headTokens negated key position ++
      [value.token .value (position + byteLength (hyphen negated ++ key ++ colons n))]

/-- A piece that may stand between two parts of a query.
* A separator is no quote, and no hyphen right before a key.
* A word of its own is no key.
* A pair has a key, and its value is a phrase or, behind at least one colon, any word. -/
def Fits (v : Vocabulary) (before : List Char) (p : Piece) (after : List Char) : Prop :=
  match p with
  | gap c => isSeparator c = true ∧ isQuote c = false ∧
      (c = '-' → ¬ ∃ key rest, after = key ++ rest ∧ KeyRun v (before ++ [c]) key rest)
  | term w => w.Fits before after ∧ ∀ text, w = .word text → v.isKey (String.ofList text) = false
  | pair negated key n value =>
      KeyRun v (before ++ hyphen negated) key (colons n ++ value.chars ++ after) ∧
      value.Fits (before ++ hyphen negated ++ key ++ colons n) after ∧
      ∀ text, value = .word text → 1 ≤ n

end Piece

/-- The text that pieces make up. -/
def spelled (ps : List Piece) : List Char := ps.flatMap Piece.chars

/-- The tokens of pieces that begin at a byte position. -/
def tokensFrom (position : Nat) : List Piece → List Token
  | [] => []
  | p :: ps => p.tokens position ++ tokensFrom (position + byteLength p.chars) ps

/-- Pieces in a row between two parts of a query, each of which fits its place. -/
def AllFit (v : Vocabulary) (before : List Char) : List Piece → List Char → Prop
  | [], _ => True
  | p :: ps, after => p.Fits v before (spelled ps ++ after) ∧ AllFit v (before ++ p.chars) ps after

/-- A query is split into pieces. -/
def Splits (v : Vocabulary) (query : String) (ps : List Piece) : Prop :=
  spelled ps = query.toList ∧ AllFit v [] ps []

variable {v : Vocabulary} {before after after' : List Char} {c : Char}

@[simp] theorem spelled_nil : spelled [] = [] := rfl

@[simp] theorem spelled_cons (p : Piece) (ps : List Piece) :
    spelled (p :: ps) = p.chars ++ spelled ps := by
  simp [spelled]

@[simp] theorem spelled_append (ps qs : List Piece) :
    spelled (ps ++ qs) = spelled ps ++ spelled qs := by
  simp [spelled]

@[simp] theorem hyphen_false : hyphen false = [] := rfl

@[simp] theorem hyphen_true : hyphen true = ['-'] := rfl

@[simp] theorem colons_zero : colons 0 = [] := rfl

@[simp] theorem colons_succ (n : Nat) : colons (n + 1) = ':' :: colons n := rfl

theorem colons_append_cons (n : Nat) : colons n ++ [':'] = colons (n + 1) := by
  simp [colons, List.replicate_succ']

/-- The colons in front of a text that does not begin with one are determined. -/
theorem colons_append_inj {m n : Nat} {xs ys : List Char} (hx : ':' ∉ xs.head?)
    (hy : ':' ∉ ys.head?) (h : colons m ++ xs = colons n ++ ys) : m = n ∧ xs = ys := by
  induction m generalizing n with
  | zero =>
    cases n with
    | zero => exact ⟨rfl, h⟩
    | succ n =>
      simp only [colons_zero, List.nil_append, colons_succ, List.cons_append] at h
      simp [h] at hx
  | succ m ih =>
    cases n with
    | zero =>
      simp only [colons_zero, List.nil_append, colons_succ, List.cons_append] at h
      simp [← h] at hy
    | succ n =>
      simp only [colons_succ, List.cons_append, List.cons.injEq, true_and] at h
      obtain ⟨rfl, hxy⟩ := ih h
      exact ⟨rfl, hxy⟩

namespace Written

variable {w w' : Written}

@[simp] theorem getLast?_phrase (quote : Char) (content : List Char) :
    (phrase quote content).chars.getLast? = some quote := by
  rw [chars, List.getLast?_append]
  rfl

/-- What is written begins with a quote or with a word character. -/
theorem Fits.exists_cons (h : w.Fits before after) :
    ∃ c cs, w.chars = c :: cs ∧ (isQuote c = true ∨ isSeparator c = false) := by
  cases w with
  | phrase quote content => exact ⟨quote, content ++ [quote], rfl, Or.inl h.1⟩
  | word text =>
    obtain ⟨c, cs, he, hc⟩ := MaximalRun.exists_cons h
    exact ⟨c, cs, he, Or.inr hc⟩

theorem Fits.head_ne_colon (h : w.Fits before after) : ':' ∉ (w.chars ++ after).head? := by
  obtain ⟨c, cs, he, hc⟩ := h.exists_cons
  rw [he]
  simpa using (isBlank_ne_of_opens hc).2.2

theorem Fits.seam (h : w.Fits before after) : Seam (before ++ w.chars) after := by
  cases w with
  | phrase quote content =>
    left
    simp [List.getLast?_append, isSeparator_of_isQuote h.1]
  | word text => exact Or.inr h.right

theorem Fits.getLast_ne_hyphen (h : w.Fits before after) : w.chars.getLast? ≠ some '-' := by
  cases w with
  | phrase quote content =>
    have hq := h.1
    simp only [getLast?_phrase, ne_eq, Option.some.injEq]
    rintro rfl
    revert hq
    decide
  | word text =>
    intro hl
    have hc := MaximalRun.isSeparator_of_getLast h hl
    revert hc
    decide

theorem Fits.cut {middle : List Char} (h : w.Fits before (middle ++ after)) :
    w.Fits before middle := by
  cases w with
  | phrase quote content => exact h
  | word text => exact MaximalRun.cut h

theorem phrase_append_ne {quote : Char} {content text : List Char} (hq : isQuote quote = true)
    (hr : MaximalRun before text after) :
    (phrase quote content).chars ++ after' ≠ text ++ after := by
  obtain ⟨c, cs, rfl, hc⟩ := hr.exists_cons
  intro he
  obtain rfl : quote = c := (List.cons.inj he).1
  simp [isQuote_eq_false hc] at hq

theorem Fits.unique (h : w.Fits before after) (h' : w'.Fits before after')
    (he : w.chars ++ after = w'.chars ++ after') : w = w' ∧ after = after' := by
  cases w with
  | phrase quote content =>
    cases w' with
    | phrase quote' content' =>
      simp only [chars, List.cons_append, List.append_assoc, List.cons.injEq] at he
      obtain ⟨rfl, he⟩ := he
      have hcontent : content = content' := by
        rw [← takeWhile_ne_append after h.2, ← takeWhile_ne_append after' h'.2]
        exact congrArg _ he
      subst hcontent
      simpa using he
    | word text => exact (phrase_append_ne h.1 h' he).elim
  | word text =>
    cases w' with
    | phrase quote content => exact (phrase_append_ne h'.1 h he.symm).elim
    | word text' =>
      obtain ⟨rfl, hafter⟩ := MaximalRun.unique h h' he
      exact ⟨rfl, hafter⟩

end Written

/-- A hyphen and the key behind it are determined by the text. -/
theorem KeyRun.hyphen_unique {n n' : Bool} {key key' rest rest' : List Char}
    (h : KeyRun v (before ++ hyphen n) key rest) (h' : KeyRun v (before ++ hyphen n') key' rest')
    (he : hyphen n ++ (key ++ rest) = hyphen n' ++ (key' ++ rest')) :
    n = n' ∧ key = key' ∧ rest = rest' := by
  obtain ⟨c, cs, hkey, hc⟩ := h.exists_cons
  obtain ⟨c', cs', hkey', hc'⟩ := h'.exists_cons
  cases n with
  | false =>
    cases n' with
    | false => exact ⟨rfl, h.toMaximalRun.unique h'.toMaximalRun he⟩
    | true =>
      rw [hkey] at he
      exact (ne_of_isSeparator_eq_false (by decide) hc (List.cons.inj he).1).elim
  | true =>
    cases n' with
    | false =>
      rw [hkey'] at he
      exact (ne_of_isSeparator_eq_false (by decide) hc' (List.cons.inj he).1.symm).elim
    | true => exact ⟨rfl, h.toMaximalRun.unique h'.toMaximalRun (List.cons.inj he).2⟩

namespace Piece

variable {p q : Piece} {w : Written} {negated : Bool} {key : List Char} {n : Nat}

theorem gap_append_ne_term (h : (gap c).Fits v before after) (h' : (term w).Fits v before after') :
    (gap c).chars ++ after ≠ (term w).chars ++ after' := by
  obtain ⟨d, cs, hw, hd⟩ := h'.1.exists_cons
  intro he
  simp only [chars, hw] at he
  obtain rfl : c = d := (List.cons.inj he).1
  simp [h.1, h.2.1] at hd

theorem gap_append_ne_pair (h : (gap c).Fits v before after)
    (h' : (pair negated key n w).Fits v before after') :
    (gap c).chars ++ after ≠ (pair negated key n w).chars ++ after' := by
  intro he
  simp only [chars, List.append_assoc] at he
  cases negated with
  | false =>
    obtain ⟨d, cs, rfl, hd⟩ := h'.1.exists_cons
    obtain rfl : c = d := (List.cons.inj he).1
    simp [h.1] at hd
  | true =>
    -- the separator would be the hyphen of the pair, which a gap is not
    obtain ⟨hc, he⟩ := List.cons.inj he
    refine h.2.2 hc ⟨key, colons n ++ w.chars ++ after', ?_, ?_⟩
    · simpa using he
    · rw [hc]
      exact h'.1

theorem term_append_ne_pair {w' : Written} (h : (term w').Fits v before after)
    (h' : (pair negated key n w).Fits v before after') :
    (term w').chars ++ after ≠ (pair negated key n w).chars ++ after' := by
  intro he
  simp only [chars, List.append_assoc] at he
  cases negated with
  | false =>
    have hr : MaximalRun before key (colons n ++ w.chars ++ after') := by
      simpa using h'.1.toMaximalRun
    cases w' with
    | phrase quote content => exact Written.phrase_append_ne h.1.1 hr (by simpa using he)
    | word text =>
      obtain ⟨rfl, -⟩ := MaximalRun.unique h.1 hr (by simpa [Written.chars] using he)
      simpa [h.2 text rfl] using h'.1.isKey
  | true =>
    obtain ⟨d, cs, hw, hd⟩ := h.1.exists_cons
    rw [hw] at he
    exact (isBlank_ne_of_opens hd).2.1 (List.cons.inj he).1

theorem Fits.unique (h : p.Fits v before after) (h' : q.Fits v before after')
    (he : p.chars ++ after = q.chars ++ after') : p = q ∧ after = after' := by
  cases p with
  | gap c =>
    cases q with
    | gap d =>
      obtain ⟨rfl, ha⟩ := List.cons.inj he
      exact ⟨rfl, ha⟩
    | term w => exact (gap_append_ne_term h h' he).elim
    | pair negated key n w => exact (gap_append_ne_pair h h' he).elim
  | term w =>
    cases q with
    | gap d => exact (gap_append_ne_term h' h he.symm).elim
    | term w' =>
      obtain ⟨rfl, ha⟩ := h.1.unique h'.1 he
      exact ⟨rfl, ha⟩
    | pair negated key n w' => exact (term_append_ne_pair h h' he).elim
  | pair negated key n w =>
    cases q with
    | gap d => exact (gap_append_ne_pair h' h he.symm).elim
    | term w' => exact (term_append_ne_pair h' h he.symm).elim
    | pair negated' key' n' w' =>
      obtain ⟨rfl, rfl, hv⟩ := h.1.hyphen_unique h'.1 (by simpa [chars] using he)
      simp only [List.append_assoc] at hv
      obtain ⟨rfl, hw⟩ := colons_append_inj h.2.1.head_ne_colon h'.2.1.head_ne_colon hv
      obtain ⟨rfl, ha⟩ := h.2.1.unique h'.2.1 hw
      exact ⟨rfl, ha⟩

theorem Fits.keyBehind?_term (h : (term w).Fits v before after) :
    v.keyBehind? before.getLast? (w.chars ++ after) = none := by
  cases w with
  | phrase quote content => exact keyBehind?_of_separator (isSeparator_of_isQuote h.1.1)
  | word text =>
    rw [Written.chars, MaximalRun.keyBehind?_eq h.1]
    simp [h.2 text rfl]

theorem Fits.ne_nil (h : p.Fits v before after) : p.chars ≠ [] := by
  cases p with
  | gap c => simp [chars]
  | term w =>
    obtain ⟨c, cs, hw, -⟩ := h.1.exists_cons
    simp [chars, hw]
  | pair negated key n w => simp [chars, h.1.ne_nil]

/-- The last character of a pair is that of its value. -/
theorem Fits.getLast?_pair (h : (pair negated key n w).Fits v before after) :
    (pair negated key n w).chars.getLast? = w.chars.getLast? := by
  obtain ⟨c, cs, hw, -⟩ := h.2.1.exists_cons
  simp [chars, hw, List.getLast?_append, List.getLast?_cons]

/-- A piece ends at a seam. -/
theorem Fits.seam (h : p.Fits v before after) : Seam (before ++ p.chars) after := by
  cases p with
  | gap c =>
    left
    simp [chars, List.getLast?_append, h.1]
  | term w => exact h.1.seam
  | pair negated key n w => simpa [chars] using h.2.1.seam

/-- In front of a key no hyphen is left over. -/
theorem Fits.getLast?_ne_hyphen {rest : List Char} (h : p.Fits v before (key ++ rest))
    (hk : KeyRun v (before ++ p.chars) key rest) : (before ++ p.chars).getLast? ≠ some '-' := by
  have hlast : p.chars.getLast? ≠ some '-' := by
    cases p with
    | gap c =>
      simp only [chars, List.getLast?_singleton, ne_eq, Option.some.injEq]
      intro hc
      exact h.2.2 hc ⟨key, rest, rfl, hk⟩
    | term w => exact h.1.getLast_ne_hyphen
    | pair negated key' n w =>
      rw [h.getLast?_pair]
      exact h.2.1.getLast_ne_hyphen
  rw [List.getLast?_eq_some_getLast h.ne_nil] at hlast
  rw [List.getLast?_append, List.getLast?_eq_some_getLast h.ne_nil]
  exact hlast

/-- A piece still fits when the text behind it is cut off at a seam. -/
theorem Fits.cut {middle : List Char} (h : p.Fits v before (middle ++ after))
    (hs : Seam (before ++ p.chars ++ middle) after) : p.Fits v before middle := by
  cases p with
  | gap c =>
    refine ⟨h.1, h.2.1, ?_⟩
    rintro hc ⟨key, rest, rfl, hk⟩
    refine h.2.2 hc ⟨key, rest ++ after, by simp, hk.extend ?_⟩
    simpa [chars] using hs
  | term w => exact ⟨h.1.cut, h.2⟩
  | pair negated key n w =>
    refine ⟨?_, h.2.1.cut, h.2.2⟩
    have hk := h.1
    rw [← List.append_assoc] at hk
    exact hk.cut

end Piece

variable {ps qs : List Piece}

theorem allFit_append : AllFit v before (ps ++ qs) after ↔
    AllFit v before ps (spelled qs ++ after) ∧ AllFit v (before ++ spelled ps) qs after := by
  induction ps generalizing before with
  | nil => simp [AllFit]
  | cons p ps ih => simp [AllFit, ih, and_assoc]

theorem AllFit.unique (h : AllFit v before ps []) (h' : AllFit v before qs [])
    (he : spelled ps = spelled qs) : ps = qs := by
  induction ps generalizing before qs with
  | nil =>
    cases qs with
    | nil => rfl
    | cons q qs =>
      have hq := h'.1.ne_nil
      simp_all
  | cons p ps ih =>
    cases qs with
    | nil =>
      have hp := h.1.ne_nil
      simp_all
    | cons q qs =>
      have hpq := h.1.unique h'.1 (by simpa using he)
      simp only [List.append_nil] at hpq
      obtain ⟨rfl, hrest⟩ := hpq
      rw [ih h.2 h'.2 hrest]

theorem AllFit.seam (h : AllFit v before ps after) (hs : Seam before (spelled ps ++ after)) :
    Seam (before ++ spelled ps) after := by
  induction ps generalizing before with
  | nil => simpa using hs
  | cons p ps ih => simpa using ih h.2 h.1.seam

/-- Pieces still fit when the text behind them is cut off at a seam. -/
theorem AllFit.cut (h : AllFit v before ps after) (hs : Seam (before ++ spelled ps) after) :
    AllFit v before ps [] := by
  induction ps generalizing before with
  | nil => trivial
  | cons p ps ih =>
    refine ⟨?_, ih h.2 (by simpa using hs)⟩
    simpa using h.1.cut (by simpa using hs)

/-- In front of a key no hyphen is left over by the pieces there. -/
theorem AllFit.getLast?_ne_hyphen {key rest : List Char} (h : AllFit v [] ps (key ++ rest))
    (hk : KeyRun v (spelled ps) key rest) : (spelled ps).getLast? ≠ some '-' := by
  rcases List.eq_nil_or_concat' ps with rfl | ⟨front, p, rfl⟩
  · simp
  · obtain ⟨-, hp, -⟩ := allFit_append.mp h
    simp only [List.nil_append, spelled_nil] at hp
    simpa using hp.getLast?_ne_hyphen (by simpa using hk)

end FacetQuery
