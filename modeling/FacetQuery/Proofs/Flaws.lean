import FacetQuery.Proofs.Pieces

/-!
What a query with an error ends in: a phrase that is never closed, or a key without a value. Every
text is pieces, or pieces with a flaw behind them.
-/
namespace FacetQuery

/-- The item that a query breaks off in. The last argument is the rest of the query: what stands
behind an opening quote, or behind a key and its colons. -/
inductive Flaw where
  | phrase (quote : Char) (rest : List Char)
  | pair (negated : Bool) (key : List Char) (colonCount : Nat) (rest : List Char)
  deriving DecidableEq, Repr

/-- No value can be read: the text is at its end, at a quote without a second one, or at a
separator that is no quote and no colon. -/
def NoValue (cs : List Char) : Prop :=
  ∀ c rest, cs = c :: rest → isSeparator c = true ∧ c ≠ ':' ∧ (isQuote c = true → c ∉ rest)

namespace Flaw

/-- The part in front of the place of the error. -/
def lead : Flaw → List Char
  | phrase _ _ => []
  | pair negated key n _ => hyphen negated ++ key ++ colons n

/-- The part from the place of the error on. -/
def tail : Flaw → List Char
  | phrase quote rest => quote :: rest
  | pair _ _ _ rest => rest

def chars (f : Flaw) : List Char := f.lead ++ f.tail

/-- The tokens read before the error. -/
def tokens (position : Nat) : Flaw → List Token
  | phrase _ _ => []
  | pair negated key _ _ => headTokens negated key position

def fault : Flaw → Fault
  | phrase quote _ => .unterminatedPhrase quote
  | pair _ key _ [] => .expectedValue (String.ofList key)
  | pair _ key _ (c :: _) =>
    if isQuote c then .unterminatedPhrase c else .expectedValue (String.ofList key)

/-- A flaw behind a part of a query. -/
def Fits (v : Vocabulary) (before : List Char) : Flaw → Prop
  | phrase quote rest => isQuote quote = true ∧ quote ∉ rest
  | pair negated key n rest =>
    KeyRun v (before ++ hyphen negated) key (colons n ++ rest) ∧ NoValue rest

end Flaw

variable {v : Vocabulary} {before cs : List Char} {c : Char}

/-- A flaw begins at a seam. -/
theorem Flaw.Fits.seam {f : Flaw} (h : f.Fits v before) : Seam before f.chars := by
  cases f with
  | phrase quote rest =>
    right
    simp [chars, lead, tail, isSeparator_of_isQuote h.1]
  | pair negated key n rest =>
    cases negated with
    | false => exact Or.inl (by simpa using h.1.left)
    | true =>
      right
      simp only [chars, lead, hyphen_true, List.cons_append, List.head?_cons, Option.mem_some]
      rintro c rfl
      decide

theorem exists_colons_append (cs : List Char) :
    ∃ n rest, cs = colons n ++ rest ∧ ':' ∉ rest.head? := by
  induction cs with
  | nil => exact ⟨0, [], rfl, by simp⟩
  | cons c cs ih =>
    by_cases hc : c = ':'
    · obtain ⟨n, rest, rfl, hr⟩ := ih
      exact ⟨n + 1, rest, by simp [hc], hr⟩
    · exact ⟨0, c :: cs, rfl, by simpa using hc⟩

/-- A quote opens a phrase or is never closed. -/
theorem exists_phrase_or_notMem (c : Char) (cs : List Char) :
    (∃ content after, c :: cs = (Written.phrase c content).chars ++ after ∧ c ∉ content) ∨
      c ∉ cs := by
  by_cases hm : c ∈ cs
  · obtain ⟨content, after, rfl, hn⟩ := List.eq_append_cons_of_mem hm
    exact Or.inl ⟨content, after, by simp [Written.chars], hn⟩
  · exact Or.inr hm

/-- Behind colons a value is written, or none can be read. Without colons a word is no value, for
the key would go on with it. -/
theorem exists_value_or_noValue (n : Nat) (hc : ':' ∉ cs.head?)
    (hn : n = 0 → ∀ c ∈ cs.head?, isSeparator c = true) (before : List Char) :
    (∃ (w : Written) (after : List Char), cs = w.chars ++ after ∧
      w.Fits (before ++ colons n) after ∧ ∀ text, w = .word text → 1 ≤ n) ∨ NoValue cs := by
  cases cs with
  | nil => exact Or.inr (by simp [NoValue])
  | cons c cs =>
    have hcolon : c ≠ ':' := by simpa using hc
    cases hs : isSeparator c with
    | false =>
      have hpos : 1 ≤ n := by
        by_contra hz
        have := hn (by omega) c (by simp)
        simp [hs] at this
      have hlast : ∀ d ∈ (before ++ colons n).getLast?, isSeparator d = true := by
        intro d hd
        obtain ⟨m, rfl⟩ : ∃ m, n = m + 1 := ⟨n - 1, by omega⟩
        rw [← colons_append_cons, ← List.append_assoc, List.getLast?_append] at hd
        obtain rfl : ':' = d := by simpa using hd
        decide
      obtain ⟨run, after, he, hr⟩ := exists_maximalRun cs hlast hs
      exact Or.inl ⟨.word run, after, he, hr, fun _ _ => hpos⟩
    | true =>
      cases hq : isQuote c with
      | false =>
        right
        rintro d rest ⟨⟩
        exact ⟨hs, hcolon, by simp [hq]⟩
      | true =>
        rcases exists_phrase_or_notMem c cs with ⟨content, after, he, hm⟩ | hm
        · exact Or.inl ⟨.phrase c content, after, he, ⟨hq, hm⟩, by simp⟩
        · right
          rintro d rest ⟨⟩
          exact ⟨hs, hcolon, fun _ => hm⟩

/-- A key begins a pair or a flaw. -/
theorem exists_pair_or_flaw (negated : Bool) {key rest : List Char}
    (h : KeyRun v (before ++ hyphen negated) key rest) :
    (∃ p after, hyphen negated ++ key ++ rest = Piece.chars p ++ after ∧ p.Fits v before after) ∨
      ∃ f : Flaw, hyphen negated ++ key ++ rest = f.chars ∧ f.Fits v before := by
  obtain ⟨n, cs, rfl, hcs⟩ := exists_colons_append rest
  have hn : n = 0 → ∀ c ∈ cs.head?, isSeparator c = true := by
    rintro rfl
    exact h.right
  rcases exists_value_or_noValue n hcs hn (before ++ hyphen negated ++ key) with
    ⟨w, after, rfl, hw, hpos⟩ | hno
  · refine Or.inl ⟨.pair negated key n w, after, by simp [Piece.chars], ?_, hw, hpos⟩
    simpa using h
  · exact Or.inr ⟨.pair negated key n cs, by simp [Flaw.chars, Flaw.lead, Flaw.tail], h, hno⟩

/-- What begins at a seam begins with a piece or is a flaw. -/
theorem exists_piece_or_flaw (v : Vocabulary) (hs : Seam before (c :: cs)) :
    (∃ p after, c :: cs = Piece.chars p ++ after ∧ p.Fits v before after) ∨
      ∃ f : Flaw, c :: cs = f.chars ∧ f.Fits v before := by
  cases hc : isSeparator c with
  | false =>
    have hlast : ∀ d ∈ before.getLast?, isSeparator d = true := by
      rcases hs with hs | hs
      · exact hs
      · simpa [hc] using hs c
    obtain ⟨run, after, he, hr⟩ := exists_maximalRun cs hlast hc
    cases hk : v.isKey (String.ofList run) with
    | false =>
      refine Or.inl ⟨.term (.word run), after, he, hr, ?_⟩
      rintro text ⟨⟩
      exact hk
    | true =>
      have hrun : KeyRun v (before ++ hyphen false) run after := ⟨by simpa using hr, hk⟩
      simpa [he] using exists_pair_or_flaw false hrun
  | true =>
    cases hq : isQuote c with
    | true =>
      rcases exists_phrase_or_notMem c cs with ⟨content, after, he, hm⟩ | hm
      · exact Or.inl ⟨.term (.phrase c content), after, he, ⟨hq, hm⟩, by simp⟩
      · exact Or.inr ⟨.phrase c cs, rfl, hq, hm⟩
    | false =>
      by_cases hk : c = '-' ∧ ∃ key rest, cs = key ++ rest ∧ KeyRun v (before ++ [c]) key rest
      · obtain ⟨rfl, key, rest, rfl, hk⟩ := hk
        simpa using exists_pair_or_flaw true hk
      · exact Or.inl ⟨.gap c, cs, rfl, hc, hq, fun hd hx => hk ⟨hd, hx⟩⟩

/-- From a seam on, a text is pieces, or pieces and a flaw. -/
theorem exists_pieces_or_flaw (v : Vocabulary) (cs : List Char) (hs : Seam before cs) :
    (∃ ps, cs = spelled ps ∧ AllFit v before ps []) ∨
      ∃ (ps : List Piece) (f : Flaw), cs = spelled ps ++ f.chars ∧ AllFit v before ps f.chars ∧
        f.Fits v (before ++ spelled ps) := by
  -- a piece is never empty, so the text behind it is shorter
  induction hlen : cs.length using Nat.strong_induction_on generalizing before cs with
  | _ len ih =>
    cases cs with
    | nil => exact Or.inl ⟨[], rfl, trivial⟩
    | cons c cs =>
      rcases exists_piece_or_flaw v hs with ⟨p, after, he, hp⟩ | ⟨f, he, hf⟩
      · have hshort : after.length < len := by
          have := congrArg List.length he
          have := List.length_pos_iff.mpr hp.ne_nil
          simp only [List.length_append] at *
          omega
        rcases ih _ hshort after hp.seam rfl with ⟨ps, rfl, hps⟩ | ⟨ps, f, rfl, hps, hf⟩
        · exact Or.inl ⟨p :: ps, by simp [he], by simpa using hp, hps⟩
        · exact Or.inr ⟨p :: ps, f, by simp [he], ⟨hp, hps⟩, by simpa using hf⟩
      · exact Or.inr ⟨[], f, by simp [he], trivial, by simpa using hf⟩

end FacetQuery
