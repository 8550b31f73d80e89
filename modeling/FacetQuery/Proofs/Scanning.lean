import FacetQuery.Proofs.Flaws
import FacetQuery.Query.Scanner

/-!
Runs of the scanner. Every place that the scanner comes to lies between two parts of the query, and
from there it reads a piece as its tokens and fails at a flaw.
-/
namespace FacetQuery

variable {v : Vocabulary} {before after rest cs : List Char} {c : Char}

/-- A scan with tokens in front of it. -/
def Scan.behind (s : Scan) (tokens : List Token) : Scan := ⟨tokens ++ s.tokens, s.failure⟩

@[simp] theorem Scan.behind_nil (s : Scan) : s.behind [] = s := rfl

@[simp] theorem Scan.behind_behind (s : Scan) (ts us : List Token) :
    (s.behind us).behind ts = s.behind (ts ++ us) := by
  simp [Scan.behind]

namespace Scanner

/-- The scanner between two parts of a query. -/
def between (before rest : List Char) (mode : Mode) : Scanner :=
  ⟨byteLength before, before.getLast?, rest, mode⟩

theorem start_eq_between (cs : List Char) : start cs = between [] cs .scanning := rfl

@[simp] theorem between_rest (mode : Mode) : (between before rest mode).rest = rest := rfl

@[simp] theorem between_last (mode : Mode) :
    (between before rest mode).last = before.getLast? := rfl

@[simp] theorem between_position (mode : Mode) :
    (between before rest mode).position = byteLength before := rfl

@[simp] theorem between_mode (mode : Mode) : (between before rest mode).mode = mode := rfl

@[simp] theorem between_advance (lexeme : List Char) (mode mode' : Mode) :
    (between before cs mode).advance lexeme rest mode' = between (before ++ lexeme) rest mode' := by
  simp [between, advance, List.getLast?_append]

variable {w : Written} {kind : TokenKind} {mode : Mode}

theorem phrase_eq {quote : Char} {content : List Char} (hn : quote ∉ content) :
    (between before cs mode).phrase kind quote (content ++ quote :: after) =
      .emit ((Written.phrase quote content).token kind (byteLength before))
        (between (before ++ (Written.phrase quote content).chars) after .scanning) := by
  simp [phrase, dropWhile_ne_append after hn, takeWhile_ne_append after hn, emit, Written.token,
    Written.text, Written.chars]

theorem word_eq {text : List Char} (hr : MaximalRun before text after) (mode' : Mode) :
    (between before (text ++ after) mode).word kind mode' =
      .emit ((Written.word text).token kind (byteLength before))
        (between (before ++ text) after mode') := by
  simp [word, hr.leadingWord_eq, emit, Written.token, Written.text, Written.chars]

/-- What is written is read as one term. -/
theorem term?_eq (kind : TokenKind) (mode : Mode) (hw : w.Fits before after)
    (hc : w.chars = c :: cs) :
    (between before (c :: cs ++ after) mode).term? kind c (cs ++ after) =
      some (.emit (w.token kind (byteLength before))
        (between (before ++ w.chars) after .scanning)) := by
  cases w with
  | phrase quote content =>
    simp only [Written.chars, List.cons_append, List.cons.injEq] at hc
    obtain ⟨rfl, rfl⟩ := hc
    rw [term?, if_pos hw.1, List.append_assoc]
    exact congrArg some (phrase_eq hw.2)
  | word text =>
    obtain rfl : text = c :: cs := hc
    have hs : isSeparator c = false := MaximalRun.wordChars hw c (by simp)
    rw [term?, if_neg (by simp [isQuote_eq_false hs]), if_pos]
    · exact congrArg some (word_eq hw .scanning)
    · simp [opensWord_eq_true_iff.mpr hw.left, isWordChar_eq_true_iff.mpr hs]

theorem term?_of_separator (hs : isSeparator c = true) (hq : isQuote c = false) (s : Scanner) :
    s.term? kind c rest = none := by
  simp [term?, hq, isWordChar, hs]

/-- A separator between items is passed over, unless it opens a phrase or stands right before a
key. -/
theorem step_separator (hs : isSeparator c = true) (hq : isQuote c = false)
    (hop : ¬ (c = '-' ∧ (v.keyBehind? (some c) rest).isSome)) :
    (between before (c :: rest) .scanning).step v =
      .skip (between (before ++ [c]) rest .scanning) := by
  simp [step, scan, skip, hop, keyBehind?_of_separator hs, term?_of_separator hs hq, hs]

theorem step_gap (h : (Piece.gap c).Fits v before rest) :
    (between before (c :: rest) .scanning).step v =
      .skip (between (before ++ [c]) rest .scanning) := by
  obtain ⟨hs, hq, hk⟩ := h
  refine step_separator hs hq ?_
  rintro ⟨hc, hkey⟩
  have hnone := keyBehind?_eq_none_iff.mpr (hk hc)
  rw [List.getLast?_append, List.getLast?_singleton, Option.some_or] at hnone
  simp [hnone] at hkey

/-- A hyphen right before a key is an operator. -/
theorem step_operator {key : List Char} (hk : KeyRun v (before ++ ['-']) key rest) :
    (between before ('-' :: (key ++ rest)) .scanning).step v =
      .emit ((Written.word ['-']).token .operator (byteLength before))
        (between (before ++ ['-']) (key ++ rest) .scanning) := by
  have hkey := hk.keyBehind?_eq
  rw [List.getLast?_append, List.getLast?_singleton, Option.some_or] at hkey
  have hb : isBlank '-' = false := by decide
  simp [step, scan, hb, hkey, emit, Written.token, Written.text, Written.chars]

theorem step_key {key : List Char} (hk : KeyRun v before key rest) :
    (between before (key ++ rest) .scanning).step v =
      .emit ((Written.word key).token .key (byteLength before))
        (between (before ++ key) rest (.pairing (String.ofList key))) := by
  have hkey := hk.keyBehind?_eq
  obtain ⟨c, cs, rfl, hc⟩ := hk.exists_cons
  obtain ⟨hb, hd, -⟩ := isBlank_ne_of_opens (Or.inr hc)
  simp only [step, between_mode, scan, between_rest, between_last, List.cons_append, hb, hd,
    false_and, Bool.false_eq_true, if_false] at hkey ⊢
  rw [hkey]
  exact word_eq hk.toMaximalRun _

/-- A phrase, or a word that is no key, is a fulltext term. -/
theorem step_term (h : (Piece.term w).Fits v before after) :
    (between before (w.chars ++ after) .scanning).step v =
      .emit (w.token .fulltext (byteLength before))
        (between (before ++ w.chars) after .scanning) := by
  have hkey := h.keyBehind?_term
  obtain ⟨c, cs, hw, hc⟩ := h.1.exists_cons
  obtain ⟨hb, hd, -⟩ := isBlank_ne_of_opens hc
  have hterm := term?_eq .fulltext .scanning h.1 hw
  rw [hw, List.cons_append] at hkey ⊢
  rw [hw, List.cons_append] at hterm
  simp only [step, between_mode, scan, between_rest, between_last, hb, hd, false_and,
    Bool.false_eq_true, if_false, hkey, hterm]

theorem step_colon (key : String) :
    (between before (':' :: rest) (.pairing key)).step v =
      .skip (between (before ++ [':']) rest (.pairing key)) := by
  simp [step, pair, skip]

theorem step_value (h : w.Fits before after) (key : String) :
    (between before (w.chars ++ after) (.pairing key)).step v =
      .emit (w.token .value (byteLength before))
        (between (before ++ w.chars) after .scanning) := by
  obtain ⟨c, cs, hw, hc⟩ := h.exists_cons
  obtain ⟨-, -, hd⟩ := isBlank_ne_of_opens hc
  have hterm := term?_eq .value (.pairing key) h hw
  rw [hw, List.cons_append] at hterm ⊢
  simp only [step, between_mode, pair, between_rest, hd, if_false, hterm]

theorem phrase_open {quote : Char} (hn : quote ∉ rest) :
    (between before cs mode).phrase kind quote rest =
      .fail (byteLength before) (.unterminatedPhrase quote) := by
  have hd : rest.dropWhile (· != quote) = [] := by
    rw [List.dropWhile_eq_nil_iff]
    intro c hc
    simp only [bne_iff_ne]
    rintro rfl
    exact hn hc
  simp [phrase, hd]

theorem step_open {quote : Char} (hq : isQuote quote = true) (hn : quote ∉ rest) :
    (between before (quote :: rest) .scanning).step v =
      .fail (byteLength before) (.unterminatedPhrase quote) := by
  obtain ⟨hb, hd, -⟩ := isBlank_ne_of_opens (Or.inl hq)
  simp [step, scan, hb, hd, keyBehind?_of_separator (isSeparator_of_isQuote hq), term?, hq,
    phrase_open hn]

/-- Where no value can be read, the scanner fails behind the key and its colons. -/
theorem step_noValue (h : NoValue rest) (negated : Bool) (key : List Char) (n : Nat) :
    (between before rest (.pairing (String.ofList key))).step v =
      .fail (byteLength before) (Flaw.pair negated key n rest).fault := by
  cases rest with
  | nil => simp [step, pair, Flaw.fault]
  | cons c rest =>
    obtain ⟨hs, hc, hn⟩ := h c rest rfl
    cases hq : isQuote c with
    | true => simp [step, pair, hc, term?, hq, phrase_open (hn hq), Flaw.fault]
    | false => simp [step, pair, hc, term?_of_separator hs hq, Flaw.fault, hq]

variable (query : String)

theorem run_stop {s : Scanner} (h : s.step v = .stop) : s.run v query = ⟨[], none⟩ := by
  rw [run]
  split <;> simp_all

theorem run_end : (between before [] .scanning).run v query = ⟨[], none⟩ :=
  run_stop query rfl

theorem run_fail {s : Scanner} {position : Nat} {fault : Fault}
    (h : s.step v = .fail position fault) :
    s.run v query = ⟨[], some ⟨fault, some position, some query⟩⟩ := by
  rw [run]
  split <;> simp_all

theorem run_skip {s n : Scanner} (h : s.step v = .skip n) : s.run v query = n.run v query := by
  rw [run]
  split <;> simp_all

theorem run_emit {s n : Scanner} {t : Token} (h : s.step v = .emit t n) :
    s.run v query = (n.run v query).behind [t] := by
  rw [run]
  split <;> simp_all [Scan.behind]

theorem run_colons (key : String) (n : Nat) :
    (between before (colons n ++ rest) (.pairing key)).run v query =
      (between (before ++ colons n) rest (.pairing key)).run v query := by
  induction n generalizing before with
  | zero => simp
  | succ n ih =>
    rw [colons_succ, List.cons_append, run_skip query (step_colon key), ih]
    simp

/-- A hyphen, if there is one, a key and colons lead to the place of the value. -/
theorem run_head {negated : Bool} {key : List Char} {n : Nat}
    (hk : KeyRun v (before ++ hyphen negated) key (colons n ++ rest)) :
    (between before (hyphen negated ++ key ++ colons n ++ rest) .scanning).run v query =
      ((between (before ++ (hyphen negated ++ key ++ colons n)) rest
        (.pairing (String.ofList key))).run v query).behind
        (headTokens negated key (byteLength before)) := by
  have hkey := run_emit query (step_key hk)
  cases negated with
  | false =>
    simp only [hyphen_false, List.append_nil] at hkey
    simp only [hyphen_false, List.nil_append, List.append_assoc, hkey, run_colons, headTokens,
      Bool.false_eq_true, if_false, byteLength_nil, Nat.add_zero]
  | true =>
    simp only [hyphen_true] at hk hkey
    simp only [hyphen_true, if_true, List.cons_append, List.nil_append, List.append_assoc,
      run_emit query (step_operator hk), hkey, run_colons, Scan.behind_behind, headTokens,
      byteLength_append]

/-- A piece is read as its tokens. -/
theorem run_piece {p : Piece} (h : p.Fits v before after) :
    (between before (p.chars ++ after) .scanning).run v query =
      ((between (before ++ p.chars) after .scanning).run v query).behind
        (p.tokens (byteLength before)) := by
  cases p with
  | gap c => simpa [Piece.chars, Piece.tokens] using run_skip query (step_gap h)
  | term w => exact run_emit query (step_term h)
  | pair negated key n w =>
    have hk := h.1
    rw [List.append_assoc] at hk
    have hhead := run_head query hk
    have hvalue := run_emit query (step_value (v := v) h.2.1 (String.ofList key))
    simp only [Piece.chars, Piece.tokens, List.append_assoc] at hhead hvalue ⊢
    rw [hhead, hvalue, Scan.behind_behind]
    simp

/-- Pieces in a row are read as their tokens. -/
theorem run_pieces {ps : List Piece} (h : AllFit v before ps after) :
    (between before (spelled ps ++ after) .scanning).run v query =
      ((between (before ++ spelled ps) after .scanning).run v query).behind
        (tokensFrom (byteLength before) ps) := by
  induction ps generalizing before with
  | nil => simp [tokensFrom]
  | cons p ps ih =>
    rw [spelled_cons, List.append_assoc, run_piece query h.1, ih h.2]
    simp [tokensFrom]

/-- At a flaw the run fails. -/
theorem run_flaw {f : Flaw} (h : f.Fits v before) :
    (between before f.chars .scanning).run v query =
      ⟨f.tokens (byteLength before),
        some ⟨f.fault, some (byteLength (before ++ f.lead)), some query⟩⟩ := by
  cases f with
  | phrase quote rest =>
    simpa [Flaw.chars, Flaw.lead, Flaw.tail, Flaw.tokens, Flaw.fault] using
      run_fail query (step_open h.1 h.2)
  | pair negated key n rest =>
    simp only [Flaw.chars, Flaw.lead, Flaw.tail]
    rw [run_head query h.1, run_fail query (step_noValue h.2 negated key n)]
    simp [Scan.behind, Flaw.tokens]

end Scanner

variable {query : String} {ps : List Piece}

/-- The scan of a query that splits into pieces. -/
theorem scan_of_splits (h : Splits v query ps) : v.scan query = ⟨tokensFrom 0 ps, none⟩ := by
  have hrun := Scanner.run_pieces query h.2
  rw [Scanner.run_end, List.append_nil, h.1] at hrun
  simpa [Vocabulary.scan, Scanner.start_eq_between, Scan.behind] using hrun

/-- The scan of a query that breaks off in a flaw. -/
theorem scan_of_flaw {f : Flaw} (hq : query.toList = spelled ps ++ f.chars)
    (hps : AllFit v [] ps f.chars) (hf : f.Fits v (spelled ps)) :
    v.scan query = ⟨tokensFrom 0 ps ++ f.tokens (byteLength (spelled ps)),
      some ⟨f.fault, some (byteLength (spelled ps ++ f.lead)), some query⟩⟩ := by
  have hrun := Scanner.run_pieces query hps
  rw [List.nil_append, Scanner.run_flaw query hf, ← hq] at hrun
  simpa [Vocabulary.scan, Scanner.start_eq_between, Scan.behind] using hrun

/-- A query splits into pieces, or it breaks off in a flaw. -/
theorem splits_or_flaw (v : Vocabulary) (query : String) :
    (∃ ps, Splits v query ps) ∨ ∃ (ps : List Piece) (f : Flaw),
      query.toList = spelled ps ++ f.chars ∧ AllFit v [] ps f.chars ∧ f.Fits v (spelled ps) := by
  have hs : Seam [] query.toList := Or.inl (by simp)
  rcases exists_pieces_or_flaw v query.toList hs with ⟨ps, hq, hps⟩ | ⟨ps, f, hq, hps, hf⟩
  · exact Or.inl ⟨ps, hq.symm, hps⟩
  · exact Or.inr ⟨ps, f, hq, hps, hf⟩

end FacetQuery
