import FacetQuery.Toml.Strings
import FacetQuery.Toml.Writer
import Mathlib.Data.List.Basic

/-!
Strings that are written are read back as they were, in whichever of the styles they are written
and whatever they hold. Each reader undoes the writer of its style one character at a time.
-/
namespace FacetQuery.Toml

variable {text tail rest code body : List Char} {c quote : Char} {run : Nat}

theorem hexDigit?_upperHexDigit : ∀ n < 16, hexDigit? (upperHexDigit n) = some n := by
  decide

theorem hexNumber?_hex4 {n : Nat} (h : n < 65536) : hexNumber? (hex4 n) = some n := by
  have h3 := hexDigit?_upperHexDigit (n / 4096 % 16) (by omega)
  have h2 := hexDigit?_upperHexDigit (n / 256 % 16) (by omega)
  have h1 := hexDigit?_upperHexDigit (n / 16 % 16) (by omega)
  have h0 := hexDigit?_upperHexDigit (n % 16) (by omega)
  simp only [hexNumber?, hex4, List.map_cons, List.map_nil, List.foldlM_cons, List.foldlM_nil,
    h3, h2, h1, h0, Option.map_some, Option.bind_eq_bind, Option.bind_some, Option.pure_def,
    Option.some.injEq]
  omega

theorem charOfCode?_toNat (c : Char) : charOfCode? c.toNat = some c := by
  have hvalid : c.toNat.isValidChar := c.valid
  rw [charOfCode?, if_pos hvalid, Char.ofNat_toNat]

theorem codeEscape_hex4 (h : c.toNat < 65536) (rest : List Char) :
    codeEscape 4 (hex4 c.toNat ++ rest) = some (c, rest) := by
  have hlength : (hex4 c.toNat).length = 4 := rfl
  have htake : (hex4 c.toNat ++ rest).take 4 = hex4 c.toNat := List.take_left' hlength
  have hdrop : (hex4 c.toNat ++ rest).drop 4 = rest := List.drop_left' hlength
  have hle : 4 ≤ (hex4 c.toNat ++ rest).length := by
    rw [List.length_append, hlength]
    omega
  rw [codeEscape, if_pos hle, htake, hdrop, hexNumber?_hex4 h, Option.bind_some,
    charOfCode?_toNat]
  rfl

theorem skipSpaces_cons (hs : isSpace c = false) : skipSpaces (c :: rest) = c :: rest := by
  simp [skipSpaces, hs]

theorem lineContinuation?_cons (hs : isSpace c = false) (hn : c ≠ '\n') (hr : c ≠ '\r') :
    lineContinuation? (c :: rest) = none := by
  rw [lineContinuation?, skipSpaces_cons hs, newline?]
  · rfl
  · rintro more ⟨⟩
    exact hn rfl
  · rintro more ⟨⟩
    exact hr rfl

/-- What stands behind a backslash is read as a character and does not continue a line. -/
def Escapes (code : List Char) (c : Char) : Prop :=
  ∀ rest, escape (code ++ rest) = some (c, rest) ∧ lineContinuation? (code ++ rest) = none

theorem escapes_letter {letter : Char} (h : letterEscape? letter = some c)
    (hl : isSpace letter = false ∧ letter ≠ '\n' ∧ letter ≠ '\r') : Escapes [letter] c := by
  intro rest
  refine ⟨?_, lineContinuation?_cons hl.1 hl.2.1 hl.2.2⟩
  simp [escape, h]

theorem escapes_code (h : isControl c = true) : Escapes ('u' :: hex4 c.toNat) c := by
  have hlt : c.toNat < 65536 := by
    simp only [isControl, Bool.or_eq_true, decide_eq_true_eq] at h
    omega
  intro rest
  refine ⟨?_, lineContinuation?_cons rfl (by decide) (by decide)⟩
  exact codeEscape_hex4 hlt rest

/-- A character is written as it is, if it is no control character and no backslash, or else as an
escape that is read back as the character. -/
theorem escaped_cases (c : Char) :
    (escaped c = [c] ∧ isTextChar c = true ∧ c ≠ '\\') ∨
      ∃ code, escaped c = '\\' :: code ∧ Escapes code c := by
  unfold escaped
  split
  · rename_i h
    subst h
    exact Or.inr ⟨['b'], rfl, escapes_letter rfl (by decide)⟩
  split
  · rename_i h
    subst h
    exact Or.inr ⟨['t'], rfl, escapes_letter rfl (by decide)⟩
  split
  · rename_i h
    subst h
    exact Or.inr ⟨['n'], rfl, escapes_letter rfl (by decide)⟩
  split
  · rename_i h
    subst h
    exact Or.inr ⟨['f'], rfl, escapes_letter rfl (by decide)⟩
  split
  · rename_i h
    subst h
    exact Or.inr ⟨['r'], rfl, escapes_letter rfl (by decide)⟩
  split
  · rename_i h
    subst h
    exact Or.inr ⟨['\\'], rfl, escapes_letter rfl (by decide)⟩
  split
  · rename_i h
    exact Or.inr ⟨_, rfl, escapes_code h⟩
  · rename_i hbackslash hcontrol
    exact Or.inl ⟨rfl, by simp [isTextChar, hcontrol], hbackslash⟩

theorem basicString_cons (hc : isTextChar c = true) (hq : c ≠ '"') (hb : c ≠ '\\')
    (h : basicString rest = some (text, tail)) :
    basicString (c :: rest) = some (c :: text, tail) := by
  rw [basicString, if_neg hq, if_neg hb, if_pos hc, h]
  rfl

theorem basicString_escape (he : escape code = some (c, rest))
    (h : basicString rest = some (text, tail)) :
    basicString ('\\' :: code) = some (c :: text, tail) := by
  rw [basicString, if_neg (by decide), if_pos rfl]
  split <;> simp_all

/-- A basic string is read back, since each of its characters is. -/
theorem basicString_writeBasic (text rest : List Char) :
    basicString (writeBasic text ++ '"' :: rest) = some (text, rest) := by
  induction text with
  | nil => simp [writeBasic, basicString]
  | cons c text ih =>
    rw [writeBasic, List.append_assoc]
    by_cases hq : c = '"'
    · rw [if_pos hq, hq]
      exact basicString_escape rfl ih
    · rw [if_neg hq]
      rcases escaped_cases c with ⟨he, hc, hb⟩ | ⟨code, he, hcode⟩
      · rw [he]
        exact basicString_cons hc hq hb ih
      · rw [he]
        exact basicString_escape (hcode _).1 ih

theorem literalString_text (h : ∀ c ∈ text, isTextChar c = true ∧ c ≠ '\'') (rest : List Char) :
    literalString (text ++ '\'' :: rest) = some (text, rest) := by
  induction text with
  | nil => simp [literalString]
  | cons c text ih =>
    obtain ⟨hc, hq⟩ := h c (by simp)
    have hrest := ih fun d hd => h d (by simp [hd])
    rw [List.cons_append, literalString, if_neg hq, if_pos hc, hrest]
    rfl

theorem closes?_eq_some_iff {cs : List Char} :
    closes? quote cs = some rest ↔ cs = tripled quote ++ rest := by
  constructor
  · intro h
    unfold closes? at h
    split at h
    · split at h
      · rename_i hq
        obtain ⟨rfl, rfl, rfl⟩ := hq
        rw [Option.some.inj h]
        rfl
      · cases h
    · cases h
  · rintro rfl
    simp [closes?, tripled]

theorem closes?_cons_of_ne (h : c ≠ quote) : closes? quote (c :: rest) = none := by
  cases hc : closes? quote (c :: rest) with
  | none => rfl
  | some after => exact (h (List.cons.inj (closes?_eq_some_iff.mp hc)).1).elim

theorem closes?_cons (h : ∀ d ∈ rest.head?, d ≠ quote) : closes? quote (c :: rest) = none := by
  cases hc : closes? quote (c :: rest) with
  | none => rfl
  | some after =>
    obtain rfl := (List.cons.inj (closes?_eq_some_iff.mp hc)).2
    exact (h quote rfl rfl).elim

/-- One quote at each end does not look like three. -/
theorem closes?_single (hb : ∀ d ∈ body.head?, d ≠ quote) (hr : ∀ d ∈ rest.head?, d ≠ quote) :
    closes? quote (quote :: (body ++ quote :: rest)) = none := by
  cases body with
  | cons d body => exact closes?_cons (by simpa using hb)
  | nil =>
    cases rest with
    | nil => rfl
    | cons d rest =>
      have hd : d ≠ quote := by simpa using hr
      simp [closes?, hd]

theorem closingQuotes_of_ne (hr : ∀ d ∈ rest.head?, d ≠ quote) :
    closingQuotes quote rest = ([], rest) := by
  match rest with
  | [] => rfl
  | [d] => simpa [closingQuotes] using hr
  | d :: e :: rest =>
    have hd : d ≠ quote := by simpa using hr
    simp [closingQuotes, hd]

theorem closingQuotes_one (hr : ∀ d ∈ rest.head?, d ≠ quote) :
    closingQuotes quote (quote :: rest) = ([quote], rest) := by
  cases rest with
  | nil => simp [closingQuotes]
  | cons d rest =>
    have hd : d ≠ quote := by simpa using hr
    simp [closingQuotes, hd]

/-- Behind a text that does not begin with three quotes, the closing ones are found only at its end,
or at once if the text is quotes throughout; these then still belong to it. -/
theorem closes?_append (hb : closes? quote body = none) (hr : ∀ d ∈ rest.head?, d ≠ quote) :
    (closes? quote (body ++ (tripled quote ++ rest)) = none ∧ body ≠ []) ∨
      closes? quote (body ++ (tripled quote ++ rest)) = some (body ++ rest) ∧
        closingQuotes quote (body ++ rest) = (body, rest) ∧ ∀ d ∈ body, d = quote := by
  match body with
  | [] => exact Or.inr ⟨closes?_eq_some_iff.mpr rfl, closingQuotes_of_ne hr, by simp⟩
  | [a] =>
    by_cases ha : a = quote
    · subst ha
      exact Or.inr ⟨closes?_eq_some_iff.mpr rfl, closingQuotes_one hr, by simp⟩
    · exact Or.inl ⟨closes?_cons_of_ne ha, by simp⟩
  | [a, b] =>
    by_cases ha : a = quote
    · by_cases hb : b = quote
      · subst ha hb
        exact Or.inr ⟨closes?_eq_some_iff.mpr rfl, by simp [closingQuotes], by simp⟩
      · exact Or.inl ⟨closes?_cons (by simpa using hb), by simp⟩
    · exact Or.inl ⟨closes?_cons_of_ne ha, by simp⟩
  | a :: b :: c :: body =>
    refine Or.inl ⟨?_, by simp⟩
    simpa [closes?] using hb

theorem isTextChar_or_newline_ne (h : c = '\n' ∨ isTextChar c = true) : c ≠ '\r' := by
  rintro rfl
  revert h
  decide

theorem hasLongRun_mono {m n : Nat} (h : hasLongRun quote n text = false) (hmn : m ≤ n)
    (hn : n ≤ 2) : hasLongRun quote m text = false := by
  induction text generalizing m n with
  | nil => rfl
  | cons c text ih =>
    rw [hasLongRun] at h ⊢
    by_cases hc : c = quote
    · simp only [hc, if_true, Bool.or_eq_false_iff, decide_eq_false_iff_not] at h ⊢
      exact ⟨by omega, ih h.2 (by omega) (by omega)⟩
    · simpa [hc] using h

theorem hasLongRun_tail (h : hasLongRun quote 0 (c :: text) = false) :
    hasLongRun quote 0 text = false := by
  rw [hasLongRun] at h
  by_cases hc : c = quote
  · simp only [hc, if_true, Bool.or_eq_false_iff] at h
    exact hasLongRun_mono h.2 (by omega) (by omega)
  · simpa [hc] using h

theorem closes?_of_hasLongRun (h : hasLongRun quote 0 text = false) :
    closes? quote text = none := by
  cases hc : closes? quote text with
  | none => rfl
  | some rest =>
    rw [closes?_eq_some_iff.mp hc] at h
    simp [tripled, hasLongRun] at h

theorem multilineLiteral_close {cs : List Char} (h : closes? '\'' cs = some rest) :
    multilineLiteral cs = some (closingQuotes '\'' rest) := by
  unfold multilineLiteral
  rw [h]

theorem multilineLiteral_cons (hclose : closes? '\'' (c :: rest) = none)
    (hc : c = '\n' ∨ isTextChar c = true) (h : multilineLiteral rest = some (text, tail)) :
    multilineLiteral (c :: rest) = some (c :: text, tail) := by
  have hr := isTextChar_or_newline_ne hc
  have hc' : (c = '\n' || isTextChar c) = true := by simpa using hc
  rw [multilineLiteral, hclose]
  · simp [hc', h]
  · intro more he _
    exact hr he

theorem multilineLiteral_text (hrun : hasLongRun '\'' 0 text = false)
    (ht : ∀ c ∈ text, c = '\n' ∨ isTextChar c = true) (hr : ∀ d ∈ rest.head?, d ≠ '\'') :
    multilineLiteral (text ++ (tripled '\'' ++ rest)) = some (text, rest) := by
  induction text with
  | nil =>
    rw [List.nil_append, multilineLiteral_close (closes?_eq_some_iff.mpr rfl),
      closingQuotes_of_ne hr]
  | cons c text ih =>
    rcases closes?_append (closes?_of_hasLongRun hrun) hr with ⟨hclose, -⟩ | ⟨hclose, hquotes, -⟩
    · have hrest := ih (hasLongRun_tail hrun) fun d hd => ht d (by simp [hd])
      exact multilineLiteral_cons hclose (ht c (by simp)) hrest
    · rw [multilineLiteral_close hclose, hquotes]

theorem multilineBasic_close {cs : List Char} (h : closes? '"' cs = some rest) :
    multilineBasic cs = some (closingQuotes '"' rest) := by
  unfold multilineBasic
  rw [h]

theorem multilineBasic_cons (hclose : closes? '"' (c :: rest) = none)
    (hc : c = '\n' ∨ isTextChar c = true) (hb : c ≠ '\\')
    (h : multilineBasic rest = some (text, tail)) :
    multilineBasic (c :: rest) = some (c :: text, tail) := by
  have hr := isTextChar_or_newline_ne hc
  have hc' : (c = '\n' || isTextChar c) = true := by simpa using hc
  rw [multilineBasic, hclose]
  · simp [hb, hc', h]
  · intro more he _
    exact hr he

theorem multilineBasic_escape (he : escape code = some (c, rest))
    (hl : lineContinuation? code = none) (h : multilineBasic rest = some (text, tail)) :
    multilineBasic ('\\' :: code) = some (c :: text, tail) := by
  rw [multilineBasic, closes?_cons_of_ne (by decide)]
  · simp only [if_true]
    split
    · simp_all
    · split <;> simp_all
  · intro more he _
    revert he
    decide

/-- A character other than a quote as it is written on several lines. -/
def lineChar (c : Char) : List Char := if c = '\n' then [c] else escaped c

theorem writeMultilineBasic_cons (hq : c ≠ '"') (run : Nat) (text : List Char) :
    writeMultilineBasic run (c :: text) = lineChar c ++ writeMultilineBasic 0 text := by
  rw [writeMultilineBasic, if_neg hq]
  rfl

theorem lineChar_cases (c : Char) :
    (lineChar c = [c] ∧ (c = '\n' ∨ isTextChar c = true) ∧ c ≠ '\\') ∨
      ∃ code, lineChar c = '\\' :: code ∧ Escapes code c := by
  rw [lineChar]
  by_cases hn : c = '\n'
  · rw [if_pos hn]
    exact Or.inl ⟨rfl, Or.inl hn, by simp [hn]⟩
  · rw [if_neg hn]
    rcases escaped_cases c with ⟨he, hc, hb⟩ | hcode
    · exact Or.inl ⟨he, Or.inr hc, hb⟩
    · exact Or.inr hcode

theorem lineChar_head (hq : c ≠ '"') : ∃ d ds, lineChar c = d :: ds ∧ d ≠ '"' := by
  rcases lineChar_cases c with ⟨he, -⟩ | ⟨code, he, -⟩
  · exact ⟨c, [], he, hq⟩
  · exact ⟨'\\', code, he, by decide⟩

/-- Only a quote is written as a quote, and only if not two of them stand before it. -/
theorem quote_of_writeMultilineBasic (h : writeMultilineBasic run text = '"' :: body) :
    run ≠ 2 ∧ ∃ more, body = writeMultilineBasic (run + 1) more := by
  cases text with
  | nil => cases h
  | cons c text =>
    by_cases hq : c = '"'
    · rw [writeMultilineBasic, if_pos hq] at h
      by_cases hrun : run = 2
      · rw [if_pos hrun] at h
        cases h
      · rw [if_neg hrun] at h
        exact ⟨hrun, text, (List.cons.inj h).2.symm⟩
    · obtain ⟨d, ds, hc, hd⟩ := lineChar_head hq
      rw [writeMultilineBasic_cons hq, hc] at h
      exact (hd (List.cons.inj h).1).elim

/-- What is written does not begin with three quotes. -/
theorem closes?_writeMultilineBasic (hrun : run ≤ 2) (text : List Char) :
    closes? '"' (writeMultilineBasic run text) = none := by
  cases hc : closes? '"' (writeMultilineBasic run text) with
  | none => rfl
  | some rest =>
    obtain ⟨h0, more, h⟩ := quote_of_writeMultilineBasic (closes?_eq_some_iff.mp hc)
    obtain ⟨h1, more, h⟩ := quote_of_writeMultilineBasic h.symm
    obtain ⟨h2, -⟩ := quote_of_writeMultilineBasic h.symm
    omega

theorem eq_of_writeMultilineBasic (h : ∀ d ∈ writeMultilineBasic run text, d = '"') :
    writeMultilineBasic run text = text := by
  induction text generalizing run with
  | nil => rfl
  | cons c text ih =>
    by_cases hq : c = '"'
    · rw [writeMultilineBasic, if_pos hq] at h ⊢
      by_cases hrun : run = 2
      · rw [if_pos hrun] at h
        have := h '\\' (by simp)
        simp at this
      · rw [if_neg hrun] at h ⊢
        rw [ih fun d hd => h d (by simp [hd]), hq]
    · obtain ⟨d, ds, hc, hd⟩ := lineChar_head hq
      rw [writeMultilineBasic_cons hq, hc] at h
      exact (hd (h d (by simp))).elim

theorem multilineBasic_writeMultilineBasic (hrun : run ≤ 2) (text : List Char)
    (hr : ∀ d ∈ rest.head?, d ≠ '"') :
    multilineBasic (writeMultilineBasic run text ++ (tripled '"' ++ rest)) = some (text, rest) := by
  induction text generalizing run with
  | nil =>
    rw [writeMultilineBasic, List.nil_append, multilineBasic_close (closes?_eq_some_iff.mpr rfl),
      closingQuotes_of_ne hr]
  | cons c text ih =>
    rcases closes?_append (closes?_writeMultilineBasic hrun (c :: text)) hr with
      ⟨hclose, -⟩ | ⟨hclose, hquotes, hall⟩
    · by_cases hq : c = '"'
      · rw [writeMultilineBasic, if_pos hq] at hclose ⊢
        by_cases hrun' : run = 2
        · rw [if_pos hrun', hq]
          exact multilineBasic_escape rfl (lineContinuation?_cons rfl (by decide) (by decide))
            (ih (by omega))
        · rw [if_neg hrun'] at hclose ⊢
          rw [hq]
          exact multilineBasic_cons hclose (Or.inr (by decide)) (by decide) (ih (by omega))
      · rw [writeMultilineBasic_cons hq, List.append_assoc] at hclose ⊢
        rcases lineChar_cases c with ⟨he, hc, hb⟩ | ⟨code, he, hcode⟩
        · rw [he] at hclose ⊢
          exact multilineBasic_cons hclose hc hb (ih (by omega))
        · rw [he]
          exact multilineBasic_escape (hcode _).1 (hcode _).2 (ih (by omega))
    · rw [multilineBasic_close hclose, hquotes, eq_of_writeMultilineBasic hall]

theorem dropNewline_of_ne (h : ∀ d ∈ rest.head?, d ≠ '\n' ∧ d ≠ '\r') :
    dropNewline rest = rest := by
  unfold dropNewline newline?
  split <;> simp_all

/-- The line end that is written in front of a text with line ends is taken off again. -/
theorem dropNewline_openingNewline (h : '\n' ∉ text → ∀ d ∈ rest.head?, d ≠ '\n' ∧ d ≠ '\r') :
    dropNewline (openingNewline text ++ rest) = rest := by
  by_cases hn : '\n' ∈ text
  · simp [openingNewline, hn, dropNewline, newline?]
  · simpa [openingNewline, hn] using dropNewline_of_ne (h hn)

theorem fits_styleFor (text : List Char) :
    (styleFor text = .literal → fitsLiteral text = true) ∧
      (styleFor text = .multilineLiteral → fitsMultilineLiteral text = true) := by
  unfold styleFor
  split_ifs <;> simp_all

theorem head_writeBasic (text : List Char) : ∀ d ∈ (writeBasic text).head?, d ≠ '"' := by
  cases text with
  | nil => simp [writeBasic]
  | cons c text =>
    by_cases hq : c = '"'
    · simp [writeBasic, hq]
    · rcases escaped_cases c with ⟨he, -⟩ | ⟨code, he, -⟩ <;> simp [writeBasic, hq, he]

theorem head_writeMultilineBasic (hn : '\n' ∉ text) (run : Nat) :
    ∀ d ∈ (writeMultilineBasic run text).head?, d ≠ '\n' ∧ d ≠ '\r' := by
  cases text with
  | nil => simp [writeMultilineBasic]
  | cons c text =>
    by_cases hq : c = '"'
    · rw [writeMultilineBasic, if_pos hq]
      split <;> simp
    · rw [writeMultilineBasic_cons hq]
      rcases lineChar_cases c with ⟨he, hc, -⟩ | ⟨code, he, -⟩
      · have hne : c ≠ '\n' := fun h => hn (by simp [h])
        simpa [he] using ⟨hne, isTextChar_or_newline_ne hc⟩
      · simp [he]

theorem stringValue_basic (text : List Char) (hr : ∀ d ∈ rest.head?, d ≠ '"') :
    stringValue ('"' :: (writeBasic text ++ '"' :: rest)) = some (text, rest) := by
  have hdouble := closes?_single (head_writeBasic text) hr
  have hsingle : closes? '\'' ('"' :: (writeBasic text ++ '"' :: rest)) = none :=
    closes?_cons_of_ne (by decide)
  simp only [stringValue, hdouble, hsingle, if_true, basicString_writeBasic]

theorem stringValue_literal (ht : ∀ c ∈ text, isTextChar c = true ∧ c ≠ '\'')
    (hr : ∀ d ∈ rest.head?, d ≠ '\'') :
    stringValue ('\'' :: (text ++ '\'' :: rest)) = some (text, rest) := by
  have hhead : ∀ d ∈ text.head?, d ≠ '\'' := fun d hd => (ht d (List.mem_of_mem_head? hd)).2
  have hsingle := closes?_single hhead hr
  have hdouble : closes? '"' ('\'' :: (text ++ '\'' :: rest)) = none :=
    closes?_cons_of_ne (by decide)
  simp [stringValue, hdouble, hsingle, literalString_text ht]

theorem stringValue_multilineBasic (text : List Char) (hr : ∀ d ∈ rest.head?, d ≠ '"') :
    stringValue (tripled '"' ++ (openingNewline text ++
      (writeMultilineBasic 0 text ++ (tripled '"' ++ rest)))) = some (text, rest) := by
  have hdrop : '\n' ∉ text → ∀ d ∈ (writeMultilineBasic 0 text ++ (tripled '"' ++ rest)).head?,
      d ≠ '\n' ∧ d ≠ '\r' := by
    intro hn d hd
    rw [List.head?_append, Option.mem_def, Option.or_eq_some_iff] at hd
    rcases hd with hd | ⟨-, hd⟩
    · exact head_writeMultilineBasic hn 0 d hd
    · obtain rfl : '"' = d := Option.some.inj hd
      decide
  unfold stringValue
  rw [closes?_eq_some_iff.mpr rfl]
  simp only [dropNewline_openingNewline hdrop]
  exact multilineBasic_writeMultilineBasic (by omega) text hr

theorem stringValue_multilineLiteral (hrun : hasLongRun '\'' 0 text = false)
    (ht : ∀ c ∈ text, c = '\n' ∨ isTextChar c = true) (hr : ∀ d ∈ rest.head?, d ≠ '\'') :
    stringValue (tripled '\'' ++ (openingNewline text ++ (text ++ (tripled '\'' ++ rest)))) =
      some (text, rest) := by
  have hdrop : '\n' ∉ text → ∀ d ∈ (text ++ (tripled '\'' ++ rest)).head?,
      d ≠ '\n' ∧ d ≠ '\r' := by
    intro hn d hd
    rw [List.head?_append, Option.mem_def, Option.or_eq_some_iff] at hd
    rcases hd with hd | ⟨-, hd⟩
    · have hm := List.mem_of_mem_head? hd
      exact ⟨fun he => hn (he ▸ hm), isTextChar_or_newline_ne (ht d hm)⟩
    · obtain rfl : '\'' = d := Option.some.inj hd
      decide
  have hdouble : ∀ cs, closes? '"' (tripled '\'' ++ cs) = none :=
    fun cs => closes?_cons_of_ne (by decide)
  unfold stringValue
  rw [hdouble, closes?_eq_some_iff.mpr rfl]
  simp only [dropNewline_openingNewline hdrop]
  exact multilineLiteral_text hrun ht hr

/-- Every string is read back from what is written for it, if no quote follows. -/
theorem stringValue_writeString (text : List Char)
    (hr : ∀ d ∈ rest.head?, d ≠ '"' ∧ d ≠ '\'') :
    stringValue (writeString text ++ rest) = some (text, rest) := by
  have hdouble : ∀ d ∈ rest.head?, d ≠ '"' := fun d hd => (hr d hd).1
  have hsingle : ∀ d ∈ rest.head?, d ≠ '\'' := fun d hd => (hr d hd).2
  obtain ⟨hliteral, hmultiline⟩ := fits_styleFor text
  rw [writeString]
  cases hs : styleFor text with
  | basic => simpa using stringValue_basic text hdouble
  | literal =>
    have ht : ∀ c ∈ text, isTextChar c = true ∧ c ≠ '\'' := by
      simpa [fitsLiteral] using hliteral hs
    simpa using stringValue_literal ht hsingle
  | multilineBasic => simpa using stringValue_multilineBasic text hdouble
  | multilineLiteral =>
    have hfits := hmultiline hs
    simp only [fitsMultilineLiteral, Bool.and_eq_true, List.all_eq_true, Bool.or_eq_true,
      decide_eq_true_eq, Bool.not_eq_true'] at hfits
    simpa using stringValue_multilineLiteral hfits.2 hfits.1 hsingle

end FacetQuery.Toml
