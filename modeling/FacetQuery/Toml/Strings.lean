import FacetQuery.Text.Characters
import FacetQuery.Toml.Lexical

/-!
Reading strings. A string is basic, with escapes, or literal, without them, and each of the two
stands on one line or on several.
-/
namespace FacetQuery.Toml

/-- The number written by hexadecimal digits. -/
def hexNumber? (digits : List Char) : Option Nat :=
  digits.foldlM (fun n c => (hexDigit? c).map (16 * n + ·)) 0

/-- The character of a code point, which surrogates do not have. -/
def charOfCode? (code : Nat) : Option Char :=
  if code.isValidChar then some (Char.ofNat code) else none

/-- An escape by a fixed number of hexadecimal digits. -/
def codeEscape (count : Nat) : Reader Char := fun cs =>
  if count ≤ cs.length then
    ((hexNumber? (cs.take count)).bind charOfCode?).map (·, cs.drop count)
  else none

/-- The character that a letter stands for behind a backslash. -/
def letterEscape? : Char → Option Char
  | 'b' => some '\x08'
  | 't' => some '\t'
  | 'n' => some '\n'
  | 'f' => some '\x0c'
  | 'r' => some '\r'
  | 'e' => some '\x1b'
  | '"' => some '"'
  | '\\' => some '\\'
  | _ => none

/-- The number of hexadecimal digits that a letter calls for behind a backslash. -/
def codeDigits? : Char → Option Nat
  | 'x' => some 2
  | 'u' => some 4
  | 'U' => some 8
  | _ => none

/-- An escape whose backslash has been read. -/
def escape : Reader Char
  | [] => none
  | c :: rest =>
    match letterEscape? c with
    | some e => some (e, rest)
    | none =>
      match codeDigits? c with
      | some count => codeEscape count rest
      | none => none

theorem codeEscape_length {count : Nat} {cs rest : List Char} {c : Char}
    (h : codeEscape count cs = some (c, rest)) : rest.length ≤ cs.length := by
  unfold codeEscape at h
  split at h
  · simp only [Option.map_eq_some_iff, Prod.mk.injEq] at h
    obtain ⟨_, _, _, rfl⟩ := h
    simp
  · simp at h

theorem escape_length {cs rest : List Char} {c : Char} (h : escape cs = some (c, rest)) :
    rest.length < cs.length := by
  cases cs with
  | nil => cases h
  | cons d ds =>
    apply Nat.lt_succ_of_le
    simp only [escape] at h
    split at h
    · cases h
      exact Nat.le_refl _
    · split at h
      · exact codeEscape_length h
      · cases h

/-- The rest of a basic string on one line. -/
def basicString (cs : List Char) : Option (List Char × List Char) :=
  match cs with
  | [] => none
  | c :: rest =>
    if c = '"' then some ([], rest)
    else if c = '\\' then
      match _h : escape rest with
      | none => none
      | some (e, after) => (basicString after).map fun (text, end') => (e :: text, end')
    else if isTextChar c then (basicString rest).map fun (text, end') => (c :: text, end')
    else none
termination_by cs.length
decreasing_by
  · have := escape_length _h
    simp only [List.length_cons]
    omega
  · simp

/-- The rest of a literal string on one line. -/
def literalString : Reader (List Char)
  | [] => none
  | c :: rest =>
    if c = '\'' then some ([], rest)
    else if isTextChar c then (literalString rest).map fun (text, end') => (c :: text, end')
    else none

/-- Up to two quotes right behind the closing three belong to the string. -/
def closingQuotes (quote : Char) : List Char → List Char × List Char
  | [] => ([], [])
  | [c] => if c = quote then ([c], []) else ([], [c])
  | c :: d :: rest =>
    if c ≠ quote then ([], c :: d :: rest)
    else if d ≠ quote then ([c], d :: rest)
    else ([c, d], rest)

/-- The text behind the closing three quotes that a text begins with. -/
def closes? (quote : Char) : List Char → Option (List Char)
  | a :: b :: c :: rest => if a = quote ∧ b = quote ∧ c = quote then some rest else none
  | _ => none

/-- A backslash at the end of a line takes the blanks and line ends up to the next character. -/
def lineContinuation? (cs : List Char) : Option (List Char) :=
  (newline? (skipSpaces cs)).map skipBlankLines

theorem newline?_length {cs rest : List Char} (h : newline? cs = some rest) :
    rest.length < cs.length := by
  unfold newline? at h
  split at h
  · cases h
    simp
  · cases h
    simp only [List.length_cons]
    omega
  · cases h

theorem skipFillerFrom_length (comments inComment : Bool) (cs : List Char) :
    (skipFillerFrom comments inComment cs).length ≤ cs.length := by
  fun_induction skipFillerFrom comments inComment cs <;> simp_all <;> omega

theorem lineContinuation?_length {cs rest : List Char} (h : lineContinuation? cs = some rest) :
    rest.length < cs.length := by
  obtain ⟨line, hline, rfl⟩ := Option.map_eq_some_iff.1 h
  have h1 := newline?_length hline
  have h2 := skipFillerFrom_length false false line
  have h3 : (skipSpaces cs).length ≤ cs.length := (cs.dropWhile_suffix isSpace).length_le
  exact Nat.lt_of_le_of_lt h2 (Nat.lt_of_lt_of_le h1 h3)

/-- The rest of a basic string on several lines. -/
def multilineBasic (cs : List Char) : Option (List Char × List Char) :=
  match closes? '"' cs with
  | some rest => some (closingQuotes '"' rest)
  | none =>
    match cs with
    | [] => none
    | '\r' :: '\n' :: rest =>
      (multilineBasic rest).map fun (text, end') => ('\r' :: '\n' :: text, end')
    | c :: rest =>
      if c = '\\' then
        match _hl : lineContinuation? rest with
        | some after => multilineBasic after
        | none =>
          match _h : escape rest with
          | none => none
          | some (e, after) => (multilineBasic after).map fun (text, end') => (e :: text, end')
      else if c = '\n' || isTextChar c then
        (multilineBasic rest).map fun (text, end') => (c :: text, end')
      else none
termination_by cs.length
decreasing_by
  · simp only [List.length_cons]
    omega
  · have := lineContinuation?_length _hl
    simp only [List.length_cons]
    omega
  · have := escape_length _h
    simp only [List.length_cons]
    omega
  · simp

/-- The rest of a literal string on several lines. -/
def multilineLiteral (cs : List Char) : Option (List Char × List Char) :=
  match closes? '\'' cs with
  | some rest => some (closingQuotes '\'' rest)
  | none =>
    match cs with
    | [] => none
    | '\r' :: '\n' :: rest =>
      (multilineLiteral rest).map fun (text, end') => ('\r' :: '\n' :: text, end')
    | c :: rest =>
      if c = '\n' || isTextChar c then
        (multilineLiteral rest).map fun (text, end') => (c :: text, end')
      else none

/-- A line end right behind the opening quotes of a string on several lines is dropped. -/
def dropNewline (cs : List Char) : List Char := (newline? cs).getD cs

/-- A string of any of the four kinds. -/
def stringValue (cs : List Char) : Option (List Char × List Char) :=
  match closes? '"' cs, closes? '\'' cs, cs with
  | some rest, _, _ => multilineBasic (dropNewline rest)
  | none, some rest, _ => multilineLiteral (dropNewline rest)
  | none, none, c :: rest =>
    if c = '"' then basicString rest else if c = '\'' then literalString rest else none
  | none, none, [] => none

end FacetQuery.Toml
