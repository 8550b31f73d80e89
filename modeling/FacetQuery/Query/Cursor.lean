import FacetQuery.Query.Scanner

/-!
The scanner on byte positions. A cursor walks over a query by positions in its UTF-8 form and cuts
all that it reads out of the query there. A cut inside a character, outside of the text or at
positions in the wrong order is an error. A cursor is asked for one token at a time.
-/
namespace FacetQuery

/-- The byte offset of the first character of a kind. -/
def offsetOf? (p : Char → Bool) : List Char → Option Nat
  | [] => none
  | c :: cs => if p c then some 0 else (offsetOf? p cs).map (c.utf8Size + ·)

theorem bind_eq_ok {ε α β : Type} {x : Except ε α} {f : α → Except ε β} {b : β} :
    x >>= f = .ok b ↔ ∃ a, x = .ok a ∧ f a = .ok b := by
  cases x <;> simp [bind, Except.bind]

section Cuts

variable (cs : List Char)

/-- The parts of a text before and behind a byte position. -/
def cutAt (position : Nat) : Except OffBoundary (List Char × List Char) :=
  match splitAtByte? position cs with
  | none => .error ⟨position⟩
  | some parts => .ok parts

def textBefore (position : Nat) : Except OffBoundary (List Char) :=
  (cutAt cs position).map Prod.fst

def textFrom (position : Nat) : Except OffBoundary (List Char) :=
  (cutAt cs position).map Prod.snd

/-- The text from one byte position to another. -/
def textBetween (start stop : Nat) : Except OffBoundary (List Char) := do
  let text ← textBefore cs stop
  textFrom text start

def charAt (position : Nat) : Except OffBoundary (Option Char) :=
  (textFrom cs position).map List.head?

/-- The byte position behind the character at one, if there is a character. -/
def behindChar (position : Nat) : Except OffBoundary Nat := do
  match ← charAt cs position with
  | none => return position
  | some c => return position + c.utf8Size

/-- Whether a word may begin at a byte position. -/
def opensWordAt (position : Nat) : Except OffBoundary Bool := do
  let text ← textBefore cs position
  return opensWord text.getLast?

/-- The byte position where the word that begins at one ends. -/
def wordEnd (start : Nat) : Except OffBoundary Nat := do
  let text ← textFrom cs start
  match offsetOf? isSeparator text with
  | none => return byteLength cs
  | some offset => return start + offset

/-- The key that begins at a byte position as a whole word. -/
def keyAt? (v : Vocabulary) (position : Nat) : Except OffBoundary (Option String) := do
  if byteLength cs ≤ position then return none
  else if ← opensWordAt cs position then
    let stop ← wordEnd cs position
    let word ← textBetween cs position stop
    return if !word.isEmpty && v.isKey (String.ofList word) then some (String.ofList word) else none
  else return none

/-- Whether a hyphen stands at a byte position and a key right behind it. -/
def isOperatorAt (v : Vocabulary) (position : Nat) : Except OffBoundary Bool := do
  let text ← textFrom cs position
  if text.head? = some '-' then
    let key ← keyAt? cs v (position + '-'.utf8Size)
    return key.isSome
  else return false

/-- The phrase whose opening quote stands at a byte position, with the position behind it. -/
def phraseAt (quote : Char) (start : Nat) :
    Except OffBoundary (Except Fault (List Char × Nat)) := do
  let contentStart := start + quote.utf8Size
  let text ← textFrom cs contentStart
  match offsetOf? (· == quote) text with
  | none => return .error (.unterminatedPhrase quote)
  | some length =>
    let contentEnd := contentStart + length
    let content ← textBetween cs contentStart contentEnd
    return .ok (content, contentEnd + quote.utf8Size)

/-- The word at a byte position, if one begins there, with the position behind it. -/
def wordAt? (start : Nat) : Except OffBoundary (Option (List Char × Nat)) := do
  if ← opensWordAt cs start then
    let stop ← wordEnd cs start
    if stop = start then return none
    else
      let word ← textBetween cs start stop
      return some (word, stop)
  else return none

/-- The phrase or the word at a byte position, if one begins there. -/
def termAt? (start : Nat) : Except OffBoundary (Option (Except Fault (List Char × Nat))) := do
  let c ← charAt cs start
  match c.filter isQuote with
  | some quote => return some (← phraseAt cs quote start)
  | none => return (← wordAt? cs start).map Except.ok

variable {cs} {before after : List Char} {position : Nat} {c : Char}

/-- A cut is made at the byte lengths of beginnings and nowhere else. -/
theorem cutAt_eq_ok : cutAt cs position = .ok (before, after) ↔
    cs = before ++ after ∧ position = byteLength before := by
  rw [← splitAtByte?_eq_some, cutAt]
  split <;> simp_all

example : cutAt ['é', 'a'] 1 = .error ⟨1⟩ := rfl

/-- A character stands between two parts of the text. -/
theorem exists_append_of_charAt (h : charAt cs position = .ok (some c)) :
    ∃ before rest, cs = before ++ c :: rest ∧ position = byteLength before := by
  unfold charAt textFrom at h
  cases hcut : cutAt cs position with
  | error e => simp [hcut, Except.map] at h
  | ok parts =>
    obtain ⟨before, after⟩ := parts
    obtain ⟨rfl, rfl⟩ := cutAt_eq_ok.mp hcut
    simp only [hcut, Except.map, Except.ok.injEq] at h
    obtain ⟨rest, rfl⟩ := List.head?_eq_some_iff.mp h
    exact ⟨before, rest, rfl, rfl⟩

theorem lt_of_charAt (h : charAt cs position = .ok (some c)) : position < byteLength cs := by
  obtain ⟨before, rest, rfl, rfl⟩ := exists_append_of_charAt h
  have hc := c.utf8Size_pos
  simp only [byteLength_append, byteLength_cons]
  omega

variable (cs) in
/-- The byte position behind the characters from one on that are to be passed over. -/
def passWhile (passes : Nat → Char → Except OffBoundary Bool) (position : Nat) :
    Except OffBoundary Nat :=
  match _h : charAt cs position with
  | .error e => .error e
  | .ok none => .ok position
  | .ok (some c) =>
    match passes position c with
    | .error e => .error e
    | .ok false => .ok position
    | .ok true => passWhile passes (position + c.utf8Size)
termination_by byteLength cs - position
decreasing_by
  have hlt := lt_of_charAt _h
  have hc := c.utf8Size_pos
  omega

variable {passes : Nat → Char → Except OffBoundary Bool} {stop : Nat}

theorem lt_of_behindChar (hchar : charAt cs position = .ok (some c))
    (h : behindChar cs position = .ok stop) : position < stop := by
  have hc := c.utf8Size_pos
  obtain rfl : position + c.utf8Size = stop := by
    simpa [behindChar, hchar, bind, Except.bind, pure, Except.pure] using h
  omega

theorem passWhile_end (hchar : charAt cs position = .ok none) :
    passWhile cs passes position = .ok position := by
  rw [passWhile]
  split <;> simp_all

theorem passWhile_stop (hchar : charAt cs position = .ok (some c))
    (hpass : passes position c = .ok false) : passWhile cs passes position = .ok position := by
  rw [passWhile]
  split <;> simp_all

theorem passWhile_go (hchar : charAt cs position = .ok (some c))
    (hpass : passes position c = .ok true) :
    passWhile cs passes position = passWhile cs passes (position + c.utf8Size) := by
  rw [passWhile]
  split <;> simp_all

theorem le_of_passWhile (h : passWhile cs passes position = .ok stop) : position ≤ stop := by
  fun_induction passWhile cs passes position with
  | case1 => cases h
  | case2 => exact Nat.le_of_eq (Except.ok.inj h)
  | case3 => cases h
  | case4 => exact Nat.le_of_eq (Except.ok.inj h)
  | case5 position c _ _ ih =>
    have hle := ih h
    omega

variable (cs) in
def passBlanks (position : Nat) : Except OffBoundary Nat :=
  passWhile cs (fun _ c => .ok (isBlank c)) position

theorem lt_of_passBlanks (hchar : charAt cs position = .ok (some c)) (hblank : isBlank c = true)
    (h : passBlanks cs position = .ok stop) : position < stop := by
  have hc := c.utf8Size_pos
  rw [passBlanks, passWhile_go hchar (by rw [hblank])] at h
  have hle := le_of_passWhile h
  omega

variable (cs) in
/-- Passes over a separator and the ones behind it. Blanks are left, and so are quotes, which must
open a phrase, and a hyphen that is an operator. -/
def passPunctuation (v : Vocabulary) (position : Nat) : Except OffBoundary Nat := do
  passWhile cs
    (fun place c => do
      if isBlank c || isQuote c || !isSeparator c then return false
      else return !(← isOperatorAt cs v place))
    (← behindChar cs position)

theorem lt_of_passPunctuation {v : Vocabulary} (hchar : charAt cs position = .ok (some c))
    (h : passPunctuation cs v position = .ok stop) : position < stop := by
  obtain ⟨behind, hbehind, h⟩ := bind_eq_ok.mp h
  exact Nat.lt_of_lt_of_le (lt_of_behindChar hchar hbehind) (le_of_passWhile h)

end Cuts

/-- A byte position in a query, what the cursor looks for there, and whether it is done. -/
structure Cursor where
  position : Nat
  mode : Mode
  finished : Bool
  deriving DecidableEq, Repr

/-- What one step of a cursor comes to. -/
inductive CursorStep where
  | stop
  | fail (position : Nat) (fault : Fault)
  | skip (next : Cursor)
  | emit (token : Token) (next : Cursor)
  deriving DecidableEq, Repr

/-- The cursor that a step goes on with. -/
def CursorStep.next? : CursorStep → Option Cursor
  | stop | fail _ _ => none
  | skip next | emit _ next => some next

namespace Cursor

def start : Cursor := ⟨0, .scanning, false⟩

/-- A token that ends at a byte position, and the cursor there. -/
def emit (c : Cursor) (kind : TokenKind) (text : String) (stop : Nat) (mode : Mode) : CursorStep :=
  .emit ⟨kind, text, ⟨c.position, stop⟩⟩ { c with position := stop, mode }

/-- A phrase or a word as a token, behind which the next item is looked for. -/
def readTerm (c : Cursor) (kind : TokenKind) : Except Fault (List Char × Nat) → CursorStep
  | .error fault => .fail c.position fault
  | .ok (text, stop) => c.emit kind (String.ofList text) stop .scanning

section Steps

variable (v : Vocabulary) (cs : List Char) (c : Cursor)

/-- A step between items, with the rules of the scanner in their order. Separators are passed over
together as far as they belong together. -/
def scan : Except OffBoundary CursorStep := do
  match ← charAt cs c.position with
  | none => return .stop
  | some ch =>
    if isBlank ch then return .skip { c with position := ← passBlanks cs c.position }
    else if ← isOperatorAt cs v c.position then
      return c.emit .operator "-" (c.position + '-'.utf8Size) .scanning
    else
      match ← keyAt? cs v c.position with
      | some key => return c.emit .key key (c.position + byteLength key.toList) (.pairing key)
      | none =>
        match ← termAt? cs c.position with
        | some term => return c.readTerm .fulltext term
        | none =>
          if isSeparator ch then
            return .skip { c with position := ← passPunctuation cs v c.position }
          else return .fail c.position (.unexpectedInput ch)

/-- A step behind a key. -/
def pair (key : String) : Except OffBoundary CursorStep := do
  match ← charAt cs c.position with
  | none => return .fail c.position (.expectedValue key)
  | some ch =>
    if ch = ':' then return .skip { c with position := ← behindChar cs c.position }
    else
      match ← termAt? cs c.position with
      | some term => return c.readTerm .value term
      | none => return .fail c.position (.expectedValue key)

def step : Except OffBoundary CursorStep :=
  match c.mode with
  | .scanning => c.scan v cs
  | .pairing key => c.pair cs key

end Steps

variable {v : Vocabulary} {cs : List Char} {c n : Cursor}

theorem readTerm_ne_skip {kind : TokenKind} (term : Except Fault (List Char × Nat)) :
    c.readTerm kind term ≠ .skip n := by
  cases term <;> simp [readTerm, emit]

theorem lt_of_scan (h : c.scan v cs = .ok (.skip n)) :
    c.position < byteLength cs ∧ c.position < n.position := by
  obtain ⟨ch?, hchar, h⟩ := bind_eq_ok.mp h
  cases ch? with
  | none => cases h
  | some ch =>
    refine ⟨lt_of_charAt hchar, ?_⟩
    dsimp only at h
    split at h
    · rename_i hblank
      obtain ⟨stop, hstop, h⟩ := bind_eq_ok.mp h
      obtain rfl := CursorStep.skip.inj (Except.ok.inj h)
      exact lt_of_passBlanks hchar hblank hstop
    · obtain ⟨operator, -, h⟩ := bind_eq_ok.mp h
      split at h
      · cases h
      · obtain ⟨key?, -, h⟩ := bind_eq_ok.mp h
        cases key? with
        | some key => cases h
        | none =>
          obtain ⟨term?, -, h⟩ := bind_eq_ok.mp h
          cases term? with
          | some term => exact (readTerm_ne_skip term (Except.ok.inj h)).elim
          | none =>
            dsimp only at h
            split at h
            · obtain ⟨stop, hstop, h⟩ := bind_eq_ok.mp h
              obtain rfl := CursorStep.skip.inj (Except.ok.inj h)
              exact lt_of_passPunctuation hchar hstop
            · cases h

theorem lt_of_pair {key : String} (h : c.pair cs key = .ok (.skip n)) :
    c.position < byteLength cs ∧ c.position < n.position := by
  obtain ⟨ch?, hchar, h⟩ := bind_eq_ok.mp h
  cases ch? with
  | none => cases h
  | some ch =>
    refine ⟨lt_of_charAt hchar, ?_⟩
    dsimp only at h
    split at h
    · obtain ⟨stop, hstop, h⟩ := bind_eq_ok.mp h
      obtain rfl := CursorStep.skip.inj (Except.ok.inj h)
      exact lt_of_behindChar hchar hstop
    · obtain ⟨term?, -, h⟩ := bind_eq_ok.mp h
      cases term? with
      | none => cases h
      | some term => exact (readTerm_ne_skip term (Except.ok.inj h)).elim

/-- What is passed over is not empty. -/
theorem lt_of_skip (h : c.step v cs = .ok (.skip n)) :
    c.position < byteLength cs ∧ c.position < n.position := by
  unfold step at h
  split at h
  · exact lt_of_scan h
  · exact lt_of_pair h

/-- Once finished, a cursor stays where it is. -/
def finish (c : Cursor) : Cursor := { c with finished := true }

/-- The next token of a query, the error that ends it, or nothing. After the end and after an error
there is nothing any more. -/
def next (v : Vocabulary) (query : String) (c : Cursor) :
    Except OffBoundary (Option (Except QueryError Token) × Cursor) :=
  if c.finished then .ok (none, c)
  else
    match _h : c.step v query.toList with
    | .error e => .error e
    | .ok .stop => .ok (none, c.finish)
    | .ok (.fail position fault) =>
      .ok (some (.error ⟨fault, some position, some query⟩), c.finish)
    | .ok (.skip n) => next v query n
    | .ok (.emit t n) => .ok (some (.ok t), n)
termination_by byteLength query.toList - c.position
decreasing_by
  have hlt := lt_of_skip _h
  omega

/-- What a cursor answers when it is asked for a token some times in a row, and where it is then. -/
def calls (v : Vocabulary) (query : String) (c : Cursor) :
    Nat → Except OffBoundary (List (Option (Except QueryError Token)) × Cursor)
  | 0 => .ok ([], c)
  | n + 1 => do
    let (answer, c) ← c.next v query
    let (answers, c) ← c.calls v query n
    return (answer :: answers, c)

variable {query : String} {position : Nat} {fault : Fault} {t : Token}

theorem next_finished (h : c.finished = true) : c.next v query = .ok (none, c) := by
  rw [next, if_pos h]

theorem next_stop (h : c.finished = false) (hstep : c.step v query.toList = .ok .stop) :
    c.next v query = .ok (none, c.finish) := by
  rw [next, if_neg (by simp [h])]
  split <;> simp_all

theorem next_fail (h : c.finished = false)
    (hstep : c.step v query.toList = .ok (.fail position fault)) :
    c.next v query = .ok (some (.error ⟨fault, some position, some query⟩), c.finish) := by
  rw [next, if_neg (by simp [h])]
  split <;> simp_all

theorem next_skip (h : c.finished = false) (hstep : c.step v query.toList = .ok (.skip n)) :
    c.next v query = n.next v query := by
  rw [next, if_neg (by simp [h])]
  split <;> simp_all

theorem next_emit (h : c.finished = false) (hstep : c.step v query.toList = .ok (.emit t n)) :
    c.next v query = .ok (some (.ok t), n) := by
  rw [next, if_neg (by simp [h])]
  split <;> simp_all

end Cursor

end FacetQuery
