import FacetQuery.Text.Alphanumeric
import FacetQuery.Text.Characters

/-!
Patterns for the values of fields. A pattern is a regular expression, and the only question asked
of one is whether it is well formed: there are no spans of work with values to match.
-/
namespace FacetQuery.Pattern

/-- How deep groups, classes, repetitions, choices and sequences may be nested in each other. -/
def depthLimit : Nat := 250

/-- How deep parts next to each other are, given how deep each is. One part alone adds nothing. -/
def depthOfAll : List Nat → Nat
  | [] => 0
  | [depth] => depth
  | depths => depths.foldr max 0 + 1

/-- How a part of a pattern is read. -/
structure Mode where
  /-- Blanks and comments are no part of the pattern. -/
  spaced : Bool
  /-- Classes range over all characters; otherwise they must keep to ASCII. -/
  unicode : Bool
  deriving DecidableEq, Repr

/-- Passes over blanks and comments; `inComment` tells that the text begins within one. -/
def skipComments (inComment : Bool) : List Char → List Char
  | [] => []
  | c :: rest =>
    if inComment then skipComments (c != '\n') rest
    else if isBlank c then skipComments false rest
    else if c = '#' then skipComments true rest
    else c :: rest

def Mode.skip (m : Mode) (cs : List Char) : List Char :=
  if m.spaced then skipComments false cs else cs

/-- What a single item of a pattern stands for. -/
inductive Item where
  | literal (code : Nat)
  | set
  | position
  deriving DecidableEq, Repr

/-- A number of hexadecimal digits, which together are a code point. -/
def codePoint (m : Mode) (value : Nat) : Nat → List Char → Option (Nat × List Char)
  | 0, cs => if value.isValidChar then some (value, m.skip cs) else none
  | n + 1, cs =>
    match m.skip cs with
    | [] => none
    | c :: rest => (hexDigit? c).bind fun digit => codePoint m (16 * value + digit) n rest

/-- The letter of a general category of characters. -/
def category (m : Mode) (cs : List Char) : Option (Item × List Char) :=
  match m.skip cs with
  | [] => none
  | c :: rest =>
    if m.unicode && "CLMNPSZ".toList.contains c.toUpper then some (.set, m.skip rest) else none

/-- The characters that a letter behind a backslash stands for. -/
def namedCode? : Char → Option Nat
  | 'a' => some 0x07
  | 't' => some 0x09
  | 'n' => some 0x0A
  | 'v' => some 0x0B
  | 'f' => some 0x0C
  | 'r' => some 0x0D
  | _ => none

/-- What stands behind a backslash. Word boundaries are only known for ASCII. -/
def escape (m : Mode) (cs : List Char) : Option (Item × List Char) :=
  match cs with
  | [] => none
  | c :: rest =>
    if c = 'x' then
      (codePoint m 0 2 rest).bind fun (code, rest) =>
        if m.unicode || code < 0x80 then some (.literal code, rest) else none
    else if c = 'u' then (codePoint m 0 4 rest).map fun (code, rest) => (.literal code, rest)
    else if c = 'U' then (codePoint m 0 8 rest).map fun (code, rest) => (.literal code, rest)
    else if c = 'p' || c = 'P' then category m rest
    else if "dsw".toList.contains c then some (.set, rest)
    else if "DSW".toList.contains c then if m.unicode then some (.set, rest) else none
    else if "bB<>".toList.contains c then if m.unicode then none else some (.position, rest)
    else if "Az".toList.contains c then some (.position, rest)
    else if c.toNat < 0x80 && !c.isAlphanum then some (.literal c.toNat, rest)
    else (namedCode? c).map fun code => (.literal code, rest)

/-- The names of classes between brackets and colons. -/
def classNames : List String := [
  "alnum", "alpha", "ascii", "blank", "cntrl", "digit", "graph", "lower", "print", "punct",
  "space", "upper", "word", "xdigit"]

/-- A named class behind its bracket: whether it is negated, and the rest. -/
def namedClass (cs : List Char) : Option (Bool × List Char) :=
  match cs with
  | ':' :: rest =>
    let (negated, rest) := match rest with
      | '^' :: rest => (true, rest)
      | _ => (false, rest)
    let name := rest.takeWhile (· != ':')
    match rest.drop name.length with
    | ':' :: ']' :: rest =>
      if classNames.contains (String.ofList name) then some (negated, rest) else none
    | _ => none
  | _ => none

/-- The hyphens that a text begins with, of which nothing but blanks and comments keep apart: how
many there are, and the rest. -/
def leadingHyphens (m : Mode) (inComment : Bool) : List Char → Nat × List Char
  | [] => (0, [])
  | c :: rest =>
    if inComment then leadingHyphens m (c != '\n') rest
    else if m.spaced && isBlank c then leadingHyphens m false rest
    else if m.spaced && c = '#' then leadingHyphens m true rest
    else if c = '-' then
      let (count, rest) := leadingHyphens m false rest
      (count + 1, rest)
    else (0, c :: rest)

/-- The beginning of a class behind its bracket: a circumflex negates it, and hyphens or else a
closing bracket stand for themselves. Gives the number of those items, and the rest. -/
def openClass (m : Mode) (cs : List Char) : Option (Nat × List Char) :=
  let (negated, start) := match m.skip cs with
    | '^' :: rest => (true, m.skip rest)
    | rest => (false, rest)
  let (count, rest) := match start with
    | ']' :: rest => (1, m.skip rest)
    | _ => leadingHyphens m false start
  if rest.isEmpty || (negated && !m.unicode) then none else some (count, rest)

/-- An item of a class. -/
def classItem (m : Mode) (cs : List Char) : Option (Item × List Char) :=
  let found := match cs with
    | [] => none
    | '\\' :: rest => escape m rest
    | c :: rest => some (.literal c.toNat, rest)
  found.filter fun
    | (.literal code, _) => m.unicode || code < 0x80
    | (.set, _) => true
    | (.position, _) => false

/-- An item of a class, or a range between two of them. -/
def classRange (m : Mode) (cs : List Char) : Option (List Char) :=
  match classItem m cs with
  | none => none
  | some (first, rest) =>
    match m.skip rest with
    | '-' :: more =>
      match m.skip more with
      | [] => none
      | ']' :: _ => some ('-' :: more)
      | '-' :: _ => some ('-' :: more)
      | start =>
        match first, classItem m start with
        | .literal low, some (.literal high, rest) => if low ≤ high then some rest else none
        | _, _ => none
    | rest => some rest

/-- A class part way through: how deep all up to the last operator is, if there is one, and how deep
each item behind it is. -/
structure ClassState where
  left : Option Nat
  items : List Nat
  deriving DecidableEq, Repr

namespace ClassState

/-- A class that begins with a number of plain items. -/
def start (count : Nat) : ClassState := ⟨none, List.replicate count 0⟩

def add (s : ClassState) (depth : Nat) : ClassState := { s with items := depth :: s.items }

/-- How deep the contents of the class are. Operators group to the left. -/
def depth (s : ClassState) : Nat :=
  match s.left with
  | none => depthOfAll s.items
  | some left => max left (depthOfAll s.items) + 1

/-- Behind an operator. -/
def operate (s : ClassState) : ClassState := ⟨some s.depth, []⟩

end ClassState

/-- One step through a class: its state and those of the classes around it, or how deep the
outermost one is if it is closed. -/
def classStep (m : Mode) (s : ClassState) (outer : List ClassState) (cs : List Char) :
    Option ((Nat ⊕ ClassState × List ClassState) × List Char) :=
  match m.skip cs with
  | '[' :: rest =>
    match namedClass rest with
    | some (negated, rest) =>
      if negated && !m.unicode then none else some (.inr (s.add 0, outer), rest)
    | none => (openClass m rest).map fun (count, rest) => (.inr (.start count, s :: outer), rest)
  | ']' :: rest =>
    match outer with
    | [] => some (.inl (s.depth + 1), rest)
    | around :: outer => some (.inr (around.add (s.depth + 1), outer), rest)
  | '&' :: '&' :: rest => some (.inr (s.operate, outer), rest)
  | '-' :: '-' :: rest => some (.inr (s.operate, outer), rest)
  | '~' :: '~' :: rest => some (.inr (s.operate, outer), rest)
  | start => (classRange m start).map (.inr (s.add 0, outer), ·)

/-- How deep a class is, of which the beginning has been read, and the text behind it. -/
def classRest (m : Mode) (s : ClassState) (outer : List ClassState) (cs : List Char) :
    Option (Nat × List Char) :=
  match classStep m s outer cs with
  | none => none
  | some (.inl depth, rest) => some (depth, rest)
  | some (.inr (s, outer), rest) =>
    if rest.length < cs.length then classRest m s outer rest else none
termination_by cs.length

/-- A class behind its bracket. -/
def bracketClass (m : Mode) (cs : List Char) : Option (Nat × List Char) :=
  (openClass m cs).bind fun (count, rest) => classRest m (.start count) [] rest

/-- Flags are single letters, each given once, and those behind a hyphen are switched off. -/
def areFlags (items : List Char) : Bool :=
  items.all (fun c => "imsUuRx-".toList.contains c) && decide items.Nodup &&
    items.getLast? != some '-'

/-- The state of a flag behind a list of flags. -/
def switched (items : List Char) (flag : Char) (before : Bool) : Bool :=
  if (items.takeWhile (· != '-')).contains flag then true
  else if items.contains flag then false
  else before

def Mode.switch (m : Mode) (items : List Char) : Mode :=
  ⟨switched items 'x' m.spaced, switched items 'u' m.unicode⟩

/-- A character of the name of a group. -/
def isNameChar (c : Char) : Bool := "_.[]".toList.contains c || isAlphanumeric c

def isName (name : List Char) : Bool :=
  match name with
  | [] => false
  | c :: rest => (c = '_' || isAlphabetic c) && rest.all isNameChar

/-- A group part way through, or the whole pattern. -/
structure OpenGroup where
  mode : Mode
  /-- How deep each of the choices before this one is. -/
  choices : List Nat
  /-- How deep each item of this choice is, the last one first. -/
  items : List Nat
  deriving DecidableEq, Repr

namespace OpenGroup

def start (mode : Mode) : OpenGroup := ⟨mode, [], []⟩

def add (g : OpenGroup) (depth : Nat) : OpenGroup := { g with items := depth :: g.items }

/-- The last item repeated. -/
def repeatLast (g : OpenGroup) : OpenGroup :=
  match g.items with
  | [] => g
  | depth :: items => { g with items := (depth + 1) :: items }

/-- The beginning of another choice. -/
def choose (g : OpenGroup) : OpenGroup := ⟨g.mode, depthOfAll g.items :: g.choices, []⟩

def depth (g : OpenGroup) : Nat := depthOfAll (depthOfAll g.items :: g.choices)

end OpenGroup

/-- A pattern part way through. -/
structure State where
  /-- The innermost group that is open. -/
  inner : OpenGroup
  /-- The groups around it. -/
  outer : List OpenGroup
  /-- The names of the groups so far. -/
  names : List (List Char)
  /-- There is something before this place that can be repeated. -/
  repeatable : Bool
  deriving DecidableEq, Repr

namespace State

def start : State := ⟨.start ⟨false, true⟩, [], [], false⟩

/-- Behind an item. -/
def add (s : State) (depth : Nat) : State :=
  { s with inner := s.inner.add depth, repeatable := true }

/-- Behind the beginning of a group, the inside of which is read in a mode of its own. -/
def enter (s : State) (mode : Mode) : State :=
  { s with inner := .start mode, outer := s.inner :: s.outer, repeatable := false }

/-- Behind the end of a group. -/
def leave (s : State) : Option State :=
  match s.outer with
  | [] => none
  | around :: outer => some (State.add { s with inner := around, outer } (s.inner.depth + 1))

/-- Behind flags for what follows, which are an item that cannot be repeated. -/
def switch (s : State) (items : List Char) : State :=
  { s with
    inner := { s.inner.add 0 with mode := s.inner.mode.switch items }
    repeatable := false }

/-- A group with a name, behind the bracket that opens the name. -/
def namedGroup (s : State) (cs : List Char) : Option (State × List Char) :=
  let name := cs.takeWhile (· != '>')
  match cs.drop name.length with
  | [] => none
  | _ :: rest =>
    if isName name && !s.names.contains name then
      some ({ s.enter s.inner.mode with names := name :: s.names }, rest)
    else none

/-- Flags, behind the question mark before them, for a group or for what follows. -/
def flagGroup (s : State) (cs : List Char) : Option (State × List Char) :=
  let items := cs.takeWhile fun c => c != ':' && c != ')'
  if !areFlags items then none
  else
    match cs.drop items.length with
    | ':' :: rest => some (s.enter (s.inner.mode.switch items), rest)
    | ')' :: rest => if items.isEmpty then none else some (s.switch items, rest)
    | _ => none

/-- A group behind its bracket. There is no looking ahead or behind. -/
def group (s : State) (cs : List Char) : Option (State × List Char) :=
  match s.inner.mode.skip cs with
  | '?' :: '<' :: '=' :: _ => none
  | '?' :: '<' :: '!' :: _ => none
  | '?' :: '<' :: rest => s.namedGroup rest
  | '?' :: 'P' :: '<' :: rest => s.namedGroup rest
  | '?' :: rest => s.flagGroup rest
  | rest => some (s.enter s.inner.mode, rest)

/-- A repetition. A question mark right behind its sign is part of it. -/
def repetition (s : State) (rest : List Char) : Option (State × List Char) :=
  if !s.repeatable then none
  else
    let s := { s with inner := s.inner.repeatLast }
    match rest with
    | '?' :: rest => some (s, rest)
    | _ => some (s, rest)

/-- One step through a pattern. A count in braces has no place in one. -/
def step (s : State) (cs : List Char) : Option (State × List Char) :=
  match cs with
  | [] => none
  | '(' :: rest => s.group rest
  | ')' :: rest => s.leave.map (·, rest)
  | '|' :: rest => some ({ s with inner := s.inner.choose, repeatable := false }, rest)
  | '[' :: rest => (bracketClass s.inner.mode rest).map fun (depth, rest) => (s.add depth, rest)
  | '\\' :: rest => (escape s.inner.mode rest).map fun (_, rest) => (s.add 0, rest)
  | c :: rest =>
    if c = '\x7b' then none
    else if "?*+".toList.contains c then s.repetition rest
    else if c = '.' && !s.inner.mode.unicode then none
    else some (s.add 0, rest)

/-- The rest of a pattern is well formed. -/
def accepts (s : State) (cs : List Char) : Bool :=
  match s.inner.mode.skip cs with
  | [] => s.outer.isEmpty && s.inner.depth ≤ depthLimit
  | c :: more =>
    match s.step (c :: more) with
    | none => false
    | some (next, rest) => if rest.length < cs.length then next.accepts rest else false
termination_by cs.length

end State

/-- A well-formed pattern. -/
def isWellFormed (text : List Char) : Bool := State.start.accepts text

/-- Digits with a point among them or next to them, and perhaps an exponent. -/
def isDecimal (text : List Char) : Bool :=
  let whole := text.takeWhile Char.isDigit
  let (point, rest) := match text.drop whole.length with
    | '.' :: rest => (true, rest)
    | rest => (false, rest)
  let places := if point then rest.takeWhile Char.isDigit else []
  let mantissa := !(whole.isEmpty && places.isEmpty)
  mantissa &&
    match rest.drop places.length with
    | [] => true
    | e :: exponent =>
      let digits := match exponent with
        | '+' :: digits => digits
        | '-' :: digits => digits
        | digits => digits
      (e = 'e' || e = 'E') && !digits.isEmpty && digits.all Char.isDigit

/-- A number with a plus sign, which would make no pattern. Numbers without one are patterns. -/
def isPlusNumber : List Char → Bool
  | '+' :: rest =>
    isDecimal rest || ["inf", "infinity", "nan"].contains (String.ofList (rest.map Char.toLower))
  | _ => false

end FacetQuery.Pattern
