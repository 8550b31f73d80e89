import FacetQuery.Log.Event
import FacetQuery.Log.Pattern
import FacetQuery.Text.Pieces

/-!
Filters for log events. A filter is a list of directives, each of which sets a level for the events
whose target begins with a given text and that have a given field; the most specific one decides.
-/
namespace FacetQuery

/-- A level for targets that begin with `target`, where none stands for all, and for events that
have `field`, if there is one. A directive for a span of work applies to no event, since there are
no spans. -/
structure Directive where
  target : Option (List Char)
  field : Option String
  inSpan : Bool
  level : Level
  deriving DecidableEq, Repr

abbrev Filter := List Directive

namespace Level

def ofRank? (n : Nat) : Option Level := all.find? fun l => l.rank = n

/-- A number, perhaps with a plus sign. -/
def readRank (text : List Char) : Option Nat :=
  let digits := match text with
    | '+' :: rest => rest
    | _ => text
  if digits.isEmpty || !digits.all Char.isDigit then none
  else some (decimalNumber digits)

/-- A level by its name, in any case, or by its rank. -/
def read (text : List Char) : Option Level :=
  match readRank text with
  | some n => ofRank? n
  | none => all.find? fun l => l.name.toList = text.map Char.toLower

end Level

namespace Directive

/-- A level behind an equals sign; an empty one shows everything. -/
def readLevel (text : List Char) : Option Level :=
  if text.isEmpty then some .trace else Level.read text

/-- A character that a directive may begin with, a bracket apart. -/
def isStart (c : Char) : Bool := c = '-' || c = ':' || c = '_' || isAlphanumeric c

/-- The parts of a directive. Blanks at its ends are passed over when the parts are looked for, but
places are counted from its first blank, so that blanks before a directive shift its parts. -/
structure Source where
  whole : List Char

namespace Source

/-- The directive without the blanks at its ends. -/
def trimmed (s : Source) : List Char :=
  ((s.whole.dropWhile isBlank).reverse.dropWhile isBlank).reverse

/-- What the whole text has where `part` stands in the trimmed one, behind `before`. -/
def cut (s : Source) (before part : List Char) : List Char :=
  byteSlice (byteLength before) (byteLength before + byteLength part) s.whole

/-- What the whole text has behind `before`. -/
def rest (s : Source) (before : List Char) : List Char :=
  (splitBytes (byteLength before) s.whole).2

/-- The level behind `before`, if what is left begins with an equals sign. -/
def level (s : Source) (before left : List Char) : Option Level :=
  match left with
  | [] => some .trace
  | '=' :: _ => readLevel (s.rest (before ++ ['=']))
  | _ => none

end Source

/-- A field and perhaps a value: the name, and whether there is a value, which must be one that
can be looked for. -/
def readField (text : List Char) : Option (String × Bool) :=
  match pieces '=' text with
  | name :: value :: _ =>
    if Pattern.isPlusNumber value || Pattern.isWellFormed value then
      some (String.ofList name, true)
    else none
  | _ => if text.isEmpty then none else some (String.ofList text, false)

/-- What follows the opening bracket of a span behind `before`: its name and a field, and perhaps a
level. Without a name or a value for the field it speaks of events too. -/
def readSpan (s : Source) (target : Option (List Char)) (before left : List Char) :
    Option Directive :=
  let name := left.takeWhile fun c => c != ']' && c != '\x7b'
  let before := before ++ name
  match left.drop name.length with
  | ']' :: left => (s.level (before ++ [']']) left).map (⟨target, none, true, ·⟩)
  | '\x7b' :: left =>
    let before := before ++ ['\x7b']
    let field := left.takeWhile (· != '\x7d')
    match left.drop field.length with
    | '\x7d' :: ']' :: left => do
      let (fieldName, hasValue) ← readField (s.cut before field)
      let level ← s.level (before ++ field ++ ['\x7d', ']']) left
      pure ⟨target, some fieldName, !name.isEmpty || hasValue, level⟩
    | _ => none
  | _ => none

/-- A directive: a level, a target, or a target and its level, with a span behind the target or in
place of it. A target alone shows everything. -/
def read (text : List Char) : Option Directive :=
  let s : Source := ⟨text⟩
  match s.trimmed with
  | [] => none
  | '[' :: left => readSpan s none ['['] left
  | c :: more =>
    if !isStart c then none
    else
      let name := (c :: more).takeWhile fun c => c != '=' && c != '['
      match (c :: more).drop name.length with
      | [] =>
        match Level.read text with
        | some level => some ⟨none, none, false, level⟩
        | none => some ⟨some text, none, false, .trace⟩
      | '[' :: left => readSpan s (some (s.cut [] name)) (name ++ ['[']) left
      | left => (s.level name left).map (⟨some (s.cut [] name), none, false, ·⟩)

def applies (d : Directive) (e : Event) : Bool :=
  !d.inSpan && (d.target.getD []).isPrefixOf e.target.toList && d.field.all e.hasField

/-- How specific a directive is: by how much of a target it names, where one for all targets comes
first, and then by whether it names a field. -/
def weight (d : Directive) : Nat :=
  let targetWeight := match d.target with
    | none => 0
    | some text => byteLength text + 1
  2 * targetWeight + if d.field.isSome then 1 else 0

/-- A directive gives way to a more specific one. Of two that are equally specific, the one that
names the earlier field in the order of names gives way. -/
def givesWay (d other : Directive) : Bool :=
  d.weight < other.weight ||
    (d.weight = other.weight && decide (d.field.getD "" ≤ other.field.getD ""))

end Directive

namespace Filter

/-- A single level for all targets. -/
def ofLevel (level : Level) : Filter := [⟨none, none, false, level⟩]

/-- A comma-separated list of directives, all of which must be right. -/
def read (text : String) : Option Filter :=
  ((pieces ',' text.toList).filter fun piece => !piece.isEmpty).mapM Directive.read

/-- The filter of a level given by the user, or else of a setting; warnings are shown where there
is neither, or the setting is wrong. -/
def choose (level : Option Level) (setting : Option String) : Filter :=
  match level with
  | some level => ofLevel level
  | none => (setting.bind read).getD (ofLevel .warn)

/-- The directive that decides on an event: of those that apply the most specific, and of several
the last. -/
def deciding (f : Filter) (e : Event) : Option Directive :=
  (f.filter fun d => d.applies e).foldl
    (fun best d =>
      match best with
      | none => some d
      | some b => if b.givesWay d then some d else some b)
    none

def shows (f : Filter) (e : Event) : Bool :=
  match f.deciding e with
  | none => false
  | some d => e.level.rank ≤ d.level.rank

end Filter

end FacetQuery
