import FacetQuery.Text.Characters
import FacetQuery.Toml.Lexical

/-! Dates and times. A value holds a date, a time, or both, and only with both an offset. -/
namespace FacetQuery.Toml

structure Date where
  year : Nat
  month : Nat
  day : Nat
  deriving DecidableEq, Repr

/-- A time of day; the fraction of the second is kept as its digits. -/
structure Time where
  hour : Nat
  minute : Nat
  second : Nat
  fraction : List Char
  deriving DecidableEq, Repr

/-- The distance from universal time, in minutes. -/
structure Offset where
  minutes : Int
  deriving DecidableEq, Repr

inductive DateTime where
  | date (day : Date)
  | time (clock : Time)
  | moment (day : Date) (clock : Time) (offset : Option Offset)
  deriving DecidableEq, Repr

/-- A number of exactly `count` digits. -/
def fixedNumber (count : Nat) : Reader Nat := fun cs =>
  let digits := cs.take count
  if digits.length = count ∧ digits.all Char.isDigit then
    some (decimalNumber digits, cs.drop count)
  else none

def isLeapYear (year : Nat) : Bool := year % 4 = 0 && (year % 100 != 0 || year % 400 = 0)

def daysInMonth (year month : Nat) : Nat :=
  if month = 2 then if isLeapYear year then 29 else 28
  else if month = 4 ∨ month = 6 ∨ month = 9 ∨ month = 11 then 30
  else 31

def expect (c : Char) : Reader Unit
  | d :: rest => if c = d then some ((), rest) else none
  | [] => none

def Date.read : Reader Date := fun cs => do
  let (year, cs) ← fixedNumber 4 cs
  let (_, cs) ← expect '-' cs
  let (month, cs) ← fixedNumber 2 cs
  let (_, cs) ← expect '-' cs
  let (day, cs) ← fixedNumber 2 cs
  guard (1 ≤ month ∧ month ≤ 12 ∧ 1 ≤ day ∧ day ≤ daysInMonth year month)
  pure (⟨year, month, day⟩, cs)

/-- The fraction of a second, if there is one. -/
def fraction : Reader (List Char)
  | '.' :: rest =>
    let digits := rest.takeWhile Char.isDigit
    if digits.isEmpty then none else some (digits, rest.drop digits.length)
  | cs => some ([], cs)

/-- The seconds of a time, which may be left out. -/
def seconds : Reader (Nat × List Char)
  | ':' :: rest => do
    let (second, rest) ← fixedNumber 2 rest
    guard (second ≤ 60)
    let (digits, rest) ← fraction rest
    pure ((second, digits), rest)
  | cs => some ((0, []), cs)

def hoursAndMinutes : Reader (Nat × Nat) := fun cs => do
  let (hour, cs) ← fixedNumber 2 cs
  let (_, cs) ← expect ':' cs
  let (minute, cs) ← fixedNumber 2 cs
  guard (hour ≤ 23 ∧ minute ≤ 59)
  pure ((hour, minute), cs)

def Time.read : Reader Time := fun cs => do
  let ((hour, minute), cs) ← hoursAndMinutes cs
  let ((second, digits), cs) ← seconds cs
  pure (⟨hour, minute, second, digits⟩, cs)

/-- The offset at the end of a moment, if there is one. -/
def Offset.read : List Char → Option (Option Offset)
  | [] => some none
  | ['Z'] | ['z'] => some (some ⟨0⟩)
  | sign :: rest => do
    guard (sign = '+' ∨ sign = '-')
    let ((hours, minutes), rest) ← hoursAndMinutes rest
    guard rest.isEmpty
    let total : Int := 60 * hours + minutes
    pure (some ⟨if sign = '-' then -total else total⟩)

/-- A date-time that takes up the whole text. -/
def DateTime.read (cs : List Char) : Option DateTime :=
  match Date.read cs with
  | some (day, []) => some (.date day)
  | some (day, separator :: rest) => do
    guard (separator = 'T' ∨ separator = 't' ∨ separator = ' ')
    let (clock, rest) ← Time.read rest
    let offset ← Offset.read rest
    pure (.moment day clock offset)
  | none => do
    let (clock, rest) ← Time.read cs
    guard rest.isEmpty
    pure (.time clock)

end FacetQuery.Toml
