import FacetQuery.Toml.DateTime
import FacetQuery.Toml.Strings

/-! Integers and floats, as they are written and as far as they can be held. -/
namespace FacetQuery.Toml

/-- A float: a decimal number, or one of the two special values. -/
inductive Decimal where
  | finite (negative : Bool) (mantissa : Nat) (exponent : Int)
  | infinity (negative : Bool)
  | notANumber
  deriving DecidableEq, Repr

inductive Number where
  | integer (value : Int)
  | float (value : Decimal)
  deriving DecidableEq, Repr

/-- Digits without the underscores that group them, each of which stands between two digits. -/
def ungroup? (isDigit : Char → Bool) : List Char → Option (List Char)
  | [] => none
  | [c] => if isDigit c then some [c] else none
  | c :: '_' :: rest => if isDigit c then (ungroup? isDigit rest).map (c :: ·) else none
  | c :: rest => if isDigit c then (ungroup? isDigit rest).map (c :: ·) else none

/-- The digits of a whole number: no zero in front of other digits. -/
def wholeDigits? (cs : List Char) : Option (List Char) :=
  match ungroup? Char.isDigit cs with
  | some ('0' :: _ :: _) => none
  | digits => digits

def isGroupedDigit (c : Char) : Bool := c.isDigit || c = '_'

/-- The digits behind a decimal point, if there is one. -/
def fractionDigits? : Reader (List Char)
  | '.' :: rest =>
    let part := rest.takeWhile isGroupedDigit
    (ungroup? Char.isDigit part).map (·, rest.drop part.length)
  | cs => some ([], cs)

/-- A power of ten at the end of a float; none counts as zero. -/
def exponent? : List Char → Option Int
  | [] => some 0
  | mark :: rest =>
    if mark = 'e' ∨ mark = 'E' then
      match rest with
      | '-' :: digits => (ungroup? Char.isDigit digits).map fun ds => -(decimalNumber ds : Int)
      | '+' :: digits => (ungroup? Char.isDigit digits).map fun ds => (decimalNumber ds : Int)
      | digits => (ungroup? Char.isDigit digits).map fun ds => (decimalNumber ds : Int)
    else none

/-- A decimal integer or float behind its sign. -/
def decimal? (negative : Bool) (cs : List Char) : Option Number := do
  let whole := cs.takeWhile isGroupedDigit
  let digits ← wholeDigits? whole
  match cs.drop whole.length with
  | [] =>
    let value : Int := decimalNumber digits
    pure (.integer (if negative then -value else value))
  | rest =>
    let (fractional, rest) ← fractionDigits? rest
    let exponent ← exponent? rest
    pure (.float (.finite negative (decimalNumber (digits ++ fractional))
      (exponent - fractional.length)))

/-- A number in base two, eight or sixteen. -/
def radix? (base : Nat) (cs : List Char) : Option Number := do
  let isDigit (c : Char) : Bool := (hexDigit? c).any (· < base)
  let digits ← ungroup? isDigit cs
  pure (.integer (digits.foldl (fun n c => base * n + (hexDigit? c).getD 0) 0 : Nat))

/-- A number behind its sign, if it has one. -/
def unsigned? (negative : Bool) (cs : List Char) : Option Number :=
  if cs = "inf".toList then some (.float (.infinity negative))
  else if cs = "nan".toList then some (.float .notANumber)
  else decimal? negative cs

/-- A number that takes up the whole text. Only decimal numbers may have a sign. -/
def Number.read : List Char → Option Number
  | '+' :: rest => unsigned? false rest
  | '-' :: rest => unsigned? true rest
  | '0' :: 'x' :: rest => radix? 16 rest
  | '0' :: 'o' :: rest => radix? 8 rest
  | '0' :: 'b' :: rest => radix? 2 rest
  | cs => unsigned? false cs

/-- The least decimal that is nearer to infinity than to any double. -/
def doubleLimit : Nat := (Nat.pow 2 54 - 1) * Nat.pow 2 970

/-- Whether a float can be held as a double without becoming infinite. -/
def Decimal.isRepresentable : Decimal → Bool
  | finite _ mantissa exponent =>
    let magnitude : Int := (Nat.toDigits 10 mantissa).length + exponent
    if mantissa = 0 ∨ magnitude < 300 then true
    else if magnitude > 320 then false
    else if exponent ≥ 0 then mantissa * Nat.pow 10 exponent.toNat < doubleLimit
    else mantissa < doubleLimit * Nat.pow 10 (-exponent).toNat
  | infinity _ | notANumber => true

/-- Whether a number can be held: an integer takes at most 128 bits, signed or unsigned. -/
def Number.isRepresentable : Number → Bool
  | integer value => -Int.pow 2 127 ≤ value && value < Int.pow 2 128
  | float value => value.isRepresentable

end FacetQuery.Toml
