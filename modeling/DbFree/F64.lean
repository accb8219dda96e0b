import DbFree.Texts

/- Rust's `f64` as far as the source uses it: its total order, its spelling and
the reading of a spelling. Every step is exact integer arithmetic. -/
namespace DbFree

open Texts

/-- A count as it is written into a message. -/
def decimal (count : Nat) : Text := (toString count).toList

theorem decimal_injective {m n : Nat} (same : decimal m = decimal n) : m = n := by
  rw [decimal, decimal, Nat.toString_eq_ofList_toDigits, Nat.toString_eq_ofList_toDigits,
    String.toList_ofList, String.toList_ofList] at same
  have read := congrArg (fun digits => Nat.ofDigitChars 10 digits 0) same
  simpa using read

/-- A whole number as it is written. -/
def integer (number : Int) : Text :=
  if number < 0 then '-' :: decimal number.natAbs else decimal number.natAbs

/-- A double: its sign bit and the other 63 bits. -/
structure F64 where
  negative : Bool
  magnitude : Fin (2 ^ 63)
deriving DecidableEq

namespace F64

/-- The bits of infinity; larger magnitudes are not numbers. -/
def infinity : Nat := 0x7ff * 2 ^ 52

def isFinite (number : F64) : Bool := decide (number.magnitude.val < infinity)

/-- `number == 0.0`, which both zeros are. -/
def isZero (number : F64) : Bool := decide (number.magnitude.val = 0)

def isNan (number : F64) : Bool := decide (infinity < number.magnitude.val)

/-- `f64::NAN`. -/
def nan : F64 := ⟨false, ⟨0x7ff8 * 2 ^ 48, by decide⟩⟩

def infinite (negative : Bool) : F64 := ⟨negative, ⟨infinity, by decide⟩⟩

def zero (negative : Bool) : F64 := ⟨negative, ⟨0, by decide⟩⟩

/-- The place of a number among all bit patterns: those with the sign bit come
first, in reverse. -/
def place (number : F64) : Int :=
  if number.negative then -1 - (number.magnitude.val : Int) else number.magnitude.val

/-- `f64::total_cmp`. -/
def totalCmp (first second : F64) : Ordering := compare first.place second.place

theorem place_injective (first second : F64) (same : first.place = second.place) :
    first = second := by
  obtain ⟨firstSign, firstBits⟩ := first
  obtain ⟨secondSign, secondBits⟩ := second
  have bits : firstSign = secondSign ∧ firstBits.val = secondBits.val := by
    cases firstSign <;> cases secondSign <;> simp only [place] at same <;> simp at same ⊢ <;> omega
  rw [bits.1, Fin.ext bits.2]

/-- The quotient of two numbers to the nearest whole number, ties to even. -/
def roundHalfEven (numerator denominator : Nat) : Nat :=
  let whole := numerator / denominator
  let twice := 2 * (numerator % denominator)
  if denominator < twice ∨ (twice = denominator ∧ whole % 2 = 1) then whole + 1 else whole

/-- The power of two at or below a quotient. -/
def floorLog (numerator denominator : Nat) : Int :=
  let guess : Int := (Nat.log2 numerator : Int) - (Nat.log2 denominator : Int)
  let below := denominator * 2 ^ guess.toNat ≤ numerator * 2 ^ (-guess).toNat
  if below then guess else guess - 1

/-- The magnitude nearest to a quotient, ties to even. The unit is the one of
the quotient's binade, and never below that of the subnormal numbers. -/
def nearest (numerator denominator : Nat) : Fin (2 ^ 63) :=
  let unit : Int := max (-1074) (floorLog numerator denominator - 52)
  let mantissa :=
    roundHalfEven (numerator * 2 ^ (-unit).toNat) (denominator * 2 ^ unit.toNat)
  let bits := if numerator = 0 then 0 else (unit + 1074).toNat * 2 ^ 52 + mantissa
  ⟨min infinity bits, Nat.lt_of_le_of_lt (Nat.min_le_left _ _) (by decide)⟩

/-- `number as f64` of a whole number. -/
def ofInt (number : Int) : F64 := ⟨decide (number < 0), nearest number.natAbs 1⟩

/-- The double nearest to `digits * 10 ^ exponent`. -/
def ofDecimal (negative : Bool) (digits : Nat) (exponent : Int) : F64 :=
  ⟨negative, nearest (digits * 10 ^ exponent.toNat) (10 ^ (-exponent).toNat)⟩

def isDigit (c : Char) : Bool := '0' ≤ c && c ≤ '9'

/-- The number some digits spell. -/
def digitsValue (digits : Text) : Nat :=
  digits.foldl (fun value c => 10 * value + (c.toNat - '0'.toNat)) 0

/-- A text without its sign, and whether that was a minus. -/
def splitSign : Text → Bool × Text
  | '-' :: body => (true, body)
  | '+' :: body => (false, body)
  | body => (false, body)

/-- The exponent part of a number, `e` first; nothing stands for zero. -/
def exponentOf : Text → Option Int
  | [] => some 0
  | mark :: rest =>
    let (negative, digits) := splitSign rest
    if (mark = 'e' ∨ mark = 'E') ∧ digits ≠ [] ∧ digits.all isDigit then
      some (if negative then -(digitsValue digits : Int) else digitsValue digits)
    else none

/-- Digits, a point and an exponent, as the grammar of `f64::from_str` has them. -/
def numberOf (negative : Bool) (body : Text) : Option F64 :=
  let whole := body.takeWhile isDigit
  let rest := body.dropWhile isDigit
  let fraction := if rest.head? = some '.' then rest.tail.takeWhile isDigit else []
  let behind := if rest.head? = some '.' then rest.tail.dropWhile isDigit else rest
  if whole = [] ∧ fraction = [] then none
  else
    (exponentOf behind).map fun exponent =>
      ofDecimal negative (digitsValue (whole ++ fraction)) (exponent - fraction.length)

/-- `str::parse::<f64>`. -/
def parse (text : Text) : Option F64 :=
  let (negative, body) := splitSign text
  let word := toAsciiLowercase body
  if word = "inf".toList ∨ word = "infinity".toList then some (infinite negative)
  else if word = "nan".toList then some { nan with negative }
  else numberOf negative body

/-- The value of a finite magnitude, as a quotient. -/
def quotient (magnitude : Nat) : Nat × Nat :=
  let exponent := magnitude / 2 ^ 52
  let mantissa := magnitude % 2 ^ 52
  if exponent = 0 then (mantissa, 2 ^ 1074)
  else ((mantissa + 2 ^ 52) * 2 ^ (exponent - 1075), 2 ^ (1075 - exponent))

/-- The value of a finite number, as a signed quotient. -/
def ratio (number : F64) : Int × Nat :=
  let (numerator, denominator) := quotient number.magnitude.val
  (if number.negative then -(numerator : Int) else numerator, denominator)

/-- The double nearest to a quotient; a zero gets the sign asked for. -/
def ofRatio (zeroSign : Bool) (numerator : Int) (denominator : Nat) : F64 :=
  if numerator = 0 then zero zeroSign
  else ⟨decide (numerator < 0), nearest numerator.natAbs denominator⟩

def neg (number : F64) : F64 := ⟨!number.negative, number.magnitude⟩

def add (first second : F64) : F64 :=
  if first.isNan || second.isNan then nan
  else if !first.isFinite then
    if !second.isFinite && first.negative != second.negative then nan else first
  else if !second.isFinite then second
  else
    let (a, b) := first.ratio
    let (c, d) := second.ratio
    ofRatio (first.negative && second.negative) (a * d + c * b) (b * d)

def sub (first second : F64) : F64 := add first second.neg

def mul (first second : F64) : F64 :=
  let sign := first.negative != second.negative
  if first.isNan || second.isNan then nan
  else if !first.isFinite || !second.isFinite then
    if first.isZero || second.isZero then nan else infinite sign
  else
    let (a, b) := first.ratio
    let (c, d) := second.ratio
    ofRatio sign (a * c) (b * d)

def div (first second : F64) : F64 :=
  let sign := first.negative != second.negative
  if first.isNan || second.isNan then nan
  else if !first.isFinite then if second.isFinite then infinite sign else nan
  else if !second.isFinite then zero sign
  else if second.isZero then if first.isZero then nan else infinite sign
  else
    let (a, b) := first.ratio
    let (c, d) := second.ratio
    ofRatio sign (a * d * c.sign) (b * c.natAbs)

/-- The remainder of the truncated division, with the sign of the first number. -/
def rem (first second : F64) : F64 :=
  if first.isNan || second.isNan || !first.isFinite || second.isZero then nan
  else if !second.isFinite then first
  else
    let (a, b) := first.ratio
    let (c, d) := second.ratio
    ofRatio first.negative ((a * d).tmod (c * b)) (b * d)

/-- `number.fract() == 0.0`. -/
def isWhole (number : F64) : Bool :=
  number.isFinite && decide (number.ratio.1 % (number.ratio.2 : Int) = 0)

/-- `number.abs() < bound` of a whole bound. -/
def absBelow (number : F64) (bound : Nat) : Bool :=
  number.isFinite && decide (number.ratio.1.natAbs < bound * number.ratio.2)

/-- `number as i64` of a whole number. -/
def toInt (number : F64) : Int := number.ratio.1 / (number.ratio.2 : Int)

/-- How many digits stand before the point of a quotient, at or below zero where
zeros follow the point. -/
def pointOf (numerator denominator : Nat) : Int :=
  let guess : Int := (Nat.log 10 numerator : Int) - (Nat.log 10 denominator : Int)
  if denominator * 10 ^ guess.toNat ≤ numerator * 10 ^ (-guess).toNat then guess + 1 else guess

/-- The digits of at most `count` places that read back as the number, the
nearer of the two if both do. -/
def digitsWithin (number : F64) (count : Nat) : Option (Nat × Int) :=
  let (numerator, denominator) := quotient number.magnitude.val
  let exponent := pointOf numerator denominator - count
  let scaled := numerator * 10 ^ (-exponent).toNat
  let unit := denominator * 10 ^ exponent.toNat
  let below := scaled / unit
  let reads := fun digits => decide (ofDecimal number.negative digits exponent = number)
  let up := decide (unit < 2 * (scaled % unit))
  if reads below ∧ (¬up ∨ ¬reads (below + 1)) then some (below, exponent)
  else if reads (below + 1) then some (below + 1, exponent)
  else none

/-- The fewest digits that read back as the number, and their exponent. -/
def shortest (number : F64) : Nat × Int :=
  ((List.range' 1 17).findSome? (digitsWithin number)).getD (0, 0)

/-- A decimal number without an exponent. -/
def plain (digits : Nat) (exponent : Int) : Text :=
  if 0 ≤ exponent then decimal digits ++ List.replicate exponent.toNat '0'
  else
    let places := (-exponent).toNat
    let spelled := decimal digits
    let padded := List.replicate (places + 1 - spelled.length) '0' ++ spelled
    let whole := padded.take (padded.length - places)
    let fraction := (padded.drop (padded.length - places)).rdropWhile (· == '0')
    if fraction = [] then whole else whole ++ '.' :: fraction

/-- `f64::to_string`. -/
def display (number : F64) : Text :=
  let sign := if number.negative then ['-'] else []
  if number.isNan then "NaN".toList
  else if ¬number.isFinite then sign ++ "inf".toList
  else if number.isZero then sign ++ ['0']
  else sign ++ plain number.shortest.1 number.shortest.2

end F64

end DbFree
