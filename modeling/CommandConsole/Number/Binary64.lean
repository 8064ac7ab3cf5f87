import CommandConsole.Number.Decimal

set_option autoImplicit false

/-!
Binary floating-point numbers with a 53-bit significand, as exact data: rounding a ratio to the
nearest one, order against integers, and the shortest decimal text that reads back.
-/
namespace CommandConsole

/-- A finite number is `±mantissa · 2^exponent`; the exponent is at least -1074 and the mantissa
below `2^53`, and not below `2^52` unless the exponent is least. -/
inductive Binary64
  | undefined
  | infinite (negative : Bool)
  | finite (negative : Bool) (mantissa : Nat) (exponent : Int)
deriving DecidableEq, Repr, Inhabited

namespace Binary64

/-- A quotient rounded to the nearest natural number, a half to the even neighbour. -/
def roundQuotient (numerator denominator : Nat) : Nat :=
  let quotient := numerator / denominator
  let double := 2 * (numerator % denominator)
  if double < denominator then quotient
  else if denominator < double then quotient + 1
  else quotient + quotient % 2

def scaleDown (numerator denominator : Nat) (exponent : Int) : Nat × Nat :=
  let scale := Nat.pow 2 exponent.natAbs
  if exponent < 0 then (numerator * scale, denominator) else (numerator, denominator * scale)

def mantissaBound : Nat :=
  Nat.pow 2 53

/-- The number nearest to a ratio, a tie to the even mantissa. -/
def ofRatio (negative : Bool) (numerator denominator : Nat) : Binary64 :=
  if numerator = 0 then finite negative 0 (-1074)
  else
    let guess : Int := (numerator.log2 : Int) - denominator.log2 - 53
    let wide := scaleDown numerator denominator guess
    let normal := if mantissaBound ≤ wide.1 / wide.2 then guess + 1 else guess
    let exponent := max normal (-1074)
    let scaled := scaleDown numerator denominator exponent
    let mantissa := roundQuotient scaled.1 scaled.2
    let carried :=
      if mantissa = mantissaBound then (mantissaBound / 2, exponent + 1) else (mantissa, exponent)
    if 971 < carried.2 then infinite negative else finite negative carried.1 carried.2

/-- The number nearest to `digits · 10^power`. Powers far outside the range are not computed. -/
def ofDecimal (negative : Bool) (digits : Nat) (power : Int) : Binary64 :=
  if digits = 0 then finite negative 0 (-1074)
  else
    let size : Int := (digits.log2 : Int) * 3 / 10 + power
    if 400 < size then infinite negative
    else if size < -800 then finite negative 0 (-1074)
    else if power < 0 then ofRatio negative digits (Nat.pow 10 power.natAbs)
    else ofRatio negative (digits * Nat.pow 10 power.natAbs) 1

def ofInt (number : Int) : Binary64 :=
  ofRatio (number < 0) number.natAbs 1

def isNegative : Binary64 → Bool
  | undefined => false
  | infinite negative => negative
  | finite negative _ _ => negative

def isZero : Binary64 → Bool
  | finite _ mantissa _ => mantissa == 0
  | _ => false

def ratio (mantissa : Nat) (exponent : Int) : Nat × Nat :=
  let scale := Nat.pow 2 exponent.natAbs
  if exponent < 0 then (mantissa, scale) else (mantissa * scale, 1)

/-- Whether a number is below an integer; an undefined number is below nothing. -/
def isBelow (number : Binary64) (bound : Int) : Bool :=
  match number with
  | undefined => false
  | infinite negative => negative
  | finite negative mantissa exponent =>
    let magnitude := ratio mantissa exponent
    let signed : Int := if negative then -(magnitude.1 : Int) else magnitude.1
    signed < bound * magnitude.2

def toInt? : Binary64 → Option Int
  | finite negative mantissa exponent =>
    let magnitude := ratio mantissa exponent
    if magnitude.1 % magnitude.2 = 0 then
      let whole : Int := (magnitude.1 / magnitude.2 : Nat)
      some (if negative then -whole else whole)
    else none
  | _ => none

/-- The least natural number that is not below a number, if there is one. -/
def ceiling? : Binary64 → Option Nat
  | undefined => none
  | infinite negative => if negative then some 0 else none
  | finite negative mantissa exponent =>
    let magnitude := ratio mantissa exponent
    if negative then some 0 else some ((magnitude.1 + magnitude.2 - 1) / magnitude.2)

def multiply : Binary64 → Binary64 → Binary64
  | finite negative mantissa exponent, finite negative' mantissa' exponent' =>
    let left := ratio mantissa exponent
    let right := ratio mantissa' exponent'
    ofRatio (negative != negative') (left.1 * right.1) (left.2 * right.2)
  | undefined, _ => undefined
  | _, undefined => undefined
  | left, right =>
    if left.isZero || right.isZero then undefined
    else infinite (left.isNegative != right.isNegative)

def add : Binary64 → Binary64 → Binary64
  | finite negative mantissa exponent, finite negative' mantissa' exponent' =>
    let left := ratio mantissa exponent
    let right := ratio mantissa' exponent'
    let first : Int := (if negative then -1 else 1) * ((left.1 * right.2 : Nat) : Int)
    let second : Int := (if negative' then -1 else 1) * ((right.1 * left.2 : Nat) : Int)
    let sum := first + second
    if sum = 0 then finite (negative && negative') 0 (-1074)
    else ofRatio (sum < 0) sum.natAbs (left.2 * right.2)
  | infinite negative, infinite negative' =>
    if negative == negative' then infinite negative else undefined
  | infinite negative, finite _ _ _ => infinite negative
  | finite _ _ _, infinite negative => infinite negative
  | _, _ => undefined

/-- Moves a guess upward until it is the decimal exponent of the ratio's leading digit. -/
def decimalExponent (numerator denominator : Nat) : Nat → Int → Int
  | 0, guess => guess
  | tries + 1, guess =>
    let next := guess + 1
    let reached :=
      if next < 0 then denominator ≤ numerator * Nat.pow 10 next.natAbs
      else denominator * Nat.pow 10 next.natAbs ≤ numerator
    if reached then decimalExponent numerator denominator tries next else guess

/-- The fewest digits, and their power of ten, that read back as a magnitude: of the two
neighbours on each decimal grid the nearer one that reads back, a tie to the even one. -/
def shortestFrom (mantissa : Nat) (exponent : Int) (leading : Int) :
    Nat → Nat → Nat × Int
  | 0, _ => (0, 0)
  | tries + 1, count =>
    let power := leading - (count : Int) + 1
    let magnitude := ratio mantissa exponent
    let grid :=
      if power < 0 then (magnitude.1 * Nat.pow 10 power.natAbs, magnitude.2)
      else (magnitude.1, magnitude.2 * Nat.pow 10 power.natAbs)
    let lower := grid.1 / grid.2
    let double := 2 * (grid.1 % grid.2)
    let target := finite false mantissa exponent
    let lowerFits := ofDecimal false lower power == target
    let upperFits := ofDecimal false (lower + 1) power == target
    let lowerNearer := double < grid.2 || (double == grid.2 && lower % 2 == 0)
    if lowerFits && (lowerNearer || !upperFits) then (lower, power)
    else if upperFits then (lower + 1, power)
    else shortestFrom mantissa exponent leading tries (count + 1)

def shortest (mantissa : Nat) (exponent : Int) : Nat × Int :=
  let magnitude := ratio mantissa exponent
  let bits : Int := (magnitude.1.log2 : Int) - magnitude.2.log2
  let leading := decimalExponent magnitude.1 magnitude.2 6 (bits * 30103 / 100000 - 2)
  shortestFrom mantissa exponent leading 17 1

/-- Digits without the zeros at their end; each zero dropped raises the power. -/
def dropZeros : Nat → Nat → Int → Nat × Int
  | 0, digits, power => (digits, power)
  | tries + 1, digits, power =>
    if digits ≠ 0 ∧ digits % 10 = 0 then dropZeros tries (digits / 10) (power + 1)
    else (digits, power)

/-- The shortest text that reads back: positional when the leading digit's exponent is from -4 to
15, with at least one place, otherwise with a signed exponent of at least two digits. -/
def text : Binary64 → String
  | undefined => "nan"
  | infinite negative => if negative then "-inf" else "inf"
  | finite negative mantissa exponent =>
    let sign := if negative then "-" else ""
    if mantissa = 0 then sign ++ "0.0"
    else
      let raw := shortest mantissa exponent
      let short := dropZeros 20 raw.1 raw.2
      let shown := Decimal.digits short.1
      let leading : Int := short.2 + shown.length - 1
      if -4 ≤ leading ∧ leading < 16 then
        if leading < 0 then
          sign ++ "0." ++ String.ofList (List.replicate (leading.natAbs - 1) '0' ++ shown)
        else
          let whole := leading.natAbs + 1
          let digits := shown ++ List.replicate (whole - shown.length) '0'
          let places := digits.drop whole
          sign ++ String.ofList (digits.take whole) ++ "." ++
            (if places.isEmpty then "0" else String.ofList places)
      else
        let places := shown.drop 1
        sign ++ String.ofList (shown.take 1) ++
          (if places.isEmpty then "" else "." ++ String.ofList places) ++
          (if leading < 0 then "e-" else "e+") ++ Decimal.padded 2 leading.natAbs

end Binary64

end CommandConsole
