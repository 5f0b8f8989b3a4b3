/-!
# Binary floating-point numbers

Numbers with a significand of 53 bits and exponents from -1074 to 971, held as exact
integers. Every number that is made here comes from one function, `ofRatio`, which rounds a
quotient to the nearest such number and a tie to the even significand.
-/
namespace CloudSpace

/-- How many numbers a word of so many bits holds. -/
def wordSize (bits : Nat) : Nat := Nat.pow 2 bits

/-- A finite number is `significand * 2 ^ exponent`, with a significand of 53 bits unless the
exponent is the least one. -/
inductive Binary64
  | finite (negative : Bool) (significand : Nat) (exponent : Int)
  | infinite (negative : Bool)
  | notANumber
deriving DecidableEq, Repr, Inhabited

namespace Binary64

/-- The least exponent, which numbers below the normal range share. -/
def leastExponent : Int := -1074

/-- The greatest exponent of a finite number. -/
def greatestExponent : Int := 971

def zero (negative : Bool) : Binary64 := .finite negative 0 leastExponent

/-- The quotient of `num` and `den * 2 ^ exponent`, with its remainder and divisor. -/
def quotientAt (num den : Nat) (exponent : Int) : Nat × Nat × Nat :=
  let num := if exponent < 0 then num * Nat.pow 2 (-exponent).toNat else num
  let den := if exponent < 0 then den else den * Nat.pow 2 exponent.toNat
  (num / den, num % den, den)

/-- A significand rounded by what was left over: to nearest, and a tie to even. -/
def roundHalfEven : Nat × Nat × Nat → Nat
  | (quotient, remainder, den) =>
    if 2 * remainder < den then quotient
    else if den < 2 * remainder then quotient + 1
    else quotient + quotient % 2

/-- The number nearest to `num / den`, for a positive `den`. -/
def ofRatio (negative : Bool) (num den : Nat) : Binary64 :=
  if num = 0 then zero negative
  else
    let low := max ((num.log2 : Int) - den.log2 - 53) leastExponent
    let exponent := if (quotientAt num den low).1 < wordSize 53 then low else low + 1
    let significand := roundHalfEven (quotientAt num den exponent)
    let carried := significand = wordSize 53
    let exponent := if carried then exponent + 1 else exponent
    let significand := if carried then wordSize 52 else significand
    if greatestExponent < exponent then .infinite negative
    else .finite negative significand exponent

/-- The number nearest to a natural number. -/
def ofNat (n : Nat) : Binary64 := ofRatio false n 1

/-- The number nearest to `digits * 10 ^ exponent`. Exponents so large or so small that the
result cannot but be infinite or zero are answered at once. -/
def ofDecimal (negative : Bool) (digits : Nat) (exponent : Int) : Binary64 :=
  if digits = 0 then zero negative
  else if 0 ≤ exponent then
    if 400 < exponent then .infinite negative
    else ofRatio negative (digits * Nat.pow 10 exponent.toNat) 1
  else if exponent + digits.log2 < -2000 then zero negative
  else ofRatio negative digits (Nat.pow 10 (-exponent).toNat)

/-- The rounded product of two numbers; the sign is that of the first. -/
def mul : Binary64 → Binary64 → Binary64
  | .finite negative a x, .finite _ b y =>
    let e := x + y
    if 0 ≤ e then ofRatio negative (a * b * Nat.pow 2 e.toNat) 1
    else ofRatio negative (a * b) (Nat.pow 2 (-e).toNat)
  | .finite negative _ _, .infinite _ => .infinite negative
  | a, _ => a

/-- The rounded quotient of a number by a finite one that is not zero; the sign is that of the
first. -/
def div : Binary64 → Binary64 → Binary64
  | .finite negative a x, .finite _ b y =>
    let e := x - y
    if 0 ≤ e then ofRatio negative (a * Nat.pow 2 e.toNat) b
    else ofRatio negative a (b * Nat.pow 2 (-e).toNat)
  | a, _ => a

/-- The number with the other sign. -/
def neg : Binary64 → Binary64
  | .finite negative significand exponent => .finite (!negative) significand exponent
  | .infinite negative => .infinite (!negative)
  | .notANumber => .notANumber

def isZero : Binary64 → Bool
  | .finite _ significand _ => significand == 0
  | _ => false

def isFinite : Binary64 → Bool
  | .finite .. => true
  | _ => false

end Binary64

end CloudSpace
