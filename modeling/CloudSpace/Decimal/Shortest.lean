import CloudSpace.Decimal.Binary64

/-!
# The shortest decimal of a number

Among the decimals that round to a given binary number, the one with the fewest digits is
written, and of several with as few digits the one nearest to the number. Decimals with `n`
digits form a grid near the number; if a grid has a point that rounds to the number at all,
then one of the two points next to the number does. So the first grid with such a neighbour
settles the digits, and seventeen digits always suffice.
-/
namespace CloudSpace.Decimal

/-- The numbers that round to `significand * 2 ^ exponent`, all over one denominator. -/
structure RoundingInterval where
  low : Nat
  value : Nat
  high : Nat
  den : Nat
  /-- Whether the two ends round to the number too. -/
  closed : Bool
deriving Repr

/-- The interval of a positive finite number. Below a power of two the gap is half as wide. -/
def RoundingInterval.of (significand : Nat) (exponent : Int) : RoundingInterval :=
  let narrow := significand = wordSize 52 ∧ Binary64.leastExponent < exponent
  let scale := if 2 ≤ exponent then Nat.pow 2 (exponent - 2).toNat else 1
  { low := (4 * significand - if narrow then 1 else 2) * scale
    value := 4 * significand * scale
    high := (4 * significand + 2) * scale
    den := if 2 ≤ exponent then 1 else Nat.pow 2 (2 - exponent).toNat
    closed := significand % 2 = 0 }

/-- Whether `point * 10 ^ power` lies in an interval. -/
def RoundingInterval.holds (interval : RoundingInterval) (point : Nat) (power : Int) : Bool :=
  let up := if power < 0 then Nat.pow 10 (-power).toNat else 1
  let down := if power < 0 then 1 else Nat.pow 10 power.toNat
  let point := point * interval.den * down
  if interval.closed then interval.low * up ≤ point && point ≤ interval.high * up
  else interval.low * up < point && point < interval.high * up

/-- The greatest power of ten that is not above the value. -/
def RoundingInterval.magnitude (interval : RoundingInterval) : Int :=
  let guess := (((interval.value.log2 : Int) - interval.den.log2) * 30103) / 100000
  let reaches (power : Int) : Bool :=
    if power < 0 then interval.den ≤ interval.value * Nat.pow 10 (-power).toNat
    else interval.den * Nat.pow 10 power.toNat ≤ interval.value
  ([guess + 2, guess + 1, guess, guess - 1].find? reaches).getD (guess - 2)

/-- The neighbour of the value on the grid of `10 ^ power` that rounds to the number, the
nearer one if both do, and of two equally near ones the even one. -/
def RoundingInterval.onGrid? (interval : RoundingInterval) (power : Int) : Option Nat :=
  let up := if power < 0 then Nat.pow 10 (-power).toNat else 1
  let down := if power < 0 then 1 else Nat.pow 10 power.toNat
  let num := interval.value * up
  let den := interval.den * down
  let below := num / den
  let rest := num % den
  match interval.holds below power, interval.holds (below + 1) power with
  | true, true =>
    if 2 * rest < den then some below
    else if den < 2 * rest then some (below + 1)
    else some (below + below % 2)
  | true, false => some below
  | false, true => some (below + 1)
  | false, false => none

/-- Drop the zeros at the end of a number's digits, raising the power for each. -/
def dropTrailingZeros : Nat → Nat → Int → Nat × Int
  | 0, digits, power => (digits, power)
  | fuel + 1, digits, power =>
    if digits % 10 = 0 then dropTrailingZeros fuel (digits / 10) (power + 1)
    else (digits, power)

/-- The digits and the power of ten of the shortest decimal of a positive number. -/
def shortest (significand : Nat) (exponent : Int) : Nat × Int :=
  let interval := RoundingInterval.of significand exponent
  let top := interval.magnitude
  let found := (List.range 18).findSome? fun (count : Nat) =>
    let power := top - count
    (interval.onGrid? power).map (·, power)
  match found with
  | some (digits, power) => dropTrailingZeros 20 digits power
  | none => (interval.value / interval.den, 0)

/-- How a number is laid out as text: up to sixteen digits before the point and up to five
zeros after it are written out, and every whole number keeps `.0`; all other numbers have one
digit before the point and a bare exponent. -/
def layout (digits : Nat) (power : Int) : String :=
  let text := toString digits
  let count : Int := text.length
  let point := count + power
  if 0 ≤ power && point ≤ 16 then
    text ++ String.ofList (List.replicate power.toNat '0') ++ ".0"
  else if 0 < point && point ≤ 16 then
    String.ofList (text.toList.take point.toNat) ++ "." ++
      String.ofList (text.toList.drop point.toNat)
  else if -5 < point && point ≤ 0 then
    "0." ++ String.ofList (List.replicate (-point).toNat '0') ++ text
  else if count = 1 then s!"{text}e{point - 1}"
  else
    String.ofList (text.toList.take 1) ++ "." ++ String.ofList (text.toList.drop 1) ++
      s!"e{point - 1}"

end CloudSpace.Decimal

namespace CloudSpace.Binary64

/-- The text of a number as a data scalar: the shortest decimal that reads back, `.inf` and
`.nan` for what has none. -/
def text : Binary64 → String
  | .finite negative significand exponent =>
    let sign := if negative then "-" else ""
    if significand = 0 then sign ++ "0.0"
    else
      let (digits, power) := Decimal.shortest significand exponent
      sign ++ Decimal.layout digits power
  | .infinite negative => if negative then "-.inf" else ".inf"
  | .notANumber => ".nan"

end CloudSpace.Binary64
