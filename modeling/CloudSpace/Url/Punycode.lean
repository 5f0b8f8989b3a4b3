/-!
# Labels outside ASCII

A label of a host name with other characters than those of ASCII is written with these: its ASCII
characters come first, and then, in ascending order of the others, the distances from one to the
next as numbers of variable length. The bounds between the digits of a number adapt to the
distances met so far.
-/
namespace CloudSpace.Url.Punycode

/-- The digit of a number below thirty-six. -/
def digit (n : Nat) : Char := if n < 26 then Char.ofNat (97 + n) else Char.ofNat (22 + n)

/-- The bound of the digit at a place, which grows by thirty-six from digit to digit. -/
def bound (place bias : Nat) : Nat :=
  if place ≤ bias then 1 else if bias + 26 ≤ place then 26 else place - bias

/-- The digits of a distance. -/
def digits (bias : Nat) : Nat → Nat → Nat → List Char
  | 0, _, _ => []
  | fuel + 1, place, distance =>
    let low := bound place bias
    if distance < low then [digit distance]
    else
      digit (low + (distance - low) % (36 - low)) ::
        digits bias fuel (place + 36) ((distance - low) / (36 - low))

/-- The bias that suits a distance. -/
def settle : Nat → Nat → Nat → Nat
  | 0, _, bias => bias
  | fuel + 1, distance, bias =>
    if 455 < distance then settle fuel (distance / 35) (bias + 36)
    else bias + 36 * distance / (distance + 38)

/-- The bias after a distance, of which the first is damped more. -/
def adapted (distance count : Nat) (first : Bool) : Nat :=
  let halved := if first then distance / 700 else distance / 2
  settle distance (halved + halved / count) 0

structure State where
  written : List Char
  distance : Nat := 0
  bias : Nat := 72
  /-- How many characters are written. -/
  count : Nat

/-- Go past one character of the label while those with a number are written. -/
def State.pass (basic number : Nat) (state : State) (c : Char) : State :=
  if c.toNat < number then { state with distance := state.distance + 1 }
  else if c.toNat = number then
    { written := state.written ++ digits state.bias (state.distance + 1) 36 state.distance
      distance := 0
      bias := adapted state.distance (state.count + 1) (state.count = basic)
      count := state.count + 1 }
  else state

/-- Write the characters with the given numbers, ascending; the earlier ones are below a limit. -/
def write (label : List Char) (basic : Nat) : List Nat → Nat → State → List Char
  | [], _, state => state.written
  | number :: rest, limit, state =>
    let distance := state.distance + (number - limit) * (state.count + 1)
    let passed := label.foldl (State.pass basic number) { state with distance }
    write label basic rest (number + 1) { passed with distance := passed.distance + 1 }

/-- The ASCII form of a label, without the mark that it is one. -/
def encode (label : List Char) : List Char :=
  let basic := label.filter fun c => c.toNat < 128
  let numbers := ((label.filter fun c => 128 ≤ c.toNat).map Char.toNat).mergeSort.eraseDups
  let start := if basic.isEmpty then [] else basic ++ ['-']
  write label basic.length numbers 128 { written := start, count := basic.length }

end CloudSpace.Url.Punycode
