/-!
# The shortest digits of a binary number

A finite binary number of 64 bits is a natural number of at most 53 bits times a power of two. All
printing and comparing is done on that exact value.

Every positive binary number owns an interval of reals that round to it. Its shortest digits are the
decimal in that interval on the coarsest grid of powers of ten, the one nearest to the number where
two lie in it.
-/

namespace OracleCatalog.Binary64

/-! ### The exact value -/

/-- What a binary number is. -/
inductive Reading where
  /-- The magnitude is `mantissa` times two to `exponent`. -/
  | finite (negative : Bool) (mantissa : Nat) (exponent : Int)
  | infinite (negative : Bool)
  | nan
  deriving DecidableEq

/-- Takes the sign, the exponent and the fraction out of the bits. -/
def read (x : Float) : Reading :=
  let bits := x.toBits.toNat
  let negative := bits / Nat.pow 2 63 == 1
  let field : Nat := bits / Nat.pow 2 52 % Nat.pow 2 11
  let fraction : Nat := bits % Nat.pow 2 52
  if field = 2047 then if fraction = 0 then .infinite negative else .nan
  else if field = 0 then .finite negative fraction (-1074)
  else .finite negative (Nat.pow 2 52 + fraction) ((field : Int) - 1075)

/-- `mantissa` times two to `exponent` as a fraction. -/
def fraction (mantissa : Nat) (exponent : Int) : Nat × Nat :=
  match exponent with
  | .ofNat n => (mantissa * Nat.pow 2 n, 1)
  | .negSucc n => (mantissa, Nat.pow 2 (n + 1))

/-- The magnitude without its fractional part. -/
def wholePart (mantissa : Nat) (exponent : Int) : Nat :=
  (fraction mantissa exponent).1 / (fraction mantissa exponent).2

/-! ### Shortest digits -/

/-- The reals that round to a number, over one denominator; `closed` tells whether the ends do. -/
structure Interval where
  low : Nat
  value : Nat
  high : Nat
  denominator : Nat
  closed : Bool

/-- The interval of `mantissa` times two to `exponent`. Below a power of two the neighbour is
nearer, except for the smallest normal number. -/
def interval (mantissa : Nat) (exponent : Int) : Interval :=
  let narrow := mantissa = Nat.pow 2 52 && -1074 < exponent
  let (scale, denominator) := fraction 1 (exponent - 2)
  { low := (4 * mantissa - if narrow then 1 else 2) * scale
    value := 4 * mantissa * scale
    high := (4 * mantissa + 2) * scale
    denominator
    closed := mantissa % 2 == 0 }

/-- Whether `n` over one lies in the interval scaled by `unit / denominator`. -/
def Interval.holds (i : Interval) (n : Nat) : Bool :=
  if i.closed then i.low ≤ n && n ≤ i.high else i.low < n && n < i.high

/-- The multiple of ten to `exponent` in the interval that is nearest to the value, if any. -/
def onGrid (i : Interval) (exponent : Int) : Option Nat :=
  let (up, down) :=
    match exponent with
    | .ofNat n => (Nat.pow 10 n, 1)
    | .negSucc n => (1, Nat.pow 10 (n + 1))
  let scaled : Interval :=
    { i with low := i.low * down, value := i.value * down, high := i.high * down }
  let unit := up * i.denominator
  let below := scaled.value / unit
  let hasBelow := 0 < below && scaled.holds (below * unit)
  let hasAbove := scaled.holds ((below + 1) * unit)
  if hasBelow && hasAbove then
    let under := scaled.value - below * unit
    let above := (below + 1) * unit - scaled.value
    if under < above || (under = above && below % 2 == 0) then some below else some (below + 1)
  else if hasBelow then some below
  else if hasAbove then some (below + 1)
  else none

/-- The first grid from `exponent` down that has a point in the interval. -/
def coarsest (i : Interval) : Nat → Int → Nat × Int
  | 0, exponent => (0, exponent)
  | fuel + 1, exponent =>
    match onGrid i exponent with
    | some digits => (digits, exponent)
    | none => coarsest i fuel (exponent - 1)

/-- The digits without trailing zeros and the exponent that goes with them. -/
def dropZeros : Nat → Nat → Int → Nat × Int
  | 0, digits, exponent => (digits, exponent)
  | fuel + 1, digits, exponent =>
    if digits ≠ 0 && digits % 10 = 0 then dropZeros fuel (digits / 10) (exponent + 1)
    else (digits, exponent)

/-- The shortest digits of a positive number and the power of ten they count. No binary number
reaches `10 ^ 309`, and none is finer than `10 ^ -324`. -/
def shortest (mantissa : Nat) (exponent : Int) : Nat × Int :=
  let (digits, exponent) := coarsest (interval mantissa exponent) 640 309
  dropZeros 20 digits exponent

end OracleCatalog.Binary64
