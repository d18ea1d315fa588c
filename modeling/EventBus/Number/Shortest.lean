import EventBus.Number.Binary

/-!
The shortest decimal of a binary number: the fewest digits that read back as the same number, and
of those the nearest to it.  Two that are equally near are a tie, which the caller settles.

The reals that round to a number form an interval.  For one digit, two digits and so on, the two
neighbours of the number on that decimal grid are tried, and the first grid with a point in the
interval wins: if a grid has a point in the interval, one of the two neighbours is such a point.
-/

namespace EventBus.Number

/-- Which of two equally near decimals is taken. -/
inductive Tie where
  | even
  | away
deriving DecidableEq, Repr

/-- Digits and a scale: the value `digits * 10 ^ scale`. -/
structure Decimal where
  digits : Nat
  scale : Int
deriving DecidableEq, Repr

def fractionBelow (inclusive : Bool) (a b c d : Nat) : Bool :=
  if inclusive then decide (a * d ≤ c * b) else decide (a * d < c * b)

/-- The interval of reals that round to one number, scaled by a common denominator. -/
structure RoundingInterval where
  low : Nat
  value : Nat
  high : Nat
  den : Nat
  /-- The ends belong to the interval exactly when the significand is even. -/
  inclusive : Bool
deriving Repr

/-- The interval of `significand * 2 ^ exponent`: half a unit on each side, and below a power of
two, where the unit halves, a quarter. -/
def Format.roundingInterval (fmt : Format) (significand : Nat) (exponent : Int) :
    RoundingInterval :=
  let narrow := significand = Nat.pow 2 (fmt.precision - 1) ∧ fmt.minExponent < exponent
  let low := 4 * significand - (if narrow then 1 else 2)
  let shifted := scaleFraction 1 1 (exponent - 2)
  { low := low * shifted.1, value := 4 * significand * shifted.1,
    high := (4 * significand + 2) * shifted.1, den := shifted.2,
    inclusive := significand % 2 == 0 }

def RoundingInterval.holds (i : RoundingInterval) (d : Decimal) : Bool :=
  let point : Nat × Nat :=
    match d.scale with
    | .ofNat n => (d.digits * Nat.pow 10 n, 1)
    | .negSucc n => (d.digits, Nat.pow 10 (n + 1))
  fractionBelow i.inclusive i.low i.den point.1 point.2 &&
    fractionBelow i.inclusive point.1 point.2 i.high i.den

/-- Whether a tie above the decimal with these digits goes to the upper one. -/
def Tie.goesUp : Tie → Nat → Bool
  | even, below => below % 2 == 1
  | away, _ => true

/-- The two neighbours of the value on the grid of multiples of `10 ^ scale`, and whether the
upper one is to be taken of the two. -/
def RoundingInterval.neighbours (i : RoundingInterval) (tie : Tie) (scale : Int) :
    Decimal × Decimal × Bool :=
  let scaled : Nat × Nat :=
    match scale with
    | .ofNat n => (i.value, i.den * Nat.pow 10 n)
    | .negSucc n => (i.value * Nat.pow 10 (n + 1), i.den)
  let below := scaled.1 / scaled.2
  let rest := scaled.1 % scaled.2
  let upperTaken := 2 * rest > scaled.2 || (2 * rest == scaled.2 && tie.goesUp below)
  (⟨below, scale⟩, ⟨below + 1, scale⟩, upperTaken)

def RoundingInterval.onGrid? (i : RoundingInterval) (tie : Tie) (scale : Int) : Option Decimal :=
  match i.neighbours tie scale with
  | (below, above, upperTaken) =>
    -- Zero is no shorter way to write a number that is not zero.
    match i.holds below && below.digits != 0, i.holds above with
    | true, true => some (if upperTaken then above else below)
    | true, false => some below
    | false, true => some above
    | false, false => none

def RoundingInterval.search (i : RoundingInterval) (tie : Tie) (scale : Int) : Nat → Decimal
  | 0 => (i.neighbours tie scale).1
  | n + 1 =>
    match i.onGrid? tie scale with
    | some d => d
    | none => i.search tie (scale - 1) n

def Decimal.normalize (d : Decimal) : Nat → Decimal
  | 0 => d
  | n + 1 =>
    if d.digits ≠ 0 ∧ d.digits % 10 = 0 then
      Decimal.normalize ⟨d.digits / 10, d.scale + 1⟩ n
    else d

/-- An exponent `k` with `num / den < 10 ^ k`, at most two above the least one. -/
def decimalExponent (num den : Nat) : Int :=
  (floorLog2 num den + 1) * 30103 / 100000 + 1

/-- The shortest decimal that reads back as `significand * 2 ^ exponent`, which is not zero. -/
def Format.shortest (fmt : Format) (tie : Tie) (significand : Nat) (exponent : Int) : Decimal :=
  let i := fmt.roundingInterval significand exponent
  -- Seventeen digits are enough for every format in use.
  (i.search tie (decimalExponent i.value i.den) 25).normalize 25

end EventBus.Number
