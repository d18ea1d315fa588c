/-!
Binary floating point numbers as exact values: a sign, a whole significand and a power of two.

A `Format` says how many bits the significand has and how small the unit of the last bit can get.
`Format.round` takes a fraction to the nearest number of a format, halves to the even neighbour;
`Binary.mul` and `Binary.div` are the exact results rounded once.
-/

namespace EventBus.Number

/-- The parameters of a binary format. -/
structure Format where
  precision : Nat
  minExponent : Int
  maxExponent : Int
deriving DecidableEq, Repr

def Format.single : Format := ⟨24, -149, 104⟩

def Format.double : Format := ⟨53, -1074, 971⟩

/-- A floating point number; a finite one is `significand * 2 ^ exponent` up to its sign. -/
inductive Binary where
  | nan
  | infinite (negative : Bool)
  | finite (negative : Bool) (significand : Nat) (exponent : Int)
deriving DecidableEq, Repr

namespace Binary

def zero (negative : Bool) : Binary := .finite negative 0 0

end Binary

/-- `num / den` rounded to a whole number, halves to the even neighbour. -/
def roundHalfEven (num den : Nat) : Nat :=
  let q := num / den
  let r := num % den
  if 2 * r < den then q else if den < 2 * r then q + 1 else if q % 2 = 0 then q else q + 1

def scaleFraction (num den : Nat) (e : Int) : Nat × Nat :=
  match e with
  | .ofNat n => (num * Nat.pow 2 n, den)
  | .negSucc n => (num, den * Nat.pow 2 (n + 1))

/-- The exponent `e` for which `2 ^ e ≤ num / den < 2 ^ (e + 1)`, for positive `num` and `den`. -/
def floorLog2 (num den : Nat) : Int :=
  let guess : Int := (num.log2 : Int) - (den.log2 : Int)
  let scaled := scaleFraction num den (-guess)
  if scaled.1 < scaled.2 then guess - 1 else guess

/-- The number of the format nearest to `num / den`, halves to the even significand. -/
def Format.round (fmt : Format) (negative : Bool) (num den : Nat) : Binary :=
  if num = 0 then .zero negative
  else
    let unit := max (floorLog2 num den - (fmt.precision : Int) + 1) fmt.minExponent
    let scaled := scaleFraction num den (-unit)
    let significand := roundHalfEven scaled.1 scaled.2
    -- Rounding up may make the significand one digit longer.
    let carried : Nat × Int :=
      if significand = Nat.pow 2 fmt.precision then
        (Nat.pow 2 (fmt.precision - 1), unit + 1)
      else (significand, unit)
    if carried.1 = 0 then .zero negative
    else if fmt.maxExponent < carried.2 then .infinite negative
    else .finite negative carried.1 carried.2

namespace Binary

def fraction (significand : Nat) (exponent : Int) : Nat × Nat :=
  scaleFraction significand 1 exponent

def mul (fmt : Format) : Binary → Binary → Binary
  | .finite s m e, .finite t n f =>
    let value := fraction (m * n) (e + f)
    fmt.round (s != t) value.1 value.2
  | .nan, _ => .nan
  | _, .nan => .nan
  | .infinite s, .finite t n _ => if n = 0 then .nan else .infinite (s != t)
  | .finite s m _, .infinite t => if m = 0 then .nan else .infinite (s != t)
  | .infinite s, .infinite t => .infinite (s != t)

def div (fmt : Format) : Binary → Binary → Binary
  | .finite s m e, .finite t n f =>
    if n = 0 then (if m = 0 then .nan else .infinite (s != t))
    else
      let above := fraction m (e - f)
      fmt.round (s != t) above.1 (above.2 * n)
  | .nan, _ => .nan
  | _, .nan => .nan
  | .infinite s, .finite t _ _ => .infinite (s != t)
  | .finite s _ _, .infinite t => .zero (s != t)
  | .infinite _, .infinite _ => .nan

def neg : Binary → Binary
  | .nan => .nan
  | .infinite s => .infinite !s
  | .finite s m e => .finite (!s) m e

end Binary

end EventBus.Number
