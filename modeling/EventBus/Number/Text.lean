import EventBus.Number.Shortest

/-!
Numbers as text: reading a decimal, and the two layouts in which a floating point number is
written.

`positional` writes all digits and no exponent.  `compact` keeps a fraction digit and changes to
an exponent from `10 ^ 16` on and for small numbers; a `Layout` says from where, and how the
exponent is written.
-/

namespace EventBus.Number

def natText (n : Nat) : String :=
  String.ofList (Nat.toDigits 10 n)

/-- `i` in decimal digits, a minus sign in front if it is negative. -/
def intText : Int → String
  | .ofNat n => natText n
  | .negSucc n => "-" ++ natText (n + 1)

def zeros (n : Nat) : String :=
  String.ofList (List.replicate n '0')

/-- A decimal with all its digits and, if `pointed`, at least one digit after the point. -/
def Decimal.positional (d : Decimal) (pointed : Bool) : String :=
  let text := natText d.digits
  match d.scale with
  | .ofNat n => text ++ zeros n ++ (if pointed then ".0" else "")
  | .negSucc n =>
    let places := n + 1
    if text.length ≤ places then "0." ++ zeros (places - text.length) ++ text
    else
      let cut := text.length - places
      String.ofList (text.toList.take cut) ++ "." ++ String.ofList (text.toList.drop cut)

/-- A decimal with one digit before the point and a power of ten; a power that is not negative
has a plus sign if `plus`. -/
def Decimal.scientific (d : Decimal) (plus : Bool) : String :=
  let text := natText d.digits
  let exponent := d.scale + (text.length : Int) - 1
  let mantissa :=
    match text.toList with
    | [] => ""
    | [c] => c.toString
    | c :: rest => c.toString ++ "." ++ String.ofList rest
  mantissa ++ "e" ++ (if plus && 0 ≤ exponent then "+" else "") ++ intText exponent

/-- The power of ten just above a decimal: the value is below `10 ^ magnitude`. -/
def Decimal.magnitude (d : Decimal) : Int :=
  d.scale + ((natText d.digits).length : Int)

def signText (negative : Bool) : String :=
  if negative then "-" else ""

def Binary.positional (fmt : Format) : Binary → String
  | .nan => "NaN"
  | .infinite s => signText s ++ "inf"
  | .finite s 0 _ => signText s ++ "0"
  | .finite s m e => signText s ++ (fmt.shortest .away m e).positional false

def Binary.pointed (fmt : Format) : Binary → String
  | .finite s 0 _ => signText s ++ "0.0"
  | .finite s m e => signText s ++ (fmt.shortest .away m e).positional true
  | x => x.positional fmt

/-- How numbers are written that may have an exponent. -/
structure Layout where
  tie : Tie
  least : Int
  plus : Bool
deriving DecidableEq, Repr

/-- With a point; with an exponent from `10 ^ 16` on and below the layout's least magnitude. -/
def Binary.compact (fmt : Format) (x : Binary) (layout : Layout) : String :=
  match x with
  | .finite s (m + 1) e =>
    let d := fmt.shortest layout.tie (m + 1) e
    if layout.least ≤ d.magnitude ∧ d.magnitude ≤ 16 then signText s ++ d.positional true
    else signText s ++ d.scientific layout.plus
  | x => x.pointed fmt

def digit? (c : Char) : Option Nat :=
  if '0' ≤ c ∧ c ≤ '9' then some (c.toNat - '0'.toNat) else none

/-- The digits at the front: their value, their count and what follows. -/
def takeDigits (acc count : Nat) : List Char → Nat × Nat × List Char
  | [] => (acc, count, [])
  | c :: rest =>
    match digit? c with
    | some d => takeDigits (acc * 10 + d) (count + 1) rest
    | none => (acc, count, c :: rest)

def readNat? (cs : List Char) : Option Nat :=
  match takeDigits 0 0 cs with
  | (n, _ + 1, []) => some n
  | _ => none

def readInt? : List Char → Option Int
  | '-' :: cs => (readNat? cs).map fun n => -(n : Int)
  | '+' :: cs => (readNat? cs).map fun n => (n : Int)
  | cs => (readNat? cs).map fun n => (n : Int)

/-- The number of the format nearest to `digits * 10 ^ scale`.  Scales far outside the format's
range are settled without computing the power. -/
def Format.ofDecimal (fmt : Format) (negative : Bool) (digits : Nat) (scale : Int) : Binary :=
  let magnitude := scale + ((natText digits).length : Int)
  if digits = 0 then .zero negative
  else if 400 < magnitude then .infinite negative
  else if magnitude < -400 then .zero negative
  else
    match scale with
    | .ofNat n => fmt.round negative (digits * Nat.pow 10 n) 1
    | .negSucc n => fmt.round negative digits (Nat.pow 10 (n + 1))

def readExponent? : List Char → Option Int
  | [] => some 0
  | 'e' :: cs => readInt? cs
  | 'E' :: cs => readInt? cs
  | _ => none

/-- An unsigned number: digits with an optional point and an optional exponent. -/
def Format.readUnsigned? (fmt : Format) (negative : Bool) (cs : List Char) : Option Binary :=
  match takeDigits 0 0 cs with
  | (whole, n, '.' :: rest) =>
    match takeDigits whole 0 rest with
    | (digits, k, tail) =>
      if n + k = 0 then none
      else (readExponent? tail).map fun e => fmt.ofDecimal negative digits (e - (k : Int))
  | (whole, n, tail) =>
    if n = 0 then none
    else (readExponent? tail).map fun e => fmt.ofDecimal negative whole e

/-- Reads a number with an optional sign; `nan`, `inf` and `infinity` are read in any case. -/
def Format.read? (fmt : Format) (s : String) : Option Binary :=
  let split : Bool × List Char :=
    match s.toList with
    | '-' :: cs => (true, cs)
    | '+' :: cs => (false, cs)
    | cs => (false, cs)
  let word := String.ofList (split.2.map Char.toLower)
  if word = "nan" then some .nan
  else if word = "inf" ∨ word = "infinity" then some (.infinite split.1)
  else fmt.readUnsigned? split.1 split.2

end EventBus.Number
