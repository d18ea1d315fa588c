import EventBus.Json.Fault

/-!
The smallest parts of a JSON text: blanks, words, strings and numbers.

Each scanner takes the bytes to read and gives what it read and the bytes after it, or a fault.
Strings and numbers can also be skipped, which checks less than reading them.
-/

namespace EventBus.Json

abbrev Scan (α : Type) := Except Fault (α × Bytes)

def front : Bytes → Option Char
  | [] => none
  | b :: _ => some (Char.ofNat b.toNat)

def isGap (b : UInt8) : Bool := b == 32 || b == 10 || b == 9 || b == 13

def skipGaps (s : Bytes) : Bytes := s.dropWhile isGap

def isDigit (b : UInt8) : Bool := 48 ≤ b && b ≤ 57

def digitValue (b : UInt8) : Nat := b.toNat - 48

def digitAhead : Bytes → Bool
  | [] => false
  | b :: _ => isDigit b

def skipDigits (s : Bytes) : Bytes := s.dropWhile isDigit

def word : List Char → Bytes → Except Fault Bytes
  | [], s => .ok s
  | _ :: _, [] => fault .endOfValue []
  | c :: cs, b :: s => if b.toNat = c.toNat then word cs s else fault .expectedWord s

/-! ### Strings -/

def hexValue (b : UInt8) : Option Nat :=
  if 48 ≤ b && b ≤ 57 then some (b.toNat - 48)
  else if 65 ≤ b && b ≤ 70 then some (b.toNat - 55)
  else if 97 ≤ b && b ≤ 102 then some (b.toNat - 87)
  else none

def hexEscape : Bytes → Scan Nat
  | a :: b :: c :: d :: s =>
    match hexValue a, hexValue b, hexValue c, hexValue d with
    | some a, some b, some c, some d => .ok (((a * 16 + b) * 16 + c) * 16 + d, s)
    | _, _, _, _ => fault .invalidEscape s
  | _ => fault .endOfText []

/-- Reads the second half of a pair of escapes, of which the first was `high`. -/
def lowEscape (high : Nat) : Bytes → Scan Nat
  | [] => fault .endOfText []
  | b :: s =>
    -- A backslash and the letter `u` have to follow.
    if b ≠ 92 then fault .brokenSurrogate s
    else
      match s with
      | [] => fault .endOfText []
      | u :: s =>
        if u ≠ 117 then fault .brokenSurrogate s
        else
          match hexEscape s with
          | .error e => .error e
          | .ok (low, s) =>
            if low < 0xDC00 ∨ 0xDFFF < low then fault .loneSurrogate s
            else .ok ((high - 0xD800) * 1024 + (low - 0xDC00) + 0x10000, s)

def unicodeEscape (s : Bytes) : Scan Nat :=
  match hexEscape s with
  | .error e => .error e
  | .ok (n, s) =>
    if 0xDC00 ≤ n ∧ n ≤ 0xDFFF then fault .loneSurrogate s
    else if n < 0xD800 ∨ 0xDBFF < n then .ok (n, s)
    else lowEscape n s

def shortEscape (b : UInt8) : Option UInt8 :=
  match Char.ofNat b.toNat with
  | '"' => some 34
  | '\\' => some 92
  | '/' => some 47
  | 'b' => some 8
  | 'f' => some 12
  | 'n' => some 10
  | 'r' => some 13
  | 't' => some 9
  | _ => none

/-- Reads an escape after its backslash, as the bytes that it stands for. -/
def escape : Bytes → Scan Bytes
  | [] => fault .endOfText []
  | b :: s =>
    if b = 117 then
      match unicodeEscape s with
      | .error e => .error e
      | .ok (n, s) => .ok (bytesOf (Char.ofNat n).toString, s)
    else
      match shortEscape b with
      | some x => .ok ([x], s)
      | none => fault .invalidEscape s

/-- Reads a string after its opening quote; `done` holds the bytes read, last first. -/
def stringBody : Nat → Bytes → Bytes → Scan Bytes
  | 0, _, s => fault .endOfText s
  | _, _, [] => fault .endOfText []
  | fuel + 1, done, b :: s =>
    if b = 34 then .ok (done.reverse, s)
    else if b = 92 then
      match escape s with
      | .error e => .error e
      | .ok (x, s) => stringBody fuel (x.reverse ++ done) s
    else if b < 32 then fault .controlCharacter s
    else stringBody fuel (b :: done) s

def textOf (bs : Bytes) : String := (String.fromUTF8? ⟨bs.toArray⟩).getD ""

def string (s : Bytes) : Scan String :=
  match stringBody (s.length + 1) [] s with
  | .error e => .error e
  | .ok (bs, s) => .ok (textOf bs, s)

def skipEscape : Bytes → Except Fault Bytes
  | [] => fault .endOfText []
  | b :: s =>
    if b = 117 then (hexEscape s).map (·.2)
    else if (shortEscape b).isSome then .ok s
    else fault .invalidEscape s

def skipString : Nat → Bytes → Except Fault Bytes
  | 0, s => fault .endOfText s
  | _, [] => fault .endOfText []
  | fuel + 1, b :: s =>
    if b = 34 then .ok s
    else if b = 92 then
      match skipEscape s with
      | .error e => .error e
      | .ok s => skipString fuel s
    else if b < 32 then fault .controlCharacter (b :: s)
    else skipString fuel s

/-! ### Numbers -/

def significandLimit : Nat := 0xFFFFFFFFFFFFFFFF

def exponentLimit : Nat := 0x7FFFFFFF

/-- Reads digits into a significand, as long as it stays below a limit.  Gives the significand,
the number of digits read, and whether a digit would have taken it above the limit. -/
def boundedDigits (limit acc count : Nat) : Bytes → Nat × Nat × Bool × Bytes
  | [] => (acc, count, false, [])
  | b :: s =>
    if isDigit b then
      if limit < acc * 10 + digitValue b then (acc, count, true, b :: s)
      else boundedDigits limit (acc * 10 + digitValue b) (count + 1) s
    else (acc, count, false, b :: s)

/-- Scales a number down until its exponent is at most 308 below zero. -/
def scaleDown : Nat → Number.Binary → Int → Number.Binary × Int
  | 0, f, e => (f, e)
  | fuel + 1, f, e =>
    if e < -308 ∧ f ≠ .zero false then
      scaleDown fuel (f.div .double (Number.Format.double.round false (Nat.pow 10 308) 1)) (e + 308)
    else (f, e)

/-- The number nearest to the significand, times a power of ten, each rounded; none if it is too
large. -/
def scaled (significand : Nat) (exponent : Int) : Option Number.Binary :=
  let fmt := Number.Format.double
  match scaleDown 4 (fmt.round false significand 1) exponent with
  | (f, e) =>
    if f = .zero false then some f
    else if 308 < e then none
    else
      match e with
      | .ofNat n =>
        match f.mul fmt (fmt.round false (Nat.pow 10 n) 1) with
        | .infinite _ => none
        | x => some x
      | .negSucc n =>
        if 308 < n + 1 then some (.zero false)
        else some (f.div fmt (fmt.round false (Nat.pow 10 (n + 1)) 1))

def fractionFrom (positive : Bool) (significand : Nat) (exponent : Int) (rest : Bytes) :
    Scan Json :=
  match scaled significand exponent with
  | none => fault .numberOutOfRange rest
  | some x => .ok (.float (if positive then x else x.neg), rest)

def exponentPart (positive : Bool) (significand : Nat) (start : Int) (s : Bytes) : Scan Json :=
  let sign : Bool × Bytes :=
    match front s, s with
    | some '+', _ :: s => (true, s)
    | some '-', _ :: s => (false, s)
    | _, s => (true, s)
  match sign.2 with
  | [] => fault .endOfValue []
  | b :: s =>
    if !isDigit b then fault .invalidNumber s
    else
      match boundedDigits exponentLimit (digitValue b) 0 s with
      | (e, _, false, s) =>
        fractionFrom positive significand (if sign.1 then start + e else start - e) s
      | (_, _, true, s) =>
        if significand ≠ 0 ∧ sign.1 then fault .numberOutOfRange (s.drop 1)
        else .ok (.float (.zero (!positive)), skipDigits s)

def afterDigits (positive : Bool) (significand : Nat) (exponent : Int) (s : Bytes) : Scan Json :=
  match front s with
  | some 'e' | some 'E' => exponentPart positive significand exponent (s.drop 1)
  | _ => fractionFrom positive significand exponent s

/-- Reads the digits after a point.  Digits that the significand cannot hold do not count. -/
def decimalPart (positive : Bool) (significand : Nat) (exponent : Int) (s : Bytes) : Scan Json :=
  match boundedDigits significandLimit significand 0 s with
  | (n, count, true, s) => afterDigits positive n (exponent - count) (skipDigits s)
  | (_, 0, false, s) =>
    match s with
    | [] => faultAt .endOfValue s
    | _ :: _ => faultAt .invalidNumber s
  | (n, count, false, s) => afterDigits positive n (exponent - count) s

def afterWhole (positive : Bool) (significand : Nat) (s : Bytes) : Scan Json :=
  match front s with
  | some '.' => decimalPart positive significand 0 (s.drop 1)
  | some 'e' | some 'E' => exponentPart positive significand 0 (s.drop 1)
  | _ =>
    if positive then .ok (.whole significand, s)
    else if significand = 0 ∨ 0x8000000000000000 < significand then
      .ok (.float (Number.Format.double.round true significand 1), s)
    else .ok (.whole (-(significand : Int)), s)

/-- The end of a number whose whole part is too long: its further digits only count. -/
def afterLongWhole (positive : Bool) (significand : Nat) (s : Bytes) : Scan Json :=
  let count := (s.takeWhile isDigit).length
  let rest := skipDigits s
  match front rest with
  | some '.' => decimalPart positive significand count (rest.drop 1)
  | _ => afterDigits positive significand count rest

def number (positive : Bool) : Bytes → Scan Json
  | [] => fault .endOfValue []
  | b :: s =>
    if b = 48 then
      if digitAhead s then faultAt .invalidNumber s else afterWhole positive 0 s
    else if isDigit b then
      match boundedDigits significandLimit (digitValue b) 0 s with
      | (n, _, false, s) => afterWhole positive n s
      | (n, _, true, s) => afterLongWhole positive n s
    else fault .invalidNumber s

def skipExponent (s : Bytes) : Except Fault Bytes :=
  let s := match front s with
    | some '+' | some '-' => s.drop 1
    | _ => s
  match s with
  | [] => fault .invalidNumber []
  | b :: s => if isDigit b then .ok (skipDigits s) else fault .invalidNumber s

/-- Skips the end of a number of which the whole part has been skipped. -/
def skipFraction (s : Bytes) : Except Fault Bytes :=
  match front s with
  | some '.' =>
    let s := s.drop 1
    if !digitAhead s then faultAt .invalidNumber s
    else
      let s := skipDigits s
      match front s with
      | some 'e' | some 'E' => skipExponent (s.drop 1)
      | _ => .ok s
  | some 'e' | some 'E' => skipExponent (s.drop 1)
  | _ => .ok s

def skipNumber : Bytes → Except Fault Bytes
  | [] => fault .invalidNumber []
  | b :: s =>
    if b = 48 then
      if digitAhead s then faultAt .invalidNumber s else skipFraction s
    else if isDigit b then skipFraction (skipDigits s)
    else fault .invalidNumber s

end EventBus.Json
