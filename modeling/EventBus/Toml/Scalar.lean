import EventBus.Json.Basic

/-!
The scalars of TOML that stand without quotes: truth values, numbers, dates and times.

A word is read as a whole; `Scalar.ofWord?` says which value it is, if any.  Dates and times have
no kind of their own and are given as text in their usual form.
-/

namespace EventBus.Toml

def digitIn? (base : Nat) (c : Char) : Option Nat :=
  let d :=
    if '0' ≤ c ∧ c ≤ '9' then c.toNat - '0'.toNat
    else if 'a' ≤ c ∧ c ≤ 'f' then c.toNat - 'a'.toNat + 10
    else if 'A' ≤ c ∧ c ≤ 'F' then c.toNat - 'A'.toNat + 10
    else base
  if d < base then some d else none

/-- Digits with single underscores between them, without the underscores. -/
def plainDigits? (base : Nat) : List Char → Option (List Char)
  | [] => none
  | [c] => if (digitIn? base c).isSome then some [c] else none
  | c :: '_' :: rest =>
    if (digitIn? base c).isSome then (plainDigits? base rest).map (c :: ·) else none
  | c :: rest => if (digitIn? base c).isSome then (plainDigits? base rest).map (c :: ·) else none

def digitsValue (base : Nat) (cs : List Char) : Nat :=
  cs.foldl (fun acc c => acc * base + (digitIn? base c).getD 0) 0

def bounded (i : Int) : Option Json :=
  if -0x8000000000000000 ≤ i ∧ i < 0x8000000000000000 then some (.whole i) else none

/-- A whole number after its sign: no zero may come before another digit. -/
def wholeDigits? (cs : List Char) : Option (List Char) :=
  match plainDigits? 10 cs with
  | some ('0' :: _ :: _) => none
  | r => r

def whole? : List Char → Option Json
  | '0' :: 'x' :: cs => (plainDigits? 16 cs).bind fun ds => bounded (digitsValue 16 ds)
  | '0' :: 'o' :: cs => (plainDigits? 8 cs).bind fun ds => bounded (digitsValue 8 ds)
  | '0' :: 'b' :: cs => (plainDigits? 2 cs).bind fun ds => bounded (digitsValue 2 ds)
  | '-' :: cs => (wholeDigits? cs).bind fun ds => bounded (-(digitsValue 10 ds : Int))
  | '+' :: cs => (wholeDigits? cs).bind fun ds => bounded (digitsValue 10 ds)
  | cs => (wholeDigits? cs).bind fun ds => bounded (digitsValue 10 ds)

/-- The parts of a word around the first character that `p` accepts. -/
def cut (p : Char → Bool) (cs : List Char) : List Char × Option (List Char) :=
  match cs.dropWhile (fun c => !p c) with
  | [] => (cs, none)
  | _ :: rest => (cs.takeWhile (fun c => !p c), some rest)

def signed : List Char → Bool × List Char
  | '-' :: cs => (true, cs)
  | '+' :: cs => (false, cs)
  | cs => (false, cs)

/-- A number with a point, an exponent, or both; one that is too large has no value. -/
def fraction? (word : List Char) : Option Json :=
  let (negative, cs) := signed word
  if cs = ['i', 'n', 'f'] then some (.float (.infinite negative))
  else if cs = ['n', 'a', 'n'] then some (.float .nan)
  else
    let (mantissa, exponent) := cut (fun c => c == 'e' || c == 'E') cs
    let (whole, decimals) := cut (· == '.') mantissa
    if decimals.isNone && exponent.isNone then none
    else
      let exponentValue : Option Int :=
        match exponent with
        | none => some 0
        | some e =>
          let (minus, digits) := signed e
          (plainDigits? 10 digits).map fun ds =>
            let n : Int := digitsValue 10 ds
            if minus then -n else n
      let decimalDigits : Option (List Char) :=
        match decimals with
        | none => some []
        | some ds => plainDigits? 10 ds
      match wholeDigits? whole, decimalDigits, exponentValue with
      | some ws, some ds, some e =>
        let digits := digitsValue 10 (ws ++ ds)
        match Number.Format.double.ofDecimal negative digits (e - ds.length) with
        | .infinite _ => none
        | x => some (.float x)
      | _, _, _ => none

/-! ### Dates and times -/

/-- A number of exactly `n` digits between two bounds, and what follows. -/
def fixed? (n low high : Nat) (cs : List Char) : Option (Nat × List Char) :=
  let ds := cs.take n
  if ds.length = n ∧ ds.all (fun c => (digitIn? 10 c).isSome) then
    let v := digitsValue 10 ds
    if low ≤ v ∧ v ≤ high then some (v, cs.drop n) else none
  else none

def padded (n v : Nat) : String :=
  let t := Number.natText v
  Number.zeros (n - t.length) ++ t

def daysIn (year month : Nat) : Nat :=
  if month = 2 then
    if year % 4 = 0 ∧ (year % 100 ≠ 0 ∨ year % 400 = 0) then 29 else 28
  else if month = 4 ∨ month = 6 ∨ month = 9 ∨ month = 11 then 30
  else 31

def expect (c : Char) : List Char → Option (List Char)
  | d :: rest => if c = d then some rest else none
  | [] => none

def date? (cs : List Char) : Option (String × List Char) := do
  let (year, cs) ← fixed? 4 0 9999 cs
  let cs ← expect '-' cs
  let (month, cs) ← fixed? 2 1 12 cs
  let cs ← expect '-' cs
  let (day, cs) ← fixed? 2 1 (daysIn year month) cs
  some (padded 4 year ++ "-" ++ padded 2 month ++ "-" ++ padded 2 day, cs)

/-- A fraction of a second in at most nine digits, without zeros at its end but with one digit at
least. -/
def secondFraction? (cs : List Char) : Option (String × List Char) :=
  match cs with
  | '.' :: rest =>
    let ds := rest.takeWhile (fun c => (digitIn? 10 c).isSome)
    if ds.isEmpty then none
    else
      let kept := ((ds.take 9).reverse.dropWhile (· == '0')).reverse
      some ("." ++ (if kept.isEmpty then "0" else String.ofList kept), rest.drop ds.length)
  | cs => some ("", cs)

def time? (cs : List Char) : Option (String × List Char) := do
  let (hour, cs) ← fixed? 2 0 23 cs
  let cs ← expect ':' cs
  let (minute, cs) ← fixed? 2 0 59 cs
  let start := padded 2 hour ++ ":" ++ padded 2 minute
  match cs with
  | ':' :: cs =>
    let (second, cs) ← fixed? 2 0 60 cs
    let (fraction, cs) ← secondFraction? cs
    some (start ++ ":" ++ padded 2 second ++ fraction, cs)
  | cs => some (start, cs)

def offset? : List Char → Option String
  | [] => some ""
  | ['Z'] | ['z'] => some "Z"
  | sign :: cs => do
    if sign ≠ '+' ∧ sign ≠ '-' then none
    else
      let (hour, cs) ← fixed? 2 0 23 cs
      let cs ← expect ':' cs
      let (minute, cs) ← fixed? 2 0 59 cs
      let sign := if hour = 0 ∧ minute = 0 then '+' else sign
      if cs.isEmpty then some (sign.toString ++ padded 2 hour ++ ":" ++ padded 2 minute) else none

def moment? (word : List Char) : Option Json :=
  match date? word with
  | some (date, []) => some (.text date)
  | some (date, sep :: rest) =>
    if sep ≠ 'T' ∧ sep ≠ 't' ∧ sep ≠ ' ' then none
    else
      (time? rest).bind fun t => (offset? t.2).map fun o => .text (date ++ "T" ++ t.1 ++ o)
  | none =>
    match time? word with
    | some (time, []) => some (.text time)
    | _ => none

def scalarOfWord? (word : List Char) : Option Json :=
  if word = ['t', 'r', 'u', 'e'] then some (.bool true)
  else if word = ['f', 'a', 'l', 's', 'e'] then some (.bool false)
  else
    match whole? word with
    | some v => some v
    | none =>
      match fraction? word with
      | some v => some v
      | none => moment? word

end EventBus.Toml
