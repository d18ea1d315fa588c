import EventBus.Event.Type
import EventBus.Number.Text
import EventBus.Text.Quoted

/-!
Plain values that can be posted as events: numbers, characters, texts, durations.  None of them
has a supertype or a view.

`Scalar.type` is the event type of a value and `Scalar.written` its written form.
-/

namespace EventBus

/-- The widths of whole numbers. -/
inductive IntWidth where
  | i8 | i16 | i32 | i64 | i128 | isize | u8 | u16 | u32 | u64 | u128 | usize
deriving DecidableEq, Repr

namespace IntWidth

def name : IntWidth → String
  | i8 => "i8"
  | i16 => "i16"
  | i32 => "i32"
  | i64 => "i64"
  | i128 => "i128"
  | isize => "isize"
  | u8 => "u8"
  | u16 => "u16"
  | u32 => "u32"
  | u64 => "u64"
  | u128 => "u128"
  | usize => "usize"

def all : List IntWidth :=
  [i8, i16, i32, i64, i128, isize, u8, u16, u32, u64, u128, usize]

end IntWidth

/-- The ways to hold a text: borrowed, owned, or either of the two. -/
inductive TextHolding where
  | borrowed | owned | either
deriving DecidableEq, Repr

/-- A plain value. -/
inductive Scalar where
  | unit
  | bool (value : Bool)
  | char (value : Char)
  | int (width : IntWidth) (value : Int)
  | single (value : Number.Binary)
  | double (value : Number.Binary)
  | text (holding : TextHolding) (value : String)
  | duration (seconds nanos : Nat)
deriving DecidableEq, Repr

namespace EventType

def unit : EventType := ⟨"()"⟩
def bool : EventType := ⟨"bool"⟩
def char : EventType := ⟨"char"⟩
def single : EventType := ⟨"f32"⟩
def double : EventType := ⟨"f64"⟩
def duration : EventType := ⟨"core::time::Duration"⟩

def int (width : IntWidth) : EventType := ⟨width.name⟩

def text : TextHolding → EventType
  | .borrowed => ⟨"&str"⟩
  | .owned => ⟨"alloc::string::String"⟩
  | .either => ⟨"alloc::borrow::Cow<'_, str>"⟩

def scalars : List EventType :=
  [unit, bool, char] ++ IntWidth.all.map int ++
    [single, double, text .borrowed, text .owned, text .either, duration]

end EventType

namespace Duration

/-- A whole number and the digits of a fraction of `places` digits, without zeros at its end. -/
def fractional (whole fraction places : Nat) : String :=
  let digits := Number.natText fraction
  let padded := Number.zeros (places - digits.length) ++ digits
  let kept := (padded.toList.reverse.dropWhile (· == '0')).reverse
  if kept.isEmpty then Number.natText whole
  else Number.natText whole ++ "." ++ String.ofList kept

/-- A duration in the largest unit of which it has at least one. -/
def text (seconds nanos : Nat) : String :=
  let s := seconds + nanos / 1000000000
  let n := nanos % 1000000000
  if 0 < s then fractional s n 9 ++ "s"
  else if 1000000 ≤ n then fractional (n / 1000000) (n % 1000000) 6 ++ "ms"
  else if 1000 ≤ n then fractional (n / 1000) (n % 1000) 3 ++ "µs"
  else fractional n 0 0 ++ "ns"

end Duration

namespace Scalar

def type : Scalar → EventType
  | unit => .unit
  | bool _ => .bool
  | char _ => .char
  | int w _ => .int w
  | single _ => .single
  | double _ => .double
  | text h _ => .text h
  | duration _ _ => .duration

/-- Numbers are written with an exponent from `10 ^ 16` on and below `10 ^ -4`; a half goes away
from zero. -/
def layout : Number.Layout := ⟨.away, -3, false⟩

def written : Scalar → String
  | unit => "()"
  | bool b => if b then "true" else "false"
  | char c => Text.quoteChar c
  | int _ i => Number.intText i
  | single x => x.compact .single layout
  | double x => x.compact .double layout
  | text _ s => Text.quote s
  | duration s n => Duration.text s n

end Scalar

end EventBus
