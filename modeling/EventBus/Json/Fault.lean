import EventBus.Json.Basic

/-!
Faults of a JSON text, and where they are noticed.

A text is read as bytes.  A fault is noticed at a point of the text, which is kept as the number
of bytes that follow it; `Position.after` turns it into a line and a column in bytes.
-/

namespace EventBus.Json

abbrev Bytes := List UInt8

def bytesOf (s : String) : Bytes := s.toUTF8.toList

/-- What is wrong with a text. -/
inductive Cause where
  | endOfList
  | endOfObject
  | endOfText
  | endOfValue
  | expectedColon
  | expectedListEnd
  | expectedObjectEnd
  | expectedWord
  | expectedValue
  | invalidEscape
  | invalidNumber
  | numberOutOfRange
  | loneSurrogate
  | brokenSurrogate
  | controlCharacter
  | keyNotText
  | trailingComma
  | trailingCharacters
  | tooDeep
  | mismatch (m : Mismatch)
deriving DecidableEq, Repr

def Cause.message : Cause → String
  | .endOfList => "EOF while parsing a list"
  | .endOfObject => "EOF while parsing an object"
  | .endOfText => "EOF while parsing a string"
  | .endOfValue => "EOF while parsing a value"
  | .expectedColon => "expected `:`"
  | .expectedListEnd => "expected `,` or `]`"
  | .expectedObjectEnd => "expected `,` or `\x7d`"
  | .expectedWord => "expected ident"
  | .expectedValue => "expected value"
  | .invalidEscape => "invalid escape"
  | .invalidNumber => "invalid number"
  | .numberOutOfRange => "number out of range"
  | .loneSurrogate => "lone leading surrogate in hex escape"
  | .brokenSurrogate => "unexpected end of hex escape"
  | .controlCharacter =>
    "control character (\\u0000-\\u001F) found while parsing a string"
  | .keyNotText => "key must be a string"
  | .trailingComma => "trailing comma"
  | .trailingCharacters => "trailing characters"
  | .tooDeep => "recursion limit exceeded"
  | .mismatch m => m.message

/-- A fault, with the number of bytes after the point where it was noticed. -/
structure Fault where
  cause : Cause
  left : Nat
deriving DecidableEq, Repr

def fault {α : Type} (cause : Cause) (rest : Bytes) : Except Fault α :=
  .error ⟨cause, rest.length⟩

/-- A fault noticed at the first byte of `rest`, which is counted as read. -/
def faultAt {α : Type} (cause : Cause) (rest : Bytes) : Except Fault α :=
  .error ⟨cause, rest.length - 1⟩

/-- A place in a text: lines count from one, columns are the bytes since the last line end. -/
structure Position where
  line : Nat
  column : Nat
deriving DecidableEq, Repr

def Position.after (read : Bytes) : Position :=
  read.foldl (fun p b => if b = 10 then ⟨p.line + 1, 0⟩ else ⟨p.line, p.column + 1⟩) ⟨1, 0⟩

def Fault.message (whole : Bytes) (f : Fault) : String :=
  let p := Position.after (whole.take (whole.length - f.left))
  f.cause.message ++ " at line " ++ Number.natText p.line ++ " column " ++
    Number.natText p.column

end EventBus.Json
