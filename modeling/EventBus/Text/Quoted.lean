import EventBus.Text.Unprintable

/-!
Quoted texts: how a string or a character is shown between quotes, on one line and without
anything invisible.

`quote` shows a string, `quoteChar` a single character; they differ in the quote that has to be
escaped.
-/

namespace EventBus.Text

def hexDigits (n : Nat) : String :=
  String.ofList (Nat.toDigits 16 n)

def escapeChar (delimiter c : Char) : String :=
  if c = '\x00' then "\\0"
  else if c = '\t' then "\\t"
  else if c = '\r' then "\\r"
  else if c = '\n' then "\\n"
  else if c = '\\' then "\\\\"
  else if c = delimiter then "\\" ++ c.toString
  else if Unprintable.contains c then "\\u\x7b" ++ hexDigits c.toNat ++ "\x7d"
  else c.toString

def quote (s : String) : String :=
  "\"" ++ s.foldl (fun acc c => acc ++ escapeChar '"' c) "" ++ "\""

def quoteChar (c : Char) : String :=
  "'" ++ escapeChar '\'' c ++ "'"

end EventBus.Text
