import FuzzDict.Log.Filter
/-!
# Log records

A record is written on one line: its level, five characters wide, its
target, a colon, its message, and then each field as ` name=value`. In the
message, the characters that would steer a terminal are written as escapes:
escape, bell, backspace, form feed and delete as `\x` and two hexadecimal
digits, and the control characters `U+0080..U+009F` as `\u` and their code
point between braces.
-/

namespace FuzzDict.Log

/-- A log record. -/
structure Record where
  level : Level
  target : String
  message : String
  /-- The line of the grammar the record is about, if any. -/
  line : Option Nat := none

/-- Two lowercase hexadecimal digits of a byte. -/
def hex2 (n : Nat) : String :=
  let d := fun (k : Nat) => if k < 10 then Char.ofNat (48 + k) else Char.ofNat (87 + k)
  String.ofList [d (n / 16 % 16), d (n % 16)]

/-- How one character of a message is written. -/
def escapeChar (c : Char) : String :=
  let n := c.toNat
  if n = 0x1B || n = 0x07 || n = 0x08 || n = 0x0C || n = 0x7F then "\\x" ++ hex2 n
  else if 0x80 ≤ n && n ≤ 0x9F then "\\u" ++ "\x7b" ++ hex2 n ++ "\x7d"
  else String.singleton c

/-- A message with the characters that steer a terminal escaped. -/
def escape (s : String) : String :=
  String.join (s.toList.map escapeChar)

namespace Record

/-- The names of the fields a record carries. -/
def fields (r : Record) : List String :=
  if r.line.isSome then ["message", "line"] else ["message"]

/-- The line of a record, with its line break. -/
def render (r : Record) : String :=
  let lineField := match r.line with
    | some n => " line=" ++ toString n
    | none => ""
  r.level.label ++ " " ++ r.target ++ ": " ++ escape r.message ++ lineField ++ "\n"

/-- The lines of the records that a filter lets through, in order. -/
def renderAll (f : Filter) (rs : List Record) : String :=
  String.join ((rs.filter fun r => f.allows r.level r.target r.fields).map render)

end Record

end FuzzDict.Log
