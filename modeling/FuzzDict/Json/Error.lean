import FuzzDict.Decimal.Shortest
import FuzzDict.Text.Quoted
/-!
# Errors of the JSON reader

A reading error names what went wrong and where. The place is kept as the
number of input bytes after it, so that it survives as the reader walks on;
`Error.locate` turns it into a line (from 1) and a column (in bytes, from 0,
counted from the start of the line).

Errors about a value of the wrong kind describe the value found and the
value wanted: `invalid type: integer `5`, expected a string`.
-/

namespace FuzzDict.Json

open Text

/-- A value met where another was wanted, as a message describes it. -/
inductive Unexpected where
  | null
  | bool (b : Bool)
  | unsigned (n : Nat)
  | signed (i : Int)
  | float (f : Float)
  | str (s : String)
  | seq
  | map

/-- What the reader wanted to find. -/
inductive Expected where
  /-- A whole extraction policy. -/
  | policy
  /-- A string of exactly one character. -/
  | char
  /-- A string. -/
  | string
  /-- An array of strings. -/
  | list
  deriving Repr, DecidableEq

/-- What went wrong while reading. -/
inductive Fault where
  | eofList
  | eofObject
  | eofString
  | eofValue
  | expectedColon
  | expectedListEnd
  | expectedObjectEnd
  | expectedIdent
  | expectedValue
  | invalidEscape
  | invalidNumber
  | numberOutOfRange
  | controlCharacter
  | keyNotString
  | loneLeadingSurrogate
  | trailingComma
  | trailingCharacters
  | unexpectedEndOfHexEscape
  | invalidType (found : Unexpected) (wanted : Expected)
  | invalidValue (found : Unexpected) (wanted : Expected)
  | duplicateField (name : String)

/-- A reading error, placed by the number of input bytes that follow it. -/
structure Error where
  fault : Fault
  left : Nat

/-- A reading error placed by line and column. -/
structure Located where
  fault : Fault
  line : Nat
  column : Nat

namespace Unexpected

/-- How a message names the value found. -/
def describe : Unexpected → String
  | null => "null"
  | bool b => "boolean `" ++ toString b ++ "`"
  | unsigned n => "integer `" ++ toString n ++ "`"
  | signed i => "integer `" ++ toString i ++ "`"
  | float f => "floating point `" ++ Decimal.render f ++ "`"
  | str s => "string " ++ Quoted.quote s
  | seq => "sequence"
  | map => "map"

end Unexpected

/-- How a message names the value wanted. -/
def Expected.describe : Expected → String
  | .policy => "struct Config"
  | .char => "a character"
  | .string => "a string"
  | .list => "a sequence"

/-- The text of a fault. -/
def Fault.describe : Fault → String
  | .eofList => "EOF while parsing a list"
  | .eofObject => "EOF while parsing an object"
  | .eofString => "EOF while parsing a string"
  | .eofValue => "EOF while parsing a value"
  | .expectedColon => "expected `:`"
  | .expectedListEnd => "expected `,` or `]`"
  | .expectedObjectEnd => "expected `,` or `\x7d`"
  | .expectedIdent => "expected ident"
  | .expectedValue => "expected value"
  | .invalidEscape => "invalid escape"
  | .invalidNumber => "invalid number"
  | .numberOutOfRange => "number out of range"
  | .controlCharacter => "control character (\\u0000-\\u001F) found while parsing a string"
  | .keyNotString => "key must be a string"
  | .loneLeadingSurrogate => "lone leading surrogate in hex escape"
  | .trailingComma => "trailing comma"
  | .trailingCharacters => "trailing characters"
  | .unexpectedEndOfHexEscape => "unexpected end of hex escape"
  | .invalidType found wanted =>
    "invalid type: " ++ found.describe ++ ", expected " ++ wanted.describe
  | .invalidValue found wanted =>
    "invalid value: " ++ found.describe ++ ", expected " ++ wanted.describe
  | .duplicateField name => "duplicate field `" ++ name ++ "`"

/-- The line (from 1) and byte column (from 0) of the place after the first
`index` bytes. -/
def position (bytes : List UInt8) (index : Nat) : Nat × Nat :=
  (bytes.take index).foldl
    (fun (pos : Nat × Nat) (b : UInt8) => if b = 10 then (pos.1 + 1, 0) else (pos.1, pos.2 + 1)) (1, 0)

/-- Places an error in the text it was read from. -/
def Error.locate (input : String) (e : Error) : Located :=
  let bytes := input.toUTF8.toList
  let (line, column) := position bytes (bytes.length - e.left)
  ⟨e.fault, line, column⟩

/-- The text of a placed error. -/
def Located.message (e : Located) : String :=
  e.fault.describe ++ " at line " ++ toString e.line ++ " column " ++ toString e.column

end FuzzDict.Json
