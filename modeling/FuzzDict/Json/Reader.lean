import FuzzDict.Json.Error
/-!
# The JSON reader

A reader walks the input text from the left: its state is the part of the
input not yet read, and it fails with an error placed in that part. Two
places are used: right before the next character (`failHere`), and one
byte into it (`failAhead`), which is where a look at the next character
puts a complaint about it. At the end of the input both are the end.

Blanks between JSON tokens are the space, the line feed, the tab and the
carriage return.
-/

namespace FuzzDict.Json

/-- The number of UTF-8 bytes of a list of characters. -/
def bytesOf (cs : List Char) : Nat :=
  cs.foldr (fun c n => c.utf8Size + n) 0

/-- An error placed right before `rest`. -/
def Error.before (f : Fault) (rest : List Char) : Error :=
  ⟨f, bytesOf rest⟩

/-- An error placed one byte into `rest`, or at the end if `rest` is empty. -/
def Error.into (f : Fault) (rest : List Char) : Error :=
  ⟨f, bytesOf rest - 1⟩

/-- Blanks between JSON tokens. -/
def isBlank (c : Char) : Bool :=
  c = ' ' || c = '\n' || c = '\t' || c = '\r'

/-- A decimal digit. -/
def isDigit (c : Char) : Bool :=
  '0' ≤ c && c ≤ '9'

/-- The value of a decimal digit. -/
def digitValue (c : Char) : Nat :=
  c.toNat - '0'.toNat

/-- A computation over the input not yet read, which may fail. -/
abbrev Reader := StateT (List Char) (Except Error)

/-- The next character, if any, without reading it. -/
def peek : Reader (Option Char) :=
  return (← get).head?

/-- Reads one character. -/
def bump : Reader Unit :=
  modify List.tail

/-- Fails right before the next character. -/
def failHere {α : Type} (f : Fault) : Reader α := do
  throw (Error.before f (← get))

/-- Fails one byte into the next character. -/
def failAhead {α : Type} (f : Fault) : Reader α := do
  throw (Error.into f (← get))

/-- Skips blanks and looks at the next character. -/
def blank : Reader (Option Char) := do
  modify (·.dropWhile isBlank)
  peek

/-- Runs a scan of the input that gives its result and the input after it. -/
def scan {α : Type} (f : List Char → Except Error (α × List Char)) : Reader α :=
  fun rest => f rest

/-- Runs a scan of the input that gives only the input after it. -/
def skipWith (f : List Char → Except Error (List Char)) : Reader Unit :=
  fun rest => (f rest).map fun r => ((), r)

/-- Reads the given characters, the rest of a literal such as `null`. At the
end of the input the value is cut short; a wrong character is read and
refused. -/
def expectWord : List Char → Reader Unit
  | [] => pure ()
  | w :: ws => do
    match ← get with
    | [] => failHere .eofValue
    | c :: r =>
      if c = w then
        set r
        expectWord ws
      else throw (Error.into .expectedIdent (c :: r))

end FuzzDict.Json
