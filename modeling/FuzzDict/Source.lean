import FuzzDict.Extraction
import FuzzDict.Policy.Read
import FuzzDict.Failure
/-!
# Policies and grammars from their sources

A policy comes from JSON text given inline, or from the bytes of a file,
which must be UTF-8 as a whole. A grammar comes as bytes, given directly or
read from a file; they too must be UTF-8 as a whole, whatever the scan would
read of them. Every failure names its source: the file's path, `<inline>`
for a policy text and `<reader>` for bytes given directly.
-/

namespace FuzzDict

namespace Policy

/-- The policy of a JSON text named `path`. -/
def ofText (path text : String) : Except Failure Policy :=
  (ofJson text).mapError fun e => .policy path (.malformed e)

/-- The policy given inline, or the Bison policy when none is given. -/
def ofInline? : Option String → Except Failure Policy
  | none => .ok bison
  | some text => ofText Failure.inlinePath text

/-- The policy in the file at `path`, given the outcome of reading its bytes. -/
def ofFile (path : String) (bytes : Except ReadError (List UInt8)) : Except Failure Policy :=
  match bytes with
  | .error e => .error (.policy path (.unreadable e))
  | .ok bs =>
    match Text.Utf8.decode bs with
    | none => .error (.policy path (.unreadable .invalidUtf8))
    | some text => ofText path text

/-- The dictionary of the grammar named `path`, given the outcome of reading
its bytes. -/
def readGrammar (p : Policy) (path : String) (bytes : Except ReadError (List UInt8)) :
    Except Failure Dictionary :=
  match bytes with
  | .error e => .error (.grammar path e)
  | .ok bs =>
    match p.extractBytes? bs with
    | none => .error (.grammar path .invalidUtf8)
    | some d => .ok d

/-- The dictionary of a grammar given directly as bytes. -/
def readBytes (p : Policy) (bytes : List UInt8) : Except Failure Dictionary :=
  p.readGrammar Failure.readerPath (.ok bytes)

end Policy

end FuzzDict
