import FuzzDict.Json.Error
/-!
# Failures

A run fails when a file cannot be read or when the policy text cannot be
read as a policy. A failure names the path it concerns; a text given inline
is named `<inline>` and bytes given directly `<reader>`.

The texts of the system's reading errors are those of Linux, with the error
number after them.
-/

namespace FuzzDict

/-- Why the bytes of a file could not be read as text. -/
inductive ReadError where
  /-- No file or directory has the name (`ENOENT`). -/
  | notFound
  /-- The name is a directory (`EISDIR`). -/
  | isDirectory
  /-- A name on the way is a file, not a directory (`ENOTDIR`). -/
  | notDirectory
  /-- The path, or one name in it, is longer than the system takes
  (`ENAMETOOLONG`). -/
  | nameTooLong
  /-- The path holds a NUL character, which no system path can. -/
  | nulInName
  /-- The bytes are not UTF-8. -/
  | invalidUtf8
  /-- Another error of the system, with its number and text. -/
  | os (code : Nat) (text : String)
  deriving Repr, DecidableEq

/-- The text of a reading error. -/
def ReadError.message : ReadError → String
  | .notFound => "No such file or directory (os error 2)"
  | .isDirectory => "Is a directory (os error 21)"
  | .notDirectory => "Not a directory (os error 20)"
  | .nameTooLong => "File name too long (os error 36)"
  | .nulInName => "file name contained an unexpected NUL byte"
  | .invalidUtf8 => "stream did not contain valid UTF-8"
  | .os code text => text ++ " (os error " ++ toString code ++ ")"

/-- Why a policy could not be had. -/
inductive PolicyError where
  /-- The policy file could not be read. -/
  | unreadable (e : ReadError)
  /-- The text is not a policy. -/
  | malformed (e : Json.Located)

/-- The text of a policy error. -/
def PolicyError.message : PolicyError → String
  | .unreadable e => e.message
  | .malformed e => e.message

/-- A failed run. -/
inductive Failure where
  /-- The grammar at the path could not be read. -/
  | grammar (path : String) (cause : ReadError)
  /-- The policy at the path could not be had. -/
  | policy (path : String) (cause : PolicyError)

namespace Failure

/-- The name of a policy given as text. -/
def inlinePath : String := "<inline>"

/-- The name of a grammar given as bytes. -/
def readerPath : String := "<reader>"

/-- The text of a failure. -/
def message : Failure → String
  | grammar path cause => "Failed to read grammar file " ++ path ++ ": " ++ cause.message
  | policy path cause => "Invalid configuration " ++ path ++ ": " ++ cause.message

end Failure

end FuzzDict
