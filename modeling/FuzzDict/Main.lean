import FuzzDict.Cli.Session
/-!
# The command

Reads the command line and the environment (`AFL_DICT_CONFIG` names a
policy file, `RUST_LOG` sets the log filter), runs on the real file system,
writes the two outputs and ends with the run's status.
-/

open FuzzDict

/-- The error number and text of a failed system call; the number is kept as
a negative value in 32 bits. -/
def failureOf (e : IO.Error) : Option (Nat × String) :=
  let errno (c : UInt32) : Nat := if c.toNat ≥ 0x80000000 then 0x100000000 - c.toNat else c.toNat
  match e with
  | .noFileOrDirectory _ c d => some (errno c, d)
  | .inappropriateType _ c d => some (errno c, d)
  | .otherError c d => some (errno c, d)
  | .permissionDenied _ c d => some (errno c, d)
  | .noSuchThing _ c d => some (errno c, d)
  | .invalidArgument _ c d => some (errno c, d)
  | .resourceBusy c d => some (errno c, d)
  | .illegalOperation c d => some (errno c, d)
  | .alreadyExists _ c d => some (errno c, d)
  | .resourceExhausted _ c d => some (errno c, d)
  | .hardwareFault c d => some (errno c, d)
  | .interrupted _ c d => some (errno c, d)
  | _ => none

/-- The reading error of a failed system call, by its error number. -/
def readErrorOf (e : IO.Error) : ReadError :=
  match failureOf e with
  | some (2, _) => .notFound
  | some (20, _) => .notDirectory
  | some (21, _) => .isDirectory
  | some (36, _) => .nameTooLong
  | some (n, text) => .os n text
  | none => .os 0 (toString e)

/-- The bytes of a file, or why they could not be read. -/
def readBytes (path : String) : IO (Except ReadError (List UInt8)) := do
  if path.contains '\x00' then return .error .nulInName
  try
    let bytes ← IO.FS.readBinFile path
    pure (.ok bytes.toList)
  catch e =>
    pure (.error (readErrorOf e))

def main (args : List String) : IO UInt32 := do
  let setting : Cli.Setting :=
    { args, policyPath := ← IO.getEnv "AFL_DICT_CONFIG", logSpec := ← IO.getEnv "RUST_LOG" }
  let o ← Cli.run readBytes setting
  IO.print o.stdout
  IO.eprint o.stderr
  pure o.exit.toUInt32
