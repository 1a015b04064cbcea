import FuzzDict.Cli.Similarity
/-!
# The command line

The command takes one grammar file and the flags `-h` and `--help`. Arguments
are read left to right. `--` ends the flags: every later argument is a file.
An argument that starts with `--` is a long flag, with an optional value
after `=`; one that starts with `-` and has more after it is a cluster of
short flags, of which the first decides. `-` alone is a file.

The first argument that decides wins: a help flag shows the help, an
unknown flag, a value given to `--help` or a second file is refused. An
empty file name is refused when a help flag is read after it, or at the end,
but not before a refused argument. At the end, a missing file is refused.

An unknown long flag close to `--help` (Jaro similarity above 0.7) is
answered with that suggestion; otherwise an unknown flag is answered with the
advice to pass it after `--`.
-/

namespace FuzzDict.Cli

/-- Advice that follows a refused argument. -/
inductive Tip where
  | none
  /-- Pass the argument after `--` to make it a value. -/
  | asValue
  /-- A flag with a similar name exists. -/
  | similar (flag : String)
  deriving Repr, DecidableEq

/-- Why a command line is refused. -/
inductive UsageError where
  /-- No grammar file is given. -/
  | missingFile
  /-- The grammar file is the empty string. -/
  | emptyFile
  /-- An argument that is no flag of the command, or a second file. -/
  | unexpected (arg : String) (tip : Tip)
  /-- A value given to a flag that takes none. -/
  | unwantedValue (value : String) (flag : String)
  deriving Repr, DecidableEq

/-- What a command line asks for. -/
inductive Invocation where
  | help
  | run (grammar : String)
  | refuse (e : UsageError)
  deriving Repr, DecidableEq

/-- The name of the command. -/
def commandName : String := "generate_afl_dict"

/-- The help text. -/
def helpText : String :=
  "Generate an AFL compatible dictionary from a Bison grammar\n\nUsage: " ++ commandName ++
    " <BISON_FILE>\n\nArguments:\n  <BISON_FILE>  Bison grammar file to extract tokens from\n\n" ++
    "Options:\n  -h, --help  Print help\n"

/-- The closing lines of a usage error. -/
def moreInfo : String := "\nFor more information, try '--help'.\n"

/-- The usage line, with the help flag in it when it was used. -/
def usageLine (withHelp : Bool) : String :=
  "Usage: " ++ commandName ++ (if withHelp then " --help" else "") ++ " <BISON_FILE>\n"

/-- The advice for an unknown long flag named `name` (without its dashes). -/
def longTip (name : String) : Tip :=
  if jaro name.toList "help".toList > 0.7 then .similar "--help" else .asValue

/-- The text of a usage error. -/
def UsageError.message : UsageError → String
  | .missingFile =>
    "error: the following required arguments were not provided:\n  <BISON_FILE>\n\n" ++
      usageLine false ++ moreInfo
  | .emptyFile => "error: a value is required for '<BISON_FILE>' but none was supplied\n" ++ moreInfo
  | .unexpected arg tip =>
    let tipText := match tip with
      | .none => ""
      | .asValue => "\n  tip: to pass '" ++ arg ++ "' as a value, use '-- " ++ arg ++ "'\n"
      | .similar flag => "\n  tip: a similar argument exists: '" ++ flag ++ "'\n"
    let withHelp := match tip with
      | .similar _ => true
      | _ => false
    "error: unexpected argument '" ++ arg ++ "' found\n" ++ tipText ++ "\n" ++ usageLine withHelp ++
      moreInfo
  | .unwantedValue value flag =>
    "error: unexpected value '" ++ value ++ "' for '" ++ flag ++ "' found; no more were expected\n\n" ++
      usageLine true ++ moreInfo

/-- The help, unless the file read so far is empty. -/
def helpAfter (file : Option String) : Invocation :=
  if file = some "" then .refuse .emptyFile else .help

/-- Reads the arguments; `flags` until `--` is read, `file` is the grammar file
read so far. -/
def readArgs (flags : Bool) (file : Option String) : List String → Invocation
  | [] =>
    match file with
    | none => .refuse .missingFile
    | some "" => .refuse .emptyFile
    | some f => .run f
  | a :: rest =>
    if flags && a = "--" then readArgs false file rest
    else if flags && a.startsWith "--" then
      let body := (a.drop 2).toString
      match body.splitOn "=" with
      | name :: value =>
        if name = "help" then
          if value.isEmpty then helpAfter file
          else .refuse (.unwantedValue ("=".intercalate value) "--help")
        else .refuse (.unexpected ("--" ++ name) (longTip name))
      | [] => .refuse (.unexpected a (longTip body))
    else if flags && a.startsWith "-" && a ≠ "-" then
      match a.toList with
      | _ :: 'h' :: _ => helpAfter file
      | _ :: c :: _ => .refuse (.unexpected (String.ofList ['-', c]) .asValue)
      | _ => .refuse (.unexpected a .asValue)
    else
      match file with
      | none => readArgs flags (some a) rest
      | some _ => .refuse (.unexpected a .none)

/-- What a command line asks for. -/
def Invocation.ofArgs (args : List String) : Invocation :=
  readArgs true none args

example : Invocation.ofArgs ["a.y", "b.y"] = .refuse (.unexpected "b.y" .none) := by decide +kernel
example : Invocation.ofArgs ["--", "-g.y"] = .run "-g.y" := by decide +kernel
example : Invocation.ofArgs ["-xh"] = .refuse (.unexpected "-x" .asValue) := by decide +kernel
example : Invocation.ofArgs ["", "--", "x"] = .refuse (.unexpected "x" .none) := by decide +kernel

end FuzzDict.Cli
