import FuzzDict.Cli.Args
import FuzzDict.Source
import FuzzDict.Log.Record
/-!
# A run of the command

A run reads its command line first: the help is printed, and a refused
command line ends the run with status 2. Otherwise the policy is read, from
the file the environment names or the Bison policy, and then the grammar
file. The dictionary text goes to the standard output. A failure ends the
run with status 1 and a report on the standard error: `Error: ` and the
failure's text, and for a grammar file the system's error once more as its
cause.

Log records go to the standard error, ahead of any report, when the log
filter lets them through: the policy file being loaded, the grammar being
read, one record for each line of the scan that is the terminator, excluded
or suppressed, one for each dictionary entry, and a summary.

The run reads files through a function, so the same run serves a real file
system and a tree of files given as data.
-/

namespace FuzzDict.Cli

open Log

/-- What a run leaves: its exit status and its two output texts. -/
structure Outcome where
  exit : Nat
  stdout : String
  stderr : String
  deriving Repr, DecidableEq

/-- What the environment gives a run. -/
structure Setting where
  args : List String
  /-- The policy file named by the environment, if any. -/
  policyPath : Option String := none
  /-- The log filter text of the environment, if any. -/
  logSpec : Option String := none

/-- The target of the records about the run as a whole. -/
def commandTarget : String := "generate_afl_dict"

/-- The target of the records about the scan of a grammar. -/
def scanTarget : String := "afl_dict::generator"

/-- The records of one verdict of the scan, about the grammar line `line`. -/
def verdictRecords (p : Policy) (line : Nat) : Verdict → List Record
  | .plain => []
  | .stop d => [⟨.debug, scanTarget, "Reached " ++ d.name ++ ", stopping", some line⟩]
  | .skip d => [⟨.debug, scanTarget, "Skipping excluded directive " ++ d.name, some line⟩]
  | .mute d =>
    [⟨.debug, scanTarget, "Skipping " ++ d.name ++ " line marked " ++ p.suppressMarker, some line⟩]
  | .keep _ es => es.map fun e => ⟨.trace, scanTarget, e.render, some line⟩

/-- The records of a scan, its lines numbered from 1. -/
def scanRecords (p : Policy) (vs : List Verdict) : List Record :=
  (vs.zipIdx 1).flatMap fun (v, n) => verdictRecords p n v

/-- The summary of a dictionary. -/
def summary (d : Dictionary) : Record :=
  ⟨.info, commandTarget,
    "Extracted " ++ toString d.entries.length ++ " entries from " ++ toString d.tally.directives ++
      " directives (" ++ toString d.tally.excluded ++ " excluded, " ++ toString d.tally.suppressed ++
      " suppressed" ++ (if d.tally.terminated then ", stopped at terminator" else "") ++ ")",
    none⟩

/-- The report of a failure. -/
def report (f : Failure) : String :=
  let cause := match f with
    | .grammar _ e => "\nCaused by:\n    " ++ e.message ++ "\n"
    | .policy _ _ => ""
  "Error: " ++ f.message ++ "\n" ++ cause

/-- The outcome of a failed run after the given records. -/
def failed (filter : Filter) (records : List Record) (f : Failure) : Outcome :=
  ⟨1, "", Record.renderAll filter records ++ report f⟩

/-- A run, reading files with `read`. -/
def run {m : Type → Type} [Monad m] (read : String → m (Except ReadError (List UInt8)))
    (s : Setting) : m Outcome := do
  match Invocation.ofArgs s.args with
  | .help => pure ⟨0, helpText, ""⟩
  | .refuse e => pure ⟨2, "", e.message⟩
  | .run path =>
    let filter := Filter.ofSpec s.logSpec
    let (loading, policy) ← match s.policyPath with
      | none => pure ([], .ok Policy.bison)
      | some q => do
        let bytes ← read q
        pure ([⟨.debug, commandTarget, "Loading config from " ++ q, none⟩], Policy.ofFile q bytes)
    match policy with
    | .error f => pure (failed filter loading f)
    | .ok p =>
      let records := loading ++ [⟨.debug, scanTarget, "Reading grammar: " ++ path, none⟩]
      let bytes ← read path
      match bytes with
      | .error e => pure (failed filter records (.grammar path e))
      | .ok bs =>
        match Text.Utf8.decode bs with
        | none => pure (failed filter records (.grammar path .invalidUtf8))
        | some text =>
          let vs := p.scan (Text.splitLines text)
          let d := p.assemble vs
          let records := records ++ scanRecords p vs ++ [summary d]
          pure ⟨0, d.text, Record.renderAll filter records⟩

end FuzzDict.Cli
