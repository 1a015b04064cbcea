import FuzzDict.Directive
import FuzzDict.Dictionary
import FuzzDict.Text.Lines
import FuzzDict.Text.Utf8
/-!
# Extracting a dictionary from grammar lines

The scan reads the lines in order and gives each a verdict: not a
directive, the terminator, excluded, suppressed, or a directive whose
entries are tokens. It stops right after the first terminator. The
dictionary collects the entries of the token verdicts in order, appends the
policy's extra tokens, and tallies the verdicts. A text is first cut into its
lines; a byte sequence is first read as UTF-8, all of it, before any line is
scanned.
-/

namespace FuzzDict

open Text

/-- What the scan makes of one line. -/
inductive Verdict where
  /-- The line is not a directive. -/
  | plain
  /-- The line is the terminator directive. -/
  | stop (d : Directive)
  /-- The directive's name is excluded. -/
  | skip (d : Directive)
  /-- The directive carries the suppress marker. -/
  | mute (d : Directive)
  /-- The directive's entries are tokens; these are its dictionary entries. -/
  | keep (d : Directive) (entries : List Entry)
  deriving Repr, DecidableEq

namespace Verdict

/-- The dictionary entries a verdict contributes. -/
def entries : Verdict → List Entry
  | keep _ es => es
  | _ => []

/-- The tally of a single verdict. -/
def tally : Verdict → Tally
  | plain => { lines := 1 }
  | stop _ => { lines := 1, directives := 1, terminated := true }
  | skip _ => { lines := 1, directives := 1, excluded := 1 }
  | mute _ => { lines := 1, directives := 1, suppressed := 1 }
  | keep _ _ => { lines := 1, directives := 1 }

/-- The verdict that ends the scan. -/
def isStop : Verdict → Bool
  | stop _ => true
  | _ => false

/-- Only the terminator's verdict marks its tally as terminated. -/
theorem tally_terminated (v : Verdict) : v.tally.terminated = v.isStop := by
  cases v <;> rfl

end Verdict

namespace Tally

/-- The tally of two stretches of lines read one after the other. -/
def add (a b : Tally) : Tally where
  lines := a.lines + b.lines
  directives := a.directives + b.directives
  excluded := a.excluded + b.excluded
  suppressed := a.suppressed + b.suppressed
  terminated := a.terminated || b.terminated

/-- The empty tally adds nothing. -/
theorem empty_add (t : Tally) : ({} : Tally).add t = t := by
  cases t
  simp [add]

/-- Adding tallies is associative. -/
theorem add_assoc (a b c : Tally) : (a.add b).add c = a.add (b.add c) := by
  cases a
  cases b
  cases c
  simp [add, Nat.add_assoc, Bool.or_assoc]

end Tally

namespace Policy

/-- The verdict of the policy on one line. -/
def verdict (p : Policy) (line : String) : Verdict :=
  match Directive.parse? p.sentinel line with
  | none => .plain
  | some d =>
    match d.kind p with
    | .terminator => .stop d
    | .excluded => .skip d
    | .suppressed => .mute d
    | .tokens => .keep d (d.dictEntries p)

/-- The verdicts of the lines the scan reads: every line up to and including
the first terminator. -/
def scan (p : Policy) : List String → List Verdict
  | [] => []
  | line :: rest =>
    let v := p.verdict line
    if v.isStop then [v] else v :: p.scan rest

/-- The tally of a list of verdicts. -/
def tallyOf (vs : List Verdict) : Tally :=
  vs.foldr (fun v t => v.tally.add t) {}

/-- The dictionary of the verdicts of a scan. -/
def assemble (p : Policy) (vs : List Verdict) : Dictionary where
  entries := vs.flatMap Verdict.entries
  extras := p.extraTokens.map Entry.extra
  tally := tallyOf vs

/-- The dictionary of a list of grammar lines. -/
def extract (p : Policy) (lines : List String) : Dictionary :=
  p.assemble (p.scan lines)

/-! ## Scans of concatenated lines -/

/-- The scan of two stretches of lines: the first alone if it reaches the
terminator, and otherwise the scans of both, one after the other. -/
theorem scan_append (p : Policy) (a b : List String) :
    p.scan (a ++ b) = if (p.scan a).any Verdict.isStop then p.scan a else p.scan a ++ p.scan b := by
  induction a with
  | nil => simp [scan]
  | cons l a ih =>
    simp only [List.cons_append, scan]
    by_cases stop : (p.verdict l).isStop
    · simp [stop]
    · simp only [stop, Bool.false_eq_true, if_false, List.any_cons, Bool.false_or, ih]
      split <;> simp

/-- The tally of two lists of verdicts is the sum of their tallies. -/
theorem tallyOf_append (vs ws : List Verdict) :
    tallyOf (vs ++ ws) = (tallyOf vs).add (tallyOf ws) := by
  induction vs with
  | nil => simp [tallyOf, Tally.empty_add]
  | cons v vs ih =>
    simp only [List.cons_append, tallyOf, List.foldr_cons] at *
    rw [ih, Tally.add_assoc]

/-- A tally is terminated exactly when the terminator's verdict is among the
verdicts. -/
theorem tallyOf_terminated (vs : List Verdict) :
    (tallyOf vs).terminated = vs.any Verdict.isStop := by
  induction vs with
  | nil => rfl
  | cons v vs ih =>
    simp only [tallyOf, List.foldr_cons, List.any_cons] at *
    rw [← ih, ← Verdict.tally_terminated]
    rfl

/-- The dictionary of a grammar text, cut into lines at every line break. -/
def extractText (p : Policy) (text : String) : Dictionary :=
  p.extract (splitLines text)

/-- The dictionary of a grammar given as bytes, or nothing when the bytes are
not UTF-8. -/
def extractBytes? (p : Policy) (bytes : List UInt8) : Option Dictionary :=
  (Utf8.decode bytes).map p.extractText

end Policy

example : (Policy.bison.extractText "%token A\n%start\n%token B").tally =
    { lines := 2, directives := 2, terminated := true } := by decide +kernel

end FuzzDict
