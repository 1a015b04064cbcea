import FuzzDict.Extraction
import Mathlib.Data.List.Basic
import Mathlib.Tactic.SplitIfs
/-!
# The dictionary read off the lines

The scan keeps no state from one line to the next, apart from having stopped.
So the dictionary of a list of lines can be read off the lines themselves,
without running the scan: take the lines before the first terminator line.
Each of them gives its tokens and is counted by its kind, and the terminator
line, when there is one, is counted as a line and as a directive and gives
nothing else.

`declared` is that reading, stated with the parser and the policy's tests
only, and `extract_eq_declared` shows that it is the dictionary of every
list of lines under every policy. The steps are `scan_eq_map_take` (the
scan reads every line up to the first terminator line) and what one line
adds to the tally and to the entries (`verdict_tally`, `verdict_entries`).
-/

namespace FuzzDict.Policy

open Text

/-! ## What a line is, read alone -/

/-- The line is a directive whose name is the terminator. -/
def isTerminatorLine (p : Policy) (line : String) : Bool :=
  (Directive.parse? p.sentinel line).any fun d => d.name == p.terminator

/-- The line is a directive whose name is excluded. -/
def isExcludedLine (p : Policy) (line : String) : Bool :=
  (Directive.parse? p.sentinel line).any fun d => decide (d.name ∈ p.excluded)

/-- The line is a directive whose name is not excluded and that carries the
suppress marker, as its name or as one of its entries. -/
def isSuppressedLine (p : Policy) (line : String) : Bool :=
  (Directive.parse? p.sentinel line).any fun d =>
    decide (d.name ∉ p.excluded ∧ p.suppressMarker ∈ d.name :: d.entries)

/-- The tokens of a line that is no terminator. A directive whose name is not
excluded and that does not carry the suppress marker gives one entry for each
of its words that does not open with the annotation prefix: the word without
quotes and lowercased, named by the lowercase keyword. Other lines give none. -/
def lineTokens (p : Policy) (line : String) : List Entry :=
  match Directive.parse? p.sentinel line with
  | some d =>
    if d.name ∉ p.excluded ∧ p.suppressMarker ∉ d.name :: d.entries then
      (d.entries.filter fun e => e.toList.head? ≠ some p.annotationPrefix).map
        fun e => ⟨Case.lowerString d.keyword, Directive.normalize e⟩
    else []
  | none => []

/-- The dictionary of `lines` read off the lines before the first terminator
line: their tokens in order and their counts by kind, and one more line and
directive when a terminator line ends them. -/
def declared (p : Policy) (lines : List String) : Dictionary :=
  let k := lines.findIdx p.isTerminatorLine
  let before := lines.take k
  let stopped := decide (k < lines.length)
  { entries := before.flatMap p.lineTokens
    extras := p.extraTokens.map Entry.extra
    tally :=
      { lines := before.length + stopped.toNat
        directives := before.countP (fun l => (Directive.parse? p.sentinel l).isSome) + stopped.toNat
        excluded := before.countP p.isExcludedLine
        suppressed := before.countP p.isSuppressedLine
        terminated := stopped } }

/-! ## The verdict on one line -/

/-- The kind of a directive, with the policy's tests read as membership. -/
theorem kind_eq (p : Policy) (d : Directive) :
    d.kind p =
      if d.name = p.terminator then .terminator
      else if d.name ∈ p.excluded then .excluded
      else if p.suppressMarker ∈ d.name :: d.entries then .suppressed
      else .tokens := by
  have excluded : p.isExcluded d.name = true ↔ d.name ∈ p.excluded := List.contains_iff_mem
  have marked : (decide (d.name = p.suppressMarker) || d.entries.contains p.suppressMarker) = true ↔
      p.suppressMarker ∈ d.name :: d.entries := by
    simp [@eq_comm _ p.suppressMarker]
  simp only [Directive.kind, excluded, marked]

/-- The verdict on a directive line; the terminator test comes first, then
exclusion, then the suppress marker. -/
theorem verdict_of_parse {p : Policy} {line : String} {d : Directive}
    (parsed : Directive.parse? p.sentinel line = some d) :
    p.verdict line =
      if d.name = p.terminator then .stop d
      else if d.name ∈ p.excluded then .skip d
      else if p.suppressMarker ∈ d.name :: d.entries then .mute d
      else .keep d (d.dictEntries p) := by
  simp only [verdict, parsed, kind_eq]
  split_ifs <;> rfl

theorem verdict_of_not_parse {p : Policy} {line : String}
    (parsed : Directive.parse? p.sentinel line = none) : p.verdict line = .plain := by
  simp [verdict, parsed]

theorem verdict_isStop (p : Policy) (line : String) :
    (p.verdict line).isStop = p.isTerminatorLine line := by
  cases parsed : Directive.parse? p.sentinel line with
  | none => simp [verdict_of_not_parse parsed, isTerminatorLine, parsed, Verdict.isStop]
  | some d =>
    rw [verdict_of_parse parsed]
    simp only [isTerminatorLine, parsed, Option.any_some]
    split_ifs <;> simp_all [Verdict.isStop]

/-- A terminator line stops the scan. -/
theorem verdict_of_terminator {p : Policy} {line : String} (stop : p.isTerminatorLine line = true) :
    ∃ d, p.verdict line = .stop d := by
  cases parsed : Directive.parse? p.sentinel line with
  | none => simp [isTerminatorLine, parsed] at stop
  | some d =>
    have named : d.name = p.terminator := by simpa [isTerminatorLine, parsed] using stop
    exact ⟨d, by rw [verdict_of_parse parsed, if_pos named]⟩

/-- What a line that is no terminator adds to the tally. -/
theorem verdict_tally {p : Policy} {line : String} (going : p.isTerminatorLine line = false) :
    (p.verdict line).tally =
      { lines := 1
        directives := if (Directive.parse? p.sentinel line).isSome then 1 else 0
        excluded := if p.isExcludedLine line then 1 else 0
        suppressed := if p.isSuppressedLine line then 1 else 0 } := by
  cases parsed : Directive.parse? p.sentinel line with
  | none =>
    simp [verdict_of_not_parse parsed, isExcludedLine, isSuppressedLine, parsed, Verdict.tally]
  | some d =>
    have named : d.name ≠ p.terminator := by simpa [isTerminatorLine, parsed] using going
    rw [verdict_of_parse parsed]
    simp only [isExcludedLine, isSuppressedLine, parsed, Option.any_some]
    split_ifs <;> simp_all [Verdict.tally]

/-- The entries of a line that is no terminator are its tokens. -/
theorem verdict_entries {p : Policy} {line : String} (going : p.isTerminatorLine line = false) :
    (p.verdict line).entries = p.lineTokens line := by
  cases parsed : Directive.parse? p.sentinel line with
  | none => simp [verdict_of_not_parse parsed, lineTokens, parsed, Verdict.entries]
  | some d =>
    have named : d.name ≠ p.terminator := by simpa [isTerminatorLine, parsed] using going
    rw [verdict_of_parse parsed]
    simp only [lineTokens, parsed]
    split_ifs <;> simp_all [Verdict.entries, Directive.dictEntries]

/-! ## The whole scan -/

/-- The scan reads every line up to and including the first terminator line. -/
theorem scan_eq_map_take (p : Policy) (lines : List String) :
    p.scan lines = (lines.take (lines.findIdx p.isTerminatorLine + 1)).map p.verdict := by
  induction lines with
  | nil => rfl
  | cons line rest ih =>
    by_cases stop : p.isTerminatorLine line
    · simp [scan, verdict_isStop, stop, List.findIdx_cons]
    · simp [scan, verdict_isStop, stop, List.findIdx_cons, ih]

/-- The tally of lines none of which is a terminator counts them by kind. -/
theorem tallyOf_map_verdict {p : Policy} {lines : List String}
    (going : ∀ line ∈ lines, p.isTerminatorLine line = false) :
    tallyOf (lines.map p.verdict) =
      { lines := lines.length
        directives := lines.countP fun l => (Directive.parse? p.sentinel l).isSome
        excluded := lines.countP p.isExcludedLine
        suppressed := lines.countP p.isSuppressedLine } := by
  induction lines with
  | nil => rfl
  | cons line rest ih =>
    have step := verdict_tally (going line (by simp))
    have tail := ih fun l mem => going l (by simp [mem])
    simp only [List.map_cons, tallyOf, List.foldr_cons] at tail ⊢
    rw [tail, step]
    simp only [Tally.add, List.length_cons, List.countP_cons, Bool.false_or, Tally.mk.injEq]
    refine ⟨?_, ?_, ?_, ?_, trivial⟩ <;> omega

/-- The dictionary of every list of lines is the one read off the lines before
the first terminator line. -/
theorem extract_eq_declared (p : Policy) (lines : List String) :
    p.extract lines = p.declared lines := by
  have going : ∀ l ∈ lines.take (lines.findIdx p.isTerminatorLine), p.isTerminatorLine l = false :=
    fun _ mem => List.false_of_mem_take_findIdx mem
  have tokens :
      ((lines.take (lines.findIdx p.isTerminatorLine)).map p.verdict).flatMap Verdict.entries =
        (lines.take (lines.findIdx p.isTerminatorLine)).flatMap p.lineTokens := by
    rw [List.flatMap_map]
    exact List.flatMap_congr fun l mem => verdict_entries (going l mem)
  simp only [extract, assemble, declared, scan_eq_map_take, List.take_add_one, List.map_append,
    List.flatMap_append, tallyOf_append, tallyOf_map_verdict going, tokens]
  by_cases stopped : lines.findIdx p.isTerminatorLine < lines.length
  · obtain ⟨d, stop⟩ := verdict_of_terminator (List.findIdx_getElem (w := stopped))
    simp [stop, stopped, Verdict.entries, Verdict.tally, tallyOf, Tally.add]
  · simp [stopped, tallyOf, Tally.add]

example : (bison.declared ["%\x7b", "#include <stdio.h>", "%\x7d", "%token A", "%token START_PROGRAM;",
    "%union \x7b"]).tally = { lines := 6, directives := 5, excluded := 3, suppressed := 1 } := by
  decide +kernel

end FuzzDict.Policy
