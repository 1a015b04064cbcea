import FuzzDict.Proofs.Declarative
import Mathlib.Data.List.Flatten
/-!
# Excluding more directives

Widening the list of excluded directive names changes nothing but the kind of
some lines. The terminator test comes before exclusion and does not read the
list, so the scan stops at the same line; a line that changes kind goes from
giving tokens, or from being suppressed, to being excluded. Each line's
contribution depends on that line alone.

`extract_exclude_more` states what follows for the dictionary: its entries
under the wider list are a sublist of the entries under the narrower one, the
counts of lines and directives and the stop are the same, more lines are
excluded and fewer suppressed. It is read off `extract_eq_declared` with one
lemma per line (`lineTokens_sublist_of_subset`, `isExcludedLine_of_subset`,
`isSuppressedLine_of_subset`).
-/

namespace FuzzDict.Policy

section Wider

variable {p : Policy} {names : List String}

/-! ## One line under a wider exclusion list -/

/-- A line gives, under a wider exclusion list, either its tokens or none. -/
theorem lineTokens_sublist_of_subset (wider : p.excluded ⊆ names) (line : String) :
    ({ p with excluded := names }.lineTokens line).Sublist (p.lineTokens line) := by
  cases parsed : Directive.parse? p.sentinel line with
  | none => simp [lineTokens, parsed]
  | some d =>
    simp only [lineTokens, parsed]
    by_cases kept : d.name ∉ names ∧ p.suppressMarker ∉ d.name :: d.entries
    · have stays : d.name ∉ p.excluded := fun mem => kept.1 (wider mem)
      rw [if_pos kept, if_pos ⟨stays, kept.2⟩]
    · rw [if_neg kept]
      exact List.nil_sublist _

/-- An excluded line stays excluded under a wider exclusion list. -/
theorem isExcludedLine_of_subset (wider : p.excluded ⊆ names) {line : String}
    (excluded : p.isExcludedLine line = true) :
    { p with excluded := names }.isExcludedLine line = true := by
  cases parsed : Directive.parse? p.sentinel line with
  | none => simp [isExcludedLine, parsed] at excluded
  | some d =>
    have named : d.name ∈ p.excluded := by simpa [isExcludedLine, parsed] using excluded
    simpa [isExcludedLine, parsed] using wider named

/-- A line suppressed under a wider exclusion list was suppressed before. -/
theorem isSuppressedLine_of_subset (wider : p.excluded ⊆ names) {line : String}
    (suppressed : { p with excluded := names }.isSuppressedLine line = true) :
    p.isSuppressedLine line = true := by
  cases parsed : Directive.parse? p.sentinel line with
  | none => simp [isSuppressedLine, parsed] at suppressed
  | some d =>
    obtain ⟨notNamed, marked⟩ :
        d.name ∉ names ∧ p.suppressMarker ∈ d.name :: d.entries := by
      simpa [isSuppressedLine, parsed] using suppressed
    have stays : d.name ∉ p.excluded := fun mem => notNamed (wider mem)
    simpa [isSuppressedLine, parsed, stays] using marked

/-! ## The whole dictionary -/

/-- Under a wider exclusion list the entries are a sublist of those before, the
lines read, the directives met and the stop are the same, no fewer lines are
excluded and no more suppressed. The terminator test does not read the exclusion
list, so both scans stop at the same line. -/
theorem extract_exclude_more (p : Policy) {names : List String} (wider : p.excluded ⊆ names)
    (lines : List String) :
    ({ p with excluded := names }.extract lines).entries.Sublist (p.extract lines).entries ∧
      ({ p with excluded := names }.extract lines).tally.lines = (p.extract lines).tally.lines ∧
      ({ p with excluded := names }.extract lines).tally.directives =
        (p.extract lines).tally.directives ∧
      ({ p with excluded := names }.extract lines).tally.terminated =
        (p.extract lines).tally.terminated ∧
      (p.extract lines).tally.excluded ≤
        ({ p with excluded := names }.extract lines).tally.excluded ∧
      ({ p with excluded := names }.extract lines).tally.suppressed ≤
        (p.extract lines).tally.suppressed := by
  have stops : { p with excluded := names }.isTerminatorLine = p.isTerminatorLine := rfl
  simp only [extract_eq_declared, declared, stops, true_and]
  refine ⟨?_, ?_, ?_⟩
  · exact List.Sublist.flatMap_right _ fun line _ => lineTokens_sublist_of_subset wider line
  · exact List.countP_mono_left fun _ _ => isExcludedLine_of_subset wider
  · exact List.countP_mono_left fun _ _ => isSuppressedLine_of_subset wider

/-- Excluding `%token` as well under the Bison policy. -/
theorem extract_exclude_token :
    bison.excluded ⊆ bison.excluded ++ ["%token"] ∧
      ({ bison with excluded := bison.excluded ++ ["%token"] }.extract
          ["%token A", "%type <e> B", "%start"]).entries.Sublist
        (bison.extract ["%token A", "%type <e> B", "%start"]).entries ∧
      ({ bison with excluded := bison.excluded ++ ["%token"] }.extract
          ["%token A", "%type <e> B", "%start"]).tally.lines =
        (bison.extract ["%token A", "%type <e> B", "%start"]).tally.lines ∧
      ({ bison with excluded := bison.excluded ++ ["%token"] }.extract
          ["%token A", "%type <e> B", "%start"]).tally.directives =
        (bison.extract ["%token A", "%type <e> B", "%start"]).tally.directives ∧
      ({ bison with excluded := bison.excluded ++ ["%token"] }.extract
          ["%token A", "%type <e> B", "%start"]).tally.terminated =
        (bison.extract ["%token A", "%type <e> B", "%start"]).tally.terminated ∧
      (bison.extract ["%token A", "%type <e> B", "%start"]).tally.excluded ≤
        ({ bison with excluded := bison.excluded ++ ["%token"] }.extract
          ["%token A", "%type <e> B", "%start"]).tally.excluded ∧
      ({ bison with excluded := bison.excluded ++ ["%token"] }.extract
          ["%token A", "%type <e> B", "%start"]).tally.suppressed ≤
        (bison.extract ["%token A", "%type <e> B", "%start"]).tally.suppressed :=
  ⟨List.subset_append_left _ _, extract_exclude_more bison (List.subset_append_left _ _) _⟩

end Wider

end FuzzDict.Policy
