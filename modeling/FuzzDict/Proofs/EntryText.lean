import FuzzDict.Proofs.Declarative
import FuzzDict.Proofs.Lowercase
/-!
# The characters of an extracted entry

An entry of a dictionary is made from the words of a directive line: its name
is the lowercase keyword and its token a lowercased entry without quotes. The
words are runs of non-blank characters, and lowercasing makes no character
below `a` that was not there. So no name and no token of an extracted entry
holds a blank, in particular no space and no line break; this is what keeps
each entry on one line of the dictionary's text.

The way there: `words_of_parse?` gives the words of a directive line, and
`mem_extract_entries` the directive that each extracted entry comes from.
-/

namespace FuzzDict

open Text

/-! ## Words -/

/-- No piece of a split holds a character that was split on. -/
theorem Text.eq_false_of_mem_splitOnP {α : Type} {P : α → Bool} {xs w : List α}
    (mem : w ∈ xs.splitOnP P) {a : α} (inw : a ∈ w) : P a = false := by
  induction xs generalizing w with
  | nil => simp_all [List.splitOnP_nil]
  | cons x xs ih =>
    rw [List.splitOnP_cons_eq_if_modifyHead] at mem
    split at mem
    · rcases List.mem_cons.mp mem with rfl | later
      · simp at inw
      · exact ih later inw
    · rename_i kept
      obtain ⟨h, t, split⟩ := List.exists_cons_of_ne_nil (List.splitOnP_ne_nil P xs)
      rw [split] at mem ih
      simp only [List.modifyHead_cons, List.mem_cons] at mem
      rcases mem with rfl | later
      · rcases List.mem_cons.mp inw with rfl | inh
        · simpa using kept
        · exact ih List.mem_cons_self inh
      · exact ih (List.mem_cons_of_mem h later) inw

theorem Text.not_blank_of_mem_words {cs w : List Char} (mem : w ∈ words cs) {c : Char}
    (inw : c ∈ w) : isBlank c = false :=
  eq_false_of_mem_splitOnP (List.mem_filter.mp mem).1 inw

/-! ## Directives -/

namespace Directive

/-- The words of a directive line are its name, sentinel first, and its entries. -/
theorem words_of_parse? {s : Char} {line : String} {d : Directive} (parsed : parse? s line = some d) :
    words line.toList = (d.sentinel :: d.keyword.toList) :: d.entries.map String.toList := by
  unfold parse? at parsed
  split at parsed
  · split at parsed
    · split at parsed
      · cases parsed
        simp_all [List.map_map]
      · cases parsed
    · cases parsed
  · cases parsed

/-- The keyword and the entries of a directive hold no blank. -/
theorem not_blank_of_parse? {s : Char} {line : String} {d : Directive} (parsed : parse? s line = some d)
    {w : String} (word : w = d.keyword ∨ w ∈ d.entries) {c : Char} (inw : c ∈ w.toList) :
    isBlank c = false := by
  have words := words_of_parse? parsed
  rcases word with rfl | mem
  · have named : d.sentinel :: d.keyword.toList ∈ Text.words line.toList := by
      rw [words]
      exact List.mem_cons_self
    exact not_blank_of_mem_words named (List.mem_cons_of_mem _ inw)
  · have entry : w.toList ∈ Text.words line.toList := by
      rw [words]
      exact List.mem_cons_of_mem _ (List.mem_map_of_mem mem)
    exact not_blank_of_mem_words entry inw

/-- A character below `a` in a normalized token stands in the word, and is no quote. -/
theorem mem_of_mem_normalize {w : String} {c : Char} (mem : c ∈ (normalize w).toList)
    (low : c.toNat < 0x61) : c ∈ w.toList ∧ c ≠ '\'' := by
  have kept := Case.mem_of_mem_lowerString mem low
  simpa using kept

theorem mem_dictEntries {p : Policy} {d : Directive} {e : Entry} :
    e ∈ d.dictEntries p ↔
      ∃ w ∈ d.entries, w.toList.head? ≠ some p.annotationPrefix ∧
        ⟨Case.lowerString d.keyword, normalize w⟩ = e := by
  simp [dictEntries, and_assoc]

end Directive

/-! ## Extracted entries -/

namespace Policy

theorem mem_verdict_entries {p : Policy} {line : String} {e : Entry}
    (mem : e ∈ (p.verdict line).entries) :
    ∃ d, Directive.parse? p.sentinel line = some d ∧ e ∈ d.dictEntries p := by
  cases parsed : Directive.parse? p.sentinel line with
  | none => simp [verdict_of_not_parse parsed, Verdict.entries] at mem
  | some d =>
    rw [verdict_of_parse parsed] at mem
    refine ⟨d, rfl, ?_⟩
    split_ifs at mem <;> simp only [Verdict.entries, List.not_mem_nil] at mem
    exact mem

/-- Every extracted entry comes from a directive on one of the lines. -/
theorem mem_extract_entries {p : Policy} {lines : List String} {e : Entry}
    (mem : e ∈ (p.extract lines).entries) :
    ∃ line ∈ lines, ∃ d, Directive.parse? p.sentinel line = some d ∧ e ∈ d.dictEntries p := by
  simp only [extract, assemble, scan_eq_map_take, List.mem_flatMap, List.mem_map] at mem
  obtain ⟨_, ⟨line, read, rfl⟩, inVerdict⟩ := mem
  exact ⟨line, List.mem_of_mem_take read, mem_verdict_entries inVerdict⟩

/-- A character below `a` in the name or the token of an extracted entry is no
blank. -/
theorem not_blank_of_mem_entry {p : Policy} {lines : List String} {e : Entry}
    (mem : e ∈ (p.extract lines).entries) {c : Char}
    (inText : c ∈ e.name.toList ∨ c ∈ e.token.toList) (low : c.toNat < 0x61) :
    isBlank c = false := by
  obtain ⟨line, -, d, parsed, made⟩ := mem_extract_entries mem
  obtain ⟨w, word, -, rfl⟩ := Directive.mem_dictEntries.mp made
  rcases inText with inName | inToken
  · exact Directive.not_blank_of_parse? parsed (.inl rfl) (Case.mem_of_mem_lowerString inName low)
  · exact Directive.not_blank_of_parse? parsed (.inr word) (Directive.mem_of_mem_normalize inToken low).1

end Policy

end FuzzDict
