import FuzzDict.Proofs.EntryText
/-!
# Normalized tokens

A token enters the dictionary without its `'` quotes, lowercased. The two steps
may be taken in either order (`normalize_eq_lower_filter`). The quote is
case-ignorable, so the rule for a capital sigma, which looks past
case-ignorable characters on both sides, finds the same neighbours with the
quotes or without them; the quote is its own lowercase; and no other
character lowercases to it, as it lies below `a`. `lowerFrom_filter` states
this for any character with these three properties.

Normalizing twice is normalizing once (`normalize_normalize`): lowercasing is
idempotent, and the lowercase of a text without quotes has none. So every
entry that a dictionary extracts is in normal form (`extract_entries_normal`):
its token is its own normalization and its name its own lowercase.
-/
namespace FuzzDict

open Text Case

/-! ## Dropping a case-ignorable character -/

namespace Text.Case

theorem casedAfterIgnorable_cons_of_ignorable {c : Char} (ignorable : isIgnorable c = true)
    (cs : List Char) : casedAfterIgnorable (c :: cs) = casedAfterIgnorable cs := by
  simp [casedAfterIgnorable, ignorable]

theorem casedAfterIgnorable_cons_of_not {c : Char} (kept : isIgnorable c = false) (cs : List Char) :
    casedAfterIgnorable (c :: cs) = isCased c := by
  simp [casedAfterIgnorable, kept]

section Dropping

variable {q : Char}

/-- Whether a cased character follows the case-ignorable ones does not change
when a case-ignorable character is dropped. -/
theorem casedAfterIgnorable_filter (ignorable : isIgnorable q = true) (cs : List Char) :
    casedAfterIgnorable (cs.filter (· ≠ q)) = casedAfterIgnorable cs := by
  induction cs with
  | nil => rfl
  | cons c cs ih =>
    by_cases isQ : c = q
    · subst isQ
      rw [casedAfterIgnorable_cons_of_ignorable ignorable, ← ih]
      simp
    · rw [List.filter_cons_of_pos (by simpa using isQ)]
      cases kept : isIgnorable c with
      | true =>
        rw [casedAfterIgnorable_cons_of_ignorable kept, casedAfterIgnorable_cons_of_ignorable kept,
          ih]
      | false => rw [casedAfterIgnorable_cons_of_not kept, casedAfterIgnorable_cons_of_not kept]

/-- Dropping a character commutes with lowercasing when the character is
case-ignorable, lies below `a` and is its own lowercase: the sigma rule reads
past it, both small sigmas lie above `a`, and no other character lowercases to
it. -/
theorem lowerFrom_filter (ignorable : isIgnorable q = true) (low : q.toNat < 0x61)
    (own : lowerChar q = [q]) (before cs : List Char) :
    (lowerFrom before cs).filter (· ≠ q) =
      lowerFrom (before.filter (· ≠ q)) (cs.filter (· ≠ q)) := by
  induction cs generalizing before with
  | nil => rfl
  | cons c after ih =>
    have notSigma : q ≠ 'Σ' := fun h => by rw [h] at low; simp at low
    by_cases isQ : c = q
    · subst isQ
      rw [lowerFrom, if_neg notSigma, own, List.filter_append, ih]
      simp
    · rw [lowerFrom, List.filter_append, ih, List.filter_cons_of_pos (by simpa using isQ),
        List.filter_cons_of_pos (by simpa using isQ), lowerFrom]
      congr 1
      split
      · have sigma : sigmaLower before after ≠ q := by
          simp only [sigmaLower]
          split <;> intro h <;> rw [← h] at low <;> simp at low
        rw [List.filter_cons_of_pos (by simpa using sigma), List.filter_nil, sigmaLower,
          sigmaLower, casedAfterIgnorable_filter ignorable, casedAfterIgnorable_filter ignorable]
      · apply List.filter_eq_self.mpr
        intro d mem
        have notQ : d ≠ q := fun h => isQ (by
          subst h
          exact (eq_of_mem_lowerChar mem low).symm)
        simpa using notQ

end Dropping

end Text.Case

namespace Directive

/-- Removing the quotes of a token and lowercasing it may be done in either order. -/
theorem normalize_eq_lower_filter (s : String) :
    normalize s = String.ofList ((lowerString s).toList.filter (· ≠ '\'')) := by
  have commute :=
    lowerFrom_filter (q := '\'') (by decide +kernel) (by decide) (by decide) [] s.toList
  simp only [normalize, lowerString, lower, String.toList_ofList, commute, List.filter_nil]

/-- A normalized token holds no quote. -/
theorem quote_not_mem_normalize (s : String) : '\'' ∉ (normalize s).toList := fun mem =>
  (mem_of_mem_normalize mem (by decide)).2 rfl

/-- Normalizing twice is normalizing once. -/
theorem normalize_normalize (s : String) : normalize (normalize s) = normalize s := by
  have unquoted : (normalize s).toList.filter (· ≠ '\'') = (normalize s).toList :=
    List.filter_eq_self.mpr fun c mem => by
      simpa using fun quote : c = '\'' => quote_not_mem_normalize s (quote ▸ mem)
  calc normalize (normalize s)
      _ = lowerString (normalize s) := by rw [normalize, unquoted, String.ofList_toList]
      _ = normalize s := lowerString_lowerString _

end Directive

namespace Policy

/-- Normalizing a token and lowercasing a name are idempotent, so every entry a
dictionary extracts is in normal form: its token is its own normalization and
holds no quote and no character that its lowercase changes, not least no ASCII
capital, and its name is its own lowercase. -/
theorem extract_entries_normal :
    (∀ s : String, Directive.normalize (Directive.normalize s) = Directive.normalize s) ∧
    (∀ s : String, lowerString (lowerString s) = lowerString s) ∧
    ∀ (p : Policy) (lines : List String), ∀ e ∈ (p.extract lines).entries,
      Directive.normalize e.token = e.token ∧ lowerString e.name = e.name ∧
      ∀ c ∈ e.token.toList, c ≠ '\'' ∧ lowerChar c = [c] ∧ c.isUpper = false := by
  refine ⟨Directive.normalize_normalize, lowerString_lowerString, fun p lines e mem => ?_⟩
  obtain ⟨-, -, d, -, made⟩ := mem_extract_entries mem
  obtain ⟨w, -, -, rfl⟩ := Directive.mem_dictEntries.mp made
  refine ⟨Directive.normalize_normalize w, lowerString_lowerString d.keyword, fun c mem => ?_⟩
  have own := lowerChar_of_mem_lowerString mem
  exact ⟨fun quote => Directive.quote_not_mem_normalize w (quote ▸ mem), own,
    isUpper_eq_false_of_lowered own⟩

/-- The entry of `%Token 'A'` under the Bison policy, in normal form. -/
theorem extract_entries_normal_bison :
    (⟨"token", "a"⟩ : Entry) ∈ (bison.extract ["%Token 'A'"]).entries ∧
      Directive.normalize "a" = "a" ∧ lowerString "token" = "token" ∧
      ∀ c ∈ "a".toList, c ≠ '\'' ∧ lowerChar c = [c] ∧ c.isUpper = false :=
  have mem : (⟨"token", "a"⟩ : Entry) ∈ (bison.extract ["%Token 'A'"]).entries := by
    decide +kernel
  ⟨mem, extract_entries_normal.2.2 bison ["%Token 'A'"] ⟨"token", "a"⟩ mem⟩

end Policy

end FuzzDict
