/-!
# Spans of code points

A character class drawn from the Unicode character database is stored as a
list of closed spans `lo..hi` of code points. Membership is a search through
the list, so a fact about one character is settled by evaluation, and a fact
about a whole class follows the list.
-/

namespace FuzzDict.Text

/-- The closed range of code points from `lo` to `hi`. -/
structure Span where
  lo : Nat
  hi : Nat
  deriving Repr, DecidableEq

namespace Span

/-- A span holds the code points between its two ends, both included. -/
def holds (s : Span) (n : Nat) : Bool :=
  s.lo ≤ n && n ≤ s.hi

/-- A character belongs to a table when one of the table's spans holds its code point. -/
def mem (table : List Span) (c : Char) : Bool :=
  table.any fun s => s.holds c.toNat

theorem mem_iff {table : List Span} {c : Char} :
    mem table c = true ↔ ∃ s ∈ table, s.lo ≤ c.toNat ∧ c.toNat ≤ s.hi := by
  simp [mem, holds]

end Span

end FuzzDict.Text
