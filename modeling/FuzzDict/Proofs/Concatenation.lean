import FuzzDict.Extraction
/-!
# Dictionaries of concatenated grammars

The scan reads lines one at a time and keeps no state from one line to the
next, apart from having stopped. So the dictionary of two stretches of lines
read one after the other is determined by the dictionaries of the two
stretches: once the first stretch reaches the terminator nothing after it
counts, and otherwise the entries follow one another and the tallies add up.
-/

namespace FuzzDict.Policy

/-- The dictionary of `a ++ b`: that of `a` when `a` reaches the terminator;
otherwise the entries of `a` then those of `b`, the same extras, and the sum
of the two tallies. -/
theorem extract_append (p : Policy) (a b : List String) :
    p.extract (a ++ b) =
      if (p.extract a).tally.terminated then p.extract a
      else
        { entries := (p.extract a).entries ++ (p.extract b).entries
          extras := (p.extract a).extras
          tally := (p.extract a).tally.add (p.extract b).tally } := by
  simp only [extract, assemble, tallyOf_terminated, scan_append]
  by_cases stop : (p.scan a).any Verdict.isStop
  · simp [stop]
  · simp [stop, List.flatMap_append, tallyOf_append]

end FuzzDict.Policy
