/-!
# Similarity of words

The Jaro similarity of two words compares their characters within a window:
a character of the first word matches the first unmatched equal character of
the second that lies at most `max(|a|, |b|) / 2 - 1` places away. With `m`
matches and `t` half the number of matched pairs out of order, the
similarity is the mean of `m / |a|`, `m / |b|` and `(m - t) / m`, computed
in double precision; two empty words are alike, and one empty word is like
nothing.
-/

namespace FuzzDict.Cli

/-- Marks the first unmatched character of `b`, at a place in `lo..hi`, that
equals `c`. Gives the updated marks, or nothing when there is none. -/
def markFirst (c : Char) (lo hi : Nat) (b : List Char) (marks : List Bool) : Option (List Bool) :=
  let places := (List.range b.length).filter fun j => lo ≤ j && j < hi
  match places.find? fun j => b[j]? = some c && marks[j]? = some false with
  | some j => some (marks.set j true)
  | none => none

/-- The matching of `a` against `b`: which characters of `a` match, and which
of `b` are matched. -/
def matching (a b : List Char) : List Bool × List Bool :=
  let range := max a.length b.length / 2 - 1
  (a.zipIdx).foldl (fun (am, bm) (c, i) =>
    match markFirst c (i - range) (min b.length (i + range + 1)) b bm with
    | some bm' => (am ++ [true], bm')
    | none => (am ++ [false], bm)) ([], List.replicate b.length false)

/-- The Jaro similarity of two words. -/
def jaro (a b : List Char) : Float :=
  if a.isEmpty && b.isEmpty then 1.0
  else if a.isEmpty || b.isEmpty then 0.0
  else
    let (am, bm) := matching a b
    let ma := (a.zip am).filterMap fun (c, k) => if k then some c else none
    let mb := (b.zip bm).filterMap fun (c, k) => if k then some c else none
    let m := ma.length
    if m = 0 then 0.0
    else
      let t := ((ma.zip mb).filter fun (x, y) => x ≠ y).length / 2
      let mf := Float.ofNat m
      ((mf / Float.ofNat a.length) + (mf / Float.ofNat b.length) +
        (Float.ofNat (m - t) / mf)) / 3.0

end FuzzDict.Cli
