import FuzzDict.Log.Pattern.Scan
/-!
# Bracket classes

A bracket class `[...]` is a union of items: characters, ranges `a-z`, named
classes `[:alpha:]`, Perl classes, and nested bracket classes; `&&`, `--` and
`~~` combine the unions before and after them (intersection, difference and
symmetric difference, from the left). A `^` after the opening bracket takes
the complement. Leading `-` and, when nothing comes before it, a `]` stand
for themselves.

The matcher builds a class only when three things hold, and these decide
what this module keeps of each part of a class (`Part`):

* nesting: every bracket, union of two or more items and combination counts
  one level, and a pattern may nest at most 250 levels;
* with the `u` flag off the class is a set of bytes, and every complement
  (of a bracket class, a named class or a Perl class) is refused on its own:
  the classes before it hold ASCII only, so their complement holds every byte
  from `0x80` up, which is not text;
* with the `i` flag on and the `u` flag on, the matcher has no case tables,
  so it refuses every class that holds a character (`blank` marks the parts
  written with none).
-/

namespace FuzzDict.Log.Pattern

/-- What the checks keep of a part of a bracket class. -/
structure Part where
  /-- The levels of nesting the part counts for. -/
  depth : Nat
  /-- The part is written with no character in it. -/
  blank : Bool
  deriving Repr, DecidableEq

namespace Part

/-- A single character, range or class. -/
def leaf : Part :=
  ⟨0, false⟩

/-- The deepest of a list of parts. -/
def maxDepth (ps : List Part) : Nat :=
  ps.foldl (fun m p => max m p.depth) 0

/-- A union of items: nothing, one item as it is, or a union of two or more
items, which counts one level. -/
def union : List Part → Part
  | [] => ⟨0, true⟩
  | [p] => p
  | ps => ⟨maxDepth ps + 1, ps.all (·.blank)⟩

end Part

/-- Two sets combined by `&&`, `--` or `~~`; the combination counts one
level. The matcher folds the case of both sides first, which it cannot do
without case tables unless both are blank. -/
def combine (f : Flags) (l r : Part) : Option Part :=
  if f.caseless && f.unicode && !(l.blank && r.blank) then none
  else some ⟨max l.depth r.depth + 1, l.blank && r.blank⟩

/-- Adds a union to the combination waiting for its right side, if any. -/
def attach (f : Flags) (pending : Option Part) (u : Part) : Option Part :=
  match pending with
  | none => some u
  | some l => combine f l u

/-- A complement, which without the `u` flag would reach the bytes from
`0x80` up. -/
def complementOk (f : Flags) (negated : Bool) : Bool :=
  f.unicode || !negated

/-- Closes a bracket class around its set: it counts one level; without the
`u` flag it may not be a complement; with the `i` and `u` flags it must be
blank. -/
def closeBracket (f : Flags) (negated : Bool) (s : Part) : Option Part :=
  if !complementOk f negated || (f.caseless && f.unicode && !s.blank) then none
  else some ⟨s.depth + 1, !negated && s.blank⟩

/-- A character of a class: without the `u` flag only ASCII is allowed. -/
def classChar (f : Flags) (c : Char) : Bool :=
  f.unicode || c.toNat < 128

/-- An item read from a piece. A Perl class needs the `u` flag off (the
matcher has no Unicode tables for it) and, in bytes, no complement; an
assertion cannot stand in a class. -/
def pieceItem (f : Flags) : Piece → Option Part
  | .literal c _ => if classChar f c then some Part.leaf else none
  | .perl negated => if f.unicode || negated then none else some Part.leaf
  | _ => none

/-- The class names that `[:name:]` may give. -/
def posixNames : List String :=
  ["alnum", "alpha", "ascii", "blank", "cntrl", "digit", "graph", "lower", "print", "punct",
    "space", "upper", "word", "xdigit"]

/-- A named class `[:name:]` or `[:^name:]` at a `[`: whether it is a
complement, and the text after it. -/
def posix? : List Char → Option (Bool × List Char)
  | '[' :: ':' :: rest =>
    let (negated, rest) := match rest with
      | '^' :: more => (true, more)
      | _ => (false, rest)
    match rest.span (· ≠ ':') with
    | (name, ':' :: ']' :: after) =>
      if posixNames.contains (String.ofList name) then some (negated, after) else none
    | _ => none
  | _ => none

/-- One character of a class, or an escape. -/
def classPiece (f : Flags) : List Char → Option (Piece × List Char)
  | '\\' :: rest => escape f rest
  | c :: rest => some (.literal c false, rest)
  | [] => none

/-- An item that is not a bracket: a piece, or a range from one character to
a later one when a `-` follows that neither closes the class nor starts `--`. -/
def classRange (f : Flags) (cs : List Char) : Option (Part × List Char) := do
  let (first, rest) ← classPiece f cs
  match skipSpace f rest with
  | [] => none
  | '-' :: more =>
    match peekSpace f more with
    | some ']' | some '-' => (pieceItem f first).map (·, '-' :: more)
    | _ =>
      let (last, after) ← classPiece f (skipSpace f more)
      match first, last with
      | .literal a _, .literal b _ =>
        if a ≤ b && classChar f a && classChar f b then some (Part.leaf, after) else none
      | _, _ => none
  | rest => (pieceItem f first).map (·, rest)

/-- Leading `-` characters of a class, each one a literal; `steps` above the
length of the text is enough. -/
def leadingDashes (f : Flags) : Nat → List Part → List Char → Option (List Part × List Char)
  | 0, _, _ => none
  | steps + 1, items, '-' :: rest =>
    match skipSpace f rest with
    | [] => none
    | more => leadingDashes f steps (Part.leaf :: items) more
  | _ + 1, items, cs => some (items, cs)

mutual

/-- Reads a bracket class at its `[`: gives its part and the text after the
closing bracket. -/
def bracket : Nat → Flags → List Char → Option (Part × List Char)
  | 0, _, _ => none
  | fuel + 1, f, cs => do
    let cs ← match skipSpace f cs.tail with
      | [] => none
      | more => some more
    let (negated, cs) ← match cs with
      | '^' :: rest =>
        match skipSpace f rest with
        | [] => none
        | more => some (true, more)
      | _ => some (false, cs)
    let (items, cs) ← leadingDashes f (cs.length + 1) [] cs
    let (items, cs) ← match items, cs with
      | [], ']' :: rest =>
        match skipSpace f rest with
        | [] => none
        | more => some ([Part.leaf], more)
      | _, _ => some (items, cs)
    classItems fuel f negated none items cs

/-- Reads the items of a bracket class up to its closing bracket. `items` is
the union read so far, latest first, and `pending` the combination waiting
for its right side. -/
def classItems : Nat → Flags → Bool → Option Part → List Part → List Char →
    Option (Part × List Char)
  | 0, _, _, _, _, _ => none
  | fuel + 1, f, negated, pending, items, cs =>
    match skipSpace f cs with
    | [] => none
    | ']' :: rest => do
      let s ← attach f pending (Part.union items.reverse)
      let p ← closeBracket f negated s
      some (p, rest)
    | '[' :: rest =>
      match posix? ('[' :: rest) with
      | some (neg, after) =>
        if complementOk f neg then classItems fuel f negated pending (Part.leaf :: items) after
        else none
      | none => do
        let (p, after) ← bracket fuel f ('[' :: rest)
        classItems fuel f negated pending (p :: items) after
    | '&' :: '&' :: rest | '-' :: '-' :: rest | '~' :: '~' :: rest => do
      let l ← attach f pending (Part.union items.reverse)
      classItems fuel f negated (some l) [] rest
    | more => do
      let (p, after) ← classRange f more
      classItems fuel f negated pending (p :: items) after

end

/-- Reads a bracket class at its `[`, with enough steps for the whole text. -/
def readBracket (f : Flags) (cs : List Char) : Option (Part × List Char) :=
  bracket (2 * cs.length + 2) f cs

example : (readBracket {} "[a--b]x".toList).map (·.2) = some ['x'] := by decide +kernel
example : readBracket {} "[z-a]".toList = none := by decide +kernel
example : readBracket { unicode := false } "[^a]".toList = none := by decide +kernel
example : readBracket { unicode := false } "[a&&[:^alpha:]]".toList = none := by decide +kernel

end FuzzDict.Log.Pattern
