import FuzzDict.Log.Pattern.Scan
import FuzzDict.Log.Pattern.Class
/-!
# Field values of a log filter

A field filter may ask for a value: `true` or `false`, a number, or else a
pattern that the field's text must match. A value that is none of these
refuses the whole filter. This module decides which texts are accepted.

A number is written as floating point text: a sign, digits with at most one
point and at least one digit, and an exponent; or `inf`, `infinity` or `nan`
in any case. A pattern is a regular expression: alternatives separated by
`|`, each a sequence of items, each item possibly repeated by `*`, `+`, `?`
or a count in braces. An item is a character, `.`, `^`, `$`, an escape, a
bracket class, or a group in parentheses, which may capture (with a name
given once) or set flags for its body; `(?flags)` alone sets them for the
rest of the group it stands in.

The matcher that builds the pattern has no Unicode tables, so it refuses
what needs them: a character, or a class with a character in it, under the
`i` flag with the `u` flag on (case folding); `\d`, `\s`, `\w` and their
complements with the `u` flag on; `\p` and `\P`; and word boundaries with the
`u` flag on. With the `u` flag off the pattern reads bytes, and it is refused
where it could match a byte from `0x80` up, which is not text: `.`, the
complement of a class of any kind, an escape `\xHH` from `\x80` up. It is
refused as well when it nests more than 250 levels: every group, repetition,
sequence of two or more items, choice between two or more alternatives and
level of a bracket class counts one.
-/

namespace FuzzDict.Log.Pattern

/-- The deepest level a pattern may reach. -/
def nestLimit : Nat := 250

/-- An item of a sequence: the levels it counts for, and whether it only sets
flags (a repetition cannot follow such an item). -/
structure Item where
  depth : Nat
  setsFlags : Bool
  deriving Repr, DecidableEq

/-- The levels a sequence counts for: nothing, its one item, or one more than
its deepest item. -/
def seqDepth : List Item → Nat
  | [] => 0
  | [i] => i.depth
  | is => is.foldl (fun m i => max m i.depth) 0 + 1

/-- The levels of a group body or a whole pattern: the last sequence, and
when there were earlier alternatives, one more than the deepest of all. -/
def choiceDepth (alts : List Nat) (items : List Item) : Nat :=
  match alts with
  | [] => seqDepth items
  | _ => (alts.foldl max (seqDepth items)) + 1

/-- Whether the matcher builds a piece outside a class under the flags. -/
def pieceOk (f : Flags) : Piece → Bool
  | .literal c byte =>
    !(byte && !f.unicode && 128 ≤ c.toNat) && !(f.caseless && f.unicode)
  | .perl negated => !f.unicode && !negated
  | .boundary => !f.unicode
  | .anchor => true
  | .dot => f.unicode

/-- Reads an item that is neither a group, a class nor a repetition. -/
def atom (f : Flags) : List Char → Option (Piece × List Char)
  | '\\' :: rest => escape f rest
  | '.' :: rest => some (.dot, rest)
  | '^' :: rest | '$' :: rest => some (.anchor, rest)
  | c :: rest => some (.literal c false, rest)
  | [] => none

/-- How a group opens. -/
inductive Opening where
  /-- `(?flags)`: the flags change for the rest of the enclosing group. -/
  | setFlags (f : Flags)
  /-- A group whose body is read under the given flags. -/
  | group (f : Flags)

/-- Reads what follows a `(`: look-around, which the matcher does not have,
is refused; a named group's name must be new. Gives how the group opens, the
names taken so far and the text after the opening. -/
def opening (f : Flags) (names : List String) (cs : List Char) :
    Option (Opening × List String × List Char) :=
  match skipSpace f cs with
  | '?' :: '=' :: _ | '?' :: '!' :: _ | '?' :: '<' :: '=' :: _ | '?' :: '<' :: '!' :: _ => none
  | '?' :: 'P' :: '<' :: rest | '?' :: '<' :: rest => do
    let (name, after) ← captureName rest
    if names.contains name then none else some (.group f, name :: names, after)
  | '?' :: rest => do
    let (g, closes, after) ← groupFlags f rest
    some (if closes then .setFlags g else .group g, names, after)
  | rest => some (.group f, names, rest)

/-- Reads a sequence of alternatives up to the end of a group (`inGroup`) or
of the pattern. `alts` holds the levels of the alternatives read, `items`
the current sequence, latest first. Gives the levels of the whole, the names
taken, and the text after the closing parenthesis. -/
def body : Nat → Bool → Flags → List String → List Nat → List Item → List Char →
    Option (Nat × List String × List Char)
  | 0, _, _, _, _, _, _ => none
  | fuel + 1, inGroup, f, names, alts, items, cs =>
    match skipSpace f cs with
    | [] => if inGroup then none else some (choiceDepth alts items, names, [])
    | ')' :: rest => if inGroup then some (choiceDepth alts items, names, rest) else none
    | '|' :: rest => body fuel inGroup f names (seqDepth items :: alts) [] rest
    | '(' :: rest =>
      match opening f names rest with
      | some (.setFlags g, names, after) => body fuel inGroup g names alts (⟨0, true⟩ :: items) after
      | some (.group g, names, after) =>
        match body fuel true g names [] [] after with
        | some (d, names, after) => body fuel inGroup f names alts (⟨d + 1, false⟩ :: items) after
        | none => none
      | none => none
    | '[' :: rest =>
      match readBracket f ('[' :: rest) with
      | some (p, after) => body fuel inGroup f names alts (⟨p.depth, false⟩ :: items) after
      | none => none
    | c :: rest =>
      if c = '*' || c = '+' || c = '?' then
        match items with
        | last :: earlier =>
          if last.setsFlags then none
          else
            let after := match rest with
              | '?' :: more => more
              | _ => rest
            body fuel inGroup f names alts (⟨last.depth + 1, false⟩ :: earlier) after
        | [] => none
      else if c = '\x7b' then
        match items, counted f rest with
        | last :: earlier, some after =>
          if last.setsFlags then none
          else body fuel inGroup f names alts (⟨last.depth + 1, false⟩ :: earlier) after
        | _, _ => none
      else
        match atom f (c :: rest) with
        | some (p, after) =>
          if pieceOk f p then body fuel inGroup f names alts (⟨0, false⟩ :: items) after
          else none
        | none => none

/-- A pattern the matcher builds. -/
def valid (cs : List Char) : Bool :=
  match body (cs.length + 2) false {} [] [] [] cs with
  | some (d, _, _) => d ≤ nestLimit
  | none => false

/-- Decimal floating point text, or `inf`, `infinity` or `nan` in any case,
each with an optional sign. -/
def isNumberText (cs : List Char) : Bool :=
  let cs := match cs with
    | '+' :: rest | '-' :: rest => rest
    | _ => cs
  let word := String.ofList (cs.map Char.toLower)
  if word = "inf" || word = "infinity" || word = "nan" then true
  else
    let (whole, rest) := cs.span Char.isDigit
    let (part, rest) := match rest with
      | '.' :: more => more.span Char.isDigit
      | _ => ([], rest)
    if whole.isEmpty && part.isEmpty then false
    else
      match rest with
      | [] => true
      | e :: more =>
        if e = 'e' || e = 'E' then
          let more := match more with
            | '+' :: m | '-' :: m => m
            | _ => more
          !more.isEmpty && more.all Char.isDigit
        else false

/-- A value a field filter may ask for: a truth value, a number or a pattern. -/
def accepted (v : String) : Bool :=
  v = "true" || v = "false" || isNumberText v.toList || valid v.toList

example : accepted "+5" = true ∧ accepted "(" = false ∧ accepted "a+" = true := by decide +kernel
example : accepted "x\\b" = false ∧ accepted "[a-" = false ∧ accepted "[]a]" = true := by
  decide +kernel
example : accepted "(?i)a" = false ∧ accepted "(?i-u)a" = true ∧ accepted "(?x)#)" = true := by
  decide +kernel
example : accepted "(?-u:\\b)" = true ∧ accepted "(?-u:[^a])" = false ∧ accepted "\\w" = false := by
  decide +kernel

end FuzzDict.Log.Pattern
