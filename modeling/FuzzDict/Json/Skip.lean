import FuzzDict.Json.Literal
import FuzzDict.Json.Number
/-!
# Skipping a JSON value

A value that the reader does not want is skipped: its form is checked, but
nothing is kept. Arrays and objects are skipped element by element; a comma
must be followed by another element, so a trailing comma is refused as a
missing value (in an array) or a key that is not a string (in an object).

The skip is bounded by a count of steps; each step reads at least one
character, so a count above the length of the input is never used up.
-/

namespace FuzzDict.Json

mutual

/-- Skips one value. -/
def skipValue : Nat → Reader Unit
  | 0 => failHere .eofValue
  | fuel + 1 => do
    match ← blank with
    | none => failAhead .eofValue
    | some 'n' => bump; expectWord ['u', 'l', 'l']
    | some 't' => bump; expectWord ['r', 'u', 'e']
    | some 'f' => bump; expectWord ['a', 'l', 's', 'e']
    | some '-' => bump; skipWith skipNumber
    | some '"' => bump; skipWith skipString
    | some '[' =>
      bump
      match ← blank with
      | some ']' => bump
      | none => failAhead .eofList
      | some _ => skipElements fuel
    | some '{' =>
      bump
      match ← blank with
      | some '}' => bump
      | none => failAhead .eofObject
      | some _ => skipMembers fuel
    | some c => if isDigit c then skipWith skipNumber else failAhead .expectedValue

/-- Skips the elements of an array and its closing bracket. -/
def skipElements : Nat → Reader Unit
  | 0 => failHere .eofValue
  | fuel + 1 => do
    skipValue fuel
    match ← blank with
    | some ',' => bump; skipElements fuel
    | some ']' => bump
    | some _ => failAhead .expectedListEnd
    | none => failAhead .eofList

/-- Skips the members of an object and its closing brace. -/
def skipMembers : Nat → Reader Unit
  | 0 => failHere .eofValue
  | fuel + 1 => do
    match ← blank with
    | some '"' => bump; skipWith skipString
    | some _ => failAhead .keyNotString
    | none => failAhead .eofObject
    match ← blank with
    | some ':' => bump
    | some _ => failAhead .expectedColon
    | none => failAhead .eofObject
    skipValue fuel
    match ← blank with
    | some ',' => bump; skipMembers fuel
    | some '}' => bump
    | some _ => failAhead .expectedObjectEnd
    | none => failAhead .eofObject

end

end FuzzDict.Json
