import FuzzDict.Policy
import FuzzDict.Json.Skip
/-!
# Reading a policy from JSON

A policy is written as a JSON object whose members name fields, or as an
array that gives the fields by position, in the order sentinel, terminator,
excluded names, suppress marker, annotation prefix, extra tokens. Fields left
out keep the values of the Bison policy; members with other names are
skipped; a field named twice is refused. The sentinel and the annotation
prefix are strings of exactly one character; the excluded names and the
extra tokens are arrays of strings.

A value of the wrong kind is refused after it has been read, and described
in the error. After the policy only blanks may follow.
-/

namespace FuzzDict

namespace Policy

open Json

/-- The fields of a policy, as JSON names them. -/
inductive Field where
  | sentinel
  | terminator
  | excluded
  | suppressMarker
  | annotationPrefix
  | extraTokens
  deriving Repr, DecidableEq

namespace Field

/-- The JSON name of a field. -/
def key : Field → String
  | sentinel => "sentinel"
  | terminator => "terminator"
  | excluded => "excluded_directives"
  | suppressMarker => "suppress_marker"
  | annotationPrefix => "type_annotation_prefix"
  | extraTokens => "extra_tokens"

/-- The fields in the order an array gives them. -/
def all : List Field :=
  [sentinel, terminator, excluded, suppressMarker, annotationPrefix, extraTokens]

/-- The field a JSON name stands for. -/
def ofKey? (name : String) : Option Field :=
  all.find? (·.key = name)

end Field

/-- Refuses the value ahead, which is not of the kind wanted, after reading it. -/
def refuse {α : Type} (wanted : Expected) : Reader α := do
  match ← peek with
  | some 'n' => bump; expectWord ['u', 'l', 'l']; failHere (.invalidType .null wanted)
  | some 't' => bump; expectWord ['r', 'u', 'e']; failHere (.invalidType (.bool true) wanted)
  | some 'f' => bump; expectWord ['a', 'l', 's', 'e']; failHere (.invalidType (.bool false) wanted)
  | some '-' =>
    bump
    let n ← scan (readNumber false)
    failHere (.invalidType n.unexpected wanted)
  | some '"' =>
    bump
    let cs ← scan (readString [])
    failHere (.invalidType (.str (String.ofList cs)) wanted)
  | some '[' => failHere (.invalidType .seq wanted)
  | some '{' => failHere (.invalidType .map wanted)
  | some c =>
    if isDigit c then
      let n ← scan (readNumber true)
      failHere (.invalidType n.unexpected wanted)
    else failAhead .expectedValue
  | none => failAhead .expectedValue

/-- Reads a string value, or refuses another kind as not `wanted`. -/
def readText (wanted : Expected) : Reader String := do
  match ← blank with
  | none => failAhead .eofValue
  | some '"' =>
    bump
    return String.ofList (← scan (readString []))
  | some _ => refuse wanted

/-- Reads a string of exactly one character. -/
def readChar : Reader Char := do
  let s ← readText .char
  match s.toList with
  | [c] => pure c
  | _ => failHere (.invalidValue (.str s) .char)

/-- Whether an array has another element: `first` until one has been read. -/
def nextElement (first : Bool) : Reader Bool := do
  match ← blank with
  | none => failAhead .eofList
  | some ']' => pure false
  | some c =>
    if first then pure true
    else if c = ',' then
      bump
      match ← blank with
      | some ']' => failAhead .trailingComma
      | some _ => pure true
      | none => failAhead .eofValue
    else failAhead .expectedListEnd

/-- The closing bracket of an array that holds no more wanted elements. -/
def closeList : Reader Unit := do
  match ← blank with
  | some ']' => bump
  | some ',' =>
    bump
    match ← blank with
    | some ']' => failAhead .trailingComma
    | _ => failAhead .trailingCharacters
  | some _ => failAhead .trailingCharacters
  | none => failAhead .eofList

/-- The closing brace of an object whose members are all read. -/
def closeObject : Reader Unit := do
  match ← blank with
  | some '}' => bump
  | some ',' => failAhead .trailingComma
  | some _ => failAhead .trailingCharacters
  | none => failAhead .eofObject

/-- The strings of an array after its opening bracket. -/
def readItems : Nat → Bool → Reader (List String)
  | 0, _ => failHere .eofValue
  | fuel + 1, first => do
    if ← nextElement first then
      let s ← readText .string
      let rest ← readItems fuel false
      pure (s :: rest)
    else pure []

/-- Reads an array of strings. -/
def readList (fuel : Nat) : Reader (List String) := do
  match ← blank with
  | none => failAhead .eofValue
  | some '[' =>
    bump
    let items ← readItems fuel true
    closeList
    pure items
  | some _ => refuse .list

/-- Reads the value of a field into a policy. -/
def readField (fuel : Nat) (p : Policy) : Field → Reader Policy
  | .sentinel => return { p with sentinel := ← readChar }
  | .terminator => return { p with terminator := ← readText .string }
  | .excluded => return { p with excluded := ← readList fuel }
  | .suppressMarker => return { p with suppressMarker := ← readText .string }
  | .annotationPrefix => return { p with annotationPrefix := ← readChar }
  | .extraTokens => return { p with extraTokens := ← readList fuel }

/-- Reads the fields given by position, the first of `fields` next. -/
def readPositional (fuel : Nat) : List Field → Bool → Policy → Reader Policy
  | [], _, p => pure p
  | f :: fs, first, p => do
    if ← nextElement first then readPositional fuel fs false (← readField fuel p f)
    else readPositional fuel fs first p

/-- Whether an object has another member: `first` until one has been read. -/
def nextKey (first : Bool) : Reader Bool := do
  match ← blank with
  | none => failAhead .eofObject
  | some '}' => pure false
  | some c =>
    if first then
      if c = '"' then pure true else failAhead .keyNotString
    else if c = ',' then
      bump
      match ← blank with
      | some '"' => pure true
      | some '}' => failAhead .trailingComma
      | some _ => failAhead .keyNotString
      | none => failAhead .eofValue
    else failAhead .expectedObjectEnd

/-- The colon between a key and its value. -/
def colon : Reader Unit := do
  match ← blank with
  | some ':' => bump
  | some _ => failAhead .expectedColon
  | none => failAhead .eofObject

/-- A field named twice is refused, placed after the blanks that follow its
second name and after a closing brace right there. -/
def repeated {α : Type} (f : Field) : Reader α := do
  let rest := (← get).dropWhile Json.isBlank
  let rest := match rest with
    | '}' :: r => r
    | r => r
  throw (Error.before (.duplicateField f.key) rest)

/-- Reads the members of an object after its opening brace; `seen` holds the
fields read so far. -/
def readMembers : Nat → Bool → List Field → Policy → Reader Policy
  | 0, _, _, _ => failHere .eofValue
  | fuel + 1, first, seen, p => do
    if ← nextKey first then
      bump
      let name := String.ofList (← scan (readString []))
      match Field.ofKey? name with
      | some f =>
        if seen.contains f then repeated f
        else
          colon
          let p ← readField fuel p f
          readMembers fuel false (f :: seen) p
      | none =>
        colon
        skipValue fuel
        readMembers fuel false seen p
    else pure p

/-- Reads a policy, as an object or an array. -/
def readPolicy (fuel : Nat) : Reader Policy := do
  match ← blank with
  | none => failAhead .eofValue
  | some '[' =>
    bump
    let p ← readPositional fuel Field.all true bison
    closeList
    pure p
  | some '{' =>
    bump
    let p ← readMembers fuel true [] bison
    closeObject
    pure p
  | some _ => refuse .policy

/-- Reads a whole JSON text as a policy; only blanks may follow it. -/
def ofJson (input : String) : Except Located Policy :=
  let whole : Reader Policy := do
    let p ← readPolicy (input.length + 1)
    match ← blank with
    | some _ => failAhead .trailingCharacters
    | none => pure p
  match whole input.toList with
  | .ok (p, _) => .ok p
  | .error e => .error (e.locate input)

end Policy

end FuzzDict
