import FuzzDict.Json.Reader
/-!
# JSON numbers

A number is an optional minus, an integer part without superfluous leading
zero, an optional fraction after `.` with at least one digit, and an
optional exponent after `e` or `E` with an optional sign and at least one
digit.

An integer without fraction or exponent stays an integer while it fits in
64 bits: unsigned when positive, signed when negative down to `-2^63`. Minus
zero, and negative integers below `-2^63`, become doubles. Other numbers
become doubles as `significand * 10^exponent`: the significand keeps the
leading digits while it fits in 64 bits (later digits only move the
exponent), the exponent saturates at the bounds of 32-bit integers, and the
double is the significand scaled by one rounded power of ten, or by
`10^308` repeatedly for tiny values. A double that overflows is refused as
out of range; so is an exponent too large to hold, unless the significand is
zero or the exponent negative, which give zero.

`skipNumber` only finds the end of a number, with the same checks of its
form.
-/

namespace FuzzDict.Json

/-- A number as read: an integer of 64 bits or a double. -/
inductive Number where
  | unsigned (n : Nat)
  | signed (i : Int)
  | float (f : Float)

/-- How an error message names a number. -/
def Number.unexpected : Number → Unexpected
  | .unsigned n => .unsigned n
  | .signed i => .signed i
  | .float f => .float f

/-- The largest unsigned integer of 64 bits. -/
def maxU64 : Nat := 0xFFFFFFFFFFFFFFFF

/-- The largest signed integer of 32 bits. -/
def maxI32 : Nat := 0x7FFFFFFF

/-- An integer saturated to the bounds of signed 32-bit integers. -/
def clampI32 (i : Int) : Int :=
  max (-0x80000000) (min 0x7FFFFFFF i)

/-- The double nearest `10^k`. -/
def pow10 (k : Nat) : Float :=
  Float.ofScientific 1 false k

/-- Scales a double by `10^e`: multiplied by the rounded power for `0 ≤ e ≤ 308`,
divided for `-308 ≤ e < 0`, divided by `10^308` until in reach below. Nothing
when the result overflows. -/
def scaleTen (f : Float) (e : Int) : Option Float :=
  if e.natAbs ≤ 308 then
    if 0 ≤ e then
      let g := f * pow10 e.natAbs
      if g.isInf then none else some g
    else some (f / pow10 e.natAbs)
  else if f == 0.0 then some f
  else if 0 ≤ e then none
  else scaleTen (f / pow10 308) (e + 308)
termination_by e.natAbs
decreasing_by omega

/-- The number read so far, or an error. -/
abbrev Scanned := Except Error (Number × List Char)

/-- The double `± sig * 10^exp`, before `rest`. -/
def fromParts (positive : Bool) (sig : Nat) (exp : Int) (rest : List Char) : Scanned :=
  match scaleTen (Float.ofNat sig) exp with
  | some f => .ok (.float (if positive then f else -f), rest)
  | none => .error (Error.before .numberOutOfRange rest)

/-- After an exponent too large to hold: refused for a non-zero significand
under a positive exponent, zero otherwise. -/
def exponentOverflow (positive zeroSig positiveExp : Bool) (rest : List Char) : Scanned :=
  if !zeroSig && positiveExp then .error (Error.before .numberOutOfRange rest)
  else .ok (.float (if positive then 0.0 else -0.0), rest.dropWhile isDigit)

/-- The digits of an exponent after its first digit; `exp` is its value so far. -/
def exponentDigits (positive : Bool) (sig : Nat) (start : Int) (positiveExp : Bool) (exp : Nat) :
    List Char → Scanned
  | d :: rest =>
    if isDigit d then
      if exp * 10 + digitValue d > maxI32 then exponentOverflow positive (sig == 0) positiveExp rest
      else exponentDigits positive sig start positiveExp (exp * 10 + digitValue d) rest
    else fromParts positive sig (clampI32 (if positiveExp then start + exp else start - exp)) (d :: rest)
  | [] => fromParts positive sig (clampI32 (if positiveExp then start + exp else start - exp)) []

/-- An exponent after its `e`, added to `start`. -/
def exponent (positive : Bool) (sig : Nat) (start : Int) (cs : List Char) : Scanned :=
  let (positiveExp, cs) := match cs with
    | '+' :: r => (true, r)
    | '-' :: r => (false, r)
    | _ => (true, cs)
  match cs with
  | [] => .error ⟨.eofValue, 0⟩
  | c :: r =>
    if isDigit c then exponentDigits positive sig start positiveExp (digitValue c) r
    else .error (Error.into .invalidNumber (c :: r))

/-- After the digits of a significand: an exponent, or the end of the number. -/
def afterDigits (positive : Bool) (sig : Nat) (exp : Int) (cs : List Char) : Scanned :=
  match cs with
  | 'e' :: r => exponent positive sig exp r
  | 'E' :: r => exponent positive sig exp r
  | _ => fromParts positive sig exp cs

/-- The digits of a fraction; `after` counts those taken into the significand. -/
def fraction (positive : Bool) (sig : Nat) (before : Int) (after : Nat) : List Char → Scanned
  | d :: rest =>
    if isDigit d then
      if sig * 10 + digitValue d > maxU64 then
        afterDigits positive sig (before - after) ((d :: rest).dropWhile isDigit)
      else fraction positive (sig * 10 + digitValue d) before (after + 1) rest
    else if after = 0 then .error (Error.into .invalidNumber (d :: rest))
    else afterDigits positive sig (before - after) (d :: rest)
  | [] => if after = 0 then .error ⟨.eofValue, 0⟩ else afterDigits positive sig (before - after) []

/-- The digits of an integer part past 64 bits; each moves the exponent. -/
def longInteger (positive : Bool) (sig : Nat) (exp : Nat) : List Char → Scanned
  | d :: rest =>
    if isDigit d then longInteger positive sig (exp + 1) rest
    else if d = '.' then fraction positive sig exp 0 rest
    else afterDigits positive sig exp (d :: rest)
  | [] => fromParts positive sig exp []

/-- An integer without fraction or exponent. -/
def integerValue (positive : Bool) (sig : Nat) : Number :=
  if positive then .unsigned sig
  else if sig = 0 then .float (-0.0)
  else if sig ≤ 0x8000000000000000 then .signed (-(sig : Int))
  else .float (-(Float.ofNat sig))

/-- After the integer part: a fraction, an exponent, or the end. -/
def integerEnd (positive : Bool) (sig : Nat) (cs : List Char) : Scanned :=
  match cs with
  | '.' :: r => fraction positive sig 0 0 r
  | 'e' :: r => exponent positive sig 0 r
  | 'E' :: r => exponent positive sig 0 r
  | _ => .ok (integerValue positive sig, cs)

/-- The digits of an integer part after its first. -/
def integerDigits (positive : Bool) (sig : Nat) : List Char → Scanned
  | d :: rest =>
    if isDigit d then
      if sig * 10 + digitValue d > maxU64 then longInteger positive sig 0 (d :: rest)
      else integerDigits positive (sig * 10 + digitValue d) rest
    else integerEnd positive sig (d :: rest)
  | [] => integerEnd positive sig []

/-- Reads a number after its sign: positive, or negative after a minus. -/
def readNumber (positive : Bool) : List Char → Scanned
  | [] => .error ⟨.eofValue, 0⟩
  | '0' :: rest =>
    match rest with
    | d :: _ => if isDigit d then .error (Error.into .invalidNumber rest) else integerEnd positive 0 rest
    | [] => integerEnd positive 0 []
  | c :: rest =>
    if '1' ≤ c ∧ c ≤ '9' then integerDigits positive (digitValue c) rest
    else .error (Error.into .invalidNumber (c :: rest))

/-- Finds the end of an exponent after its `e`. -/
def skipExponent (cs : List Char) : Except Error (List Char) :=
  let cs := match cs with
    | '+' :: r => r
    | '-' :: r => r
    | _ => cs
  match cs with
  | c :: r => if isDigit c then .ok (r.dropWhile isDigit) else .error (Error.into .invalidNumber (c :: r))
  | [] => .error ⟨.invalidNumber, 0⟩

/-- Finds the end of a fraction after its point. -/
def skipFraction (cs : List Char) : Except Error (List Char) :=
  match cs with
  | d :: _ =>
    if isDigit d then
      match cs.dropWhile isDigit with
      | 'e' :: r => skipExponent r
      | 'E' :: r => skipExponent r
      | r => .ok r
    else .error (Error.into .invalidNumber cs)
  | [] => .error (Error.into .invalidNumber cs)

/-- Finds the end of the rest of a number after its integer part. -/
def skipNumberTail (cs : List Char) : Except Error (List Char) :=
  match cs with
  | '.' :: r => skipFraction r
  | 'e' :: r => skipExponent r
  | 'E' :: r => skipExponent r
  | _ => .ok cs

/-- Finds the end of a number after its sign. -/
def skipNumber : List Char → Except Error (List Char)
  | [] => .error ⟨.invalidNumber, 0⟩
  | '0' :: rest =>
    match rest with
    | d :: _ => if isDigit d then .error (Error.into .invalidNumber rest) else skipNumberTail rest
    | [] => .ok []
  | c :: rest =>
    if '1' ≤ c ∧ c ≤ '9' then skipNumberTail (rest.dropWhile isDigit)
    else .error (Error.into .invalidNumber (c :: rest))

end FuzzDict.Json
