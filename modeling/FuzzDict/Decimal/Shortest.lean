/-!
# Shortest decimal text of a double

A finite double stands for the interval of reals that round to it: from
halfway to its lower neighbour to halfway to its upper one, both ends
included exactly when its significand is even. Its shortest decimal is the
decimal with the fewest significant digits inside that interval; when
several have that many digits, the one nearest the double is taken, and of
two equally near the one with the even last digit.

The search tries the powers of ten from the largest down: at each power
`10^i` the multiples of `10^i` inside the interval form a range of integers
`least..greatest`, and the first power with a non-empty range gives the
digits. Everything is exact arithmetic on naturals.

`render` lays the digits out: positional with a `.0` when the point falls
within sixteen places right of the first digit, positional after `0.` for
values down to `0.00001`, and otherwise one digit, a point if more digits
follow, and the exponent after `e`, signed.
-/

namespace FuzzDict.Decimal

/-- A finite non-negative double `m * 2^q`. -/
structure Binary where
  m : Nat
  q : Int
  /-- The gap to the double below is half the gap to the double above: a
  power of two that is not the least normal double. -/
  narrowBelow : Bool
  deriving Repr, DecidableEq

/-- The magnitude of a finite double, from its bits. -/
def Binary.ofBits (b : UInt64) : Binary :=
  let e := ((b >>> 52) &&& 0x7FF).toNat
  let f := (b &&& 0xFFFFFFFFFFFFF).toNat
  if e == 0 then ⟨f, -1074, false⟩ else ⟨0x10000000000000 + f, (e : Int) - 1075, f == 0 && e > 1⟩

/-- A decimal `digits * 10^exp`. -/
structure Dec where
  digits : Nat
  exp : Int
  deriving Repr, DecidableEq

/-- The fraction `a * 2^j / 10^i`, as numerator and denominator. -/
def scaled (a : Nat) (j i : Int) : Nat × Nat :=
  (a * Nat.pow 2 j.toNat * Nat.pow 10 (-i).toNat, Nat.pow 2 (-j).toNat * Nat.pow 10 i.toNat)

namespace Binary

/-- The least and greatest integer `c` with `c * 10^i` inside the interval of
the double. The range is empty when the first exceeds the second. -/
def grid (x : Binary) (i : Int) : Nat × Nat :=
  let incl := x.m % 2 == 0
  let (ln, ld) := scaled (if x.narrowBelow then 4 * x.m - 1 else 4 * x.m - 2) (x.q - 2) i
  let (hn, hd) := scaled (4 * x.m + 2) (x.q - 2) i
  let least := if ln % ld == 0 && incl then ln / ld else ln / ld + 1
  let greatest := if hn % hd == 0 && !incl then hn / hd - 1 else hn / hd
  (least, greatest)

/-- The multiple of `10^i` inside the interval that is nearest the double, if
there is one; of two equally near, the even one. -/
def nearestAt (x : Binary) (i : Int) : Option Dec :=
  let (least, greatest) := x.grid i
  if least ≤ greatest then
    let (vn, vd) := scaled (4 * x.m) (x.q - 2) i
    let below := vn / vd
    let r := vn % vd
    let belowIn := least ≤ below && below ≤ greatest
    let aboveIn := r != 0 && below + 1 ≤ greatest
    if belowIn && aboveIn then
      if 2 * r < vd then some ⟨below, i⟩
      else if 2 * r > vd then some ⟨below + 1, i⟩
      else if below % 2 == 0 then some ⟨below, i⟩ else some ⟨below + 1, i⟩
    else if belowIn then some ⟨below, i⟩
    else some ⟨below + 1, i⟩
  else none

/-- The exact decimal value of the double. -/
def exact (x : Binary) : Dec :=
  if 0 ≤ x.q then ⟨x.m * Nat.pow 2 x.q.toNat, 0⟩ else ⟨x.m * Nat.pow 5 (-x.q).toNat, x.q⟩

/-- The shortest decimal of a positive double: the first power of ten, from
`10^310` down to `10^-339`, with a multiple inside the interval. -/
def shortest (x : Binary) : Dec :=
  ((List.range 650).findSome? fun (n : Nat) => x.nearestAt (310 - (n : Int))).getD x.exact

end Binary

/-- `n` zeros. -/
def zeros (n : Nat) : String :=
  String.ofList (List.replicate n '0')

/-- The exponent part: `e`, a sign (`+` for a non-negative exponent), and the
digits. -/
def exponent (e : Int) : String :=
  if e < 0 then "e" ++ toString e else "e+" ++ toString e

/-- The text of a decimal `digits * 10^exp` with `digits > 0`. -/
def layout (d : Dec) : String :=
  let ds := toString d.digits
  let len : Int := ds.length
  let kk := len + d.exp
  if 0 ≤ d.exp && kk ≤ 16 then
    ds ++ zeros d.exp.toNat ++ ".0"
  else if 0 < kk && kk ≤ 16 then
    String.ofList (ds.toList.take kk.toNat) ++ "." ++ String.ofList (ds.toList.drop kk.toNat)
  else if -5 < kk && kk ≤ 0 then
    "0." ++ zeros (-kk).toNat ++ ds
  else if len == 1 then
    ds ++ exponent (kk - 1)
  else
    String.ofList (ds.toList.take 1) ++ "." ++ String.ofList (ds.toList.drop 1) ++ exponent (kk - 1)

/-- The shortest text of a double: a sign for negatives (negative zero
included), `0.0` for zero, and `NaN`, `inf` for the values that are no
number. -/
def render (f : Float) : String :=
  let b := f.toBits
  let sign := if b >>> 63 == 1 then "-" else ""
  if f.isNaN then "NaN"
  else if f.isInf then sign ++ "inf"
  else if b &&& 0x7FFFFFFFFFFFFFFF == 0 then sign ++ "0.0"
  else sign ++ layout (Binary.ofBits b).shortest

example : layout (Binary.ofBits 0x3FF8000000000000).shortest = "1.5" := by decide +kernel
example : layout (Binary.ofBits 0x44B52D02C7E14AF6).shortest = "1e+23" := by decide +kernel
example : layout (Binary.ofBits 1).shortest = "5e-324" := by decide +kernel

end FuzzDict.Decimal
