import FuzzDict.Json.Reader
/-!
# JSON string literals

A string literal runs from a double quote to the next unescaped double
quote. A backslash opens an escape: one of `" \ / b f n r t`, or `u` and
four hexadecimal digits naming a UTF-16 unit. A unit of the high surrogate
range must be followed right away by an escaped unit of the low surrogate
range, and the pair names one character; a lone surrogate of either range is
refused. A control character below `U+0020` must be escaped.

The four digits of a `\u` escape are taken as four bytes: with fewer left
the literal is cut short, otherwise a wrong digit is reported four bytes on.

`readString` gives the characters of the literal; `skipString` only finds
its end, checks the escapes but not the surrogates, and reports a control
character before it rather than after.
-/

namespace FuzzDict.Json

/-- The value of a hexadecimal digit. -/
def hexValue (c : Char) : Option Nat :=
  if '0' ≤ c ∧ c ≤ '9' then some (c.toNat - '0'.toNat)
  else if 'a' ≤ c ∧ c ≤ 'f' then some (c.toNat - 'a'.toNat + 10)
  else if 'A' ≤ c ∧ c ≤ 'F' then some (c.toNat - 'A'.toNat + 10)
  else none

/-- The UTF-16 unit named by four hexadecimal digits. -/
def hex4 (a b c d : Char) : Option Nat := do
  return (← hexValue a) * 4096 + (← hexValue b) * 256 + (← hexValue c) * 16 + (← hexValue d)

/-- The error when the four digits after `\u` cannot be read from `rest`. -/
def badHex (rest : List Char) : Error :=
  if bytesOf rest < 4 then ⟨.eofString, 0⟩ else ⟨.invalidEscape, bytesOf rest - 4⟩

/-- The character that a one-letter escape stands for. -/
def simpleEscape (c : Char) : Option Char :=
  if c = '"' then some '"'
  else if c = '\\' then some '\\'
  else if c = '/' then some '/'
  else if c = 'b' then some '\x08'
  else if c = 'f' then some '\x0c'
  else if c = 'n' then some '\n'
  else if c = 'r' then some '\r'
  else if c = 't' then some '\t'
  else none

/-- A high surrogate. -/
def isHigh (n : Nat) : Bool :=
  0xD800 ≤ n && n ≤ 0xDBFF

/-- A low surrogate. -/
def isLow (n : Nat) : Bool :=
  0xDC00 ≤ n && n ≤ 0xDFFF

/-- Reads the body of a string literal after its opening quote, `acc` holding
the characters read so far in reverse: the characters of the literal and the
input after its closing quote. -/
def readString (acc : List Char) : List Char → Except Error (List Char × List Char)
  | [] => .error ⟨.eofString, 0⟩
  | '"' :: rest => .ok (acc.reverse, rest)
  | '\\' :: rest =>
    match rest with
    | [] => .error ⟨.eofString, 0⟩
    | 'u' :: more =>
      match more with
      | a :: b :: c :: d :: after =>
        match hex4 a b c d with
        | none => .error (badHex more)
        | some n =>
          if isLow n then .error (Error.before .loneLeadingSurrogate after)
          else if !isHigh n then readString (Char.ofNat n :: acc) after
          else
            match after with
            | [] => .error ⟨.eofString, 0⟩
            | '\\' :: after2 =>
              match after2 with
              | [] => .error ⟨.eofString, 0⟩
              | 'u' :: after3 =>
                match after3 with
                | a2 :: b2 :: c2 :: d2 :: after4 =>
                  match hex4 a2 b2 c2 d2 with
                  | none => .error (badHex after3)
                  | some n2 =>
                    if isLow n2 then
                      readString
                        (Char.ofNat (0x10000 + (n - 0xD800) * 1024 + (n2 - 0xDC00)) :: acc) after4
                    else .error (Error.before .loneLeadingSurrogate after4)
                | _ => .error (badHex after3)
              | c :: r => .error (Error.into .unexpectedEndOfHexEscape (c :: r))
            | c :: r => .error (Error.into .unexpectedEndOfHexEscape (c :: r))
      | _ => .error (badHex more)
    | c :: after =>
      match simpleEscape c with
      | some e => readString (e :: acc) after
      | none => .error (Error.into .invalidEscape (c :: after))
  | c :: rest =>
    if c.toNat < 0x20 then .error (Error.before .controlCharacter rest)
    else readString (c :: acc) rest

/-- Finds the end of a string literal after its opening quote: the input after
its closing quote. -/
def skipString : List Char → Except Error (List Char)
  | [] => .error ⟨.eofString, 0⟩
  | '"' :: rest => .ok rest
  | '\\' :: rest =>
    match rest with
    | [] => .error ⟨.eofString, 0⟩
    | 'u' :: more =>
      match more with
      | a :: b :: c :: d :: after =>
        if (hex4 a b c d).isSome then skipString after else .error (badHex more)
      | _ => .error (badHex more)
    | c :: after =>
      if (simpleEscape c).isSome then skipString after
      else .error (Error.into .invalidEscape (c :: after))
  | c :: rest =>
    if c.toNat < 0x20 then .error (Error.before .controlCharacter (c :: rest))
    else skipString rest

end FuzzDict.Json
