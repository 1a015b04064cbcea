import FuzzDict.Text.Quoted.Classes
/-!
# Quoted strings

A string is quoted between double quotes. Inside, the backslash, the double
quote, the NUL, tab, carriage return and line feed are written with a
backslash (`\\`, `\"`, `\0`, `\t`, `\r`, `\n`); a character that extends
the grapheme before it, or that prints nothing visible, is written as
`\u` and its code point in lowercase hexadecimal between braces; every
other character stands for itself. The single quote is not escaped.
-/

namespace FuzzDict.Text.Quoted

/-- The lowercase hexadecimal digits of a number, without leading zeros. -/
def hexDigits (n : Nat) : String :=
  String.ofList (Nat.toDigits 16 n)

/-- How one character is written inside a quoted string. -/
def escapeChar (c : Char) : String :=
  if c = '\\' then "\\\\"
  else if c = '"' then "\\\""
  else if c = '\x00' then "\\0"
  else if c = '\t' then "\\t"
  else if c = '\r' then "\\r"
  else if c = '\n' then "\\n"
  else if isExtend c || isHidden c then "\\u" ++ "\x7b" ++ hexDigits c.toNat ++ "\x7d"
  else String.singleton c

/-- A string between double quotes, escaped. -/
def quote (s : String) : String :=
  "\"" ++ String.join (s.toList.map escapeChar) ++ "\""

example : quote "a\"b" = "\"a\\\"b\"" := by decide +kernel
example : quote "\u200B\u0301x" = "\"\\u\x7b200b\x7d\\u\x7b301\x7dx\"" := by decide +kernel

end FuzzDict.Text.Quoted
