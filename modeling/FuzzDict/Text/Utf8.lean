/-!
# Reading UTF-8

A byte sequence is read as text only when the whole of it is well-formed UTF-8:
the sequences of Table 3-7 of the Unicode standard, which leave out overlong
forms, surrogates and values above `U+10FFFF`, with none cut short at the end.
The standard library's `String.fromUTF8?` checks exactly this, so `decode` is
that check on a list of bytes: it runs `ByteArray.validateUTF8`, which decides
`ByteArray.IsValidUTF8` (`ByteArray.validateUTF8_eq_true_iff`), and the bytes of
every string pass it (`String.isValidUTF8`).
-/

namespace FuzzDict.Text.Utf8

/-- The text of a byte sequence, if the whole sequence is well-formed UTF-8. -/
def decode (bytes : List UInt8) : Option String :=
  String.fromUTF8? ⟨bytes.toArray⟩

example : decode "aé€😀".toUTF8.toList = some "aé€😀" := by decide +kernel
example : decode [0xC0, 0x80] = none ∧ decode [0xED, 0xA0, 0x80] = none ∧ decode [0xE2, 0x82] = none := by
  decide +kernel
example : decode [0xF4, 0x90, 0x80, 0x80] = none ∧ decode [0xFF] = none := by decide +kernel

end FuzzDict.Text.Utf8
