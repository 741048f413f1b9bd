/-!
# Text as bytes

UTF-8 in both directions over lists of bytes, and lower-case hexadecimal.
-/

namespace CallEngine.Text

/-- The UTF-8 bytes of a text. -/
def utf8 (s : String) : List UInt8 := s.toUTF8.toList

/-- The text that these bytes encode, if they are valid UTF-8. -/
def ofUtf8? (bytes : List UInt8) : Option String := String.fromUTF8? bytes.toByteArray

/-- Lower-case hexadecimal digits of a number, without leading zeros. -/
def hexadecimal (n : Nat) : String := String.ofList (Nat.toDigits 16 n)

/-- The two hexadecimal digits of each byte in turn. -/
def hexBytes (bytes : List UInt8) : String :=
  String.join (bytes.map fun b => hexadecimal (b.toNat / 16) ++ hexadecimal (b.toNat % 16))

end CallEngine.Text
