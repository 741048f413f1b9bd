import CallEngine.Text.Bytes
import CallEngine.Text.Unprintable

/-!
# Quoted text

A character between single quotes, and text between double quotes as JSON writes it.
-/

namespace CallEngine.Text

/-- A character as it stands between single quotes: the usual short escapes, and the code point in
hexadecimal for what has no shape of its own. -/
def quotedBody (c : Char) : String :=
  match c with
  | '\x00' => "\\0"
  | '\t' => "\\t"
  | '\n' => "\\n"
  | '\r' => "\\r"
  | '\x27' => "\\'"
  | '\x5c' => "\\\\"
  | c =>
    if c.toNat < 0x20 || c.toNat == 0x7f || isUnprintable c.toNat then
      "\\u\x7b" ++ hexadecimal c.toNat ++ "\x7d"
    else c.toString

/-- A character between single quotes. -/
def quotedChar (c : Char) : String := "'" ++ quotedBody c ++ "'"

/-- One character inside a JSON string. Only quotes, backslashes and controls are escaped. -/
def jsonChar (c : Char) : String :=
  match c with
  | '\x22' => "\\\""
  | '\x5c' => "\\\\"
  | '\x08' => "\\b"
  | '\x0c' => "\\f"
  | '\n' => "\\n"
  | '\r' => "\\r"
  | '\t' => "\\t"
  | c =>
    if c.toNat < 0x20 then
      "\\u00" ++ hexadecimal (c.toNat / 16) ++ hexadecimal (c.toNat % 16)
    else c.toString

/-- Text as a JSON string. -/
def jsonString (s : String) : String := "\"" ++ String.join (s.toList.map jsonChar) ++ "\""

end CallEngine.Text
