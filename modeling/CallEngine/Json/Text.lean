import CallEngine.Json
import CallEngine.Text.Quoted

/-!
# JSON texts

How a document is written: without blanks, with the members of an object in their order.
-/

namespace CallEngine.Json

mutual

/-- The text of a document. -/
def text : Json → String
  | null => "null"
  | bool b => if b then "true" else "false"
  | integer n => toString n
  | fractional written => written
  | string s => Text.jsonString s
  | array items => "[" ++ String.intercalate "," (itemTexts items) ++ "]"
  | object members => "\x7b" ++ String.intercalate "," (memberTexts members) ++ "\x7d"

/-- The texts of documents. -/
def itemTexts : List Json → List String
  | [] => []
  | item :: rest => item.text :: itemTexts rest

/-- The texts of members. -/
def memberTexts : List (String × Json) → List String
  | [] => []
  | (name, value) :: rest => (Text.jsonString name ++ ":" ++ value.text) :: memberTexts rest

end

end CallEngine.Json
