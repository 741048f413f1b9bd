import CallEngine.Json.Field
import CallEngine.Table

/-!
# Table operations as documents

Reading the operations on shared and on confined tables from JSON objects.
-/

namespace CallEngine

/-- Read a machine integer. -/
def wordOfJson? (j : Json) : Option Int64 := do return .ofInt (← j.integer?)

def wordAt? (j : Json) (name : String) : Option Int64 := do wordOfJson? (← j.field? name)

/-- Read an operation on a shared table, whose name is the member `do`. -/
def TableOp.ofJson? (j : Json) : Option TableOp := do
  match ← j.textAt? "do" with
  | "insert" => return .insert (← j.textAt? "key") (← wordAt? j "v")
  | "get" => return .get (← j.textAt? "key")
  | "remove" => return .remove (← j.textAt? "key")
  | "update" => return .update (← j.textAt? "key") (← wordAt? j "v")
  | "len" => return .size
  | _ => none

/-- Read an operation on a confined table, whose name is the member `what`. -/
def LocalOp.ofJson? (j : Json) : Option LocalOp := do
  match ← j.textAt? "what" with
  | "insert" => return .insert (← j.textAt? "key") (← wordAt? j "v")
  | "get" => return .get (← j.textAt? "key")
  | "add" => return .add (← j.textAt? "key") (← wordAt? j "v")
  | "remove" => return .remove (← j.textAt? "key")
  | _ => none

end CallEngine
