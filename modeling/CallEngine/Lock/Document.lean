import CallEngine.Lock.Program
import CallEngine.Table.Document

/-!
# Lock programs as documents

Reading the operations of a lock program from JSON objects. Operations nest no deeper than
documents do.
-/

namespace CallEngine

/-- Read one of the names of a domain's lock. -/
def DomainLock.ofName? : String → Option DomainLock
  | "global" => some .global
  | "package" => some .package
  | "error_handler" => some .errorHandler
  | _ => none

namespace LockOp

/-- Read the numbers that are pushed to a registry. -/
def pushed? (j : Json) : Option (List Int64) := do
  let items ← j.optionalAt? "push" Json.items?
  (items.getD []).mapM wordOfJson?

/-- Read the entries that are put into a table. -/
def entries? (j : Json) : Option (List (String × Int64)) := do
  let members ← j.optionalAt? "put" Json.members?
  (members.getD []).mapM fun (key, value) => do return (key, ← wordOfJson? value)

/-- Read the domain of an operation, the first one by default. -/
def domain? (j : Json) : Option Nat := do
  return (← j.optionalAt? "domain" Json.natural?).getD 0

/-- Read an operation under which `body` runs, if it has one. -/
def withBody? (j : Json) (body : List LockOp) : Option LockOp := do
  let hasBody := (j.field? "ops").isSome
  let name ← j.textAt? "do"
  match DomainLock.ofName? name with
  | some held => return .hold held (← domain? j) (← pushed? j) hasBody body
  | none =>
    match name with
    | "new_domain" => return .newDomain
    | "new_table" => return .newTable
    | "new_local" => return .newLocal
    | "is_held" => return .isHeld (← domain? j)
    | "domain_into_inner" => return .takeDomain (← domain? j)
    | "lock" => return .lock (← j.naturalAt? "table") (← entries? j) hasBody body
    | "table_into_inner" => return .takeTable (← j.naturalAt? "table")
    | "into_shared" => return .share (← j.naturalAt? "local")
    | "local" => return .withLocal (← j.naturalAt? "local") (← LocalOp.ofJson? j)
    | _ => return .table (← j.naturalAt? "table") (← TableOp.ofJson? j)

/-- Read an operation with at most this many levels below it. -/
def readLevel? : Nat → Json → Option LockOp
  | 0, _ => none
  | level + 1, j => do
    let items ← j.optionalAt? "ops" Json.items?
    withBody? j (← (items.getD []).mapM (readLevel? level))

/-- Read an operation. -/
def ofJson? (j : Json) : Option LockOp := readLevel? Json.depthLimit j

end LockOp

end CallEngine
