import CallEngine.Event
import CallEngine.Json.Field

/-!
# Events as documents

Reading an event from a JSON object with its kind and its members.
-/

namespace CallEngine

namespace Event

/-- Read an event of a kind. -/
def ofTagged? (j : Json) : String → Option Event
  | "context_created" => do
    return .contextCreated (← j.naturalAt? "context") (← j.naturalAt? "stack_slots")
  | "context_destroyed" => do return .contextDestroyed (← j.naturalAt? "context")
  | "guard_installed" => do
    return .guardInstalled (← j.naturalAt? "context") (← j.naturalAt? "guard_slots")
      (j.flagAt "protected")
  | "guard_removed" => do return .guardRemoved (← j.naturalAt? "context")
  | "stack_overflow" => do
    return .stackOverflow (← j.naturalAt? "context") (← j.naturalAt? "requested")
      (← j.naturalAt? "available")
  | "interrupt_posted" => do
    return .interruptPosted (← j.naturalAt? "context") (← j.textAt? "kind")
  | "interrupt_deferred" => do
    return .interruptDeferred (← j.naturalAt? "context") (← j.textAt? "kind")
  | "interrupt_delivered" => do
    return .interruptDelivered (← j.naturalAt? "context") (← j.textAt? "kind")
  | "foreign_call" => do return .foreignCall (← j.textAt? "symbol") (← j.naturalAt? "argc")
  | "callback_invoked" => do return .callbackInvoked (← j.textAt? "signature")
  | "callback_failed" => do
    return .callbackFailed (← j.textAt? "signature") (← j.textAt? "error")
  | "library_loaded" => do return .libraryLoaded (← j.textAt? "path")
  | "lock_order_violation" => do
    return .lockOrderViolation (← j.textAt? "held") (← j.textAt? "requested")
  | "fatal" => do return .fatal (← j.textAt? "message")
  | _ => none

/-- Read an event. -/
def ofJson? (j : Json) : Option Event := do ofTagged? j (← j.textAt? "event")

end Event

end CallEngine
