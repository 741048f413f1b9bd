import CallEngine.Text.Quoted

/-!
# Events

What the engine records about itself: the life of contexts, interrupts, foreign calls and fatal
errors. An event has a text for people and a JSON object of one line for programs.
-/

namespace CallEngine

/-- Something the engine records. -/
inductive Event where
  | contextCreated (context stackSlots : Nat)
  | contextDestroyed (context : Nat)
  | guardInstalled (context guardSlots : Nat) (guarded : Bool)
  | guardRemoved (context : Nat)
  | stackOverflow (context requested available : Nat)
  | interruptPosted (context : Nat) (kind : String)
  /-- An interrupt recorded while delivery was disabled. -/
  | interruptDeferred (context : Nat) (kind : String)
  | interruptDelivered (context : Nat) (kind : String)
  | foreignCall (symbol : String) (argc : Nat)
  | callbackInvoked (signature : String)
  | callbackFailed (signature error : String)
  | libraryLoaded (path : String)
  | lockOrderViolation (held requested : String)
  | fatal (message : String)
deriving Repr, DecidableEq

namespace Event

/-- How an event is written for people. -/
def text : Event → String
  | contextCreated context slots => s!"Context {context} created ({slots} stack slots)"
  | contextDestroyed context => s!"Context {context} destroyed"
  | guardInstalled context slots guarded =>
    let region := if guarded then "protected" else "unprotected"
    s!"Guard installed on context {context}: {slots} slots, {region} region"
  | guardRemoved context => s!"Guard removed from context {context}"
  | stackOverflow context requested available =>
    s!"Stack overflow on context {context}: requested {requested} slots, {available} available"
  | interruptPosted context kind => s!"Interrupt posted to context {context}: {kind}"
  | interruptDeferred context kind => s!"Interrupt deferred on context {context}: {kind}"
  | interruptDelivered context kind => s!"Interrupt delivered on context {context}: {kind}"
  | foreignCall symbol argc => s!"Foreign call: {symbol} ({argc} arguments)"
  | callbackInvoked signature => s!"Callback invoked: {signature}"
  | callbackFailed signature error => s!"Callback failed: {signature} - {error}"
  | libraryLoaded path => s!"Library loaded: {path}"
  | lockOrderViolation held requested =>
    s!"Lock order violation: requested {requested} while holding {held}"
  | fatal message => s!"Fatal: {message}"

/-- The kind of an event in its JSON object. -/
def tag : Event → String
  | contextCreated .. => "context_created"
  | contextDestroyed .. => "context_destroyed"
  | guardInstalled .. => "guard_installed"
  | guardRemoved .. => "guard_removed"
  | stackOverflow .. => "stack_overflow"
  | interruptPosted .. => "interrupt_posted"
  | interruptDeferred .. => "interrupt_deferred"
  | interruptDelivered .. => "interrupt_delivered"
  | foreignCall .. => "foreign_call"
  | callbackInvoked .. => "callback_invoked"
  | callbackFailed .. => "callback_failed"
  | libraryLoaded .. => "library_loaded"
  | lockOrderViolation .. => "lock_order_violation"
  | fatal .. => "fatal"

/-- The members of the JSON object that are particular to an event, with their JSON texts. -/
def members : Event → List (String × String)
  | contextCreated context slots =>
    [("context", toString context), ("stack_slots", toString slots)]
  | contextDestroyed context => [("context", toString context)]
  | guardInstalled context slots guarded =>
    [("context", toString context), ("guard_slots", toString slots),
      ("protected", if guarded then "true" else "false")]
  | guardRemoved context => [("context", toString context)]
  | stackOverflow context requested available =>
    [("context", toString context), ("requested", toString requested),
      ("available", toString available)]
  | interruptPosted context kind | interruptDeferred context kind
  | interruptDelivered context kind =>
    [("context", toString context), ("kind", Text.jsonString kind)]
  | foreignCall symbol argc => [("symbol", Text.jsonString symbol), ("argc", toString argc)]
  | callbackInvoked signature => [("signature", Text.jsonString signature)]
  | callbackFailed signature error =>
    [("signature", Text.jsonString signature), ("error", Text.jsonString error)]
  | libraryLoaded path => [("path", Text.jsonString path)]
  | lockOrderViolation held requested =>
    [("held", Text.jsonString held), ("requested", Text.jsonString requested)]
  | fatal message => [("message", Text.jsonString message)]

end Event

/-- An event and the time it was recorded, in milliseconds. -/
structure EventEntry where
  timestamp : Nat
  event : Event
deriving Repr, DecidableEq

namespace EventEntry

/-- Whole seconds and three digits of milliseconds. -/
def timeText (timestamp : Nat) : String :=
  let digits := toString (timestamp % 1000)
  let padding := String.ofList (List.replicate (3 - digits.length) '0')
  s!"{timestamp / 1000}+{padding}{digits}ms"

/-- One line of a log. -/
def logLine (entry : EventEntry) : String :=
  s!"[{timeText entry.timestamp}] {entry.event.text}"

/-- One JSON object: the time, the kind, then the event's own members. -/
def jsonLine (entry : EventEntry) : String :=
  let members := ("timestamp", toString entry.timestamp) ::
    ("event", Text.jsonString entry.event.tag) :: entry.event.members
  let written := members.map fun (name, value) => Text.jsonString name ++ ":" ++ value
  "\x7b" ++ String.intercalate "," written ++ "\x7d"

end EventEntry

end CallEngine
