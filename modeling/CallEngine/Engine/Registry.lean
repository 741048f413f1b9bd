import CallEngine.Engine

/-!
# The engine's registries

Packages, error handlers, symbols and libraries. Every access is made under the engine's lock.
-/

namespace CallEngine

namespace Engine

/-! ## Packages and error handlers -/

/-- Give a package a name; the result is the one it replaces. -/
def registerPackage (name : String) (package : Handle) : EngineOp (Option Handle) :=
  locked .package <| Op.change fun e =>
    (e.packages.lookup name,
      { e with packages := (name, package) :: e.packages.filter (·.1 != name) })

def findPackage (name : String) : EngineOp (Option Handle) :=
  locked .package (Op.gets (·.packages.lookup name))

/-- Drop a package; the result is the one dropped. -/
def removePackage (name : String) : EngineOp (Option Handle) :=
  locked .package <| Op.change fun e =>
    (e.packages.lookup name, { e with packages := e.packages.filter (·.1 != name) })

def pushHandler (handler : Handle) : EngineOp Unit :=
  locked .errorHandler <| Op.modify fun e => { e with handlers := handler :: e.handlers }

/-- Take the innermost handler off. -/
def popHandler : EngineOp (Option Handle) :=
  locked .errorHandler <| Op.change fun e =>
    (e.handlers.head?, { e with handlers := e.handlers.drop 1 })

/-! ## Symbols and libraries -/

/-- Make an entry point known under a name, ahead of all libraries; the result is the one it
replaces. -/
def registerSymbol (name : String) (entry : EntryPoint) : EngineOp (Option EntryPoint) :=
  locked .global do
    let (replaced, symbols) ← Op.ofExcept (((← Op.get).symbols.register name entry).mapError .load)
    Op.modify fun e => { e with symbols }
    return replaced

/-- Find or load a library; the result is its path. -/
def loadLibrary (name : String) : EngineOp String := do
  let path ← locked .global do
    let e ← Op.get
    let (path, libraries) ← Op.ofExcept ((e.libraries.load e.files name).mapError .load)
    Op.modify fun e => { e with libraries }
    return path
  record (.libraryLoaded path)
  return path

/-- The entry point of a name: registered symbols, then loaded libraries, then the process. -/
def resolve (name : String) : EngineOp EntryPoint :=
  locked .global do
    let e ← Op.get
    match e.symbols.get? name <|> (e.libraries.code? name).map (Code.address e.codeOrigin) with
    | some entry => return entry
    | none => Op.fail (.load (.symbolNotFound name))

/-! ## Overview -/

/-- What the registries hold. -/
structure RegistrySummary where
  /-- The names of the packages, sorted. -/
  packages : List String
  /-- The error handlers, the innermost last. -/
  handlers : List Handle
  contexts : List Nat
  symbols : Nat
  libraries : Nat
deriving Repr, DecidableEq

/-- An overview of the registries. -/
def summary (e : Engine) : RegistrySummary where
  packages := (e.packages.map (·.1)).mergeSort fun a b => decide (a ≤ b)
  handlers := e.handlers.reverse
  contexts := e.registered.mergeSort fun a b => decide (a ≤ b)
  symbols := e.symbols.size
  libraries := e.libraries.loaded.length

/-! ## Start -/

/-- Load the libraries that the settings ask for. -/
def preload : List String → EngineOp Unit
  | [] => return ()
  | name :: rest => do
    let _ ← loadLibrary name
    preload rest

/-- Start an engine with checked settings. -/
def start (machine : Machine) (settings : Settings) (files : FileSystem) (heap : Heap)
    (recording : Bool) : Except EngineError Engine := do
  settings.validate.mapError .settings
  let e : Engine :=
    { machine, settings, files, heap, recording
      libraries := LibraryLoader.create files settings.libraryPaths }
  match preload settings.preload e with
  | .done _ e => return e
  | .failed error _ => throw error
  | .fatal stop _ => throw (.signalled stop.message)

end Engine

end CallEngine
