import FlowTypes.Solver
import FlowTypes.Trace.Command
import Std.Data.TreeMap

/-!
# Replaying commands

Commands are carried out one by one on a fresh compartment.  The names of sets and objects belong
to the trace; every command stands for a place in script number zero, at the offset of its line.
Replaying stops at the first command that fails, and what was printed before stays printed.

## Main result

Commands are carried out after those in front of them, unless one of these fails
(`replay_append`).
-/

namespace FlowTypes.Trace

open Compartment

/-- Why a command failed. -/
inductive ReplayError
  | unknownSet (name : String)
  | unknownObject (name : String)
  | redeclared (name : String)
  /-- The compartment refused a request. -/
  | infer (error : InferError)
  deriving DecidableEq, Repr, Inhabited

def ReplayError.message : ReplayError → String
  | unknownSet name => "unknown set `" ++ name ++ "`"
  | unknownObject name => "unknown object `" ++ name ++ "`"
  | redeclared name => "`" ++ name ++ "` is already declared"
  | infer error => error.message

/-- The state of a replay. -/
structure Replay where
  compartment : Compartment
  /-- The sets by their names. -/
  sets : Std.TreeMap String SetId := {}
  /-- The objects by their names. -/
  objects : Std.TreeMap String ObjectId := {}
  /-- The lines that were printed, latest first. -/
  printed : List String := []
  deriving Repr, Inhabited

namespace Replay

/-- A replay before its first command. -/
def start (options : Options) : Replay := { compartment := Compartment.fresh options }

def set? (r : Replay) (name : String) : Option SetId := r.sets[name]?

def object? (r : Replay) (name : String) : Option ObjectId := r.objects[name]?

/-- Gives a set a name, which replaces what the name stood for. -/
def nameSet (r : Replay) (name : String) (id : SetId) : Replay :=
  { r with sets := r.sets.insert name id }

/-- Gives an object a name. -/
def nameObject (r : Replay) (name : String) (id : ObjectId) : Replay :=
  { r with objects := r.objects.insert name id }

/-- A name stands for the set that it was given to last. -/
@[simp] theorem set?_nameSet (r : Replay) (a b : String) (id : SetId) :
    (r.nameSet a id).set? b = if a = b then some id else r.set? b := by
  simp [set?, nameSet, Std.TreeMap.getElem?_insert]

/-- A name stands for the object that it was given to last. -/
@[simp] theorem object?_nameObject (r : Replay) (a b : String) (id : ObjectId) :
    (r.nameObject a id).object? b = if a = b then some id else r.object? b := by
  simp [object?, nameObject, Std.TreeMap.getElem?_insert]

end Replay

/-- A step of a replay, which answers something or fails. -/
abbrev Step (α : Type) := ExceptT ReplayError (StateM Replay) α

/-- The solver passes of a replay; its functions have no handlers. -/
def pass : Action Unit := solve Host.silent

/-- Does something with the compartment. -/
def act {α : Type} (action : Action α) : Step α := fun r =>
  match action r.compartment with
  | (.ok a, c) => (.ok a, { r with compartment := c })
  | (.error e, c) => (.error (.infer e), { r with compartment := c })

/-- Prints a line. -/
def print (line : String) : Step Unit :=
  modify fun r => { r with printed := line :: r.printed }

/-! ## Names -/

/-- The set of a name. -/
def findSet (name : String) : Step SetId := do
  match (← get).set? name with
  | some id => return id
  | none => throw (.unknownSet name)

/-- Gives a set a name, which replaces what the name stood for. -/
def bindSet (name : String) (id : SetId) : Step Unit :=
  modify (·.nameSet name id)

/-- Gives a set a new name. -/
def declareSet (name : String) (id : SetId) : Step Unit := do
  if ((← get).set? name).isSome then throw (.redeclared name)
  bindSet name id

/-- The object of a name: one that the trace declared, one that the engine made, or a builtin. -/
def findObject (name : String) : Step ObjectId := do
  let r ← get
  match r.object? name, r.compartment.objectNamed? name, Builtin.ofName? name with
  | some id, _, _ => return id
  | none, some id, _ => return id
  | none, none, some b => act (builtin pass b)
  | none, none, none => throw (.unknownObject name)

/-- Declares an object. -/
def declareObject (name : String) (isFunction : Bool) (proto : Option ObjectId) :
    Step ObjectId := do
  if ((← get).object? name).isSome then throw (.redeclared name)
  let id ← act (typeObject pass none name isFunction proto)
  modify (·.nameObject name id)
  return id

/-- Declares a function, and the sets of its `this` values and results. -/
def declareFunction (name : String) : Step ObjectId := do
  let proto ← act (builtin pass .functionPrototype)
  let id ← declareObject name true (some proto)
  let f ← act (functionInfo id)
  declareSet (name ++ ".this") f.thisTypes
  declareSet (name ++ ".return") f.returns
  return id

/-- Declares the sets of parameters, from the one with this number on. -/
def declareParameters (name : String) : Nat → List SetId → Step Unit
  | _, [] => pure ()
  | i, p :: ps => do
    declareSet (name ++ ".arg" ++ String.ofList (Text.decimal i)) p
    declareParameters name (i + 1) ps

def findType : TypeRef → Step Ty
  | .plain t => return t
  | .object name => return .object (← findObject name)

def findValue : Literal → Step Value
  | .undefined => return .undefined
  | .null => return .null
  | .boolean value => return .boolean value
  | .int32 value => return .int32 value
  | .double value => return .double value
  | .string value => return .string value
  | .magic => return .magic
  | .object name => return .object (← findObject name)

/-! ## Commands -/

/-- The script that the lines of a trace belong to. -/
def script : ScriptId := ⟨0⟩

/-- Carries out the command of a line. -/
def step (line : Nat) : Command → Step Unit
  | .set name => do
    let id ← act newSet
    declareSet name id
  | .object name proto => do
    let proto ← proto.mapM findObject
    discard <| declareObject name false proto
  | .array name => do
    let proto ← act (builtin pass .arrayPrototype)
    discard <| declareObject name false (some proto)
  | .function name script parameters => do
    let id ← declareFunction name
    if let some script := script then
      act (setFunctionScript id ⟨script⟩ parameters)
      let f ← act (functionInfo id)
      declareParameters name 0 f.parameters
  | .native name isGeneric => do
    let id ← declareFunction name
    act (setNativeHandler id none isGeneric)
  | .add target type => do
    let target ← findSet target
    let type ← findType type
    act (addType pass target type)
  | .subset source target => do
    let source ← findSet source
    let target ← findSet target
    act (addSubset pass source target)
  | .getProp objects key target => do
    let objects ← findSet objects
    let target ← findSet target
    act (readProperty pass objects (some ⟨script, line⟩) target (.ofName key))
  | .setProp objects key source => do
    let objects ← findSet objects
    let source ← findSet source
    act (writeProperty pass objects (some ⟨script, line⟩) source (.ofName key))
  | .getElem objects indexes target => do
    let objects ← findSet objects
    let indexes ← findSet indexes
    let target ← findSet target
    act (readElement pass objects indexes (some ⟨script, line⟩) target)
  | .setElem objects indexes source => do
    let objects ← findSet objects
    let indexes ← findSet indexes
    let source ← findSet source
    act (writeElement pass objects indexes (some ⟨script, line⟩) source)
  | .arith lhs rhs target op => do
    let lhs ← findSet lhs
    let rhs ← rhs.mapM findSet
    let target ← findSet target
    act (addArith pass lhs rhs target op)
  | .filter source target mode => do
    let source ← findSet source
    let target ← findSet target
    act (addFilter pass source target mode)
  | .call isNew callee arguments target => do
    let callees ← findSet callee
    let arguments ← arguments.mapM findSet
    let result ← target.mapM findSet
    let site ← act (newCallSite { code := ⟨script, line⟩, isNew, arguments, result })
    act (addCall pass callees site)
  | .prop object key name own => do
    let object ← findObject object
    let types ← act (getProperty pass object (.ofName key) own)
    bindSet name types
  | .assign object key value => do
    let object ← findObject object
    let value ← findValue value
    act (observeAssignment pass object (.ofName key) value)
  | .push script offset index type => do
    let type ← findType type
    act (observePush pass ⟨⟨script⟩, offset⟩ index type)
  | .unknown object => do
    let object ← findObject object
    act (markUnknown pass object)
  | .notPacked object dense => do
    let object ← findObject object
    act (modify (·.markNotPacked object dense))
  | .tag name script => do
    let id ← findSet name
    let tag ← act (knownTag pass id (script.map ScriptId.mk))
    print ("tag " ++ name ++ ": " ++ (tag.map Tag.name).getD "none")
  | .kind name script => do
    let id ← findSet name
    let kind ← act (knownKind pass id (script.map ScriptId.mk))
    print ("kind " ++ name ++ ": " ++ kind.name)
  | .nonEmpty name script => do
    let id ← findSet name
    let nonEmpty ← act (knownNonEmpty pass id (script.map ScriptId.mk))
    print ("nonempty " ++ name ++ ": " ++ if nonEmpty then "true" else "false")
  | .print name => do
    let id ← findSet name
    print (name ++ ": " ++ (← get).compartment.typesText id)
  | .recompile => do
    let scripts ← act fun c => (.ok c.takeRecompiles.1, c.takeRecompiles.2)
    scripts.forM fun s => print ("recompile " ++ s.text)

/-- Carries out commands until one fails; the answer is the line of this one and why it failed. -/
def replay : List (Nat × Command) → Replay → Option (Nat × ReplayError) × Replay
  | [], r => (none, r)
  | (line, command) :: rest, r =>
    match step line command r with
    | (.ok (), r) => replay rest r
    | (.error e, r) => (some (line, e), r)

/-- Commands are carried out after those in front of them, unless one of these fails. -/
theorem replay_append (first rest : List (Nat × Command)) (r : Replay) :
    replay (first ++ rest) r =
      match replay first r with
      | (none, r) => replay rest r
      | (some failure, r) => (some failure, r) := by
  induction first generalizing r with
  | nil => rfl
  | cons command first ih =>
    obtain ⟨line, command⟩ := command
    simp only [List.cons_append, replay]
    cases h : step line command r with
    | mk outcome r =>
      cases outcome with
      | ok a => exact ih r
      | error e => rfl

end FlowTypes.Trace
