import FlowTypes.Compartment.Property
import FlowTypes.Compartment.Unknown

/-!
# Prototypes and new objects

An object gets its prototype once, when it is made or later, and from then on inherits the types of
its properties.  Objects are told apart by their names; a name may be scoped to a script.
-/

namespace FlowTypes

namespace Compartment

variable (pass : Action Unit)

/-- Enters an object among the instances of its prototype. -/
def setProto (c : Compartment) (id proto : ObjectId) : Compartment :=
  ((c.changeObject proto fun o => { o with instances := o.instances ++ [id] }).changeObject id
    fun o => { o with proto := some proto }).record (.prototypeLinked id proto)

/-- An object that inherits from `Array.prototype` is an array without holes at first. -/
def classifyArray (c : Compartment) (id : ObjectId) : Compartment :=
  if c.isArray id && !(c.object id).isUnknown then
    c.changeObject id fun o => { o with isDense := true, isPacked := true }
  else c

/-- Gives an object without a prototype its prototype, and wires up what it inherits. -/
def link (id proto : ObjectId) : Action Unit := do
  modify (·.setProto id proto)
  let c ← get
  if (c.object proto).isUnknown then markUnknown pass id
  else
    (c.object id).properties.forM fun p => do
      let inherited ← getProperty pass proto p.key false
      addSubset pass inherited p.types
    modify (·.classifyArray id)

/-- Sets the prototype of an object.  This can be done once, and not to an object that inherits from
this one. -/
def addPrototype (id proto : ObjectId) : Action Unit := do
  let c ← get
  if (c.object id).proto.isSome then throw (.prototypeAlreadySet (c.objectName id))
  else if (proto :: c.chain proto).contains id then
    throw (.prototypeCycle (c.objectName id) (c.objectName proto))
  else link pass id proto

/-- A name that is scoped to a script. -/
def scopedName (script : Option ScriptId) (name : String) : String :=
  match script with
  | some s => s.text ++ ":" ++ name
  | none => name

/-- Adds an object without a prototype. -/
def newObject (name : String) (function : Option FunctionInfo) : Action ObjectId := fun c =>
  let id : ObjectId := ⟨c.objects.size⟩
  (.ok id, { c with objects := c.objects.push { name, function } }.record (.objectCreated id))

/-- The object of a name, which is made with a prototype if need be.  An object that is there
already is answered as it is, but it has to be a function exactly if one is asked for. -/
def typeObject (script : Option ScriptId) (name : String) (isFunction : Bool)
    (proto : Option ObjectId) : Action ObjectId := do
  let name := scopedName script name
  let c ← get
  match c.objectNamed? name with
  | some id =>
    match isFunction, (c.object id).isFunction with
    | true, false => throw (.notAFunction name)
    | false, true => throw (.unexpectedFunction name)
    | _, _ => return id
  | none =>
    let function ←
      if isFunction then do
        let returns ← newSet
        let thisTypes ← newSet
        pure (some { returns, thisTypes })
      else pure none
    let id ← newObject name function
    if let some proto := proto then
      link pass id proto
    return id

/-! ## Functions -/

/-- The record of a function; only functions have one. -/
def functionInfo (id : ObjectId) : Action FunctionInfo := do
  let o := (← get).object id
  match o.function with
  | some f => return f
  | none => throw (.notAFunction o.name)

/-- The number of parameters for which no list has room: four bytes each are more than half of the
addresses. -/
def parameterBound : Nat := 1 <<< 61

/-- Connects a function with its script, and makes a set for each parameter. -/
def setFunctionScript (id : ObjectId) (script : ScriptId) (parameters : Nat) : Action Unit := do
  discard <| functionInfo id
  if parameterBound ≤ parameters then throw (.outOfMemory "argument list")
  let sets ← (List.range parameters).mapM fun _ => newSet
  modify (·.changeFunction id fun f => { f with script := some script, parameters := sets })

/-- Makes a function native, with a handler or without. -/
def setNativeHandler (id : ObjectId) (handler : Option String) (isGeneric : Bool) :
    Action Unit := do
  discard <| functionInfo id
  modify (·.changeFunction id fun f => { f with script := none, handler, isGeneric })

end Compartment

end FlowTypes
