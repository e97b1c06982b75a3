import FlowTypes.Compartment.Prototype

/-!
# Objects that the engine makes

Builtin objects, the default prototype object of a function, the object for what a constructor
makes, and the objects of initializers.  Each is made on first request and answered from then on.
-/

namespace FlowTypes

namespace Compartment

variable (pass : Action Unit)

/-- The object of a builtin, which is made if need be; `makeProto` answers the object of its
prototype, unless it has none. -/
def setUpBuiltin (b : Builtin) (makeProto : Option (Action ObjectId)) : Action ObjectId := do
  match (← get).builtin? b with
  | some id => return id
  | none =>
    let id ← typeObject pass none b.name b.isFunction none
    modify fun c =>
      { c with builtins := c.builtins ++ [(b, id)] }.changeFunction id fun f =>
        { f with isBuiltin := true }
    if let some makeProto := makeProto then
      let proto ← makeProto
      if ((← get).object id).proto.isNone then
        addPrototype pass id proto
    if b.isUntracked then markUnknown pass id
    if b = .unknownArray then modify (·.markNotPacked id true)
    return id

/-- The object of a builtin with a given lineage. -/
def makeBuiltin (b : Builtin) : List Builtin → Action ObjectId
  | [] => setUpBuiltin pass b none
  | p :: rest => setUpBuiltin pass b (some (makeBuiltin p rest))

/-- The object of a builtin. -/
def builtin (b : Builtin) : Action ObjectId := makeBuiltin pass b b.lineage

/-- The object for what is constructed with this object as its prototype. -/
def newObjectOf (id : ObjectId) : Action ObjectId := do
  let o := (← get).object id
  match o.newObject with
  | some new => return new
  | none =>
    let new ← typeObject pass none (o.name ++ ":new") false (some id)
    modify (·.changeObject id fun o => { o with newObject := some new })
    return new

/-- The default prototype object of a function. -/
def prototypeObjectOf (function : ObjectId) : Action ObjectId := do
  let f ← functionInfo function
  match f.prototypeObject with
  | some proto => return proto
  | none =>
    let objectProto ← builtin pass .objectPrototype
    let name := (← get).objectName function ++ ":prototype"
    let proto ← typeObject pass none name false (some objectProto)
    modify (·.changeFunction function fun f => { f with prototypeObject := some proto })
    return proto

/-- The object that an object or array initializer makes. -/
def initializerObject (code : Location) (isArray : Bool) : Action ObjectId := do
  match (← get).initializer? code isArray with
  | some id => return id
  | none =>
    let proto ← builtin pass (if isArray then .arrayPrototype else .objectPrototype)
    let name := Location.offsetText code.offset ++ (if isArray then ":Array" else ":Object")
    let id ← typeObject pass (some code.script) name false (some proto)
    if isArray then modify (·.changeObject id fun o => { o with isPossiblyPacked := true })
    modify fun c => { c with initializers := ((code, isArray), id) :: c.initializers }
    return id

end Compartment

end FlowTypes
