import FlowTypes.Compartment.Instance
import FlowTypes.Host

/-!
# How constraints react to types

What each constraint does when it hears of a type that joined its source.  This happens within a
pass, so the types and constraints that are added on the way are put on the worklist and no further
pass is started.

## Main results

A spent constraint does nothing any more (`freezeKind_spent`), and neither does an element access
whose property is wired up when it hears of an index (`accessElement_wired`).
-/

namespace FlowTypes

namespace Compartment

/-- Within a pass, no further one is started. -/
def idle : Action Unit := pure ()

/-- The builtin whose objects stand for the primitive values of a type. -/
def wrapper? : Ty → Option Builtin
  | .int32 | .double => some .newNumber
  | .boolean => some .newBoolean
  | .string => some .newString
  | _ => none

/-! ## Properties and elements -/

/-- The types of a property flow into a target. -/
def readFrom (object : ObjectId) (key : Key) (target : SetId) : Action Unit := do
  let types ← getProperty idle object key false
  addSubset idle types target

/-- The types of a set flow into the own types of a property.  What is written to an object with
unknown properties is lost, because those stand for every type already. -/
def writeTo (object : ObjectId) (key : Key) (values : SetId) : Action Unit := do
  unless ((← get).object object).isUnknown do
    let own ← getProperty idle object key true
    addSubset idle values own

/-- Code that writes to an unknown object is monitored, as its writes can go anywhere. -/
def monitorUnknown (code : Option Location) : Action Unit :=
  match code with
  | some code => modify (·.monitor code)
  | none => pure ()

/-- A property is accessed on a type.  Reads from primitive values go through their wrapper
objects and writes to them are lost; reading from `null` or `undefined` throws. -/
def accessProperty (code : Option Location) (key : Key) (target : SetId) :
    Access → Ty → Action Unit
  | .read, .unknown => addType idle target .unknown
  | .write, .unknown => monitorUnknown code
  | .read, .object o => readFrom o key target
  | .write, .object o => writeTo o key target
  | .read, t =>
    match wrapper? t with
    | some b => do readFrom (← builtin idle b) key target
    | none => pure ()
  | .write, _ => pure ()

/-- The type of an index that stands for an element; any other may name any property. -/
def isIndexType : Ty → Bool
  | .undefined | .null | .boolean | .int32 | .double => true
  | _ => false

/-- An element is accessed with an index of a type.  All indexes share one property, which is wired
up at the first of them. -/
def accessElement (id : ConstraintId) (code : Option Location) (objects target : SetId)
    (access : Access) (wired : Bool) (t : Ty) : Action Unit := do
  if isIndexType t then
    unless wired do
      modify (·.changeConstraint id Constraint.wire)
      match access with
      | .read => readProperty idle objects code target .index
      | .write => writeProperty idle objects code target .index
  else match access with
    | .read => addType idle target .unknown
    | .write => monitorUnknown code

/-! ## Calls -/

/-- The arguments of a call flow into the parameters of a function with a script, and parameters
without an argument are `undefined`.  A native function that is generic treats the first argument
as its `this` value. -/
def bindArguments (site : CallSite) (f : FunctionInfo) : Action Unit :=
  if f.script.isSome then do
    (site.arguments.zip f.parameters).forM fun (argument, parameter) =>
      addSubset idle argument parameter
    (f.parameters.drop site.arguments.length).forM fun parameter =>
      addType idle parameter .undefined
  else if f.isGeneric then
    site.arguments.head?.forM fun first => addSubset idle first f.thisTypes
  else pure ()

/-- A `new` expression makes an object that inherits from the function's prototype object.  Only an
object that the function returns takes its place. -/
def construct (callee : ObjectId) (site : CallSite) (f : FunctionInfo) : Action Unit := do
  let proto ← prototypeObjectOf idle callee
  let new ← newObjectOf idle proto
  addType idle f.thisTypes (.object new)
  site.result.forM fun result => do
    addType idle result (.object new)
    addFilter idle f.returns result .primitives

/-- A plain call passes its `this` value on and takes what the function returns. -/
def passThrough (site : CallSite) (f : FunctionInfo) : Action Unit := do
  site.thisTypes.forM fun types => addSubset idle types f.thisTypes
  site.thisType.forM fun t => addType idle f.thisTypes t
  site.result.forM fun result => addSubset idle f.returns result

variable (host : Host)

/-- A function is called at a site.  A handler of the host runs first. -/
def callFunction (callee : ObjectId) (f : FunctionInfo) (site : CallSite) : Action Unit := do
  modify (·.record (.called site (.function callee f)))
  f.handler.forM fun name => (host name site).run
  bindArguments site f
  if site.isNew then construct callee site f
  else passThrough site f

/-- A type is called at a site.  Calling what is no function throws. -/
def call (site : CallSite) : Ty → Action Unit
  | .unknown => do
    modify (·.record (.called site .unknown))
    site.result.forM fun result => addType idle result .unknown
  | .object callee => do
    match ((← get).object callee).function with
    | some f => callFunction host callee f site
    | none => pure ()
  | _ => pure ()

/-! ## The other constraints -/

/-- A `this` value is passed on, a primitive one as its wrapper object; without a value it is the
global object. -/
def boxedThis (target : SetId) (t : Ty) : Action Unit :=
  match t with
  | .undefined | .null => addType idle target (.object global)
  | t =>
    match wrapper? t with
    | some b => do addType idle target (.object (← builtin idle b))
    | none => addType idle target t

/-- A value that was read is passed on, unless it stands for a getter; then the read is
monitored. -/
def forwardRead (code : Location) (target : SetId) (t : Ty) : Action Unit := do
  match t, (← get).builtin? .getSet with
  | .object o, some getter =>
    if o = getter then modify (·.monitor code) else addType idle target t
  | t, _ => addType idle target t

/-- The kind of a set of a frozen kind after one more type.  Primitive values are the business of
the tag. -/
def refinedKind (c : Compartment) (kind : Kind) : Ty → Kind
  | .object o => kind.combine (c.objectKind o)
  | .unknown => .unknown
  | _ => kind

/-- A constraint hears of a type that joined its source. -/
def react (w : Work) : Constraint → Action Unit
  | .subset target => addType idle target w.type
  | .property code key target access => accessProperty code key target access w.type
  | .element code objects target access wired =>
    accessElement w.constraint code objects target access wired w.type
  | .call site => do call host ((← get).site site) w.type
  | .arith op target other => do
    let results := Arith.results op w.type (other.map (← get).set)
    results.forM fun t => addType idle target t
  | .boxThis target => boxedThis target w.type
  | .filter target mode =>
    if mode.passes w.type then addType idle target w.type else pure ()
  | .monitorRead code target => forwardRead code target w.type
  | .freezeTag script tag spent => do
    unless spent || ((← get).set w.source).tag? = some tag do
      modify (·.spend w.constraint script)
  | .freezeKind script kind spent => do
    unless spent || (← get).refinedKind kind w.type = kind do
      modify (·.spend w.constraint script)
  | .freezeEmpty script spent => do
    unless spent do modify (·.spend w.constraint script)
  | .freezeElementKind .. => pure ()

/-- Delivers a type to the constraint that has to hear of it. -/
def fire (w : Work) : Action Unit := do
  modify (·.record (.fired w))
  let constraint := (← get).constraint w.constraint
  react host w constraint

/-! ## Small laws -/

/-- A freeze constraint that is spent does nothing. -/
theorem freezeKind_spent (c : Compartment) (w : Work) (script : ScriptId) (kind : Kind) :
    react host w (.freezeKind script kind true) c = (.ok (), c) :=
  rfl

/-- An element access that is wired up does nothing for an index. -/
theorem accessElement_wired {id : ConstraintId} {code : Option Location} {objects target : SetId}
    {access : Access} {t : Ty} (h : isIndexType t = true) :
    accessElement id code objects target access true t = pure () := by
  simp [accessElement, h]

end Compartment

end FlowTypes
