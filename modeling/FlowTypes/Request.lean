import FlowTypes.Compartment.Instance
import FlowTypes.Compartment.Observation
import FlowTypes.Compartment.Query
import FlowTypes.Compartment.Report
import FlowTypes.Compartment.Sites
import FlowTypes.Compartment.Slots

/-!
# Requests

Everything that a host can ask a compartment to do, as data.  A run of an analysis is a list of
requests, and a handler of a native function makes requests of its own while a pass is running.
What only reads a compartment is no request; it is a function of the compartment.
-/

namespace FlowTypes

/-- What a host asks of a compartment. -/
inductive Request
  | newSet
  | addType (target : SetId) (type : Ty)
  | observeType (target : SetId) (type : Ty)
  | addSubset (source target : SetId)
  | readProperty (objects : SetId) (code : Option Location) (target : SetId) (key : Key)
  | writeProperty (objects : SetId) (code : Option Location) (values : SetId) (key : Key)
  | readElement (objects indexes : SetId) (code : Option Location) (target : SetId)
  | writeElement (objects indexes : SetId) (code : Option Location) (values : SetId)
  | addArith (lhs : SetId) (rhs : Option SetId) (target : SetId) (op : ArithOp)
  | boxThis (source target : SetId)
  | addFilter (source target : SetId) (mode : FilterMode)
  | monitorRead (source : SetId) (code : Location) (target : SetId)
  | addConstraint (source : SetId) (constraint : Constraint) (callExisting : Bool)
  | deliver (constraint : ConstraintId) (source : SetId) (type : Ty)
  | typeObject (script : Option ScriptId) (name : String) (isFunction : Bool)
      (proto : Option ObjectId)
  | builtin (builtin : Builtin)
  | setFunctionScript (function : ObjectId) (script : ScriptId) (parameters : Nat)
  | setNativeHandler (function : ObjectId) (handler : Option String) (isGeneric : Bool)
  | property (object : ObjectId) (key : Key) (own : Bool)
  | storeToInstances (object : ObjectId) (key : Key)
  | addPrototype (object proto : ObjectId)
  | markUnknown (object : ObjectId)
  | markNotPacked (object : ObjectId) (notDense : Bool)
  | newObjectOf (object : ObjectId)
  | prototypeObjectOf (function : ObjectId)
  | initializerObject (site : SiteId) (isArray : Bool)
  | observeAssignment (object : ObjectId) (key : Key) (value : Value)
  | knownTag (types : SetId) (script : Option ScriptId)
  | knownKind (types : SetId) (script : Option ScriptId)
  | knownNonEmpty (types : SetId) (script : Option ScriptId)
  | variableTypes (script : ScriptId) (name : String)
  | pushedTypes (code : Location) (index : Nat)
  | observePush (code : Location) (index : Nat) (type : Ty)
  | monitor (code : Location)
  | queueRecompile (script : ScriptId)
  | takeRecompiles
  | newCallSite (site : CallSite)
  | forceThisTypes (site : SiteId)
  | forceResult (site : SiteId)
  | addCall (callees : SetId) (site : SiteId)
  | newStackNode (inner : Option StackId)
  | setInnerStack (node inner : StackId)
  | mergeStacks (one two : StackId)
  | setSlotFlags (node : StackId) (flags : SlotFlags)
  | finish
  deriving DecidableEq, Repr, Inhabited

/-- What a compartment answers to a request. -/
inductive Answer
  | done
  | set (id : SetId)
  | object (id : ObjectId)
  | constraint (id : ConstraintId)
  | site (id : SiteId)
  | stack (id : StackId)
  | tag (tag : Option Tag)
  | kind (kind : Kind)
  | truth (value : Bool)
  | scripts (scripts : List ScriptId)
  | stats (stats : Stats)
  deriving DecidableEq, Repr, Inhabited

namespace Request

/-- Does an action that answers nothing. -/
private def quietly (action : Action Unit) : Action Answer := do
  action
  return .done

/-- Makes a change that cannot fail. -/
private def change (f : Compartment → Compartment) : Action Answer :=
  quietly (modify f)

/-- Takes an answer along with the changed compartment. -/
private def take {α : Type} (f : Compartment → α × Compartment) : Action α := fun c =>
  (.ok (f c).1, (f c).2)

variable (pass : Action Unit)

/-- Does what is asked for; `pass` is the solver pass that it may start. -/
def perform : Request → Action Answer
  | newSet => return .set (← Compartment.newSet)
  | addType target type => quietly (Compartment.addType pass target type)
  | observeType target type => quietly (Compartment.observeType pass target type)
  | addSubset source target => quietly (Compartment.addSubset pass source target)
  | readProperty objects code target key =>
    quietly (Compartment.readProperty pass objects code target key)
  | writeProperty objects code values key =>
    quietly (Compartment.writeProperty pass objects code values key)
  | readElement objects indexes code target =>
    quietly (Compartment.readElement pass objects indexes code target)
  | writeElement objects indexes code values =>
    quietly (Compartment.writeElement pass objects indexes code values)
  | addArith lhs rhs target op => quietly (Compartment.addArith pass lhs rhs target op)
  | boxThis source target => quietly (Compartment.boxThis pass source target)
  | addFilter source target mode => quietly (Compartment.addFilter pass source target mode)
  | monitorRead source code target =>
    quietly (Compartment.monitorRead pass source code target)
  | addConstraint source constraint callExisting =>
    return .constraint (← Compartment.addConstraint pass source constraint callExisting)
  | deliver constraint source type =>
    quietly (Compartment.deliver pass constraint source type)
  | typeObject script name isFunction proto =>
    return .object (← Compartment.typeObject pass script name isFunction proto)
  | builtin b => return .object (← Compartment.builtin pass b)
  | setFunctionScript function script parameters =>
    quietly (Compartment.setFunctionScript function script parameters)
  | setNativeHandler function handler isGeneric =>
    quietly (Compartment.setNativeHandler function handler isGeneric)
  | property object key own => return .set (← Compartment.getProperty pass object key own)
  | storeToInstances object key => quietly (Compartment.storeToInstances pass object key)
  | addPrototype object proto => quietly (Compartment.addPrototype pass object proto)
  | markUnknown object => quietly (Compartment.markUnknown pass object)
  | markNotPacked object notDense => change fun c => c.markNotPacked object notDense
  | newObjectOf object => return .object (← Compartment.newObjectOf pass object)
  | prototypeObjectOf function =>
    return .object (← Compartment.prototypeObjectOf pass function)
  | initializerObject site isArray => do
    let code := ((← get).site site).code
    return .object (← Compartment.initializerObject pass code isArray)
  | observeAssignment object key value =>
    quietly (Compartment.observeAssignment pass object key value)
  | knownTag types script => return .tag (← Compartment.knownTag pass types script)
  | knownKind types script => return .kind (← Compartment.knownKind pass types script)
  | knownNonEmpty types script =>
    return .truth (← Compartment.knownNonEmpty pass types script)
  | variableTypes script name => return .set (← Compartment.variableTypes script name)
  | pushedTypes code index => return .set (← Compartment.pushedTypes code index)
  | observePush code index type => quietly (Compartment.observePush pass code index type)
  | monitor code => change fun c => c.monitor code
  | queueRecompile script => change fun c => c.queueRecompile script .host
  | takeRecompiles => return .scripts (← take Compartment.takeRecompiles)
  | newCallSite site => return .site (← Compartment.newCallSite site)
  | forceThisTypes site => return .set (← Compartment.forceThisTypes site)
  | forceResult site => return .set (← Compartment.forceResult site)
  | addCall callees site => quietly (Compartment.addCall pass callees site)
  | newStackNode inner => return .stack (← Compartment.newStackNode inner)
  | setInnerStack node inner => quietly (Compartment.setInnerStack pass node inner)
  | mergeStacks one two => quietly (Compartment.mergeStacks pass one two)
  | setSlotFlags node flags => change fun c => c.setSlotFlags node flags
  | finish => return .stats (← take Compartment.finish)

end Request

end FlowTypes
