import FlowTypes.Arith
import FlowTypes.Builtin
import FlowTypes.Channel
import FlowTypes.Script
import FlowTypes.Stack
import FlowTypes.Worklist

/-!
# Compartments

A compartment owns every type set, constraint and type object of one analysis.  Nothing is ever
removed from its tables, so a handle keeps its meaning.  A fresh compartment holds one set, which
stands for every type, and one object, the global one.

This module has the state, the look-ups in it, and the single changes that all requests are made
of.  A look-up of a handle that is in no table answers a default; no request gets there.
-/

namespace FlowTypes

/-- What the host chooses for a compartment. -/
structure Options where
  /-- The log channels that the host listens to. -/
  spew : Channels := {}
  /-- The host wants the solver's time to be measured. -/
  recordTiming : Bool := false
  /-- How many pending types the worklist has room for at the start. -/
  worklistCapacity : Nat := 64
  deriving DecidableEq, Repr, Inhabited

/-- The state of an analysis. -/
structure Compartment where
  options : Options := {}
  sets : Array TypeSet := #[TypeSet.universal]
  constraints : Array Constraint := #[]
  objects : Array ObjectInfo := #[{ name := "Global" }]
  sites : Array CallSite := #[]
  /-- The builtin objects that have been made. -/
  builtins : List (Builtin × ObjectId) := []
  scripts : ScriptTable := []
  /-- The objects made by initializers, by the place of the code and whether they are arrays. -/
  initializers : List ((Location × Bool) × ObjectId) := []
  /-- The code that checks its types at run time. -/
  monitored : List Location := []
  stack : StackTable := {}
  worklist : Worklist := {}
  /-- The scripts to compile again, newest request first. -/
  queued : List ScriptId := []
  stats : Stats := {}
  /-- What has been done so far, newest first. -/
  journal : List Event := []
  deriving DecidableEq, Repr, Inhabited

namespace Compartment

/-- A compartment in which nothing has been asked for. -/
def fresh (options : Options) : Compartment := { options }

/-! ## Look-ups -/

/-- The set that stands for every type. -/
def universal : SetId := ⟨0⟩

/-- The global object. -/
def global : ObjectId := ⟨0⟩

/-- The scripts to compile again, oldest request first. -/
def recompiles (c : Compartment) : List ScriptId := c.queued.reverse

def set (c : Compartment) (id : SetId) : TypeSet := c.sets.getD id.index {}

def constraint (c : Compartment) (id : ConstraintId) : Constraint :=
  c.constraints.getD id.index default

def object (c : Compartment) (id : ObjectId) : ObjectInfo := c.objects.getD id.index default

def site (c : Compartment) (id : SiteId) : CallSite := c.sites.getD id.index default

def objectName (c : Compartment) (id : ObjectId) : String := (c.object id).name

/-- The name of a type; an object's type has the name of the object. -/
def typeName (c : Compartment) (t : Ty) : String :=
  match t with
  | .object id => c.objectName id
  | t => t.name?.getD ""

/-- Every object, in the order they were made. -/
def allObjects (c : Compartment) : List ObjectId := (List.range c.objects.size).map ObjectId.mk

/-- The object of that name. -/
def objectNamed? (c : Compartment) (name : String) : Option ObjectId :=
  (c.objects.findIdx? (·.name == name)).map ObjectId.mk

/-- The object of a builtin that has been made. -/
def builtin? (c : Compartment) (b : Builtin) : Option ObjectId :=
  (c.builtins.find? (·.1 == b)).map (·.2)

def initializer? (c : Compartment) (code : Location) (isArray : Bool) : Option ObjectId :=
  (c.initializers.find? (·.1 == (code, isArray))).map (·.2)

def isMonitored (c : Compartment) (code : Location) : Bool := c.monitored.contains code

/-- Follows prototypes for as many steps as are allowed. -/
def chainFrom (c : Compartment) : Nat → Option ObjectId → List ObjectId
  | 0, _ => []
  | _, none => []
  | fuel + 1, some p => p :: chainFrom c fuel (c.object p).proto

/-- The prototypes of an object, nearest first.  A chain without cycles is no longer than the
table of objects. -/
def chain (c : Compartment) (id : ObjectId) : List ObjectId :=
  c.chainFrom c.objects.size (c.object id).proto

/-- `Array.prototype` is among the prototypes of the object. -/
def isArray (c : Compartment) (id : ObjectId) : Bool :=
  match c.builtin? .arrayPrototype with
  | none => false
  | some p => (c.chain id).contains p

/-- The kind of a single object. -/
def objectKind (c : Compartment) (id : ObjectId) : Kind :=
  let o := c.object id
  if o.isUnknown then .unknown
  else if o.isPacked then .packedArray
  else if o.isDense then .denseArray
  else match o.function with
    | some f => if f.isNative then .nativeFunction else .scriptedFunction
    | none => .unknown

/-- The kind that all objects of a set have. -/
def setKind (c : Compartment) (id : SetId) : Kind :=
  let s := c.set id
  if s.isUnknown then .unknown
  else s.objectTypes.foldl (fun kind o => kind.combine (c.objectKind o)) .none

/-- How many objects there can be after a pass.  A pass makes no functions; for each function it
makes at most its prototype object and one object for what it constructs, and beside them only
builtin objects. -/
def objectBound (c : Compartment) : Nat := 3 * c.objects.size + Builtin.all.length

/-! ## Single changes -/

/-- Writes an event into the journal. -/
def record (c : Compartment) (e : Event) : Compartment := { c with journal := e :: c.journal }

def changeSet (c : Compartment) (id : SetId) (f : TypeSet → TypeSet) : Compartment :=
  { c with sets := c.sets.modify id.index f }

def changeConstraint (c : Compartment) (id : ConstraintId) (f : Constraint → Constraint) :
    Compartment :=
  { c with constraints := c.constraints.modify id.index f }

def changeObject (c : Compartment) (id : ObjectId) (f : ObjectInfo → ObjectInfo) : Compartment :=
  { c with objects := c.objects.modify id.index f }

def changeFunction (c : Compartment) (id : ObjectId) (f : FunctionInfo → FunctionInfo) :
    Compartment :=
  c.changeObject id fun o => { o with function := o.function.map f }

def changeSite (c : Compartment) (id : SiteId) (f : CallSite → CallSite) : Compartment :=
  { c with sites := c.sites.modify id.index f }

def changeWorklist (c : Compartment) (f : Worklist → Worklist) : Compartment :=
  { c with worklist := f c.worklist }

def changeScript (c : Compartment) (id : ScriptId) (f : ScriptTypes → ScriptTypes) :
    Compartment :=
  { c with scripts := ScriptTable.alter id f c.scripts }

/-- Puts types at the end of the worklist. -/
def enqueue (c : Compartment) (works : List Work) : Compartment :=
  c.changeWorklist (·.enqueue works)

/-- Queues a script for recompilation. -/
def queueRecompile (c : Compartment) (script : ScriptId) (cause : Cause) : Compartment :=
  { c.record (.recompileQueued script cause) with queued := script :: c.queued }

/-- Queues the script of a freeze constraint and marks the constraint as spent. -/
def spend (c : Compartment) (id : ConstraintId) (script : ScriptId) : Compartment :=
  (c.changeConstraint id Constraint.spend).queueRecompile script (.frozen id)

/-- Makes the code at a place check its types, once. -/
def monitor (c : Compartment) (code : Location) : Compartment :=
  if c.isMonitored code then c
  else
    ({ c with monitored := code :: c.monitored }.record (.monitored code)).queueRecompile
      code.script (.monitored code)

end Compartment

/-! ## Actions -/

/-- A change of a compartment that answers something or fails.  A failed action keeps what it did
before it failed. -/
abbrev Action (α : Type) := ExceptT InferError (StateM Compartment) α

namespace Compartment

/-- Adds an empty type set. -/
def newSet : Action SetId := fun c =>
  (.ok ⟨c.sets.size⟩, { c with sets := c.sets.push {} })

end Compartment

end FlowTypes
