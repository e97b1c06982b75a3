import FlowTypes.CallSite
import FlowTypes.InferError
import FlowTypes.Object
import FlowTypes.Stats

/-!
# Events

A compartment writes down everything that it does, in a journal.  The channels of the log show a
part of the journal; the events that no channel shows say which constraint heard of which type.
-/

namespace FlowTypes

/-- A type that a constraint has to hear of. -/
structure Work where
  constraint : ConstraintId
  /-- The set that gained the type. -/
  source : SetId
  type : Ty
  deriving DecidableEq, Repr, Inhabited

/-- Why a script has to be compiled again. -/
inductive Cause
  /-- An answer that a freeze constraint held is no longer true. -/
  | frozen (constraint : ConstraintId)
  /-- The code at a place has to check its types from now on. -/
  | monitored (code : Location)
  /-- The code at a place pushed a type that was not foreseen. -/
  | pushed (code : Location)
  /-- The host asked for it. -/
  | host
  deriving DecidableEq, Repr, Inhabited

/-- What a call constraint finds when it hears of a type that can be called. -/
inductive Callee
  | unknown
  | function (object : ObjectId) (info : FunctionInfo)
  deriving DecidableEq, Repr, Inhabited

/-- Something that a compartment did. -/
inductive Event
  | typeAdded (set : SetId) (type : Ty)
  | constraintAdded (set : SetId) (constraint : ConstraintId) (callExisting : Bool)
  | objectCreated (object : ObjectId)
  | propertyCreated (object : ObjectId) (property : Property)
  | prototypeLinked (object proto : ObjectId)
  /-- A constraint heard of a type. -/
  | fired (work : Work)
  | called (site : CallSite) (callee : Callee)
  | markedUnknown (object : ObjectId)
  | markedNotPacked (object : ObjectId) (notDense : Bool)
  | monitored (code : Location)
  | recompileQueued (script : ScriptId) (cause : Cause)
  /-- The queued scripts were handed out, each once. -/
  | recompiled (scripts : List ScriptId)
  | typeObserved (set : SetId) (type : Ty)
  | pushObserved (code : Location) (index : Nat) (type : Ty)
  | assignmentObserved (object : ObjectId) (key : Key) (type : Ty)
  | passAborted (error : InferError)
  /-- A line of the final state. -/
  | resultLine (line : String)
  | finished (stats : Stats)
  deriving DecidableEq, Repr, Inhabited

end FlowTypes
