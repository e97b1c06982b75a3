import FlowTypes.Proofs.Frames.Basic

/-!
# Requests stay in a frame

One lemma for each action, along its text: as long as a request for a pass stays in a frame, every
action that makes such requests does, and so does whatever a host can ask for.  Only the requests
that are about the stack, pushes and the handing out of scripts need a frame that allows for them.

## Main result

* `keeps_perform`: every request that a frame allows stays in it.
-/

namespace FlowTypes

namespace Compartment

variable {F : Frame} {α : Type}

open Compartment.Frame

/-! ## Changes that leave gauges and docket alone -/

theorem keeps_newSet : F.Keeps newSet := .of_ok (fun _ => rfl) fun _ => F.plain rfl

theorem keeps_newObject (name : String) (function : Option FunctionInfo) :
    F.Keeps (newObject name function) :=
  .of_ok (fun _ => rfl) fun _ => F.plain rfl

theorem keeps_newCallSite (s : CallSite) : F.Keeps (newCallSite s) :=
  .of_ok (fun _ => rfl) fun _ => F.plain rfl

theorem keeps_createProperty (id : ObjectId) (key : Key) : F.Keeps (createProperty id key) :=
  keeps_newSet.bind fun _ => keeps_newSet.bind fun _ =>
    .bind (.modify fun _ => rfl) fun _ => .pure _

theorem readings_classifyArray (c : Compartment) (id : ObjectId) :
    (c.classifyArray id).readings = c.readings := by
  unfold classifyArray
  split <;> rfl

theorem readings_finish (c : Compartment) : c.finish.2.readings = c.readings := by
  have hlines : ∀ (lines : List String) (b : Compartment),
      (lines.foldl (fun c line => c.record (.resultLine line)) b).readings = b.readings := by
    intro lines b
    refine List.foldlRecOn lines _ (motive := fun c : Compartment => c.readings = b.readings) rfl ?_
    exact fun c hc line _ => hc
  exact hlines _ c.countPushed

/-! ## Changes that may write into the docket -/

theorem ok_spend (c : Compartment) (id : ConstraintId) (script : ScriptId) :
    F.Ok c (c.spend id script) := by
  have hchanged : F.Ok c (c.changeConstraint id Constraint.spend) := F.plain rfl
  exact F.trans hchanged (F.enters (.frozen script id))

theorem ok_kindChanged (c : Compartment) (id : ConstraintId) (new : Kind) :
    F.Ok c (c.kindChanged id new) := by
  unfold kindChanged
  split
  · split
    · exact F.refl c
    · exact ok_spend c id _
  · exact F.refl c

theorem ok_notifyKind (c : Compartment) (id : ObjectId) : F.Ok c (c.notifyKind id) := by
  unfold notifyKind
  split
  · exact F.refl c
  · rename_i p _
    refine List.foldlRecOn _ _ (motive := fun b : Compartment => F.Ok c b) (F.refl c) ?_
    exact fun b hb k _ => F.trans hb (ok_kindChanged b k _)

theorem ok_markNotPacked (c : Compartment) (id : ObjectId) (notDense : Bool) :
    F.Ok c (c.markNotPacked id notDense) := by
  unfold markNotPacked
  simp only
  split
  · exact F.refl c
  · let b := (c.changeObject id fun o =>
      { o with isPacked := false, isDense := o.isDense && !notDense }).record
        (.markedNotPacked id notDense)
    have hlost : F.Ok c b := F.plain rfl
    exact F.trans hlost (ok_notifyKind b id)

theorem ok_forgetProperties (c : Compartment) (id : ObjectId) :
    F.Ok c (c.forgetProperties id) := by
  let marked := (c.record (.markedUnknown id)).markNotPacked id true
  let forgotten := marked.changeObject id fun o => { o with isUnknown := true }
  have hrecorded : F.Ok c (c.record (.markedUnknown id)) := F.plain rfl
  have hmarked : F.Ok c marked := F.trans hrecorded (ok_markNotPacked _ id true)
  have hforgotten : F.Ok marked forgotten := F.plain rfl
  exact F.trans hmarked (F.trans hforgotten (ok_notifyKind forgotten id))

theorem ok_monitor (c : Compartment) (code : Location) : F.Ok c (c.monitor code) :=
  F.enters (.monitored code)

/-! ## Actions without passes -/

theorem keeps_functionInfo (id : ObjectId) : F.Keeps (functionInfo id) := by
  refine Keeps.get.bind fun c => ?_
  dsimp only
  split
  · exact .pure _
  · exact .throw _

theorem keeps_setFunctionScript (id : ObjectId) (script : ScriptId) (parameters : Nat) :
    F.Keeps (setFunctionScript id script parameters) := by
  refine (keeps_functionInfo id).discard.bind fun _ => ?_
  split
  · exact .throw _
  · exact (Keeps.mapM fun _ => keeps_newSet).bind fun _ => .modify fun _ => rfl

theorem keeps_setNativeHandler (id : ObjectId) (handler : Option String) (isGeneric : Bool) :
    F.Keeps (setNativeHandler id handler isGeneric) :=
  (keeps_functionInfo id).discard.bind fun _ => .modify fun _ => rfl

/-- A set is made and remembered. -/
theorem keeps_provide {f : SetId → Compartment → Compartment}
    (hf : ∀ s c, (f s c).readings = c.readings) : F.Keeps (do
      let types ← newSet
      modify (f types)
      return types) :=
  keeps_newSet.bind fun s => .bind (.modify (hf s)) fun _ => .pure _

theorem keeps_variableTypes (script : ScriptId) (name : String) :
    F.Keeps (variableTypes script name) := by
  refine Keeps.get.bind fun c => ?_
  split
  · exact .pure _
  · exact keeps_provide fun _ _ => rfl

theorem keeps_pushedTypes (code : Location) (index : Nat) : F.Keeps (pushedTypes code index) := by
  refine Keeps.get.bind fun c => ?_
  split
  · exact .pure _
  · exact keeps_provide fun _ _ => rfl

theorem keeps_forceThisTypes (id : SiteId) : F.Keeps (forceThisTypes id) := by
  refine Keeps.get.bind fun c => ?_
  split
  · exact .pure _
  · exact keeps_provide fun _ _ => rfl

theorem keeps_forceResult (id : SiteId) : F.Keeps (forceResult id) := by
  refine Keeps.get.bind fun c => ?_
  split
  · exact .pure _
  · exact keeps_provide fun _ _ => rfl

/-! ## Actions that may ask for a pass -/

section Pass

variable {pass : Action Unit} (hpass : F.Keeps (requestPass pass))
include hpass

theorem keeps_addType (target : SetId) (t : Ty) : F.Keeps (addType pass target t) := by
  refine Keeps.get.bind fun c => ?_
  dsimp only
  split
  · exact .pure _
  · exact .bind (.modify fun _ => rfl) fun _ => hpass

theorem keeps_addConstraint (source : SetId) (constraint : Constraint) (callExisting : Bool) :
    F.Keeps (addConstraint pass source constraint callExisting) := by
  refine Keeps.get.bind fun c => .bind (.modify fun _ => rfl) fun _ => ?_
  split
  · exact .bind (.modify fun _ => rfl) fun _ => hpass.bind fun _ => .pure _
  · exact .pure _

theorem keeps_deliver (constraint : ConstraintId) (source : SetId) (t : Ty) :
    F.Keeps (deliver pass constraint source t) :=
  .bind (.modify fun _ => rfl) fun _ => hpass

theorem keeps_addSubset (source target : SetId) : F.Keeps (addSubset pass source target) := by
  refine Keeps.get.bind fun c => ?_
  split
  · exact .pure _
  · exact .bind (.modify fun _ => rfl) fun _ => (keeps_addConstraint hpass _ _ _).discard

theorem keeps_addArith (lhs : SetId) (rhs : Option SetId) (target : SetId) (op : ArithOp) :
    F.Keeps (addArith pass lhs rhs target op) := by
  refine (keeps_addConstraint hpass _ _ _).discard.bind fun _ => ?_
  cases rhs with
  | none => exact .pure _
  | some rhs => exact (keeps_addConstraint hpass _ _ _).discard

/-! ### Properties -/

theorem keeps_flowDown (base : SetId) (key : Key) (fuel : Nat) (stack : List ObjectId) :
    F.Keeps (flowDown pass base key fuel stack) := by
  induction fuel generalizing stack with
  | zero =>
    cases stack with
    | nil => exact .pure _
    | cons o rest => exact .throw _
  | succ fuel ih =>
    cases stack with
    | nil => exact .pure _
    | cons o rest =>
      refine Keeps.get.bind fun c => ?_
      dsimp only
      split
      · exact (keeps_addSubset hpass _ _).bind fun _ => ih _
      · exact ih _

theorem keeps_storeToInstances (id : ObjectId) (key : Key) :
    F.Keeps (storeToInstances pass id key) := by
  refine Keeps.get.bind fun c => ?_
  split
  · exact .pure _
  · exact keeps_flowDown hpass _ _ _ _

theorem keeps_wireProperties (key : Key) (above : Option SetId)
    (made : List (ObjectId × Property)) : F.Keeps (wireProperties pass key above made) := by
  induction made generalizing above with
  | nil => exact .pure _
  | cons x rest ih =>
    obtain ⟨owner, p⟩ := x
    refine (keeps_addSubset hpass _ _).bind fun _ => ?_
    cases above with
    | none => exact (keeps_storeToInstances hpass _ _).bind fun _ => ih _
    | some above =>
      exact (keeps_addSubset hpass _ _).bind fun _ =>
        (keeps_storeToInstances hpass _ _).bind fun _ => ih _

theorem keeps_addProperty (id : ObjectId) (key : Key) : F.Keeps (addProperty pass id key) :=
  Keeps.get.bind fun _ => .bind
    (.mapM fun _ => (keeps_createProperty _ _).bind fun _ => .pure _) fun _ =>
      (keeps_createProperty _ _).bind fun _ =>
        (keeps_wireProperties hpass _ _ _).bind fun _ => .pure _

theorem keeps_getProperty (id : ObjectId) (key : Key) (own : Bool) :
    F.Keeps (getProperty pass id key own) := by
  refine Keeps.get.bind fun c => ?_
  dsimp only
  split
  · exact .pure _
  · split
    · exact .pure _
    · exact (keeps_addProperty hpass _ _).bind fun _ => .pure _

/-! ### Objects that become unknown -/

theorem keeps_forgetAll (fuel : Nat) (stack : List ObjectId) :
    F.Keeps (forgetAll pass fuel stack) := by
  induction fuel generalizing stack with
  | zero =>
    cases stack with
    | nil => exact .pure _
    | cons o rest => exact .throw _
  | succ fuel ih =>
    cases stack with
    | nil => exact .pure _
    | cons o rest =>
      refine Keeps.get.bind fun c => ?_
      split
      · exact ih _
      · refine .bind (.change fun c => ok_forgetProperties c o) fun _ => Keeps.get.bind fun c => ?_
        refine .bind (.forM fun p => ?_) fun _ => Keeps.get.bind fun c => ih _
        exact (keeps_addType hpass _ _).bind fun _ => keeps_addType hpass _ _

theorem keeps_markUnknown (id : ObjectId) : F.Keeps (markUnknown pass id) :=
  Keeps.get.bind fun _ => keeps_forgetAll hpass _ _

/-! ### Prototypes and new objects -/

theorem keeps_link (id proto : ObjectId) : F.Keeps (link pass id proto) := by
  refine .bind (.modify fun _ => rfl) fun _ => Keeps.get.bind fun c => ?_
  split
  · exact keeps_markUnknown hpass _
  · refine .bind (.forM fun p => ?_) fun _ => .modify fun c => readings_classifyArray c id
    exact (keeps_getProperty hpass _ _ _).bind fun _ => keeps_addSubset hpass _ _

theorem keeps_addPrototype (id proto : ObjectId) : F.Keeps (addPrototype pass id proto) := by
  refine Keeps.get.bind fun c => ?_
  split
  · exact .throw _
  · split
    · exact .throw _
    · exact keeps_link hpass _ _

theorem keeps_typeObject (script : Option ScriptId) (name : String) (isFunction : Bool)
    (proto : Option ObjectId) : F.Keeps (typeObject pass script name isFunction proto) := by
  refine Keeps.get.bind fun c => ?_
  dsimp only
  split
  · split
    · exact .throw _
    · exact .throw _
    · exact .pure _
  · have hmade : ∀ {rest : ObjectId → Action ObjectId} (function : Option FunctionInfo),
        (∀ id, F.Keeps (rest id)) →
          F.Keeps (newObject (scopedName script name) function >>= rest) :=
      fun _ hrest => (keeps_newObject _ _).bind hrest
    cases proto with
    | none =>
      split
      · exact keeps_newSet.bind fun _ => keeps_newSet.bind fun _ => hmade _ fun id => .pure id
      · exact hmade none fun id => .pure id
    | some proto =>
      have hlinked : ∀ id, F.Keeps (link pass id proto >>= fun _ => pure id) :=
        fun id => (keeps_link hpass _ _).bind fun _ => .pure _
      split
      · exact keeps_newSet.bind fun _ => keeps_newSet.bind fun _ => hmade _ hlinked
      · exact hmade none hlinked

theorem keeps_setUpBuiltin (b : Builtin) {makeProto : Option (Action ObjectId)}
    (hproto : ∀ a, makeProto = some a → F.Keeps a) : F.Keeps (setUpBuiltin pass b makeProto) := by
  have hunpacked : ∀ id, F.Keeps (do
      if b = .unknownArray then modify (·.markNotPacked id true)
      return id : Action ObjectId) := by
    intro id
    split
    · exact .bind (.change fun c => ok_markNotPacked c id true) fun _ => .pure _
    · exact .pure _
  have hmarked : ∀ id, F.Keeps (do
      if b.isUntracked then markUnknown pass id
      if b = .unknownArray then modify (·.markNotPacked id true)
      return id : Action ObjectId) := by
    intro id
    dsimp only
    by_cases huntracked : b.isUntracked = true
    · rw [if_pos huntracked]
      exact (keeps_markUnknown hpass _).bind fun _ => hunpacked id
    · rw [if_neg huntracked]
      exact hunpacked id
  refine Keeps.get.bind fun c => ?_
  split
  · exact .pure _
  · refine (keeps_typeObject hpass _ _ _ _).bind fun id => .bind (.modify fun _ => rfl) fun _ => ?_
    cases makeProto with
    | none => exact hmarked id
    | some makeProto =>
      refine (hproto makeProto rfl).bind fun proto => Keeps.get.bind fun c => ?_
      split
      · exact (keeps_addPrototype hpass _ _).bind fun _ => hmarked id
      · exact hmarked id

theorem keeps_makeBuiltin (b : Builtin) (lineage : List Builtin) :
    F.Keeps (makeBuiltin pass b lineage) := by
  induction lineage generalizing b with
  | nil => exact keeps_setUpBuiltin hpass b (fun _ h => by cases h)
  | cons p rest ih => exact keeps_setUpBuiltin hpass b (fun _ h => by cases h; exact ih p)

theorem keeps_builtin (b : Builtin) : F.Keeps (builtin pass b) := keeps_makeBuiltin hpass b _

theorem keeps_newObjectOf (id : ObjectId) : F.Keeps (newObjectOf pass id) := by
  refine Keeps.get.bind fun c => ?_
  dsimp only
  split
  · exact .pure _
  · exact (keeps_typeObject hpass _ _ _ _).bind fun _ => .bind (.modify fun _ => rfl) fun _ => .pure _

theorem keeps_prototypeObjectOf (function : ObjectId) :
    F.Keeps (prototypeObjectOf pass function) := by
  refine (keeps_functionInfo function).bind fun f => ?_
  split
  · exact .pure _
  · exact (keeps_builtin hpass _).bind fun _ => Keeps.get.bind fun _ =>
      (keeps_typeObject hpass _ _ _ _).bind fun _ => .bind (.modify fun _ => rfl) fun _ => .pure _

theorem keeps_initializerObject (code : Location) (isArray : Bool) :
    F.Keeps (initializerObject pass code isArray) := by
  refine Keeps.get.bind fun c => ?_
  split
  · exact .pure _
  · refine (keeps_builtin hpass _).bind fun _ => (keeps_typeObject hpass _ _ _ _).bind fun id => ?_
    split
    · exact .bind (.modify fun _ => rfl) fun _ => .bind (.modify fun _ => rfl) fun _ => .pure _
    · exact .bind (.modify fun _ => rfl) fun _ => .pure _

/-! ### Observations and answers -/

theorem keeps_observeType (target : SetId) (t : Ty) : F.Keeps (observeType pass target t) := by
  refine Keeps.get.bind fun c => ?_
  split
  · exact .pure _
  · exact .bind (.modify fun _ => rfl) fun _ => keeps_addType hpass _ _

theorem keeps_observePush (hpush : F.Pushes) (code : Location) (index : Nat) (t : Ty) :
    F.Keeps (observePush pass code index t) := by
  refine (keeps_pushedTypes code index).bind fun target => Keeps.get.bind fun c => ?_
  split
  · exact .pure _
  · exact .bind (.modify fun _ => rfl) fun _ => (keeps_addType hpass _ _).bind fun _ =>
      .change fun c => hpush c _ _

theorem keeps_observeAssignment (id : ObjectId) (key : Key) (value : Value) :
    F.Keeps (observeAssignment pass id key value) := by
  unfold observeAssignment
  split
  · exact keeps_markUnknown hpass _
  · refine Keeps.get.bind fun c => ?_
    split
    · exact .pure _
    · split
      · exact .pure _
      · refine (keeps_getProperty hpass _ _ _).bind fun own => Keeps.get.bind fun c => ?_
        split
        · exact .pure _
        · exact .bind (.modify fun _ => rfl) fun _ => keeps_addType hpass _ _

theorem keeps_knownTag (id : SetId) (script : Option ScriptId) :
    F.Keeps (knownTag pass id script) := by
  refine Keeps.get.bind fun c => ?_
  dsimp only
  split
  · exact (keeps_addConstraint hpass _ _ _).discard.bind fun _ => .pure _
  · exact .pure _

theorem keeps_knownKind (id : SetId) (script : Option ScriptId) :
    F.Keeps (knownKind pass id script) := by
  refine Keeps.get.bind fun c => ?_
  dsimp only
  split
  · exact .pure _
  · split
    · exact .pure _
    · refine (keeps_addConstraint hpass _ _ _).discard.bind fun _ => Keeps.get.bind fun _ => ?_
      refine .bind (.forM fun o => ?_) fun _ => .pure _
      exact (keeps_getProperty hpass _ _ _).bind fun _ =>
        (keeps_addConstraint hpass _ _ _).discard

theorem keeps_knownNonEmpty (id : SetId) (script : Option ScriptId) :
    F.Keeps (knownNonEmpty pass id script) := by
  refine Keeps.get.bind fun c => ?_
  split
  · cases script with
    | none => exact .pure _
    | some script => exact (keeps_addConstraint hpass _ _ _).discard.bind fun _ => .pure _
  · exact .pure _

/-! ### Stack slots -/

section Stack

variable (hstack : F.Restacks)
include hstack

omit hpass in
theorem keeps_changeStacks (f : StackTable → StackTable) : F.Keeps (modify (·.changeStacks f)) := by
  intro c
  have hrun : (modify (·.changeStacks f) : Action PUnit) c = (.ok ⟨⟩, c.changeStacks f) := rfl
  exact outcome_of_ok hrun (hstack c _)

omit hpass in
theorem keeps_newStackNode (inner : Option StackId) : F.Keeps (newStackNode inner) :=
  keeps_newSet.bind fun _ => Keeps.get.bind fun _ =>
    (keeps_changeStacks hstack _).bind fun _ => .pure _

theorem keeps_mergeDown (fuel : Nat) (one two : StackId) :
    F.Keeps (mergeDown pass fuel one two) := by
  induction fuel generalizing one two with
  | zero => exact .throw _
  | succ fuel ih =>
    refine Keeps.get.bind fun c => ?_
    dsimp only
    have hmerge : ∀ {below : Action Unit}, F.Keeps below → F.Keeps (do
        unless (c.stack.slot one).types = (c.stack.slot two).types do
          addSubset pass (c.stack.slot one).types (c.stack.slot two).types
          addSubset pass (c.stack.slot two).types (c.stack.slot one).types
        modify (·.changeStacks (·.merge one two))
        below) := by
      intro below hbelow
      have hlast := (keeps_changeStacks hstack (·.merge one two)).bind fun _ => hbelow
      dsimp only
      split
      · exact hlast
      · exact (keeps_addSubset hpass _ _).bind fun _ => (keeps_addSubset hpass _ _).bind fun _ => hlast
    split
    · exact .pure _
    · refine hmerge ?_
      split
      · exact ih _ _
      · exact .pure _

theorem keeps_mergeStacks (one two : StackId) : F.Keeps (mergeStacks pass one two) :=
  Keeps.get.bind fun _ => keeps_mergeDown hpass hstack _ _ _

theorem keeps_setInnerStack (node inner : StackId) : F.Keeps (setInnerStack pass node inner) := by
  refine Keeps.get.bind fun c => ?_
  dsimp only
  split
  · exact keeps_mergeStacks hpass hstack _ _
  · exact keeps_changeStacks hstack _

end Stack

end Pass

end Compartment

/-! ## Requests -/

/-- The request is about the stack. -/
def Request.restacks : Request → Bool
  | newStackNode .. | setInnerStack .. | mergeStacks .. | setSlotFlags .. => true
  | _ => false

namespace Compartment

variable {F : Frame}

open Compartment.Frame

theorem Frame.allows (r : Request) (hstack : r.restacks = true → F.Restacks) (hpush : F.Pushes)
    (hhands : F.HandsOut) : F.Allows r := by
  cases r with
  | newStackNode | setInnerStack | mergeStacks | setSlotFlags => exact hstack rfl
  | observePush => exact hpush
  | takeRecompiles => exact hhands
  | _ => trivial

/-- Every request that a frame allows stays in it, if requests for a pass do. -/
theorem keeps_perform {pass : Action Unit} (hpass : F.Keeps (requestPass pass)) (r : Request)
    (hr : F.Allows r) : F.Keeps (r.perform pass) := by
  have hquietly : ∀ {a : Action Unit}, F.Keeps a → F.Keeps (a >>= fun _ => pure Answer.done) :=
    fun ha => ha.bind fun _ => .pure _
  cases r with
  | newSet => exact keeps_newSet.bind fun _ => .pure _
  | addType => exact hquietly (keeps_addType hpass _ _)
  | observeType => exact hquietly (keeps_observeType hpass _ _)
  | addSubset => exact hquietly (keeps_addSubset hpass _ _)
  | readProperty | writeProperty | readElement | writeElement | boxThis | addFilter | monitorRead
  | addCall => exact hquietly (keeps_addConstraint hpass _ _ _).discard
  | addArith => exact hquietly (keeps_addArith hpass _ _ _ _)
  | addConstraint => exact (keeps_addConstraint hpass _ _ _).bind fun _ => .pure _
  | deliver => exact hquietly (keeps_deliver hpass _ _ _)
  | typeObject => exact (keeps_typeObject hpass _ _ _ _).bind fun _ => .pure _
  | builtin => exact (keeps_builtin hpass _).bind fun _ => .pure _
  | setFunctionScript => exact hquietly (keeps_setFunctionScript _ _ _)
  | setNativeHandler => exact hquietly (keeps_setNativeHandler _ _ _)
  | property => exact (keeps_getProperty hpass _ _ _).bind fun _ => .pure _
  | storeToInstances => exact hquietly (keeps_storeToInstances hpass _ _)
  | addPrototype => exact hquietly (keeps_addPrototype hpass _ _)
  | markUnknown => exact hquietly (keeps_markUnknown hpass _)
  | markNotPacked => exact hquietly (.change fun c => ok_markNotPacked c _ _)
  | newObjectOf => exact (keeps_newObjectOf hpass _).bind fun _ => .pure _
  | prototypeObjectOf => exact (keeps_prototypeObjectOf hpass _).bind fun _ => .pure _
  | initializerObject =>
    exact Keeps.get.bind fun _ => (keeps_initializerObject hpass _ _).bind fun _ => .pure _
  | observeAssignment => exact hquietly (keeps_observeAssignment hpass _ _ _)
  | knownTag => exact (keeps_knownTag hpass _ _).bind fun _ => .pure _
  | knownKind => exact (keeps_knownKind hpass _ _).bind fun _ => .pure _
  | knownNonEmpty => exact (keeps_knownNonEmpty hpass _ _).bind fun _ => .pure _
  | variableTypes => exact (keeps_variableTypes _ _).bind fun _ => .pure _
  | pushedTypes => exact (keeps_pushedTypes _ _).bind fun _ => .pure _
  | observePush => exact hquietly (keeps_observePush hpass hr _ _ _)
  | monitor => exact hquietly (.change fun c => ok_monitor c _)
  | queueRecompile => exact hquietly (.change fun _ => F.enters (.asked _))
  | takeRecompiles => exact .bind (.of_ok (fun _ => rfl) hr) fun _ => .pure _
  | newCallSite => exact (keeps_newCallSite _).bind fun _ => .pure _
  | forceThisTypes => exact (keeps_forceThisTypes _).bind fun _ => .pure _
  | forceResult => exact (keeps_forceResult _).bind fun _ => .pure _
  | newStackNode => exact (keeps_newStackNode hr _).bind fun _ => .pure _
  | setInnerStack => exact hquietly (keeps_setInnerStack hpass hr _ _)
  | mergeStacks => exact hquietly (keeps_mergeStacks hpass hr _ _)
  | setSlotFlags => exact hquietly (keeps_changeStacks hr _)
  | finish => exact .bind (.of_ok (fun _ => rfl) fun c => F.plain (readings_finish c)) fun _ => .pure _

end Compartment

end FlowTypes
