import FlowTypes.Proofs.Checked.Observation
import FlowTypes.Proofs.Checked.Report

/-!
# Requests, checked

Everything that a host can ask for, and the handlers of native functions.  A request is admitted if
its handles belong to the compartment; a host that passes another one is told off by a fault of its
own.

## Main results

* `tracks_perform`: a request whose handles exist has no fault, and neither has any that follows,
  because the handles in its answer exist too.
* `tracks_runHandler`: a handler may ask whatever it likes of the compartments that it gets to see.
-/

namespace FlowTypes

namespace Checked

/-! ## Actions -/

/-- Does an action that answers nothing. -/
def quietly (a : Checked Unit) : Checked Answer := do
  a
  return .done

section Actions

variable (pass : Checked Unit)

def perform : Request → Checked Answer
  | .newSet => return .set (← lift Compartment.newSet)
  | .addType target type => quietly (addType pass target type)
  | .observeType target type => quietly (observeType pass target type)
  | .addSubset source target => quietly (addSubset pass source target)
  | .readProperty objects code target key => quietly (readProperty pass objects code target key)
  | .writeProperty objects code values key => quietly (writeProperty pass objects code values key)
  | .readElement objects indexes code target =>
    quietly (readElement pass objects indexes code target)
  | .writeElement objects indexes code values =>
    quietly (writeElement pass objects indexes code values)
  | .addArith lhs rhs target op => quietly (addArith pass lhs rhs target op)
  | .boxThis source target => quietly (boxThis pass source target)
  | .addFilter source target mode => quietly (addFilter pass source target mode)
  | .monitorRead source code target => quietly (monitorRead pass source code target)
  | .addConstraint source constraint callExisting =>
    return .constraint (← addConstraint pass source constraint callExisting)
  | .deliver constraint source type => quietly (deliver pass constraint source type)
  | .typeObject script name isFunction proto =>
    return .object (← typeObject pass script name isFunction proto)
  | .builtin b => return .object (← builtin pass b)
  | .setFunctionScript function script parameters =>
    quietly (setFunctionScript function script parameters)
  | .setNativeHandler function handler isGeneric =>
    quietly (setNativeHandler function handler isGeneric)
  | .property object key own => return .set (← getProperty pass object key own)
  | .storeToInstances object key => quietly (storeToInstances pass object key)
  | .addPrototype object proto => quietly (addPrototype pass object proto)
  | .markUnknown object => quietly (markUnknown pass object)
  | .markNotPacked object notDense => quietly (markNotPacked object notDense)
  | .newObjectOf object => return .object (← newObjectOf pass object)
  | .prototypeObjectOf function => return .object (← prototypeObjectOf pass function)
  | .initializerObject site isArray => do
    let s ← siteAt site
    return .object (← initializerObject pass s.code isArray)
  | .observeAssignment object key value => quietly (observeAssignment pass object key value)
  | .knownTag types script => return .tag (← knownTag pass types script)
  | .knownKind types script => return .kind (← knownKind pass types script)
  | .knownNonEmpty types script => return .truth (← knownNonEmpty pass types script)
  | .variableTypes script name => return .set (← variableTypes script name)
  | .pushedTypes code index => return .set (← pushedTypes code index)
  | .observePush code index type => quietly (observePush pass code index type)
  | .monitor code => quietly (modify (·.monitor code))
  | .queueRecompile script => quietly (modify (·.queueRecompile script .host))
  | .takeRecompiles => return .scripts (← modifyGet Compartment.takeRecompiles)
  | .newCallSite site => return .site (← lift (Compartment.newCallSite site))
  | .forceThisTypes site => return .set (← forceThisTypes site)
  | .forceResult site => return .set (← forceResult site)
  | .addCall callees site => quietly (addCall pass callees site)
  | .newStackNode inner => return .stack (← newStackNode inner)
  | .setInnerStack node inner => quietly (setInnerStack pass node inner)
  | .mergeStacks one two => quietly (mergeStacks pass one two)
  | .setSlotFlags node flags => quietly (setSlotFlags node flags)
  | .finish => return .stats (← finish)

/-- Does what is asked for, if every handle that the host passes belongs to the compartment. -/
def accept (r : Request) : Checked Answer := do
  if r.Valid (← get).extent then perform pass r
  else fault .alien

end Actions

/-- Within a pass, no further one is started. -/
def idle : Checked Unit := pure ()

/-- Runs a handler.  It may ask anything about the compartment when it looks at it. -/
def runHandler : Handler → Checked Unit
  | .done => pure ()
  | .fail e => throw e
  | .look next => do
    survey
    let c ← get
    runHandler (next c)
  | .ask request next => do
    let outcome ← attempt (accept idle request)
    runHandler (next outcome)

/-! ## Keeping up -/

variable {c : Compartment}

theorem parallel_idle : Parallel idle Compartment.idle := fun _ hc => .pure hc trivial

theorem tracks_quietly {a' : Checked Unit} {a : Action Unit}
    (h : Tracks c (fun _ _ => True) (a' c) (a c)) :
    Tracks c (fun x c' => x.Valid c'.extent) (quietly a' c)
      ((do
        a
        return .done : Action Answer) c) :=
  .bind h fun _ _ hc' _ _ => .pure hc' trivial

/-- The answer of an action is handed on. -/
theorem tracks_answer {α : Type} {a' : Checked α} {a : Action α} {Q : α → Compartment → Prop}
    {g : α → Answer} (h : Tracks c Q (a' c) (a c))
    (hg : ∀ x c', Q x c' → (g x).Valid c'.extent) :
    Tracks c (fun x c' => x.Valid c'.extent)
      ((do
        let x ← a'
        return g x : Checked Answer) c)
      ((do
        let x ← a
        return g x : Action Answer) c) :=
  .bind h fun x c' hc' _ hx => .pure hc' (hg x c' hx)

theorem tracks_monitor (hc : c.Intact) (code : Location) :
    Tracks c (fun _ _ => True) ((modify (·.monitor code) : Checked Unit) c)
      ((modify (·.monitor code) : Action Unit) c) :=
  (Tracks.aside hc (Compartment.aside_monitor code)
    (by rw [Compartment.worklist_monitor])).imp fun _ _ _ _ _ => trivial

theorem tracks_takeRecompiles (hc : c.Intact) :
    Tracks c (fun _ _ => True) ((modifyGet Compartment.takeRecompiles : Checked (List ScriptId)) c)
      (.ok c.takeRecompiles.1, c.takeRecompiles.2) :=
  .same (.of_extent rfl rfl) (hc.of_objects (hc.toValid.extend (.of_tables (.refl _)
    (fun _ => .inl rfl) (fun _ => .inl rfl) (fun _ => .inl rfl) (fun _ => .inl rfl)
    rfl rfl rfl rfl rfl)) rfl) fun _ _ => trivial

theorem tracks_finish (hc : c.Intact) :
    Tracks c (fun _ _ => True) (finish c) (.ok c.finish.1, c.finish.2) := by
  obtain ⟨haside, hworklist⟩ := Compartment.aside_finish c
  rw [gives_finish hc]
  exact .same (later_aside haside (congrArg Worklist.depth hworklist)) (hc.aside haside)
    fun _ _ => trivial

theorem tracks_markNotPacked (hc : c.Intact) {id : ObjectId} (hid : id.In c.extent)
    (notDense : Bool) :
    Tracks c (fun _ _ => True) (markNotPacked id notDense c)
      ((modify (·.markNotPacked id notDense) : Action Unit) c) :=
  .change (gives_markNotPacked hc hid notDense) (Compartment.later_markNotPacked id notDense)
    (hc.markNotPacked hid notDense) trivial

section Passes

variable {pass' : Checked Unit} {pass : Action Unit} (hpass : Parallel pass' pass)
include hpass

/-- A request whose handles belong to the compartment has no fault. -/
theorem tracks_perform (hc : c.Intact) {r : Request} (hr : r.Valid c.extent) :
    Tracks c (fun x c' => x.Valid c'.extent) (perform pass' r c) (r.perform pass c) := by
  cases r with
  | newSet => exact tracks_answer (tracks_newSet hc) fun _ _ hs => hs
  | addType => exact tracks_quietly (tracks_addType hpass hc hr.1 hr.2)
  | observeType => exact tracks_quietly (tracks_observeType hpass hc hr.1 hr.2)
  | addSubset => exact tracks_quietly (tracks_addSubset hpass hc hr.1 hr.2)
  | readProperty _ code target key =>
    exact tracks_quietly (tracks_listen hpass hc hr.1 (k := .property code key target .read) hr.2 true)
  | writeProperty _ code values key =>
    exact tracks_quietly (tracks_listen hpass hc hr.1 (k := .property code key values .write) hr.2 true)
  | readElement objects _ code target =>
    exact tracks_quietly (tracks_listen hpass hc hr.2.1
      (k := .element code objects target .read false) ⟨hr.1, hr.2.2⟩ true)
  | writeElement objects _ code values =>
    exact tracks_quietly (tracks_listen hpass hc hr.2.1
      (k := .element code objects values .write false) ⟨hr.1, hr.2.2⟩ true)
  | addArith _ _ _ op => exact tracks_quietly (tracks_addArith hpass hc hr.1 hr.2.1 hr.2.2 op)
  | boxThis _ target =>
    exact tracks_quietly (tracks_listen hpass hc hr.1 (k := .boxThis target) hr.2 true)
  | addFilter _ target mode =>
    exact tracks_quietly (tracks_listen hpass hc hr.1 (k := .filter target mode) hr.2 true)
  | monitorRead _ code target =>
    exact tracks_quietly (tracks_listen hpass hc hr.1 (k := .monitorRead code target) hr.2 true)
  | addConstraint _ _ callExisting =>
    exact tracks_answer (tracks_addConstraint hpass hc hr.1 hr.2 callExisting) fun _ _ hid => hid
  | deliver => exact tracks_quietly (tracks_deliver hpass hc hr)
  | typeObject script name isFunction =>
    exact tracks_answer (tracks_typeObject hpass hc script name isFunction hr) fun _ _ hid => hid
  | builtin b => exact tracks_answer (tracks_builtin hpass hc b) fun _ _ hid => hid
  | setFunctionScript _ script parameters =>
    exact tracks_quietly (tracks_setFunctionScript hc hr script parameters)
  | setNativeHandler _ handler isGeneric =>
    exact tracks_quietly (tracks_setNativeHandler hc hr handler isGeneric)
  | property _ key own => exact tracks_answer (tracks_getProperty hpass hc hr key own) fun _ _ hs => hs
  | storeToInstances _ key => exact tracks_quietly (tracks_storeToInstances hpass hc hr key)
  | addPrototype => exact tracks_quietly (tracks_addPrototype hpass hc hr.1 hr.2)
  | markUnknown => exact tracks_quietly (tracks_markUnknown hpass hc hr)
  | markNotPacked _ notDense => exact tracks_quietly (tracks_markNotPacked hc hr notDense)
  | newObjectOf => exact tracks_answer (tracks_newObjectOf hpass hc hr) fun _ _ hid => hid
  | prototypeObjectOf => exact tracks_answer (tracks_prototypeObjectOf hpass hc hr) fun _ _ hid => hid
  | initializerObject site isArray =>
    refine .step (reads_siteAt hr) (.get ?_)
    exact tracks_answer (tracks_initializerObject hpass hc _ isArray) fun _ _ hid => hid
  | observeAssignment _ key => exact tracks_quietly (tracks_observeAssignment hpass hc hr.1 key hr.2)
  | knownTag _ script => exact tracks_answer (tracks_knownTag hpass hc hr script) fun _ _ _ => trivial
  | knownKind _ script => exact tracks_answer (tracks_knownKind hpass hc hr script) fun _ _ _ => trivial
  | knownNonEmpty _ script =>
    exact tracks_answer (tracks_knownNonEmpty hpass hc hr script) fun _ _ _ => trivial
  | variableTypes script name =>
    exact tracks_answer (tracks_variableTypes hc script name) fun _ _ hs => hs
  | pushedTypes code index => exact tracks_answer (tracks_pushedTypes hc code index) fun _ _ hs => hs
  | observePush code index => exact tracks_quietly (tracks_observePush hpass hc code index hr)
  | monitor code => exact tracks_quietly (tracks_monitor hc code)
  | queueRecompile script =>
    have haside : c.Aside (c.queueRecompile script .host) := Compartment.aside_queueRecompile nofun
    exact tracks_quietly ((Tracks.aside hc haside rfl).imp fun _ _ _ _ _ => trivial)
  | takeRecompiles =>
    exact tracks_answer (a := fun c => (.ok c.takeRecompiles.1, c.takeRecompiles.2))
      (tracks_takeRecompiles hc) fun _ _ _ => trivial
  | newCallSite => exact tracks_answer (tracks_newCallSite hc hr) fun _ _ hid => hid
  | forceThisTypes => exact tracks_answer (tracks_forceThisTypes hc hr) fun _ _ hs => hs
  | forceResult => exact tracks_answer (tracks_forceResult hc hr) fun _ _ hs => hs
  | addCall _ site =>
    exact tracks_quietly (tracks_listen hpass hc hr.1 (k := .call site) hr.2 true)
  | newStackNode => exact tracks_answer (tracks_newStackNode hc hr) fun _ _ hn => hn
  | setInnerStack => exact tracks_quietly (tracks_setInnerStack hpass hc hr.1 hr.2)
  | mergeStacks => exact tracks_quietly (tracks_mergeStacks hpass hc hr.1 hr.2)
  | setSlotFlags _ flags => exact tracks_quietly (tracks_setSlotFlags hc hr flags)
  | finish =>
    exact tracks_answer (a := fun c => (.ok c.finish.1, c.finish.2)) (tracks_finish hc)
      fun _ _ _ => trivial

theorem tracks_accept (hc : c.Intact) (r : Request) :
    Tracks c (fun x c' => x.Valid c'.extent) (accept pass' r c) (r.perform pass c) := by
  refine .step .get ?_
  by_cases hr : r.Valid c.extent
  · rw [if_pos hr]
    exact tracks_perform hpass hc hr
  · rw [if_neg hr]
    exact .alien

end Passes

/-- A handler makes its requests one after the other, whatever becomes of them. -/
theorem tracks_runHandler (handler : Handler) (hc : c.Intact) :
    Tracks c (fun _ _ => True) (runHandler handler c) (handler.run c) := by
  induction handler generalizing c with
  | done => exact .pure hc trivial
  | fail e => exact .throw hc
  | look next ih => exact .step (reads_survey hc) (.step .get (ih c hc))
  | ask request next ih =>
    exact Tracks.attempt (tracks_accept parallel_idle hc request)
      (k := fun p => (next p.1).run p.2) fun outcome _ hc' _ _ => ih outcome hc'

end Checked

end FlowTypes
