import FlowTypes.Proofs.Frames.Actions
import FlowTypes.Proofs.Runs

/-!
# Deliveries, passes and runs stay in a frame

What constraints do when they hear of a type, and what the handlers of a host do when they are run
in the course of it.  A handler may go on after a request that failed, so within a pass a failure
must leave behind what others can go on from: the frame is lenient.  A handler stays in a frame that
allows for all that it asks for.

Whole passes stay in a frame that is steady: it does not tell failures from successes, and it lets
the solver keep its worklist and count the passes that are given up.  So do whole runs.

## Main results

* `outcome_run`: a handler stays in the frame.
* `keeps_fire`: so does the delivery of a type.
* `Frame.Steady.solve`, `Frame.Steady.runAll`: so do passes and runs, if the frame is steady.
-/

namespace FlowTypes

/-- A handler that makes no request about the stack. -/
def Handler.LeavesStack : Handler → Prop
  | done => True
  | fail _ => True
  | look next => ∀ c, (next c).LeavesStack
  | ask r next => r.restacks = false ∧ ∀ o, (next o).LeavesStack

/-- A host whose handlers make no request about the stack. -/
def Host.LeavesStack (host : Host) : Prop := ∀ name site, (host name site).LeavesStack

theorem Handler.LeavesStack.asks {handler : Handler} (h : handler.LeavesStack) (c : Compartment) :
    handler.Asks (fun r => r.restacks = false) c := by
  induction handler generalizing c with
  | done => trivial
  | fail => trivial
  | look next ih => exact ih c (h c) c
  | ask r next ih => exact ⟨h.1, ih _ (h.2 _) _⟩

namespace Compartment

variable {F : Frame} (hpass : F.Keeps (requestPass idle))
include hpass

open Compartment.Frame

/-! ## Handlers -/

/-- What a request leaves behind within a pass, whether it succeeds or fails. -/
theorem ok_perform (hlenient : F.Lenient) (r : Request) (hr : F.Allows r) (c : Compartment) :
    F.Ok c (r.perform idle c).2 := by
  exact Outcome.either (P := F.Ok c)
    (Outcome.imp (keeps_perform hpass r hr c) (fun _ _ h => h) fun e => hlenient e c)

theorem outcome_run (hlenient : F.Lenient) {handler : Handler} {c : Compartment}
    (hasks : handler.Asks F.Allows c) :
    Outcome handler.run c (fun _ c' => F.Ok c c') fun e c' => F.Failed e c c' := by
  induction handler generalizing c with
  | done => exact Keeps.pure _ c
  | fail e => exact Keeps.throw e c
  | look next ih =>
    have hrun : (Handler.look next).run c = (next c).run c := rfl
    exact (outcome_congr hrun).mpr (ih c hasks)
  | ask r next ih =>
    have hrun : (Handler.ask r next).run c =
        (next (r.perform idle c).1).run (r.perform idle c).2 := rfl
    have hfirst : F.Ok c (r.perform idle c).2 := ok_perform hpass hlenient r hasks.1 c
    exact (outcome_congr hrun).mpr
      ((ih _ hasks.2).imp (fun _ _ h => F.trans hfirst h) fun _ _ h => F.fails hfirst h)

/-! ## Properties and elements -/

theorem keeps_readFrom (o : ObjectId) (key : Key) (target : SetId) :
    F.Keeps (readFrom o key target) :=
  (keeps_getProperty hpass _ _ _).bind fun _ => keeps_addSubset hpass _ _

theorem keeps_writeTo (o : ObjectId) (key : Key) (values : SetId) :
    F.Keeps (writeTo o key values) := by
  refine Keeps.get.bind fun c => ?_
  split
  · exact .pure _
  · exact (keeps_getProperty hpass _ _ _).bind fun _ => keeps_addSubset hpass _ _

omit hpass in
theorem keeps_monitorUnknown (code : Option Location) : F.Keeps (monitorUnknown code) := by
  cases code with
  | none => exact .pure _
  | some code => exact .change fun c => ok_monitor c code

theorem keeps_accessProperty (code : Option Location) (key : Key) (target : SetId)
    (access : Access) (t : Ty) : F.Keeps (accessProperty code key target access t) := by
  unfold accessProperty
  split
  · exact keeps_addType hpass _ _
  · exact keeps_monitorUnknown code
  · exact keeps_readFrom hpass _ _ _
  · exact keeps_writeTo hpass _ _ _
  · split
    · exact (keeps_builtin hpass _).bind fun _ => keeps_readFrom hpass _ _ _
    · exact .pure _
  · exact .pure _

theorem keeps_accessElement (id : ConstraintId) (code : Option Location) (objects target : SetId)
    (access : Access) (wired : Bool) (t : Ty) :
    F.Keeps (accessElement id code objects target access wired t) := by
  unfold accessElement
  split
  · split
    · exact .pure _
    · refine .bind (.modify fun _ => rfl) fun _ => ?_
      cases access with
      | read => exact (keeps_addConstraint hpass _ _ _).discard
      | write => exact (keeps_addConstraint hpass _ _ _).discard
  · cases access with
    | read => exact keeps_addType hpass _ _
    | write => exact keeps_monitorUnknown code

/-! ## Calls -/

theorem keeps_bindArguments (site : CallSite) (f : FunctionInfo) :
    F.Keeps (bindArguments site f) := by
  unfold bindArguments
  split
  · exact .bind (.forM fun _ => keeps_addSubset hpass _ _) fun _ =>
      .forM fun _ => keeps_addType hpass _ _
  · split
    · exact .forM_option fun _ => keeps_addSubset hpass _ _
    · exact .pure _

theorem keeps_construct (callee : ObjectId) (site : CallSite) (f : FunctionInfo) :
    F.Keeps (construct callee site f) := by
  refine (keeps_prototypeObjectOf hpass _).bind fun _ => (keeps_newObjectOf hpass _).bind fun _ =>
    (keeps_addType hpass _ _).bind fun _ => .forM_option fun _ => ?_
  exact (keeps_addType hpass _ _).bind fun _ => (keeps_addConstraint hpass _ _ _).discard

theorem keeps_passThrough (site : CallSite) (f : FunctionInfo) : F.Keeps (passThrough site f) :=
  .bind (.forM_option fun _ => keeps_addSubset hpass _ _) fun _ =>
    .bind (.forM_option fun _ => keeps_addType hpass _ _) fun _ =>
      .forM_option fun _ => keeps_addSubset hpass _ _

section Host

variable (hlenient : F.Lenient) {host : Host} (hhost : host.Asks F.Allows)
include hlenient hhost

theorem keeps_callFunction (callee : ObjectId) (f : FunctionInfo) (site : CallSite) :
    F.Keeps (callFunction host callee f site) := by
  refine .bind (.modify fun _ => rfl) fun _ => .bind (.forM_option fun name => ?_) fun _ =>
    (keeps_bindArguments hpass site f).bind fun _ => ?_
  · exact fun c => outcome_run hpass hlenient (hhost name site c)
  · split
    · exact keeps_construct hpass _ _ _
    · exact keeps_passThrough hpass _ _

theorem keeps_call (site : CallSite) (t : Ty) : F.Keeps (call host site t) := by
  unfold call
  split
  · exact .bind (.modify fun _ => rfl) fun _ => .forM_option fun _ => keeps_addType hpass _ _
  · refine Keeps.get.bind fun c => ?_
    split
    · exact keeps_callFunction hpass hlenient hhost _ _ _
    · exact .pure _
  · exact .pure _

omit hlenient hhost in
theorem keeps_boxedThis (target : SetId) (t : Ty) : F.Keeps (boxedThis target t) := by
  unfold boxedThis
  split
  · exact keeps_addType hpass _ _
  · exact keeps_addType hpass _ _
  · split
    · exact (keeps_builtin hpass _).bind fun _ => keeps_addType hpass _ _
    · exact keeps_addType hpass _ _

omit hlenient hhost in
theorem keeps_forwardRead (code : Location) (target : SetId) (t : Ty) :
    F.Keeps (forwardRead code target t) := by
  refine Keeps.get.bind fun c => ?_
  split
  · split
    · exact .change fun c => ok_monitor c code
    · exact keeps_addType hpass _ _
  · exact keeps_addType hpass _ _

/-- Whatever a constraint does when it hears of a type stays in the frame. -/
theorem keeps_react (w : Work) (k : Constraint) : F.Keeps (react host w k) := by
  have hspend : ∀ script, F.Keeps (modify (·.spend w.constraint script)) :=
    fun script => .change fun c => ok_spend c w.constraint script
  cases k with
  | subset target => exact keeps_addType hpass _ _
  | property code key target access => exact keeps_accessProperty hpass _ _ _ _ _
  | element code objects target access wired => exact keeps_accessElement hpass _ _ _ _ _ _ _
  | call site => exact Keeps.get.bind fun _ => keeps_call hpass hlenient hhost _ _
  | arith op target other => exact Keeps.get.bind fun _ => .forM fun _ => keeps_addType hpass _ _
  | boxThis target => exact keeps_boxedThis hpass _ _
  | filter target mode =>
    change F.Keeps (if mode.passes w.type then addType idle target w.type else pure ())
    split
    · exact keeps_addType hpass _ _
    · exact .pure _
  | monitorRead code target => exact keeps_forwardRead hpass _ _ _
  | freezeTag script tag spent =>
    refine Keeps.get.bind fun c => ?_
    split
    · exact .pure _
    · exact hspend script
  | freezeKind script kind spent =>
    refine Keeps.get.bind fun c => ?_
    split
    · exact .pure _
    · exact hspend script
  | freezeEmpty script spent =>
    cases spent with
    | true => exact .pure _
    | false => exact hspend script
  | freezeElementKind => exact .pure _

/-- The delivery of a type stays in the frame. -/
theorem keeps_fire (w : Work) : F.Keeps (fire host w) :=
  .bind (.modify fun _ => rfl) fun _ => Keeps.get.bind fun _ =>
    keeps_react hpass hlenient hhost w _

end Host

/-! ## Passes and runs -/

omit hpass

/-- The frame does not tell failures from successes, and the solver may keep its worklist in it. -/
structure Frame.Steady (F : Frame) : Prop where
  failed : ∀ {e a b}, F.Failed e a b ↔ F.Ok a b
  worklist : ∀ (c : Compartment) (f : Worklist → Worklist), F.Ok c (c.changeWorklist f)
  abandon : ∀ (c : Compartment) (e : InferError), F.Ok c (c.abandon e)

namespace Frame.Steady

variable {pass : Action Unit} {host : Host}

theorem lenient (hF : F.Steady) : F.Lenient := fun _ _ _ => hF.failed.mp

/-- What an action leaves behind, whether it succeeds or fails. -/
theorem keeps_iff (hF : F.Steady) {a : Action α} : F.Keeps a ↔ ∀ c, F.Ok c (a c).2 := by
  constructor
  · exact fun h c => Outcome.either (P := F.Ok c)
      (Outcome.imp (h c) (fun _ _ h => h) fun _ _ => hF.failed.mp)
  · intro h c
    cases hrun : (a c).1 with
    | ok x => exact outcome_of_ok (Prod.ext hrun rfl) (h c)
    | error e => exact outcome_of_error (Prod.ext hrun rfl) (hF.failed.mpr (h c))

theorem requestPass (hF : F.Steady) (hpass : F.Keeps pass) : F.Keeps (requestPass pass) := by
  refine hF.keeps_iff.mpr fun c => ?_
  by_cases hresolving : c.worklist.resolving = true
  · rw [requestPass_of_resolving pass hresolving]
    exact hF.worklist c fun w => w.enter.leave
  · rw [requestPass_of_not_resolving pass (eq_false_of_ne_true hresolving)]
    have hkept := hF.keeps_iff.mp hpass (c.changeWorklist Worklist.enter)
    exact F.trans (F.trans (hF.worklist c _) hkept) (hF.worklist _ _)

theorem drain (hF : F.Steady) (hhost : host.Asks F.Allows) (fuel : Nat) :
    F.Keeps (drain host fuel) := by
  refine hF.keeps_iff.mpr ?_
  induction fuel with
  | zero => exact fun c => hF.abandon c _
  | succ fuel ih =>
    intro c
    cases hnext : c.worklist.next? with
    | none =>
      rw [drain_of_empty fuel hnext]
      exact hF.worklist c _
    | some next =>
      obtain ⟨work, rest⟩ := next
      have hpop : F.Ok c { c with worklist := rest } := hF.worklist c fun _ => rest
      have hfire := F.trans hpop (hF.keeps_iff.mp
        (keeps_fire (hF.requestPass (.pure ())) hF.lenient hhost work) _)
      cases hresult : (fire host work { c with worklist := rest }).1 with
      | ok =>
        rw [drain_of_delivered fuel hnext (Prod.ext hresult rfl)]
        exact F.trans hfire (ih _)
      | error e =>
        rw [drain_of_failed fuel hnext (Prod.ext hresult rfl)]
        exact F.trans hfire (hF.abandon _ e)

/-- A pass stays in the frame. -/
theorem solve (hF : F.Steady) (hhost : host.Asks F.Allows) : F.Keeps (solve host) := by
  refine hF.keeps_iff.mpr fun c => ?_
  exact F.trans (hF.worklist c Worklist.start) (hF.keeps_iff.mp (hF.drain hhost _) _)

/-- What is asked for between passes stays in the frame, with all the passes in it. -/
theorem run (hF : F.Steady) (hhost : host.Asks F.Allows) {r : Request} (hr : F.Allows r)
    (c : Compartment) : F.Ok c (r.run host c).2 :=
  hF.keeps_iff.mp (keeps_perform (hF.requestPass (hF.solve hhost)) r hr) c

/-- A whole run stays in the frame. -/
theorem runAll (hF : F.Steady) (hhost : host.Asks F.Allows) {rs : List Request}
    (hrs : ∀ r ∈ rs, F.Allows r) (c : Compartment) : F.Ok c (Request.runAll host rs c).2 := by
  induction rs generalizing c with
  | nil => exact F.refl c
  | cons r rs ih =>
    exact F.trans (hF.run hhost (hrs r List.mem_cons_self) c)
      (ih (fun r hr => hrs r (List.mem_cons_of_mem _ hr)) _)

end Frame.Steady

end Compartment

end FlowTypes
