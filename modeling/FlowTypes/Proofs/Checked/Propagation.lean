import FlowTypes.Proofs.Checked.Basic

/-!
# Adding types and constraints, checked

The checked actions that put work on the worklist and ask for a pass.  The log names the types that
are added, so an object among them is looked up for its name.

## Main results

* `tracks_requestPass`: a request for a pass returns what it took.
* `tracks_addType`, `tracks_addConstraint`, `tracks_addSubset`: handles that exist stay in their
  tables.
-/

namespace FlowTypes

namespace Checked

/-! ## Actions -/

section Actions

variable (pass : Checked Unit)

/-- Runs a pass, unless one is running already.  Its request must have been counted when it
returns. -/
def requestPass : Checked Unit := do
  modify (·.changeWorklist Worklist.enter)
  let outcome ← attempt do
    unless (← get).worklist.resolving do pass
  if (← get).worklist.depth = 0 then fault .unbalanced
  modify (·.changeWorklist Worklist.leave)
  match outcome with
  | .ok _ => return ⟨⟩
  | .error e => throw e

def addType (target : SetId) (t : Ty) : Checked Unit := do
  let s ← setAt target
  unless s.has t do
    discard <| typeName t
    changeSet target (·.insert t)
    modify fun c => (c.record (.typeAdded target t)).enqueue
      (s.constraints.map fun id => ⟨id, target, t⟩)
    requestPass pass

def addConstraint (source : SetId) (constraint : Constraint) (callExisting : Bool := true) :
    Checked ConstraintId := do
  let id : ConstraintId := ⟨(← get).constraints.size⟩
  changeSet source (·.listen id)
  modify fun c => { c with constraints := c.constraints.push constraint }.record
    (.constraintAdded source id callExisting)
  if callExisting then
    let s ← setAt source
    modify fun c => c.enqueue (s.types.map fun t => ⟨id, source, t⟩)
    requestPass pass
  return id

def deliver (constraint : ConstraintId) (source : SetId) (t : Ty) : Checked Unit := do
  modify (·.enqueue [⟨constraint, source, t⟩])
  requestPass pass

def addSubset (source target : SetId) : Checked Unit := do
  let s ← setAt source
  unless source = target || s.flowsInto target do
    changeSet source (·.addTarget target)
    discard <| addConstraint pass source (.subset target)

def readProperty (objects : SetId) (code : Option Location) (target : SetId) (key : Key) :
    Checked Unit :=
  discard <| addConstraint pass objects (.property code key target .read)

def writeProperty (objects : SetId) (code : Option Location) (values : SetId) (key : Key) :
    Checked Unit :=
  discard <| addConstraint pass objects (.property code key values .write)

def readElement (objects indexes : SetId) (code : Option Location) (target : SetId) :
    Checked Unit :=
  discard <| addConstraint pass indexes (.element code objects target .read false)

def writeElement (objects indexes : SetId) (code : Option Location) (values : SetId) :
    Checked Unit :=
  discard <| addConstraint pass indexes (.element code objects values .write false)

def addArith (lhs : SetId) (rhs : Option SetId) (target : SetId) (op : ArithOp) :
    Checked Unit := do
  discard <| addConstraint pass lhs (.arith op target rhs)
  if let some rhs := rhs then
    discard <| addConstraint pass rhs (.arith op target (some lhs))

def boxThis (source target : SetId) : Checked Unit :=
  discard <| addConstraint pass source (.boxThis target)

def addFilter (source target : SetId) (mode : FilterMode) : Checked Unit :=
  discard <| addConstraint pass source (.filter target mode)

def monitorRead (source : SetId) (code : Location) (target : SetId) : Checked Unit :=
  discard <| addConstraint pass source (.monitorRead code target)

def addCall (callees : SetId) (site : SiteId) : Checked Unit :=
  discard <| addConstraint pass callees (.call site)

end Actions

/-! ## Keeping up -/

variable {pass' : Checked Unit} {pass : Action Unit} (hpass : Parallel pass' pass)
  {c : Compartment} (hc : c.Intact)
include hpass hc

theorem tracks_requestPass :
    Tracks c (fun _ _ => True) (requestPass pass' c) (Compartment.requestPass pass c) := by
  let entered := c.changeWorklist Worklist.enter
  have hentered : entered.Intact := hc.aside (Compartment.aside_changeWorklist rfl)
  -- The pass that is run keeps the count of the requests that have not returned.
  have hinner : Tracks entered (fun _ _ => True)
      ((do unless (← get).worklist.resolving do pass' : Checked Unit) entered)
      (if entered.worklist.resolving then (.ok (), entered) else pass entered) := by
    refine .step .get ?_
    by_cases hresolving : entered.worklist.resolving = true
    · rw [if_pos hresolving, if_pos hresolving]
      exact .pure hentered trivial
    · rw [if_neg hresolving, if_neg hresolving]
      exact hpass entered hentered
  refine .step (.modify _) ?_
  rw [run_bind, attempt]
  show Tracks c _ _ ((fun p => (p.1, p.2.changeWorklist Worklist.leave))
    (if entered.worklist.resolving then (.ok (), entered) else pass entered))
  generalize (if entered.worklist.resolving then (.ok (), entered) else pass entered) = r at hinner
  revert hinner
  generalize (do unless (← get).worklist.resolving do pass' : Checked Unit) entered = r'
  intro hinner
  cases hinner with
  | alien => exact .alien
  | same later intact _ =>
    obtain ⟨outcome, c'⟩ := r
    have hdepth : c'.worklist.depth = c.worklist.depth + 1 := later.depth
    refine .step .get ?_
    rw [if_neg (by omega)]
    have hlater : c.Later (c'.changeWorklist Worklist.leave) :=
      ⟨later.extent, by show c'.worklist.depth - 1 = _; omega⟩
    have hintact : (c'.changeWorklist Worklist.leave).Intact :=
      intact.aside (Compartment.aside_changeWorklist rfl)
    refine .step (.modify _) ?_
    cases outcome with
    | ok x => exact .same hlater hintact fun _ _ => trivial
    | error e => exact .same hlater hintact fun _ _ => trivial

theorem tracks_addType {target : SetId} (htarget : target.In c.extent) {t : Ty}
    (ht : t.In c.extent) :
    Tracks c (fun _ _ => True) (addType pass' target t c) (Compartment.addType pass target t c) := by
  refine .step (reads_setAt htarget) (.get (.ite (fun _ => .pure hc trivial) fun _ => ?_))
  refine .step (reads_typeName ht).discard (.step (gives_changeSet htarget _) ?_)
  refine .step (.modify _) (.modifies ?_)
  have hintact : (c.insertType target t).Intact :=
    hc.of_objects (hc.toValid.insertType htarget ht) rfl
  have hlater : c.Later (c.insertType target t) :=
    .of_extent (Compartment.extent_changeSet target _) rfl
  exact .after hlater (tracks_requestPass hpass hintact)

theorem tracks_addConstraint {source : SetId} (hsource : source.In c.extent) {k : Constraint}
    (hk : k.Valid c.extent) (callExisting : Bool) :
    Tracks c (fun id c' => id.In c'.extent) (addConstraint pass' source k callExisting c)
      (Compartment.addConstraint pass source k callExisting c) := by
  have hlater : c.Later (c.attach source k callExisting) :=
    ⟨(Compartment.grows_attach hsource k callExisting).extent, rfl⟩
  have hintact : (c.attach source k callExisting).Intact :=
    hc.of_objects (hc.toValid.attach hsource hk callExisting) rfl
  have hid : ConstraintId.In ⟨c.constraints.size⟩ (c.attach source k callExisting).extent := by
    rw [Compartment.extent_attach]
    exact Nat.lt_succ_self _
  refine .step .get (.step (gives_changeSet hsource _) (.step (.modify _) ?_))
  refine .get (.modifies (.after hlater ?_))
  cases callExisting with
  | false => exact .pure hintact hid
  | true =>
    have hsource' := hsource.mono hlater.extent
    refine .step (reads_setAt hsource') (.step (.modify _) (.modifies ?_))
    refine .after (Compartment.later_enqueue _)
      (.bind (tracks_requestPass hpass (hintact.enqueue fun w hw => ?_)) ?_)
    · obtain ⟨t, ht, rfl⟩ := List.mem_map.mp hw
      exact ⟨hid, hsource', (hintact.sets source).types t ht⟩
    · intro _ c' hc' hlater' _
      exact .pure hc' (hid.mono hlater'.extent)

theorem tracks_deliver {id : ConstraintId} {source : SetId} {t : Ty}
    (hwork : Work.Valid c.extent ⟨id, source, t⟩) :
    Tracks c (fun _ _ => True) (deliver pass' id source t c)
      (Compartment.deliver pass id source t c) := by
  have hintact : (c.enqueue [⟨id, source, t⟩]).Intact := by
    refine hc.enqueue fun w hw => ?_
    rw [List.mem_singleton.mp hw]
    exact hwork
  exact .step (.modify _) (.modifies (.after (Compartment.later_enqueue _)
    (tracks_requestPass hpass hintact)))

theorem tracks_addSubset {source target : SetId} (hsource : source.In c.extent)
    (htarget : target.In c.extent) :
    Tracks c (fun _ _ => True) (addSubset pass' source target c)
      (Compartment.addSubset pass source target c) := by
  refine .step (reads_setAt hsource) (.get (.ite (fun _ => .pure hc trivial) fun _ => ?_))
  have hextent : (c.changeSet source (·.addTarget target)).extent = c.extent :=
    Compartment.extent_changeSet ..
  have hintact : (c.changeSet source (·.addTarget target)).Intact :=
    hc.of_objects (hc.toValid.changeSet hsource ((hc.sets source).addTarget htarget)) rfl
  refine .step (gives_changeSet hsource _) (.modifies (.after (.of_extent hextent rfl) ?_))
  refine .discard ((tracks_addConstraint hpass hintact ?_ ?_ true).imp fun _ _ _ _ _ => trivial)
  · rwa [hextent]
  · rw [hextent]
    exact htarget

/-- A constraint of a program is added, and its place is of no interest. -/
theorem tracks_listen {source : SetId} (hsource : source.In c.extent) {k : Constraint}
    (hk : k.Valid c.extent) (callExisting : Bool) :
    Tracks c (fun _ _ => True) ((discard (addConstraint pass' source k callExisting) : Checked Unit) c)
      ((discard (Compartment.addConstraint pass source k callExisting) : Action Unit) c) :=
  .discard ((tracks_addConstraint hpass hc hsource hk callExisting).imp fun _ _ _ _ _ => trivial)

theorem tracks_addArith {lhs target : SetId} {rhs : Option SetId} (hlhs : lhs.In c.extent)
    (hrhs : ∀ s ∈ rhs, s.In c.extent) (htarget : target.In c.extent) (op : ArithOp) :
    Tracks c (fun _ _ => True) (addArith pass' lhs rhs target op c)
      (Compartment.addArith pass lhs rhs target op c) := by
  refine .bind (tracks_listen hpass hc hlhs (k := .arith op target rhs) ⟨htarget, hrhs⟩ true)
    fun _ c' hc' hlater _ => ?_
  cases rhs with
  | none => exact .pure hc' trivial
  | some s =>
    refine tracks_listen hpass hc' ((hrhs s rfl).mono hlater.extent)
      (k := .arith op target (some lhs)) ⟨htarget.mono hlater.extent, ?_⟩ true
    rintro _ ⟨⟩
    exact hlhs.mono hlater.extent

end Checked

end FlowTypes
