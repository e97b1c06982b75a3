import FlowTypes.Compartment

/-!
# Adding types and constraints

A type that joins a set, and a constraint that joins a set with types in it, put work on the
worklist and ask for a solver pass.  What a pass does is a parameter here: from outside it delivers
the pending types, and from within a pass it does nothing, because the pass that is running comes
to the new work by itself.

## Main results

A request for a pass during a pass only counts (`requestPass_of_resolving`), outside of one it runs
a pass (`requestPass_of_not_resolving`), and a type that a set has already changes nothing
(`addType_of_has`).
-/

namespace FlowTypes

namespace Compartment

variable (pass : Action Unit)

/-- Runs a pass, unless one is running already. -/
def requestPass : Action Unit := fun c =>
  let c := c.changeWorklist Worklist.enter
  let (outcome, c) := if c.worklist.resolving then (.ok (), c) else pass c
  (outcome, c.changeWorklist Worklist.leave)

/-- Adds a type to a set, for every constraint of the set to hear of. -/
def addType (target : SetId) (t : Ty) : Action Unit := do
  let s := (← get).set target
  unless s.has t do
    modify fun c =>
      ((c.changeSet target (·.insert t)).record (.typeAdded target t)).enqueue
        (s.constraints.map fun id => ⟨id, target, t⟩)
    requestPass pass

/-- Adds a constraint to a set.  With `callExisting` it hears of the types that the set has
already, in the order they came. -/
def addConstraint (source : SetId) (constraint : Constraint) (callExisting : Bool := true) :
    Action ConstraintId := do
  let id : ConstraintId := ⟨(← get).constraints.size⟩
  modify fun c =>
    { c.changeSet source (·.listen id) with constraints := c.constraints.push constraint }.record
      (.constraintAdded source id callExisting)
  if callExisting then
    modify fun c => c.enqueue ((c.set source).types.map fun t => ⟨id, source, t⟩)
    requestPass pass
  return id

/-- Makes a constraint hear of a type once more. -/
def deliver (constraint : ConstraintId) (source : SetId) (t : Ty) : Action Unit := do
  modify (·.enqueue [⟨constraint, source, t⟩])
  requestPass pass

/-! ## The constraints of a program -/

/-- Makes every type of one set flow into another.  A set flows into itself without a constraint,
and an edge is added only once. -/
def addSubset (source target : SetId) : Action Unit := do
  unless source = target || ((← get).set source).flowsInto target do
    modify (·.changeSet source (·.addTarget target))
    discard <| addConstraint pass source (.subset target)

/-- A property of the objects in a set is read into another set. -/
def readProperty (objects : SetId) (code : Option Location) (target : SetId) (key : Key) :
    Action Unit :=
  discard <| addConstraint pass objects (.property code key target .read)

/-- The types of a set are written to a property of the objects in another set. -/
def writeProperty (objects : SetId) (code : Option Location) (values : SetId) (key : Key) :
    Action Unit :=
  discard <| addConstraint pass objects (.property code key values .write)

/-- An element of the objects in a set is read into another set. -/
def readElement (objects indexes : SetId) (code : Option Location) (target : SetId) :
    Action Unit :=
  discard <| addConstraint pass indexes (.element code objects target .read false)

/-- The types of a set are written to an element of the objects in another set. -/
def writeElement (objects indexes : SetId) (code : Option Location) (values : SetId) :
    Action Unit :=
  discard <| addConstraint pass indexes (.element code objects values .write false)

/-- The result of an operation on one set, or on two, flows into a target. -/
def addArith (lhs : SetId) (rhs : Option SetId) (target : SetId) (op : ArithOp) :
    Action Unit := do
  discard <| addConstraint pass lhs (.arith op target rhs)
  if let some rhs := rhs then
    discard <| addConstraint pass rhs (.arith op target (some lhs))

/-- A `this` value is passed on as an object. -/
def boxThis (source target : SetId) : Action Unit :=
  discard <| addConstraint pass source (.boxThis target)

/-- The types that a filter lets through flow into a target. -/
def addFilter (source target : SetId) (mode : FilterMode) : Action Unit :=
  discard <| addConstraint pass source (.filter target mode)

/-- A value that is read at a place flows into a target. -/
def monitorRead (source : SetId) (code : Location) (target : SetId) : Action Unit :=
  discard <| addConstraint pass source (.monitorRead code target)

/-- The functions in a set are called at a site. -/
def addCall (callees : SetId) (site : SiteId) : Action Unit :=
  discard <| addConstraint pass callees (.call site)

/-! ## Small laws -/

/-- A request for a pass while one is running leaves all but the depth counters alone. -/
theorem requestPass_of_resolving {c : Compartment} (h : c.worklist.resolving = true) :
    requestPass pass c =
      (.ok (), (c.changeWorklist Worklist.enter).changeWorklist Worklist.leave) := by
  simp [requestPass, changeWorklist, Worklist.enter, h]

/-- A request for a pass while none is running runs one, a level deeper. -/
theorem requestPass_of_not_resolving {c : Compartment} (h : c.worklist.resolving = false) :
    requestPass pass c =
      ((pass (c.changeWorklist Worklist.enter)).1,
        (pass (c.changeWorklist Worklist.enter)).2.changeWorklist Worklist.leave) := by
  have henter : (c.changeWorklist Worklist.enter).worklist.resolving = false := h
  simp only [requestPass, henter, Bool.false_eq_true, if_false]

/-- A type that the set stands for already changes nothing. -/
theorem addType_of_has {c : Compartment} {target : SetId} {t : Ty}
    (h : (c.set target).has t = true) : addType pass target t c = (.ok (), c) := by
  simp only [addType, bind, ExceptT.bind, ExceptT.mk, ExceptT.bindCont, StateT.bind, get,
    getThe, MonadStateOf.get, liftM, monadLift, MonadLift.monadLift, ExceptT.lift, StateT.get,
    Functor.map, StateT.map, pure, h]
  rfl

end Compartment

end FlowTypes
