import FlowTypes.Compartment.Propagation

/-!
# Objects that lose what is known about them

An array stops being packed or dense, or the properties of an object become unknown.  Both happen
once and for all, and the freeze constraints that rely on the kind of the object are told.  They
listen at the set of its element types, because that set belongs to the object alone.

## Main results

What is no longer packed or dense is left alone by being marked again (`markNotPacked_of_done`),
and so is an object that is unknown (`markUnknown_of_unknown`).
-/

namespace FlowTypes

namespace Compartment

/-- Tells a constraint that the object it watches has a new kind. -/
def kindChanged (c : Compartment) (id : ConstraintId) (new : Kind) : Compartment :=
  match c.constraint id with
  | .freezeElementKind script kind false =>
    if kind.combine new = kind then c else c.spend id script
  | _ => c

/-- Tells the constraints on the element types of an object about its kind. -/
def notifyKind (c : Compartment) (id : ObjectId) : Compartment :=
  match (c.object id).property? .index with
  | none => c
  | some p =>
    let kind := c.objectKind id
    (c.set p.types).constraints.foldl (fun c listener => c.kindChanged listener kind) c

/-- Records that an array is no longer packed, or no longer dense either. -/
def markNotPacked (c : Compartment) (id : ObjectId) (notDense : Bool) : Compartment :=
  let o := c.object id
  if !o.isPacked && !(notDense && o.isDense) then c
  else
    ((c.changeObject id fun o =>
      { o with isPacked := false, isDense := o.isDense && !notDense }).record
        (.markedNotPacked id notDense)).notifyKind id

/-- Records that nothing is known about the properties of an object. -/
def forgetProperties (c : Compartment) (id : ObjectId) : Compartment :=
  (((c.record (.markedUnknown id)).markNotPacked id true).changeObject id fun o =>
    { o with isUnknown := true }).notifyKind id

variable (pass : Action Unit)

/-- Makes the properties of the objects on a stack unknown, and those of every object that inherits
from them.  Every object inherits from one other at most, so none comes up twice. -/
def forgetAll : Nat → List ObjectId → Action Unit
  | _, [] => pure ()
  | 0, _ => throw (.outOfMemory "instance list")
  | fuel + 1, id :: rest => do
    if ((← get).object id).isUnknown then forgetAll fuel rest
    else
      modify (·.forgetProperties id)
      let properties := ((← get).object id).properties
      properties.forM fun p => do
        addType pass p.types .unknown
        addType pass p.ownTypes .unknown
      let instances := ((← get).object id).instances
      forgetAll fuel (instances.reverse ++ rest)

/-- Makes every property of an object unknown, and every property of the objects that inherit from
it. -/
def markUnknown (id : ObjectId) : Action Unit := do
  forgetAll pass ((← get).objectBound + 1) [id]

theorem markNotPacked_of_done {c : Compartment} {id : ObjectId} {notDense : Bool}
    (hp : (c.object id).isPacked = false) (hd : notDense = true → (c.object id).isDense = false) :
    c.markNotPacked id notDense = c := by
  cases notDense <;> simp_all [markNotPacked]

/-- An object that is unknown already is left alone. -/
theorem markUnknown_of_unknown {c : Compartment} {id : ObjectId}
    (h : (c.object id).isUnknown = true) : markUnknown pass id c = (.ok (), c) := by
  change forgetAll pass (c.objectBound + 1) [id] c = _
  rw [forgetAll]
  change (if (c.object id).isUnknown = true then forgetAll pass c.objectBound [] else _) c = _
  simp [h, forgetAll]
  rfl

end Compartment

end FlowTypes
