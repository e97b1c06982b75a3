import FlowTypes.Compartment.Delivery

/-!
# Solver passes and runs

A pass takes the pending types off the worklist, oldest first, and delivers each to its constraint,
until none is left.  If a constraint fails, the pass is given up: what is still pending is dropped
and the failure is counted.

A pass is bounded by the number of deliveries that can come up in it: the objects, the properties,
the edges and the constraints of a compartment are bounded by what it holds when the pass begins,
and every constraint hears of every type once.  Only a host whose handlers go on adding sets
forever gets to the bound, and then there is no room for what the worklist would have to hold.

## Main results

A round of a pass finds nothing to do (`drain_of_empty`), delivers a type (`drain_of_delivered`), or
gives the pass up (`drain_of_failed`), and that leaves the worklist idle (`abandon_worklist`).
-/

namespace FlowTypes

namespace Compartment

/-! ## The bound of a pass -/

/-- How many types a set can have after a pass. -/
def typeBound (c : Compartment) : Nat := c.objectBound + Ty.named.length

/-- How many keys the properties can have after a pass. -/
def keyBound (c : Compartment) : Nat := c.constraints.size + c.sets.size + 1

/-- How many sets there can be after a pass. -/
def setBound (c : Compartment) : Nat := c.sets.size + 2 * c.objectBound * c.keyBound

/-- How many constraints there can be after a pass: those that are there, one property access for
each element access, one filter for each callee that hears of a `new` expression, and the
edges. -/
def constraintBound (c : Compartment) : Nat :=
  2 * c.constraints.size + c.constraints.size * c.typeBound + c.worklist.size +
    c.setBound * c.setBound

/-- How many deliveries a pass can take. -/
def deliveryBound (c : Compartment) : Nat :=
  c.worklist.size + c.constraintBound * c.typeBound

/-! ## Passes -/

/-- Gives a pass up. -/
def abandon (c : Compartment) (e : InferError) : Compartment :=
  let c := (c.record (.passAborted e)).changeWorklist (·.clear.stop)
  { c with stats := { c.stats with failures := c.stats.failures + 1 } }

variable (host : Host)

/-- Delivers pending types until there are none, at most as many as are allowed. -/
def drain : Nat → Action Unit
  | 0 => fun c =>
    let e : InferError := .outOfMemory "worklist"
    (.error e, c.abandon e)
  | fuel + 1 => fun c =>
    match c.worklist.next? with
    | none => (.ok (), c.changeWorklist Worklist.stop)
    | some (work, rest) =>
      match fire host work { c with worklist := rest } with
      | (.ok (), c) => drain fuel c
      | (.error e, c) => (.error e, c.abandon e)

/-- A pass that delivers everything that is pending. -/
def solve : Action Unit := fun c =>
  drain host (c.deliveryBound + 1) (c.changeWorklist Worklist.start)

theorem abandon_worklist (c : Compartment) (e : InferError) :
    (c.abandon e).worklist.pending = [] ∧ (c.abandon e).worklist.resolving = false :=
  ⟨rfl, rfl⟩

section Round

variable {host} {c c' : Compartment} {work : Work} {rest : Worklist} (fuel : Nat)

theorem drain_of_empty (h : c.worklist.next? = none) :
    drain host (fuel + 1) c = (.ok (), c.changeWorklist Worklist.stop) := by
  simp only [drain, h]

theorem drain_of_delivered (h : c.worklist.next? = some (work, rest))
    (hfire : fire host work { c with worklist := rest } = (.ok (), c')) :
    drain host (fuel + 1) c = drain host fuel c' := by
  simp only [drain, h, hfire]

theorem drain_of_failed {e : InferError} (h : c.worklist.next? = some (work, rest))
    (hfire : fire host work { c with worklist := rest } = (.error e, c')) :
    drain host (fuel + 1) c = (.error e, c'.abandon e) := by
  simp only [drain, h, hfire]

end Round

end Compartment

/-! ## Runs -/

namespace Request

/-- Does what is asked for between passes, and delivers the types that become pending. -/
def run (host : Host) (r : Request) : Action Answer :=
  r.perform (Compartment.solve host)

/-- Makes requests one after the other, and goes on after those that fail. -/
def runAll (host : Host) : List Request → Compartment →
    List (Except InferError Answer) × Compartment
  | [], c => ([], c)
  | r :: rest, c =>
    let (outcome, c) := r.run host c
    let (outcomes, c) := runAll host rest c
    (outcome :: outcomes, c)

end Request

end FlowTypes
