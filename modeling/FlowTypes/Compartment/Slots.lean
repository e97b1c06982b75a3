import FlowTypes.Compartment.Propagation

/-!
# Stack slots

The stack nodes of a compartment.  Two slots are merged together with the slots below them, and
their types flow into each other, so that one set describes them all.
-/

namespace FlowTypes

namespace Compartment

variable (pass : Action Unit)

def changeStacks (c : Compartment) (f : StackTable → StackTable) : Compartment :=
  { c with stack := f c.stack }

/-- Adds a stack node with a set of its own, on top of another one. -/
def newStackNode (inner : Option StackId) : Action StackId := do
  let types ← newSet
  let node : StackId := ⟨(← get).stack.size⟩
  modify (·.changeStacks (·.push { types, inner }))
  return node

/-- Merges two slots and, pair by pair, those below them.  Each merge makes one group fewer, so a
chain of slots comes to its end even if it runs in a circle. -/
def mergeDown : Nat → StackId → StackId → Action Unit
  | 0, _, _ => throw (.outOfMemory "stack table")
  | fuel + 1, one, two => do
    let t := (← get).stack
    unless t.same one two do
      let a := t.slot one
      let b := t.slot two
      unless a.types = b.types do
        addSubset pass a.types b.types
        addSubset pass b.types a.types
      modify (·.changeStacks (·.merge one two))
      match a.inner, b.inner with
      | some i, some j => mergeDown fuel i j
      | _, _ => pure ()

/-- Merges two stack nodes and the slots below them. -/
def mergeStacks (one two : StackId) : Action Unit := do
  mergeDown pass ((← get).stack.size + 1) one two

/-- Sets the slot below a node; if there is one already, the two are merged. -/
def setInnerStack (node inner : StackId) : Action Unit := do
  let slot := (← get).stack.slot node
  match slot.inner with
  | some other => mergeStacks pass other inner
  | none => modify (·.changeStacks (·.update node { slot with inner := some inner }))

/-- Sets marks on the slot of a node. -/
def setSlotFlags (c : Compartment) (node : StackId) (flags : SlotFlags) : Compartment :=
  c.changeStacks fun t => t.update node ((t.slot node).mark flags)

end Compartment

end FlowTypes
