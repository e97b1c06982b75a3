import FlowTypes.Handle

/-!
# Groups of stack nodes

Places of a program that share a stack slot along different paths are merged into one group, which
one record describes.  Every node holds the representative of its group, and the record of a group
is kept at its representative; merging two groups moves the nodes of the second one over.

## Main results

`find` after a merge sends the nodes of both groups to the first representative and leaves the
others alone (`find_merge`), and it is unchanged by a new record (`find_update`).
-/

namespace FlowTypes

/-- What is known about a stack slot. -/
structure Slot where
  /-- The types of the values in the slot. -/
  types : SetId
  /-- A node of the slot right below. -/
  inner : Option StackId := none
  /-- The slot holds a value bound to a `with` scope. -/
  boundWith : Bool := false
  /-- The known tag of the slot is not to be relied on. -/
  ignoreTag : Bool := false
  /-- The `let` variable that the slot holds. -/
  letVariable : Option String := none
  deriving DecidableEq, Repr, Inhabited

namespace Slot

/-- One record for two slots that are merged.  The types of the first one stand for both, because
the two sets have been made to hold the same types; the later `let` variable wins. -/
def combine (a b : Slot) : Slot where
  types := a.types
  inner := a.inner <|> b.inner
  boundWith := a.boundWith || b.boundWith
  ignoreTag := a.ignoreTag || b.ignoreTag
  letVariable := b.letVariable <|> a.letVariable

end Slot

/-- Marks that can be set on a slot after it is made. -/
structure SlotFlags where
  boundWith : Bool := false
  ignoreTag : Bool := false
  letVariable : Option String := none
  deriving DecidableEq, Repr, Inhabited

/-- The slot with further marks; a new `let` variable replaces an earlier one. -/
def Slot.mark (s : Slot) (flags : SlotFlags) : Slot :=
  { s with
    boundWith := s.boundWith || flags.boundWith
    ignoreTag := s.ignoreTag || flags.ignoreTag
    letVariable := flags.letVariable <|> s.letVariable }

/-- The stack nodes with their groups. -/
structure StackTable where
  /-- The representative of each node. -/
  representatives : Array StackId := #[]
  /-- The record of each group, at its representative. -/
  slots : Array Slot := #[]
  deriving DecidableEq, Repr, Inhabited

namespace StackTable

/-- The number of nodes. -/
def size (t : StackTable) : Nat := t.representatives.size

/-- The representative of a node's group. -/
def find (t : StackTable) (n : StackId) : StackId := t.representatives.getD n.index n

/-- The two nodes are in one group. -/
def same (t : StackTable) (a b : StackId) : Bool := t.find a == t.find b

/-- The record of a node's group. -/
def slot (t : StackTable) (n : StackId) : Slot := t.slots.getD (t.find n).index default

/-- The table with one more node, in a group of its own. -/
def push (t : StackTable) (s : Slot) : StackTable where
  representatives := t.representatives.push ⟨t.size⟩
  slots := t.slots.push s

/-- The table with a new record for a node's group. -/
def update (t : StackTable) (n : StackId) (s : Slot) : StackTable :=
  { t with slots := t.slots.setIfInBounds (t.find n).index s }

/-- The table with two groups made into one. -/
def merge (t : StackTable) (a b : StackId) : StackTable :=
  if t.same a b then t
  else
    let combined := (t.slot a).combine (t.slot b)
    let first := t.find a
    let second := t.find b
    { representatives := t.representatives.map fun r => if r = second then first else r
      slots := t.slots.setIfInBounds first.index combined }

theorem find_update (t : StackTable) (n m : StackId) (s : Slot) : (t.update n s).find m = t.find m :=
  rfl

theorem find_merge {t : StackTable} {a b n : StackId} (hn : n.index < t.size) :
    (t.merge a b).find n = if t.find n = t.find b then t.find a else t.find n := by
  have hn' : n.index < t.representatives.size := hn
  by_cases h : t.same a b = true
  · have hab : t.find a = t.find b := by simpa [same] using h
    simp only [merge, h, if_true]
    split
    · rename_i hb
      rw [hb, hab]
    · rfl
  · simp [merge, h, find, Array.getD, hn']

end StackTable

end FlowTypes
