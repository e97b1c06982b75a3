import FlowTypes.IndexSet
import FlowTypes.Ty

/-!
# Type sets

The types that may be observed at one place of a program.  A set only grows, and once the unknown
type is in it the set stands for every type and nothing more is added.

A set keeps its types and its listeners in the order they came, the latest at the head, and beside
them summaries for fast answers: the flags of the types, the objects among them, and the sets that
they flow into.

## Main results

A new type goes to the end (`types_insert`) and takes none away (`types_prefix_insert`), a type that
the set stands for already changes nothing (`insert_of_has`), and a new listener goes to the end
(`constraints_listen`).
-/

namespace FlowTypes

/-- The types observed at one place, and the constraints that listen to them. -/
structure TypeSet where
  /-- The flags of the types. -/
  flags : Flags := .none
  /-- The types, newest first. -/
  latest : List Ty := []
  /-- The objects among the types. -/
  objects : IndexSet := {}
  /-- The constraints that hear of every new type, newest first. -/
  listeners : List ConstraintId := []
  /-- The sets that a subset edge goes to. -/
  targets : IndexSet := {}
  deriving DecidableEq, Repr, Inhabited

namespace TypeSet

/-- The types, oldest first. -/
def types (s : TypeSet) : List Ty := s.latest.reverse

/-- The constraints that hear of every new type, oldest first. -/
def constraints (s : TypeSet) : List ConstraintId := s.listeners.reverse

/-- The set stands for every type. -/
def isUnknown (s : TypeSet) : Bool := s.flags.contains .unknown

def isEmpty (s : TypeSet) : Bool := s.flags.isEmpty

/-- The set stands for this type. -/
def has (s : TypeSet) (t : Ty) : Bool :=
  s.isUnknown || match t with
    | .object id => s.objects.contains id.index
    | t => s.flags.contains t.flag

def hasAnyFlag (s : TypeSet) (flags : Flags) : Bool := s.flags.intersects flags

/-- The set with one more type. -/
def insert (s : TypeSet) (t : Ty) : TypeSet :=
  if s.has t then s
  else
    { s with
      flags := s.flags ||| t.flag
      latest := t :: s.latest
      objects := match t with
        | .object id => s.objects.insert id.index
        | _ => s.objects }

/-- The set with one more listener. -/
def listen (s : TypeSet) (c : ConstraintId) : TypeSet :=
  { s with listeners := c :: s.listeners }

/-- A subset edge goes from this set to another one. -/
def flowsInto (s : TypeSet) (target : SetId) : Bool := s.targets.contains target.index

/-- The set with a subset edge to another one. -/
def addTarget (s : TypeSet) (target : SetId) : TypeSet :=
  { s with targets := s.targets.insert target.index }

/-- The tag that every value of the set has, if there is one. -/
def tag? (s : TypeSet) : Option Tag := Tag.ofFlags? s.flags

/-- The objects of the set, oldest first. -/
def objectTypes (s : TypeSet) : List ObjectId := s.types.filterMap Ty.object?

/-- The number of types, unless the set stands for all of them. -/
def count? (s : TypeSet) : Option Nat :=
  if s.isUnknown then none
  else some ((s.flags.without .object).count + s.objects.size)

/-- The set that stands for every type from the start. -/
def universal : TypeSet := ({} : TypeSet).insert .unknown

theorem insert_of_has {s : TypeSet} {t : Ty} (h : s.has t = true) : s.insert t = s := by
  simp [insert, h]

/-- A new type goes to the end. -/
theorem types_insert {s : TypeSet} {t : Ty} (h : s.has t = false) :
    (s.insert t).types = s.types ++ [t] := by
  simp [insert, types, h]

theorem constraints_insert (s : TypeSet) (t : Ty) :
    (s.insert t).constraints = s.constraints := by
  unfold insert
  split <;> rfl

/-- A new listener goes to the end. -/
@[simp] theorem constraints_listen (s : TypeSet) (c : ConstraintId) :
    (s.listen c).constraints = s.constraints ++ [c] := by
  simp [listen, constraints]

@[simp] theorem types_listen (s : TypeSet) (c : ConstraintId) : (s.listen c).types = s.types := rfl

@[simp] theorem types_addTarget (s : TypeSet) (target : SetId) :
    (s.addTarget target).types = s.types := rfl

@[simp] theorem constraints_addTarget (s : TypeSet) (target : SetId) :
    (s.addTarget target).constraints = s.constraints := rfl

theorem flowsInto_addTarget (s : TypeSet) (a b : SetId) :
    (s.addTarget a).flowsInto b = (s.flowsInto b || b == a) := by
  obtain ⟨i⟩ := a
  obtain ⟨j⟩ := b
  rw [Bool.eq_iff_iff]
  simp [flowsInto, addTarget]

/-- Adding a type takes none away. -/
theorem types_prefix_insert (s : TypeSet) (t : Ty) : s.types <+: (s.insert t).types := by
  by_cases h : s.has t = true
  · simp only [insert_of_has h, List.prefix_rfl]
  · rw [types_insert (by simpa using h)]
    exact List.prefix_append _ _

end TypeSet

end FlowTypes
