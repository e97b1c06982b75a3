import FlowTypes.Compartment
import FlowTypes.Proofs.Coherence

/-!
# Handles that point into their tables

Every handle that a compartment keeps, in a set, an object, a constraint, a call site, a stack slot
or a piece of pending work, points to an entry that exists.  The sizes of the tables are gathered in
an `Extent`, so that what is said about one record does not mention the rest of the compartment, and
stays true when the tables grow.

## Main results

* `Compartment.Valid`: every handle of the compartment is in its extent, and every type set agrees
  with its summaries.
* `Valid.mono` for every kind of record: what exists goes on to exist while the tables grow.
-/

namespace FlowTypes

/-- The sizes of the tables that handles point into. -/
structure Extent where
  sets : Nat
  objects : Nat
  constraints : Nat
  sites : Nat
  slots : Nat

/-- Tables only grow. -/
structure Extent.Within (a b : Extent) : Prop where
  sets : a.sets ≤ b.sets
  objects : a.objects ≤ b.objects
  constraints : a.constraints ≤ b.constraints
  sites : a.sites ≤ b.sites
  slots : a.slots ≤ b.slots

theorem Extent.Within.refl (a : Extent) : a.Within a := by
  constructor <;> exact Nat.le_refl _

theorem Extent.Within.trans {a b c : Extent} (h : a.Within b) (h' : b.Within c) : a.Within c :=
  ⟨Nat.le_trans h.sets h'.sets, Nat.le_trans h.objects h'.objects,
    Nat.le_trans h.constraints h'.constraints, Nat.le_trans h.sites h'.sites,
    Nat.le_trans h.slots h'.slots⟩

/-! ## Handles -/

def SetId.In (s : SetId) (e : Extent) : Prop := s.index < e.sets

def ObjectId.In (o : ObjectId) (e : Extent) : Prop := o.index < e.objects

def ConstraintId.In (k : ConstraintId) (e : Extent) : Prop := k.index < e.constraints

def SiteId.In (s : SiteId) (e : Extent) : Prop := s.index < e.sites

def StackId.In (n : StackId) (e : Extent) : Prop := n.index < e.slots

/-- Only the type of an object has a handle. -/
def Ty.In (t : Ty) (e : Extent) : Prop := ∀ o, t = .object o → o.In e

section Growth

variable {e e' : Extent} (h : e.Within e')
include h

theorem SetId.In.mono {s : SetId} (hs : s.In e) : s.In e' := Nat.lt_of_lt_of_le hs h.sets

theorem ObjectId.In.mono {o : ObjectId} (ho : o.In e) : o.In e' :=
  Nat.lt_of_lt_of_le ho h.objects

theorem ConstraintId.In.mono {k : ConstraintId} (hk : k.In e) : k.In e' :=
  Nat.lt_of_lt_of_le hk h.constraints

theorem SiteId.In.mono {s : SiteId} (hs : s.In e) : s.In e' := Nat.lt_of_lt_of_le hs h.sites

theorem StackId.In.mono {n : StackId} (hn : n.In e) : n.In e' := Nat.lt_of_lt_of_le hn h.slots

theorem Ty.In.mono {t : Ty} (ht : t.In e) : t.In e' := fun o ho => (ht o ho).mono h

end Growth

theorem Ty.in_of_object?_eq_none {t : Ty} (h : t.object? = none) (e : Extent) : t.In e := by
  rintro o rfl
  cases h

instance (s : SetId) (e : Extent) : Decidable (s.In e) :=
  inferInstanceAs (Decidable (s.index < e.sets))

instance (o : ObjectId) (e : Extent) : Decidable (o.In e) :=
  inferInstanceAs (Decidable (o.index < e.objects))

instance (k : ConstraintId) (e : Extent) : Decidable (k.In e) :=
  inferInstanceAs (Decidable (k.index < e.constraints))

instance (s : SiteId) (e : Extent) : Decidable (s.In e) :=
  inferInstanceAs (Decidable (s.index < e.sites))

instance (n : StackId) (e : Extent) : Decidable (n.In e) :=
  inferInstanceAs (Decidable (n.index < e.slots))

instance (t : Ty) (e : Extent) : Decidable (t.In e) :=
  match t with
  | .object o => decidable_of_iff (o.In e) ⟨fun h _ ho => Ty.object.inj ho ▸ h, fun h => h o rfl⟩
  | .undefined | .null | .boolean | .int32 | .double | .string | .unknown =>
    isTrue (Ty.in_of_object?_eq_none rfl e)

/-! ## Records -/

/-- The types, the listeners and the targets of a set exist. -/
structure TypeSet.Valid (e : Extent) (s : TypeSet) : Prop where
  coherent : s.Coherent
  types : ∀ t ∈ s.types, t.In e
  constraints : ∀ k ∈ s.constraints, k.In e
  targets : ∀ t, s.flowsInto t = true → t.In e

theorem TypeSet.valid_empty (e : Extent) : ({} : TypeSet).Valid e where
  coherent := coherent_empty
  types t ht := by cases ht
  constraints k hk := by cases hk
  targets t ht := by simp [flowsInto, IndexSet.contains] at ht

/-- The sets and the site of a constraint exist. -/
def Constraint.Valid (e : Extent) : Constraint → Prop
  | .subset target => target.In e
  | .property _ _ target _ => target.In e
  | .element _ objects target _ _ => objects.In e ∧ target.In e
  | .call site => site.In e
  | .arith _ target other => target.In e ∧ ∀ s ∈ other, s.In e
  | .boxThis target => target.In e
  | .filter target _ => target.In e
  | .monitorRead _ target => target.In e
  | .freezeTag .. | .freezeKind .. | .freezeEmpty .. | .freezeElementKind .. => True

instance (e : Extent) (k : Constraint) : Decidable (k.Valid e) :=
  match k with
  | .subset target => inferInstanceAs (Decidable (target.In e))
  | .property _ _ target _ => inferInstanceAs (Decidable (target.In e))
  | .element _ objects target _ _ => inferInstanceAs (Decidable (objects.In e ∧ target.In e))
  | .call site => inferInstanceAs (Decidable (site.In e))
  | .arith _ target other => inferInstanceAs (Decidable (target.In e ∧ ∀ s ∈ other, s.In e))
  | .boxThis target => inferInstanceAs (Decidable (target.In e))
  | .filter target _ => inferInstanceAs (Decidable (target.In e))
  | .monitorRead _ target => inferInstanceAs (Decidable (target.In e))
  | .freezeTag .. | .freezeKind .. | .freezeEmpty .. | .freezeElementKind .. => isTrue trivial

structure Property.Valid (e : Extent) (p : Property) : Prop where
  types : p.types.In e
  ownTypes : p.ownTypes.In e

structure FunctionInfo.Valid (e : Extent) (f : FunctionInfo) : Prop where
  returns : f.returns.In e
  thisTypes : f.thisTypes.In e
  parameters : ∀ s ∈ f.parameters, s.In e
  prototypeObject : ∀ o ∈ f.prototypeObject, o.In e

structure ObjectInfo.Valid (e : Extent) (o : ObjectInfo) : Prop where
  properties : ∀ p ∈ o.properties, p.Valid e
  proto : ∀ p ∈ o.proto, p.In e
  instances : ∀ i ∈ o.instances, i.In e
  newObject : ∀ n ∈ o.newObject, n.In e
  function : ∀ f ∈ o.function, f.Valid e

structure CallSite.Valid (e : Extent) (s : CallSite) : Prop where
  arguments : ∀ t ∈ s.arguments, t.In e
  thisTypes : ∀ t ∈ s.thisTypes, t.In e
  thisType : ∀ t ∈ s.thisType, t.In e
  result : ∀ t ∈ s.result, t.In e

instance (e : Extent) (s : CallSite) : Decidable (s.Valid e) :=
  decidable_of_iff ((∀ t ∈ s.arguments, t.In e) ∧ (∀ t ∈ s.thisTypes, t.In e) ∧
    (∀ t ∈ s.thisType, t.In e) ∧ ∀ t ∈ s.result, t.In e)
    ⟨fun h => ⟨h.1, h.2.1, h.2.2.1, h.2.2.2⟩,
      fun h => ⟨h.arguments, h.thisTypes, h.thisType, h.result⟩⟩

structure Work.Valid (e : Extent) (w : Work) : Prop where
  constraint : w.constraint.In e
  source : w.source.In e
  type : w.type.In e

instance (e : Extent) (w : Work) : Decidable (w.Valid e) :=
  decidable_of_iff (w.constraint.In e ∧ w.source.In e ∧ w.type.In e)
    ⟨fun h => ⟨h.1, h.2.1, h.2.2⟩, fun h => ⟨h.constraint, h.source, h.type⟩⟩

structure ScriptTypes.Valid (e : Extent) (s : ScriptTypes) : Prop where
  named : ∀ v ∈ s.named, v.2.In e
  pushed : ∀ p ∈ s.pushed, p.types.In e

structure Slot.Valid (e : Extent) (s : Slot) : Prop where
  types : s.types.In e
  inner : ∀ n ∈ s.inner, n.In e

section Growth

variable {e e' : Extent} (h : e.Within e')
include h

theorem TypeSet.Valid.mono {s : TypeSet} (hs : s.Valid e) : s.Valid e' :=
  ⟨hs.coherent, fun t ht => (hs.types t ht).mono h, fun k hk => (hs.constraints k hk).mono h,
    fun t ht => (hs.targets t ht).mono h⟩

theorem Constraint.Valid.mono {k : Constraint} (hk : k.Valid e) : k.Valid e' := by
  cases k with
  | subset | property | boxThis | filter | monitorRead => exact SetId.In.mono h hk
  | element => exact ⟨hk.1.mono h, hk.2.mono h⟩
  | call => exact SiteId.In.mono h hk
  | arith => exact ⟨hk.1.mono h, fun s hs => (hk.2 s hs).mono h⟩
  | freezeTag | freezeKind | freezeEmpty | freezeElementKind => trivial

theorem Property.Valid.mono {p : Property} (hp : p.Valid e) : p.Valid e' :=
  ⟨hp.types.mono h, hp.ownTypes.mono h⟩

theorem FunctionInfo.Valid.mono {f : FunctionInfo} (hf : f.Valid e) : f.Valid e' :=
  ⟨hf.returns.mono h, hf.thisTypes.mono h, fun s hs => (hf.parameters s hs).mono h,
    fun o ho => (hf.prototypeObject o ho).mono h⟩

theorem ObjectInfo.Valid.mono {o : ObjectInfo} (ho : o.Valid e) : o.Valid e' :=
  ⟨fun p hp => (ho.properties p hp).mono h, fun p hp => (ho.proto p hp).mono h,
    fun i hi => (ho.instances i hi).mono h, fun n hn => (ho.newObject n hn).mono h,
    fun f hf => (ho.function f hf).mono h⟩

theorem CallSite.Valid.mono {s : CallSite} (hs : s.Valid e) : s.Valid e' :=
  ⟨fun t ht => (hs.arguments t ht).mono h, fun t ht => (hs.thisTypes t ht).mono h,
    fun t ht => (hs.thisType t ht).mono h, fun t ht => (hs.result t ht).mono h⟩

theorem Work.Valid.mono {w : Work} (hw : w.Valid e) : w.Valid e' :=
  ⟨hw.constraint.mono h, hw.source.mono h, hw.type.mono h⟩

theorem ScriptTypes.Valid.mono {s : ScriptTypes} (hs : s.Valid e) : s.Valid e' :=
  ⟨fun v hv => (hs.named v hv).mono h, fun p hp => (hs.pushed p hp).mono h⟩

theorem Slot.Valid.mono {s : Slot} (hs : s.Valid e) : s.Valid e' :=
  ⟨hs.types.mono h, fun n hn => (hs.inner n hn).mono h⟩

end Growth

namespace Compartment

/-! ## The compartment -/

/-- The sizes of the tables. -/
def extent (c : Compartment) : Extent :=
  ⟨c.sets.size, c.objects.size, c.constraints.size, c.sites.size, c.stack.size⟩

/-- Every handle in the compartment points into its table, and every set agrees with its
summaries. -/
structure Valid (c : Compartment) : Prop where
  universal : universal.In c.extent
  global : global.In c.extent
  sets : ∀ id, (c.set id).Valid c.extent
  constraints : ∀ id, (c.constraint id).Valid c.extent
  objects : ∀ id, (c.object id).Valid c.extent
  sites : ∀ id, (c.site id).Valid c.extent
  builtins : ∀ b ∈ c.builtins, b.2.In c.extent
  initializers : ∀ i ∈ c.initializers, i.2.In c.extent
  scripts : ∀ s ∈ c.scripts, s.2.Valid c.extent
  representatives : ∀ n ∈ c.stack.representatives, n.In c.extent
  slots : ∀ s ∈ c.stack.slots, s.Valid c.extent
  slotCount : c.stack.slots.size = c.stack.size
  pending : ∀ w ∈ c.worklist.pending, w.Valid c.extent

variable {c : Compartment}

theorem mem_objectTypes {s : SetId} {o : ObjectId} :
    o ∈ (c.set s).objectTypes ↔ .object o ∈ (c.set s).types := by
  rw [TypeSet.objectTypes, List.mem_filterMap]
  constructor
  · rintro ⟨t, ht, hto⟩
    cases t <;> cases hto
    exact ht
  · exact fun ht => ⟨_, ht, rfl⟩

/-- The set of the objects whose elements are accessed is in the table. -/
theorem Valid.in_of_element (hc : c.Valid) {id : ConstraintId} {code : Option Location}
    {objects target : SetId} {access : Access} {wired : Bool}
    (hk : c.constraint id = .element code objects target access wired) : objects.In c.extent := by
  have hvalid := hc.constraints id
  rw [hk] at hvalid
  exact hvalid.1

/-- The objects of a set are in the table. -/
theorem in_of_mem_objectTypes (hc : c.Valid) {s : SetId} {o : ObjectId}
    (ho : o ∈ (c.set s).objectTypes) : o.In c.extent :=
  (hc.sets s).types _ (mem_objectTypes.mp ho) o rfl

end Compartment

end FlowTypes
