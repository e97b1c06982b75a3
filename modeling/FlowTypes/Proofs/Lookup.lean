import FlowTypes.Compartment.Unknown
import FlowTypes.Proofs.Validity

/-!
# Look-ups after a single change

What a look-up answers after one of the single changes of a compartment: the changed entry is the
changed one, and all others are as before.  The sizes of the tables stay, unless an entry is added.

## Main results

* `set_changeSet`, `constraint_changeConstraint`, `object_changeObject`, `site_changeSite`.
* `set_push`, `constraint_push`, `object_push`, `site_push` for an entry that is added.
* `valid_fresh`: every handle of a fresh compartment is in its table.
-/

namespace FlowTypes

namespace Compartment

variable {c : Compartment}

/-! ## Entries of a table -/

private theorem getD_modify {α : Type} (xs : Array α) (i j : Nat) (f : α → α) (d : α) :
    (xs.modify i f).getD j d =
      if i = j ∧ i < xs.size then f (xs.getD j d) else xs.getD j d := by
  simp only [Array.getD_eq_getD_getElem?, Array.getElem?_modify]
  by_cases h : i = j
  · subst h
    by_cases hi : i < xs.size
    · simp [hi]
    · simp [hi]
  · simp [h]

private theorem getD_push {α : Type} (xs : Array α) (j : Nat) (x d : α) :
    (xs.push x).getD j d = if j = xs.size then x else xs.getD j d := by
  simp only [Array.getD_eq_getD_getElem?, Array.getElem?_push]
  by_cases h : j = xs.size
  · simp [h]
  · simp [h]

theorem set_changeSet {a : SetId} (ha : a.In c.extent) (f : TypeSet → TypeSet) (b : SetId) :
    (c.changeSet a f).set b = if a = b then f (c.set b) else c.set b := by
  obtain ⟨i⟩ := a
  obtain ⟨j⟩ := b
  have hi : i < c.sets.size := ha
  simp only [set, changeSet, getD_modify, hi, and_true, SetId.mk.injEq]

theorem constraint_changeConstraint {a : ConstraintId} (ha : a.In c.extent)
    (f : Constraint → Constraint) (b : ConstraintId) :
    (c.changeConstraint a f).constraint b =
      if a = b then f (c.constraint b) else c.constraint b := by
  obtain ⟨i⟩ := a
  obtain ⟨j⟩ := b
  have hi : i < c.constraints.size := ha
  simp only [constraint, changeConstraint, getD_modify, hi, and_true, ConstraintId.mk.injEq]

theorem object_changeObject {a : ObjectId} (ha : a.In c.extent) (f : ObjectInfo → ObjectInfo)
    (b : ObjectId) :
    (c.changeObject a f).object b = if a = b then f (c.object b) else c.object b := by
  obtain ⟨i⟩ := a
  obtain ⟨j⟩ := b
  have hi : i < c.objects.size := ha
  simp only [object, changeObject, getD_modify, hi, and_true, ObjectId.mk.injEq]

theorem site_changeSite {a : SiteId} (ha : a.In c.extent) (f : CallSite → CallSite)
    (b : SiteId) :
    (c.changeSite a f).site b = if a = b then f (c.site b) else c.site b := by
  obtain ⟨i⟩ := a
  obtain ⟨j⟩ := b
  have hi : i < c.sites.size := ha
  simp only [site, changeSite, getD_modify, hi, and_true, SiteId.mk.injEq]

theorem set_push (s : TypeSet) (id : SetId) :
    ({ c with sets := c.sets.push s } : Compartment).set id =
      if id = ⟨c.sets.size⟩ then s else c.set id := by
  obtain ⟨i⟩ := id
  simp only [set, getD_push, SetId.mk.injEq]

theorem constraint_push (k : Constraint) (id : ConstraintId) :
    ({ c with constraints := c.constraints.push k } : Compartment).constraint id =
      if id = ⟨c.constraints.size⟩ then k else c.constraint id := by
  obtain ⟨i⟩ := id
  simp only [constraint, getD_push, ConstraintId.mk.injEq]

theorem object_push (o : ObjectInfo) (id : ObjectId) :
    ({ c with objects := c.objects.push o } : Compartment).object id =
      if id = ⟨c.objects.size⟩ then o else c.object id := by
  obtain ⟨i⟩ := id
  simp only [object, getD_push, ObjectId.mk.injEq]

theorem site_push (s : CallSite) (id : SiteId) :
    ({ c with sites := c.sites.push s } : Compartment).site id =
      if id = ⟨c.sites.size⟩ then s else c.site id := by
  obtain ⟨i⟩ := id
  simp only [site, getD_push, SiteId.mk.injEq]

/-- An entry that is in a table is not the one that comes next. -/
theorem ne_next_object {o : ObjectId} (ho : o.In c.extent) : o ≠ ⟨c.objects.size⟩ := by
  rintro rfl
  exact Nat.lt_irrefl _ ho

theorem ne_next_constraint {id : ConstraintId} (hid : id.In c.extent) :
    id ≠ ⟨c.constraints.size⟩ := by
  rintro rfl
  exact Nat.lt_irrefl _ hid

theorem ne_next_site {id : SiteId} (hid : id.In c.extent) : id ≠ ⟨c.sites.size⟩ := by
  rintro rfl
  exact Nat.lt_irrefl _ hid

/-! ## Look-ups by name -/

theorem objectNamed?_some {name : String} {id : ObjectId} (h : c.objectNamed? name = some id) :
    id.In c.extent ∧ c.objectName id = name := by
  obtain ⟨i, hi, rfl⟩ := Option.map_eq_some_iff.mp h
  obtain ⟨hsize, hname, -⟩ := Array.findIdx?_eq_some_iff_getElem.mp hi
  refine ⟨hsize, ?_⟩
  have hget : c.object ⟨i⟩ = c.objects[i] := by simp [object, Array.getD, hsize]
  rw [objectName, hget]
  simpa using hname

theorem objectNamed?_none {name : String} (h : c.objectNamed? name = none) {id : ObjectId}
    (hid : id.In c.extent) : c.objectName id ≠ name := by
  obtain ⟨i⟩ := id
  have hsize : i < c.objects.size := hid
  have hget : c.object ⟨i⟩ = c.objects[i] := by simp [object, Array.getD, hsize]
  have hall := Array.findIdx?_eq_none_iff.mp (Option.map_eq_none_iff.mp h)
  have hname := hall c.objects[i] (Array.getElem_mem hsize)
  rw [objectName, hget]
  simpa using hname

/-! ## Sizes -/

@[simp] theorem extent_changeSet (a : SetId) (f : TypeSet → TypeSet) :
    (c.changeSet a f).extent = c.extent := by
  simp [extent, changeSet]

@[simp] theorem extent_changeConstraint (a : ConstraintId) (f : Constraint → Constraint) :
    (c.changeConstraint a f).extent = c.extent := by
  simp [extent, changeConstraint]

@[simp] theorem extent_changeObject (a : ObjectId) (f : ObjectInfo → ObjectInfo) :
    (c.changeObject a f).extent = c.extent := by
  simp [extent, changeObject]

@[simp] theorem extent_changeSite (a : SiteId) (f : CallSite → CallSite) :
    (c.changeSite a f).extent = c.extent := by
  simp [extent, changeSite]

@[simp] theorem extent_record (e : Event) : (c.record e).extent = c.extent := rfl

@[simp] theorem extent_changeWorklist (f : Worklist → Worklist) :
    (c.changeWorklist f).extent = c.extent := rfl

@[simp] theorem extent_queueRecompile (script : ScriptId) (cause : Cause) :
    (c.queueRecompile script cause).extent = c.extent := rfl

/-! ## Look-ups outside of a table -/

theorem set_of_not_in {id : SetId} (h : ¬ id.In c.extent) : c.set id = {} := by
  have hsize : ¬ id.index < c.sets.size := h
  simp [set, Array.getD, hsize]

theorem object_of_not_in {id : ObjectId} (h : ¬ id.In c.extent) : c.object id = default := by
  have hsize : ¬ id.index < c.objects.size := h
  simp [object, Array.getD, hsize]

/-- An object of which anything is known is in the table. -/
theorem in_of_object {o : ObjectId} (h : c.object o ≠ default) : o.In c.extent :=
  Classical.byContradiction fun ho => h (object_of_not_in ho)

theorem in_of_proto {o p : ObjectId} (hp : (c.object o).proto = some p) : o.In c.extent :=
  in_of_object fun h => by rw [h] at hp; cases hp

theorem in_of_mem_properties {o : ObjectId} {p : Property} (hp : p ∈ (c.object o).properties) :
    o.In c.extent :=
  in_of_object fun h => by rw [h] at hp; cases hp

theorem in_of_newObject {o n : ObjectId} (hn : (c.object o).newObject = some n) : o.In c.extent :=
  in_of_object fun h => by rw [h] at hn; cases hn

theorem in_of_function {o : ObjectId} {f : FunctionInfo} (hf : (c.object o).function = some f) :
    o.In c.extent :=
  in_of_object fun h => by rw [h] at hf; cases hf

theorem constraint_of_not_in {id : ConstraintId} (h : ¬ id.In c.extent) :
    c.constraint id = default := by
  have hsize : ¬ id.index < c.constraints.size := h
  simp [constraint, Array.getD, hsize]

/-! ## The fresh compartment -/

theorem set_fresh (options : Options) (id : SetId) :
    (fresh options).set id = if id = universal then TypeSet.universal else {} := by
  obtain ⟨i⟩ := id
  cases i <;> simp [set, fresh, Compartment.universal, Array.getD]

/-- Only the set that stands for every type has a type at first. -/
theorem mem_types_fresh {options : Options} {id : SetId} {t : Ty} :
    t ∈ ((fresh options).set id).types ↔ id = universal ∧ t = .unknown := by
  rw [set_fresh]
  split
  · rename_i hid
    rw [TypeSet.types_universal, List.mem_singleton, and_iff_right hid]
  · rename_i hid
    exact iff_of_false List.not_mem_nil fun h => hid h.1

theorem valid_fresh (options : Options) : (fresh options).Valid where
  universal := by show 0 < 1; omega
  global := by show 0 < 1; omega
  sets id := by
    rw [set_fresh]
    split
    · refine ⟨TypeSet.coherent_universal, ?_, ?_, ?_⟩
      · intro t ht
        rw [TypeSet.types_universal, List.mem_singleton] at ht
        rw [ht]
        exact Ty.in_of_object?_eq_none rfl _
      · intro k hk
        cases hk
      · intro t ht
        have htargets : TypeSet.universal.targets = {} := by decide
        simp [TypeSet.flowsInto, htargets, IndexSet.contains] at ht
    · exact TypeSet.valid_empty _
  constraints id := by
    show (0 : Nat) < 1
    omega
  objects id := by
    have hobject : ((fresh options).object id).properties = [] ∧
        ((fresh options).object id).proto = none ∧
        ((fresh options).object id).instances = [] ∧
        ((fresh options).object id).newObject = none ∧
        ((fresh options).object id).function = none := by
      obtain ⟨i⟩ := id
      cases i <;> exact ⟨rfl, rfl, rfl, rfl, rfl⟩
    obtain ⟨h1, h2, h3, h4, h5⟩ := hobject
    constructor
    · simp [h1]
    · simp [h2]
    · simp [h3]
    · simp [h4]
    · simp [h5]
  sites id := by
    have hsite : (fresh options).site id = default := rfl
    rw [hsite]
    constructor <;> intro t ht <;> cases ht
  builtins b hb := by cases hb
  initializers i hi := by cases hi
  scripts s hs := by cases hs
  representatives n hn := absurd hn (Array.not_mem_empty n)
  slots s hs := absurd hs (Array.not_mem_empty s)
  slotCount := rfl
  pending w hw := by cases hw

end Compartment

end FlowTypes
