import FlowTypes.Proofs.Deliveries
import FlowTypes.Proofs.Tables
import Mathlib.Data.List.ProdSigma

/-!
# How far a pass can go

A pass may make objects, properties, sets and constraints while it delivers types, and each of them
can bring up more types to deliver.  Still it comes to an end.  The engine makes no functions, so
the objects that it makes have names out of a finite pool; the keys of their properties are those
that were asked for before, or the one of the elements; so there are only so many sets, and so many
edges between them.  Every other constraint that the engine makes takes the place of one that was
there before the pass, or of a type that one of those heard of.  And every constraint hears of every
type once.

Each of these counts is kept as a list without repetitions, whose entries come from a finite list.

## Main results

* `namePool`, `keyPool`, `allTypes`: what new objects, properties and types come from.
* `Ledger`: what a pass has made since it began, item by item; `Ran.ledger`.
* `Ledger.length_le`: a pass is no longer than its bound.
* `Ran.le_deliveryBound`.
-/

namespace FlowTypes

/-- The key of a property access. -/
def Constraint.key? : Constraint → Option Key
  | .property _ key _ _ => some key
  | _ => none

namespace Compartment

variable {b c c' : Compartment}

/-! ## Finite pools -/

def allSets (c : Compartment) : List SetId := (List.range c.sets.size).map SetId.mk

def allConstraints (c : Compartment) : List ConstraintId :=
  (List.range c.constraints.size).map ConstraintId.mk

/-- Every type that a set can have. -/
def allTypes (c : Compartment) : List Ty := Ty.named ++ c.allObjects.map .object

theorem mem_allSets {s : SetId} (hs : s.In c.extent) : s ∈ c.allSets :=
  List.mem_map.mpr ⟨s.index, List.mem_range.mpr hs, rfl⟩

theorem mem_allConstraints {id : ConstraintId} (hid : id.In c.extent) : id ∈ c.allConstraints :=
  List.mem_map.mpr ⟨id.index, List.mem_range.mpr hid, rfl⟩

theorem mem_allObjects {o : ObjectId} : o ∈ c.allObjects ↔ o.In c.extent := by
  obtain ⟨i⟩ := o
  simp [allObjects, ObjectId.In, extent]

theorem mem_allTypes {t : Ty} (ht : t.In c.extent) : t ∈ c.allTypes := by
  rw [allTypes, List.mem_append]
  cases t with
  | object o => exact .inr (List.mem_map.mpr ⟨o, mem_allObjects.mpr (ht o rfl), rfl⟩)
  | _ => exact .inl (by decide)

theorem length_allTypes : c.allTypes.length = c.objects.size + Ty.named.length := by
  rw [allTypes, List.length_append, List.length_map, allObjects, List.length_map,
    List.length_range, Nat.add_comm]

/-- The names of the objects that the engine can make. -/
def namePool (c : Compartment) : List String :=
  Builtin.all.map Builtin.name ++
    (c.allObjects.map fun o => c.objectName o ++ ":prototype") ++
      c.allObjects.map fun o => c.objectName o ++ ":prototype" ++ ":new"

theorem length_namePool :
    c.namePool.length = Builtin.all.length + c.objects.size + c.objects.size := by
  simp [namePool, allObjects, Nat.add_assoc]

/-- The property that a set has the types of. -/
def propertyOf? (c : Compartment) (s : SetId) : Option Property :=
  (c.allObjects.flatMap fun o => (c.object o).properties).find? (·.types = s)

/-- The keys of the properties that the engine can make. -/
def keyPool (c : Compartment) : List Key :=
  .index :: ((c.allConstraints.filterMap fun id => (c.constraint id).key?) ++
    c.allSets.filterMap fun s => (c.propertyOf? s).map Property.key)

theorem length_keyPool_le : c.keyPool.length ≤ c.keyBound := by
  have hconstraints := List.length_filterMap_le (fun id => (c.constraint id).key?) c.allConstraints
  have hsets := List.length_filterMap_le (fun s => (c.propertyOf? s).map Property.key) c.allSets
  have hcount : c.allConstraints.length = c.constraints.size := by simp [allConstraints]
  have hcount' : c.allSets.length = c.sets.size := by simp [allSets]
  rw [keyPool, List.length_cons, List.length_append, keyBound]
  omega

/-- A key that the engine can ask for is in the pool, as every set has one property at most. -/
theorem mem_keyPool (hc : c.Valid) (hapart : c.SetsApart) {key : Key}
    (h : key = .index ∨ c.Keyed key) : key ∈ c.keyPool := by
  obtain rfl | ⟨o, p, hp, rfl⟩ | ⟨id, code, target, access, hk⟩ := h
  · exact List.mem_cons_self
  · refine List.mem_cons_of_mem _ (List.mem_append_right _ ?_)
    have hin := ((hc.objects o).properties p hp).types
    have hmem : p ∈ c.allObjects.flatMap fun o => (c.object o).properties :=
      List.mem_flatMap.mpr ⟨o, mem_allObjects.mpr (in_of_mem_properties hp), hp⟩
    obtain ⟨q, hq⟩ := Option.isSome_iff_exists.mp
      (List.find?_isSome.mpr ⟨p, hmem, decide_eq_true rfl⟩ : (c.propertyOf? p.types).isSome)
    obtain ⟨o', -, hq'⟩ := List.mem_flatMap.mp (List.mem_of_find?_eq_some hq)
    have hsame : q.types = p.types := by simpa using List.find?_some hq
    refine List.mem_filterMap.mpr ⟨p.types, mem_allSets hin, ?_⟩
    have hfound : c.propertyOf? p.types = some q := hq
    rw [hfound, Option.map_some, (hapart.types hq' hp hsame).2]
  · refine List.mem_cons_of_mem _ (List.mem_append_left _ ?_)
    have hid : id.In c.extent := by
      by_contra hid
      rw [constraint_of_not_in hid] at hk
      cases hk
    exact List.mem_filterMap.mpr ⟨id, mem_allConstraints hid, by rw [hk]; rfl⟩

/-! ## What the engine does -/

/-- A change that the engine makes of its own accord adds nothing, or one object that is no function,
or one property, or it adds a type, an edge, or the property access of an element access. -/
theorem Change.engine_cases (hc : c.Valid) (h : c.Change .engine c') : c.Barren c' ∨
    (∃ name, c.Nameable name ∧ c' = c.pushObject name none) ∨
    (∃ owner key, owner.In c.extent ∧ (c.object owner).property? key = none ∧ c.Keyed key ∧
      c' = c.pushProperty owner key) ∨
    (∃ target t, target.In c.extent ∧ (c.set target).has t = false ∧ c' = c.insertType target t) ∨
    (∃ source target, source.In c.extent ∧ (c.set source).flowsInto target = false ∧
      c' = c.addEdge source target) ∨
    ∃ id code objects target access, id.In c.extent ∧ objects.In c.extent ∧
      c.constraint id = .element code objects target access false ∧
        c' = c.wireUp id objects (.property code .index target access) := by
  obtain hbarren | ⟨hchoice, -⟩ | ⟨name, function, hname, hfunction, rfl⟩ |
    ⟨owner, key, howner, -, hlacks, hkey, rfl⟩ | htraffic := h.barren_or
  · exact .inl hbarren
  · exact hchoice.elim
  · refine .inr (.inl ⟨name, hname.resolve_left id, ?_⟩)
    cases function with
    | none => rfl
    | some f => exact (hfunction f rfl).1.elim
  · exact .inr (.inr (.inl ⟨owner, key, howner, hlacks, hkey.resolve_left id, rfl⟩))
  · cases htraffic with
    | insert htarget _ hnew => exact .inr (.inr (.inr (.inl ⟨_, _, htarget, hnew, rfl⟩)))
    | edge hsource _ _ hnew => exact .inr (.inr (.inr (.inr (.inl ⟨_, _, hsource, hnew, rfl⟩))))
    | wire hid hk =>
      exact .inr (.inr (.inr (.inr (.inr ⟨_, _, _, _, _, hid, hc.in_of_element hk, hk, rfl⟩))))
    | register hasked => exact (hasked.elim id And.left).elim
    | pop hpasses => exact hpasses.elim
    | deliver hredelivery => exact hredelivery.elim
    | abandon haborts => exact haborts.elim

/-! ## Objects -/

/-- The objects that were made have names out of the pool, and are no functions. -/
def Peopled (b c : Compartment) : Prop :=
  ∀ o : ObjectId, o.In c.extent → ¬ o.In b.extent →
    c.objectName o ∈ b.namePool ∧ (c.object o).isFunction = false

theorem Peopled.refl (b : Compartment) : b.Peopled b := fun _ ho hnew => absurd ho hnew

theorem Peopled.congr (h : b.Peopled c) (hsize : c'.objects.size = c.objects.size)
    (hname : ∀ o, (c'.object o).name = (c.object o).name)
    (hfunction : ∀ o, (c'.object o).isFunction = (c.object o).isFunction) : b.Peopled c' := by
  intro o ho hnew
  have ho' : o.In c.extent := by
    show o.index < c.objects.size
    rw [← hsize]
    exact ho
  obtain ⟨hpool, hkind⟩ := h o ho' hnew
  rw [objectName, hname, hfunction]
  exact ⟨hpool, hkind⟩

theorem Peopled.of_objects (h : b.Peopled c) (hobjects : c'.objects = c.objects) :
    b.Peopled c' := by
  have hobject : ∀ o, c'.object o = c.object o := fun o => by rw [object, object, hobjects]
  exact h.congr (by rw [hobjects]) (fun o => by rw [hobject]) fun o => by rw [hobject]

/-- A function is one that was there before. -/
theorem Peopled.old_of_function (h : b.Peopled c) (hgrows : b.Grows c) {o : ObjectId}
    {f : FunctionInfo} (hf : (c.object o).function = some f) :
    o ∈ b.allObjects ∧ c.objectName o = b.objectName o := by
  have ho : o.In c.extent := in_of_function hf
  have hold : o.In b.extent := by
    by_contra hnew
    have hkind := (h o ho hnew).2
    rw [ObjectInfo.isFunction, hf] at hkind
    cases hkind
  exact ⟨mem_allObjects.mpr hold, hgrows.name o hold⟩

/-- The engine makes an object for a name out of the pool. -/
theorem Peopled.mem_namePool (h : b.Peopled c) (hgrows : b.Grows c) (hnames : c.Names)
    {name : String} (hname : c.Nameable name) : name ∈ b.namePool := by
  rw [namePool, List.mem_append, List.mem_append]
  obtain ⟨builtin, rfl⟩ | ⟨o, f, hf, rfl⟩ | ⟨o, f, p, hf, hp, rfl⟩ := hname
  · exact .inl (.inl (List.mem_map.mpr ⟨builtin, builtin.mem_all, rfl⟩))
  · obtain ⟨ho, hsame⟩ := h.old_of_function hgrows hf
    exact .inl (.inr (List.mem_map.mpr ⟨o, ho, by rw [hsame]⟩))
  · obtain ⟨ho, hsame⟩ := h.old_of_function hgrows hf
    refine .inr (List.mem_map.mpr ⟨o, ho, ?_⟩)
    rw [hnames.prototypeObject o f p hf hp, hsame]

theorem Peopled.pushObject (h : b.Peopled c) {name : String} (hname : name ∈ b.namePool) :
    b.Peopled (c.pushObject name none) := by
  intro o ho hnew
  rw [objectName, object_pushObject]
  by_cases hlast : o = ⟨c.objects.size⟩
  · rw [if_pos hlast]
    exact ⟨hname, rfl⟩
  · rw [if_neg hlast]
    refine h o ?_ hnew
    have hlt : o.index < (c.objects.push { name, function := none }).size := ho
    have hne : o.index ≠ c.objects.size := fun heq => hlast (congrArg ObjectId.mk heq)
    rw [Array.size_push] at hlt
    show o.index < c.objects.size
    omega

/-- Unless the host makes objects of its own, their names are out of the pool. -/
theorem Did.peopled {sc : Scope} (hchoice : ¬ sc.choice) (hc : c.Sound) (h : Did sc c c')
    (hgrows : b.Grows c) (hpeopled : b.Peopled c) : b.Peopled c' := by
  refine (h.change_induction (P := fun a => b.Grows a ∧ b.Peopled a) hc ?_ ?_
    ⟨hgrows, hpeopled⟩).2
  · rintro a a' ha hchange ⟨hgrows, hpeopled⟩
    refine ⟨hgrows.trans (hchange.grows ha.valid), ?_⟩
    obtain hbarren | ⟨hmade, -⟩ | ⟨name, function, hname, hfunction, rfl⟩ |
      ⟨owner, key, howner, -, -, -, rfl⟩ | htraffic := hchange.barren_or
    · exact hpeopled.congr hbarren.objects hbarren.name hbarren.isFunction
    · exact absurd hmade hchoice
    · obtain rfl : function = none := by
        cases function with
        | none => rfl
        | some f => exact absurd (hfunction f rfl).1 hchoice
      exact hpeopled.pushObject
        (hpeopled.mem_namePool hgrows ha.names (hname.resolve_left hchoice))
    · refine hpeopled.congr Array.size_modify ?_ ?_
      all_goals
        intro o
        rw [object_pushProperty howner]
        split <;> rfl
    · exact hpeopled.of_objects htraffic.objects_eq.1
  · rintro a id - hid ⟨hgrows, hpeopled⟩
    have hbarren := barren_classify hid
    exact ⟨hgrows.trans (grows_classify hid),
      hpeopled.congr hbarren.objects hbarren.name hbarren.isFunction⟩

/-- New objects have different names, so there are no more of them than names in the pool. -/
theorem Peopled.size_le (h : b.Peopled c) (hnames : c.Names) : c.objects.size ≤ b.objectBound := by
  let made : List ObjectId :=
    (List.range' b.objects.size (c.objects.size - b.objects.size)).map ObjectId.mk
  have hmade : ∀ o ∈ made, o.In c.extent ∧ ¬ o.In b.extent := by
    intro o ho
    obtain ⟨i, hi, rfl⟩ := List.mem_map.mp ho
    have hi := List.mem_range'_1.mp hi
    refine ⟨?_, ?_⟩
    · show i < c.objects.size
      omega
    · show ¬ i < b.objects.size
      omega
  have hnodup : made.Nodup :=
    (List.nodup_range' 1).map fun _ _ h => congrArg ObjectId.index h
  have hdifferent : (made.map c.objectName).Nodup := by
    refine List.Nodup.map_on ?_ hnodup
    exact fun o ho a ha hsame => hnames.unique o a (hmade o ho).1 (hmade a ha).1 hsame
  have hsub : made.map c.objectName ⊆ b.namePool := by
    intro name hname
    obtain ⟨o, ho, rfl⟩ := List.mem_map.mp hname
    exact (h o (hmade o ho).1 (hmade o ho).2).1
  have hle := (hdifferent.subperm hsub).length_le
  have hlength : made.length = c.objects.size - b.objects.size := by simp [made]
  rw [List.length_map, hlength, length_namePool] at hle
  rw [objectBound]
  omega

/-- Unless the host makes objects of its own, there are no more than the bound says. -/
theorem Did.objects_le {sc : Scope} (hchoice : ¬ sc.choice) (hc : c.Sound) (h : Did sc c c') :
    c'.objects.size ≤ c.objectBound :=
  (h.peopled hchoice hc (.refl c) (.refl c)).size_le (h.sound hc).names

/-! ## Properties and sets -/

/-- Only properties with known keys were made, each with two sets. -/
structure Stocked (b c : Compartment) : Prop where
  keyed : ∀ key, c.Keyed key → key = .index ∨ b.Keyed key
  made : ∃ made : List (ObjectId × Key), made.Nodup ∧
    c.sets.size = b.sets.size + 2 * made.length ∧
      ∀ q ∈ made, q.1.In c.extent ∧ (q.2 = .index ∨ b.Keyed q.2) ∧
        (c.object q.1).property? q.2 ≠ none

theorem Stocked.refl (b : Compartment) : b.Stocked b :=
  ⟨fun _ h => .inr h, [], List.nodup_nil, rfl, fun _ h => absurd h List.not_mem_nil⟩

/-- What was made stays, if no set is added and no key comes up. -/
theorem Stocked.congr (h : b.Stocked c) (hgrows : c.Grows c') (hsets : c'.sets.size = c.sets.size)
    (hkeyed : ∀ key, c'.Keyed key → key = .index ∨ c.Keyed key) : b.Stocked c' := by
  obtain ⟨made, hnodup, hsize, hall⟩ := h.made
  refine ⟨fun key hkey => ?_, made, hnodup, hsets.trans hsize, fun q hq => ?_⟩
  · exact (hkeyed key hkey).elim .inl (h.keyed key)
  · obtain ⟨hin, hkey, hfound⟩ := hall q hq
    obtain ⟨p, hp⟩ := Option.ne_none_iff_exists'.mp hfound
    refine ⟨hin.mono hgrows.extent, hkey, ?_⟩
    rw [hgrows.property? hp]
    nofun

theorem Stocked.barren (h : b.Stocked c) (hgrows : c.Grows c') (hbarren : c.Barren c') :
    b.Stocked c' := by
  refine h.congr hgrows hbarren.sets fun key hkey => .inr ?_
  obtain ⟨o, p, hp, rfl⟩ | ⟨id, code, target, access, hid⟩ := hkey
  · rw [hbarren.properties] at hp
    exact .inl ⟨o, p, hp, rfl⟩
  · have hbare := hbarren.quiet.bare id
    rw [hid] at hbare
    exact .inr ⟨id, code, target, access, Constraint.eq_of_bare_eq hbare.symm rfl⟩

/-- A constraint that is added brings up no key but the one of the elements. -/
theorem keyed_register {source : SetId} {k : Constraint} {callExisting : Bool}
    (hk : ∀ key ∈ k.key?, key = .index) {key : Key}
    (h : (c.register source k callExisting).Keyed key) : key = .index ∨ c.Keyed key := by
  obtain ⟨o, p, hp, hkey⟩ | ⟨id, code, target, access, hid⟩ := h
  · rw [object_register] at hp
    exact .inr (.inl ⟨o, p, hp, hkey⟩)
  · rw [constraint_register] at hid
    split at hid
    · exact .inl (hk key (by rw [hid]; rfl))
    · exact .inr (.inr ⟨id, code, target, access, hid⟩)

theorem Stocked.register (h : b.Stocked c) {source : SetId} (hsource : source.In c.extent)
    {k : Constraint} {callExisting : Bool} (hk : ∀ key ∈ k.key?, key = .index) :
    b.Stocked (c.register source k callExisting) := by
  refine h.congr (grows_register hsource k callExisting) ?_ fun key hkey => keyed_register hk hkey
  cases callExisting <;> exact Array.size_modify

theorem Stocked.pushProperty (h : b.Stocked c) {owner : ObjectId} {key : Key}
    (hgrows : c.Grows (c.pushProperty owner key)) (howner : owner.In c.extent)
    (hlacks : (c.object owner).property? key = none) (hkey : c.Keyed key) :
    b.Stocked (c.pushProperty owner key) := by
  obtain ⟨made, hnodup, hsize, hall⟩ := h.made
  have hnew : (owner, key) ∉ made := fun hmem => (hall _ hmem).2.2 hlacks
  refine ⟨fun key' hkey' => ?_, (owner, key) :: made, List.nodup_cons.mpr ⟨hnew, hnodup⟩, ?_, ?_⟩
  · obtain ⟨o, p, hp, rfl⟩ | ⟨id, hid⟩ := hkey'
    · rw [mem_properties_pushProperty howner] at hp
      obtain hp | ⟨-, rfl⟩ := hp
      · exact h.keyed _ (.inl ⟨o, p, hp, rfl⟩)
      · exact h.keyed _ hkey
    · exact h.keyed _ (.inr ⟨id, hid⟩)
  · have hpushed : (c.pushProperty owner key).sets.size = c.sets.size + 1 + 1 :=
      (Array.size_push _).trans (congrArg (· + 1) (Array.size_push _))
    rw [hpushed, hsize, List.length_cons]
    omega
  · intro q hq
    obtain rfl | hq := List.mem_cons.mp hq
    · refine ⟨howner.mono hgrows.extent, h.keyed _ hkey, ?_⟩
      rw [object_pushProperty howner, if_pos rfl]
      have hfound := ObjectInfo.property?_add_self (p := c.nextProperty key) hlacks
      rw [show (c.nextProperty key).key = key from rfl] at hfound
      rw [hfound]
      nofun
    · obtain ⟨hin, hkey', hfound⟩ := hall q hq
      obtain ⟨p, hp⟩ := Option.ne_none_iff_exists'.mp hfound
      refine ⟨hin.mono hgrows.extent, hkey', ?_⟩
      rw [hgrows.property? hp]
      nofun

/-- The engine only makes properties with known keys. -/
theorem Did.stocked (hc : c.Sound) (h : Did .engine c c') (hstocked : b.Stocked c) :
    b.Stocked c' := by
  refine h.change_induction hc ?_ ?_ hstocked
  · intro a a' ha hchange hstocked
    have hgrows := hchange.grows ha.valid
    obtain hbarren | ⟨name, hname, rfl⟩ | ⟨owner, key, howner, hlacks, hkey, rfl⟩ |
      ⟨target, t, htarget, -, rfl⟩ | ⟨source, target, hsource, -, rfl⟩ |
        ⟨id, code, objects, target, access, hid, hobjects, hk, rfl⟩ :=
      hchange.engine_cases ha.valid
    · exact hstocked.barren hgrows hbarren
    · refine hstocked.congr hgrows rfl fun key hkey => .inr ?_
      obtain ⟨o, p, hp, rfl⟩ | hconstraint := hkey
      · rw [properties_pushObject] at hp
        exact .inl ⟨o, p, hp, rfl⟩
      · exact .inr hconstraint
    · exact hstocked.pushProperty hgrows howner hlacks hkey
    · exact hstocked.congr hgrows Array.size_modify fun key hkey => .inr hkey
    · have hedge : b.Stocked (a.changeSet source (·.addTarget target)) :=
        hstocked.congr (grows_changeSet hsource (TypeSet.grows_addTarget _ target))
          Array.size_modify fun key hkey => .inr hkey
      exact hedge.register (by rwa [extent_changeSet]) nofun
    · have hwired : b.Stocked (a.changeConstraint id Constraint.wire) := by
        refine hstocked.congr (grows_changeConstraint hid (Constraint.evolves_wire _)) rfl ?_
        rintro key (hproperty | ⟨i, code', target', access', hi⟩)
        · exact .inr (.inl hproperty)
        · rw [constraint_changeConstraint hid] at hi
          split at hi
          · rename_i heq
            rw [← heq, hk] at hi
            cases hi
          · exact .inr (.inr ⟨i, code', target', access', hi⟩)
      refine hwired.register (by rwa [extent_changeConstraint]) ?_
      rintro _ ⟨⟩
      rfl
  · exact fun a id _ hid hstocked => hstocked.barren (grows_classify hid) (barren_classify hid)

/-- There are no more new sets than two for each object and each key. -/
theorem Stocked.size_le (h : b.Stocked c) (hb : b.Valid) (hapart : b.SetsApart)
    (hobjects : c.objects.size ≤ b.objectBound) : c.sets.size ≤ b.setBound := by
  obtain ⟨made, hnodup, hsize, hall⟩ := h.made
  have hsub : made ⊆ c.allObjects ×ˢ b.keyPool := by
    rintro ⟨o, key⟩ hq
    obtain ⟨ho, hkey, -⟩ := hall _ hq
    exact List.mem_product.mpr ⟨mem_allObjects.mpr ho, mem_keyPool hb hapart hkey⟩
  have hle := (hnodup.subperm hsub).length_le
  have hcount : c.allObjects.length = c.objects.size := by simp [allObjects]
  rw [List.length_product, hcount] at hle
  have hpairs : made.length ≤ b.objectBound * b.keyBound :=
    Nat.le_trans hle (Nat.mul_le_mul hobjects b.length_keyPool_le)
  have hassoc : 2 * b.objectBound * b.keyBound = 2 * (b.objectBound * b.keyBound) :=
    Nat.mul_assoc _ _ _
  rw [setBound, hassoc]
  omega

/-! ## Constraints -/

/-- The constraint brings up further constraints when it hears of types. -/
def begets (k : Constraint) : Bool :=
  match k with
  | .element .. | .call _ => true
  | _ => false

theorem begets_bare (k : Constraint) : begets k.bare = begets k := by cases k <;> rfl

/-- Every constraint that was made is an edge, or belongs to an element access that was there before
and is wired now, or is a filter, of which there is one at most for every type that a constraint
from before heard of. -/
structure Registered (b : Compartment) (done : List Work) (c : Compartment) : Prop where
  barren : ∀ id, ¬ id.In b.extent → begets (c.constraint id) = false
  made : ∃ (edges : List (SetId × SetId)) (wired : List ConstraintId) (filters : Nat),
    c.constraints.size = b.constraints.size + edges.length + wired.length + filters ∧
      (edges.Nodup ∧ ∀ e ∈ edges, (c.set e.1).flowsInto e.2 = true) ∧
        (wired.Nodup ∧ ∀ id ∈ wired, id.In b.extent ∧ (c.constraint id).isWired = true) ∧
          filters ≤ (done.filter (·.constraint.In b.extent)).length

theorem Registered.refl (b : Compartment) : b.Registered [] b where
  barren id hid := by
    rw [constraint_of_not_in hid]
    rfl
  made := ⟨[], [], 0, rfl, ⟨List.nodup_nil, nofun⟩, ⟨List.nodup_nil, nofun⟩, Nat.le_refl _⟩

variable {done : List Work}

/-- What was made stays, if no constraint is added. -/
theorem Registered.congr (h : b.Registered done c)
    (hcount : c'.constraints.size = c.constraints.size)
    (hbegets : ∀ id, begets (c'.constraint id) = begets (c.constraint id))
    (hwired : ∀ id, (c.constraint id).isWired = true → (c'.constraint id).isWired = true)
    (hflows : ∀ s t, (c.set s).flowsInto t = true → (c'.set s).flowsInto t = true) :
    b.Registered done c' := by
  obtain ⟨edges, wired, filters, hsize, ⟨hedges, hflow⟩, ⟨hnodup, hold⟩, hfilters⟩ := h.made
  refine ⟨fun id hid => (hbegets id).trans (h.barren id hid), edges, wired, filters,
    hcount.trans hsize, ⟨hedges, fun e he => hflows _ _ (hflow e he)⟩,
    ⟨hnodup, fun id hid => ⟨(hold id hid).1, hwired id (hold id hid).2⟩⟩, hfilters⟩

theorem Registered.quiet (h : b.Registered done c) (hquiet : c.Quiet c') : b.Registered done c' :=
  h.congr hquiet.count
    (fun id => by rw [← begets_bare, hquiet.bare, begets_bare])
    (fun id hid => by rwa [hquiet.wired]) fun s t hst => by rwa [hquiet.targets]

/-- A constraint that is added brings up no further ones. -/
theorem begets_register (h : ∀ id : ConstraintId, ¬ id.In b.extent → begets (c.constraint id) = false)
    {source : SetId} {k : Constraint} {callExisting : Bool} (hk : begets k = false)
    (id : ConstraintId) (hid : ¬ id.In b.extent) :
    begets ((c.register source k callExisting).constraint id) = false := by
  rw [constraint_register]
  split
  · exact hk
  · exact h id hid

/-- Adding a constraint leaves the marks of the others. -/
theorem isWired_register {source : SetId} {k : Constraint} {callExisting : Bool}
    {id : ConstraintId} (hid : id.In c.extent) (hwired : (c.constraint id).isWired = true) :
    ((c.register source k callExisting).constraint id).isWired = true := by
  rw [constraint_register, if_neg (ne_next_constraint hid)]
  exact hwired

theorem Registered.addEdge (h : b.Registered done c) (hgrows : b.Grows c) {source target : SetId}
    (hsource : source.In c.extent) (hnew : (c.set source).flowsInto target = false) :
    b.Registered done (c.addEdge source target) := by
  obtain ⟨edges, wired, filters, hsize, ⟨hedges, hflow⟩, ⟨hnodup, hold⟩, hfilters⟩ := h.made
  have hflows := flowsInto_addEdge hsource target
  have hfresh : (source, target) ∉ edges := by
    intro hmem
    rw [hflow _ hmem] at hnew
    cases hnew
  refine ⟨begets_register (c := c.changeSet source (·.addTarget target)) h.barren rfl,
    (source, target) :: edges, wired, filters, ?_, ⟨List.nodup_cons.mpr ⟨hfresh, hedges⟩, ?_⟩,
    ⟨hnodup, ?_⟩, hfilters⟩
  · rw [size_addEdge, List.length_cons]
    omega
  · intro e he
    obtain rfl | he := List.mem_cons.mp he
    · exact (hflows _ _).mpr (.inr ⟨rfl, rfl⟩)
    · exact (hflows _ _).mpr (.inl (hflow e he))
  · intro id hid
    obtain ⟨hin, hwired⟩ := hold id hid
    exact ⟨hin, isWired_register (hin.mono hgrows.extent) hwired⟩

theorem Registered.wireUp (h : b.Registered done c) (hgrows : b.Grows c) {id : ConstraintId}
    (hid : id.In c.extent) {code : Option Location} {objects target : SetId} {access : Access}
    (hobjects : objects.In c.extent)
    (hk : c.constraint id = .element code objects target access false) :
    b.Registered done (c.wireUp id objects (.property code .index target access)) := by
  obtain ⟨edges, wired, filters, hsize, ⟨hedges, hflow⟩, ⟨hnodup, hold⟩, hfilters⟩ := h.made
  have hbefore : id.In b.extent := by
    by_contra hnew
    have hbarren := h.barren id hnew
    rw [hk] at hbarren
    cases hbarren
  have hfresh : id ∉ wired := by
    intro hmem
    have hwired := (hold id hmem).2
    rw [hk] at hwired
    cases hwired
  have hchanged : ∀ i, (c.changeConstraint id Constraint.wire).constraint i =
      if id = i then (c.constraint i).wire else c.constraint i :=
    constraint_changeConstraint hid Constraint.wire
  have hbegets : ∀ i, ¬ i.In b.extent →
      begets ((c.changeConstraint id Constraint.wire).constraint i) = false := by
    intro i hi
    rw [hchanged, if_neg]
    · exact h.barren i hi
    · rintro rfl
      exact hi hbefore
  have hkept : ∀ i, i.In b.extent →
      ((c.changeConstraint id Constraint.wire).constraint i).isWired = true →
      ((c.wireUp id objects (.property code .index target access)).constraint i).isWired =
        true := by
    intro i hi hwired
    refine isWired_register ?_ hwired
    rw [extent_changeConstraint]
    exact hi.mono hgrows.extent
  refine ⟨begets_register hbegets rfl, edges, id :: wired, filters, ?_, ⟨hedges, ?_⟩,
    ⟨List.nodup_cons.mpr ⟨hfresh, hnodup⟩, ?_⟩, hfilters⟩
  · rw [size_wireUp, List.length_cons]
    omega
  · intro e he
    rw [flowsInto_wireUp hobjects]
    exact hflow e he
  · intro i hi
    obtain rfl | hi := List.mem_cons.mp hi
    · refine ⟨hbefore, hkept _ hbefore ?_⟩
      rw [hchanged, if_pos rfl, hk]
      rfl
    · obtain ⟨hin, hwired⟩ := hold i hi
      refine ⟨hin, hkept i hin ?_⟩
      rw [hchanged]
      split
      · exact (Constraint.evolves_wire _).wired hwired
      · exact hwired

/-- One more filter stands for one more type that a constraint from before heard of. -/
theorem Registered.filter (h : b.Registered done c) (hgrows : b.Grows c) {work : Work}
    (hcall : begets (c.constraint work.constraint) = true) {source target : SetId}
    (hsource : source.In c.extent) (mode : FilterMode) :
    b.Registered (done ++ [work]) (c.register source (.filter target mode) true) := by
  obtain ⟨edges, wired, filters, hsize, ⟨hedges, hflow⟩, ⟨hnodup, hold⟩, hfilters⟩ := h.made
  have hbefore : work.constraint.In b.extent := by
    by_contra hnew
    rw [h.barren _ hnew] at hcall
    cases hcall
  refine ⟨begets_register h.barren rfl, edges, wired, filters + 1, ?_, ⟨hedges, ?_⟩, ⟨hnodup, ?_⟩, ?_⟩
  · rw [size_register]
    omega
  · intro e he
    rw [flowsInto_register hsource]
    exact hflow e he
  · intro id hid
    obtain ⟨hin, hwired⟩ := hold id hid
    exact ⟨hin, isWired_register (hin.mono hgrows.extent) hwired⟩
  · rw [List.filter_append, List.length_append]
    simp [hbefore, hfilters]

theorem Registered.delivered (h : b.Registered done c) (work : Work) :
    b.Registered (done ++ [work]) c := by
  obtain ⟨edges, wired, filters, hsize, hedges, hwired, hfilters⟩ := h.made
  refine ⟨h.barren, edges, wired, filters, hsize, hedges, hwired, ?_⟩
  rw [List.filter_append, List.length_append]
  omega

/-- The engine only makes constraints that are edges or belong to element accesses. -/
theorem Did.registered (hc : c.Sound) (h : Did .engine c c') (hgrows : b.Grows c)
    (hregistered : b.Registered done c) : b.Registered done c' := by
  refine (h.change_induction (P := fun a => b.Grows a ∧ b.Registered done a) hc ?_ ?_
    ⟨hgrows, hregistered⟩).2
  · rintro a a' ha hchange ⟨hgrows, hregistered⟩
    refine ⟨hgrows.trans (hchange.grows ha.valid), ?_⟩
    obtain hquiet | - := hchange.quiet_or_traffic
    · exact hregistered.quiet hquiet
    obtain hbarren | ⟨name, -, rfl⟩ | ⟨owner, key, -, -, -, rfl⟩ |
      ⟨target, t, htarget, -, rfl⟩ | ⟨source, target, hsource, hnew, rfl⟩ |
        ⟨id, code, objects, target, access, hid, hobjects, hk, rfl⟩ :=
      hchange.engine_cases ha.valid
    · exact hregistered.quiet hbarren.quiet
    · exact hregistered.congr rfl (fun _ => rfl) (fun _ => id) fun _ _ => id
    · exact hregistered.congr rfl (fun _ => rfl) (fun _ => id) fun s t hst => by
        rwa [show (a.pushProperty owner key).set s = a.set s from
          (set_pushSet (c := a.pushSet) s).trans (set_pushSet s)]
    · exact hregistered.congr rfl (fun _ => rfl) (fun _ => id) fun s u hsu => by
        rwa [flowsInto_insertType htarget]
    · exact hregistered.addEdge hgrows hsource hnew
    · exact hregistered.wireUp hgrows hid hobjects hk
  · rintro a id - hid ⟨hgrows, hregistered⟩
    exact ⟨hgrows.trans (grows_classify hid), hregistered.quiet (quiet_classify id)⟩

/-! ## Work -/

/-- What was pending and what became pending since is what was delivered and what is pending.  A
constraint gets a type of its set once. -/
def Queued (b : Compartment) (done : List Work) (c : Compartment) : Prop :=
  ∃ works : List Work, b.worklist.pending ++ works = done ++ c.worklist.pending ∧ works.Nodup ∧
    ∀ w ∈ works, w.constraint ∈ (c.set w.source).constraints ∧ w.type ∈ (c.set w.source).types

theorem Queued.refl (b : Compartment) : b.Queued [] b :=
  ⟨[], List.append_nil _, List.nodup_nil, nofun⟩

/-- Work that is new, for constraints that listen and types that are there, becomes pending. -/
theorem Queued.extend (h : b.Queued done c) (hgrows : c.Grows c') {works : List Work}
    (hpending : c'.worklist.pending = c.worklist.pending ++ works) (hnodup : works.Nodup)
    (hnew : ∀ w ∈ works, w.constraint ∈ (c'.set w.source).constraints ∧
      w.type ∈ (c'.set w.source).types ∧
        ¬ (w.constraint ∈ (c.set w.source).constraints ∧ w.type ∈ (c.set w.source).types)) :
    b.Queued done c' := by
  obtain ⟨older, hbalance, holder, hall⟩ := h
  refine ⟨older ++ works, ?_, holder.append hnodup ?_, fun w hw => ?_⟩
  · rw [← List.append_assoc, hbalance, List.append_assoc, hpending]
  · intro w hw hw'
    exact (hnew w hw').2.2 (hall w hw)
  · obtain hw | hw := List.mem_append.mp hw
    · obtain ⟨hlistens, ht⟩ := hall w hw
      exact ⟨(hgrows.set _).constraints.subset hlistens, (hgrows.set _).types.subset ht⟩
    · exact ⟨(hnew w hw).1, (hnew w hw).2.1⟩

theorem Queued.congr (h : b.Queued done c) (hgrows : c.Grows c')
    (hpending : c'.worklist.pending = c.worklist.pending) : b.Queued done c' := by
  have hnothing : c'.worklist.pending = c.worklist.pending ++ [] := by
    rw [hpending, List.append_nil]
  exact h.extend hgrows hnothing List.nodup_nil nofun

theorem Queued.insertType (h : b.Queued done c) (hlisted : c.Listed) {target : SetId}
    (htarget : target.In c.extent) {t : Ty} (ht : t ∉ (c.set target).types)
    (hnew : (c.set target).has t = false) : b.Queued done (c.insertType target t) := by
  refine h.extend (grows_insertType htarget t) (pending_insertType t) ?_ fun w hw => ?_
  · exact (hlisted.nodup target).map fun _ _ h => congrArg Work.constraint h
  · obtain ⟨id, hid, rfl⟩ := List.mem_map.mp hw
    rw [constraints_insertType htarget, types_insertType htarget t hnew, if_pos rfl]
    exact ⟨hid, List.mem_append_right _ List.mem_cons_self, fun hold => ht hold.2⟩

theorem Queued.register (h : b.Queued done c) (hc : c.Valid) {source : SetId}
    (hsource : source.In c.extent) (k : Constraint) (callExisting : Bool) :
    b.Queued done (c.register source k callExisting) := by
  refine h.extend (grows_register hsource k callExisting) (pending_register k callExisting) ?_ ?_
  · split
    · exact (hc.sets source).coherent.nodup_types.map fun _ _ h => congrArg Work.type h
    · exact List.nodup_nil
  · intro w hw
    split at hw
    · obtain ⟨t, ht, rfl⟩ := List.mem_map.mp hw
      rw [mem_listeners_register hsource, types_register hsource]
      refine ⟨.inr ⟨rfl, rfl⟩, ht, fun hold => ?_⟩
      exact Nat.lt_irrefl _ ((hc.sets source).constraints _ hold.1)
    · cases hw

/-- What is delivered was the first that was pending. -/
theorem Queued.pop (h : b.Queued done c) {work : Work} {rest : Worklist}
    (hnext : c.worklist.next? = some (work, rest)) :
    b.Queued (done ++ [work]) (c.pop work rest) := by
  obtain ⟨works, hbalance, hnodup, hall⟩ := h
  refine ⟨works, ?_, hnodup, hall⟩
  rw [hbalance, Worklist.pending_of_next? hnext, List.append_assoc]
  rfl

/-- What the engine makes pending is new. -/
theorem Did.queued (hc : c.Sound) (h : Did .engine c c') (hlisted : c.Listed)
    (hqueued : b.Queued done c) : b.Queued done c' := by
  refine (h.flow_induction (P := fun a => a.Listed ∧ b.Queued done a) hc ?_ ?_
    ⟨hlisted, hqueued⟩).2
  · rintro a a' - hgrows hquiet ⟨hlisted, hqueued⟩
    exact ⟨hlisted.still hquiet.still, hqueued.congr hgrows hquiet.pending⟩
  · rintro a a' ha hgrows htraffic ⟨hlisted, hqueued⟩
    refine ⟨Did.listedOnce ha (.single (.traffic htraffic)) hlisted, ?_⟩
    cases htraffic with
    | insert htarget _ hnew =>
      refine hqueued.insertType hlisted htarget (fun ht => ?_) hnew
      rw [(ha.valid.sets _).coherent.has_of_mem ht] at hnew
      cases hnew
    | @edge source target hsource htarget =>
      have hedge : a.Grows (a.changeSet source (·.addTarget target)) :=
        grows_changeSet hsource (TypeSet.grows_addTarget _ target)
      refine (hqueued.congr hedge rfl).register ?_ (hsource.mono hedge.extent) _ _
      exact ha.valid.changeSet hsource ((ha.valid.sets source).addTarget htarget)
    | @wire id _ objects _ _ hid hk =>
      have hwired := grows_changeConstraint hid (Constraint.evolves_wire (a.constraint id))
      refine (hqueued.congr hwired rfl).register ?_ (in_wire (ha.valid.in_of_element hk)) _ _
      exact ha.valid.changeConstraint hid (ha.valid.constraints id).wire
    | register hasked => exact (hasked.elim id And.left).elim
    | pop hpasses => exact hpasses.elim
    | deliver hredelivery => exact hredelivery.elim
    | abandon haborts => exact haborts.elim

/-- Work for constraints of some sort is no more than that sort of constraints has types to hear
of. -/
theorem length_work_le (hlisted : c.Listed) (hc : c.Valid) {works : List Work} (hnodup : works.Nodup)
    (hall : ∀ w ∈ works, w.constraint ∈ (c.set w.source).constraints ∧
      w.type ∈ (c.set w.source).types) {ids : List ConstraintId}
    (hids : ∀ w ∈ works, w.constraint ∈ ids) :
    works.length ≤ ids.length * (c.objects.size + Ty.named.length) := by
  have hpairs : (works.map fun w => (w.constraint, w.type)).Nodup := by
    refine List.Nodup.map_on ?_ hnodup
    rintro ⟨id, s, t⟩ hw ⟨id', s', t'⟩ hw' hsame
    obtain ⟨rfl, rfl⟩ := Prod.mk.inj hsame
    rw [hlisted.only s' s id (hall _ hw').1 (hall _ hw).1]
  have hsub : (works.map fun w => (w.constraint, w.type)) ⊆ ids ×ˢ c.allTypes := by
    intro q hq
    obtain ⟨w, hw, rfl⟩ := List.mem_map.mp hq
    exact List.mem_product.mpr ⟨hids w hw, mem_allTypes ((hc.sets _).types _ (hall w hw).2)⟩
  have hle := (hpairs.subperm hsub).length_le
  rwa [List.length_map, List.length_product, length_allTypes] at hle

/-! ## The whole pass -/

/-- What a pass has made since it began. -/
structure Ledger (b : Compartment) (done : List Work) (c : Compartment) : Prop where
  sound : c.Sound
  grows : b.Grows c
  listed : c.Listed
  peopled : b.Peopled c
  stocked : b.Stocked c
  registered : b.Registered done c
  queued : b.Queued done c

theorem Ledger.start (hb : b.Sound) (hlisted : b.Listed) : b.Ledger [] b :=
  ⟨hb, Grows.refl b, hlisted, .refl b, .refl b, .refl b, .refl b⟩

/-- The scope of a pass in which the engine does something between two deliveries. -/
def Scope.running : Scope := { Scope.engine with passes := True }

/-- A filter that is put on a callee changes no object. -/
theorem Filtered.did {id : ConstraintId} (h : c.Filtered id c') : Did .running c c' := by
  obtain ⟨hcall, source, target, hsource, htarget, haside⟩ := h
  refine .step (.single (.traffic ?_)) (.aside haside)
  exact .register (.inr ⟨trivial, hcall.calls⟩) hsource htarget (.inl (.inl ⟨rfl, rfl⟩))

/-- One delivery, with what the engine does after it. -/
theorem Ledger.delivery (h : b.Ledger done c) {work : Work} {rest : Worklist}
    (hnext : c.worklist.next? = some (work, rest)) {c₁ : Compartment}
    (hdid : Did .engine (c.pop work rest) c₁)
    (hlast : c' = c₁ ∨ c₁.Filtered work.constraint c') : b.Ledger (done ++ [work]) c' := by
  have hpop : Did .running c (c.pop work rest) := .single (.traffic (.pop trivial hnext))
  have hpopped := hpop.sound h.sound
  have hgrows := hpop.grows h.sound
  have hgrows₁ := h.grows.trans (hgrows.trans (hdid.grows hpopped))
  have hlisted := hpop.listedOnce h.sound h.listed
  have hsound₁ := hdid.sound hpopped
  have hlisted₁ := hdid.listedOnce hpopped hlisted
  have hpeopled₁ := hdid.peopled id hpopped (h.grows.trans hgrows) (h.peopled.of_objects rfl)
  have hstocked₁ := hdid.stocked hpopped (h.stocked.congr hgrows rfl fun _ => .inr)
  have hregistered₁ : b.Registered done c₁ := hdid.registered hpopped (h.grows.trans hgrows)
    (h.registered.congr rfl (fun _ => rfl) (fun _ => id) fun _ _ => id)
  have hqueued₁ := hdid.queued hpopped hlisted (h.queued.pop hnext)
  obtain rfl | hfiltered := hlast
  · exact ⟨hsound₁, hgrows₁, hlisted₁, hpeopled₁, hstocked₁, hregistered₁.delivered work, hqueued₁⟩
  · have hdid' := hfiltered.did
    obtain ⟨⟨hid, site, hk⟩, source, target, hsource, -, haside⟩ := hfiltered
    have hbegets : begets (c₁.constraint work.constraint) = true := by rw [hk]; rfl
    refine ⟨hdid'.sound hsound₁, hgrows₁.trans (hdid'.grows hsound₁),
      hdid'.listedOnce hsound₁ hlisted₁, ?_, ?_, ?_, ?_⟩
    · exact hpeopled₁.of_objects (haside.objects.trans (objects_register _ _ _))
    · exact (hstocked₁.register hsource (k := .filter target .primitives) nofun).barren
        haside.grows haside.barren
    · exact (hregistered₁.filter hgrows₁ hbegets hsource .primitives).quiet haside.quiet
    · exact (hqueued₁.register hsound₁.valid hsource _ _).congr haside.grows haside.pending

/-- A pass keeps its ledger. -/
theorem Ran.ledger {n : Nat} (hb : b.Sound) (hlisted : b.Listed) (h : Ran .engine b n c) :
    ∃ done : List Work, done.length = n ∧ b.Ledger done c := by
  induction h with
  | start => exact ⟨[], rfl, .start hb hlisted⟩
  | @delivery n _ _ _ work _ _ hnext hdid hlast ih =>
    obtain ⟨done, hlength, hledger⟩ := ih
    exact ⟨done ++ [work], by rw [List.length_append, hlength, List.length_singleton],
      hledger.delivery hnext hdid hlast⟩

/-- There are no more edges than pairs of sets. -/
theorem length_edges_le (hc : c.Valid) {edges : List (SetId × SetId)} (hnodup : edges.Nodup)
    (hflows : ∀ e ∈ edges, (c.set e.1).flowsInto e.2 = true) :
    edges.length ≤ c.sets.size * c.sets.size := by
  have hsub : edges ⊆ c.allSets ×ˢ c.allSets := by
    rintro ⟨s, t⟩ he
    have hst := hflows _ he
    have hs : s.In c.extent := by
      by_contra hs
      rw [set_of_not_in hs] at hst
      simp [TypeSet.flowsInto, IndexSet.contains] at hst
    exact List.mem_product.mpr ⟨mem_allSets hs, mem_allSets ((hc.sets s).targets t hst)⟩
  have hle := (hnodup.subperm hsub).length_le
  have hcount : c.allSets.length = c.sets.size := by simp [allSets]
  rwa [List.length_product, hcount] at hle

namespace Ledger

variable (h : b.Ledger done c)
include h

theorem objects_le : c.objects.size ≤ b.objectBound := h.peopled.size_le h.sound.names

theorem types_le : c.objects.size + Ty.named.length ≤ b.typeBound :=
  Nat.add_le_add_right h.objects_le _

/-- The constraints that were there before the pass hear of so many types, and of what was pending
when it began. -/
theorem heard_le : (done.filter (·.constraint.In b.extent)).length ≤
    b.worklist.size + b.constraints.size * b.typeBound := by
  obtain ⟨works, hbalance, hnodup, hall⟩ := h.queued
  have hids : ∀ w ∈ works.filter (·.constraint.In b.extent),
      w.constraint ∈ b.allConstraints :=
    fun w hw => mem_allConstraints (by simpa using (List.mem_filter.mp hw).2)
  have hold := length_work_le h.listed h.sound.valid (hnodup.filter (·.constraint.In b.extent))
    (fun w hw => hall w (List.mem_of_mem_filter hw)) hids
  have hcount : b.allConstraints.length = b.constraints.size := by simp [allConstraints]
  rw [hcount] at hold
  have hbound := Nat.le_trans hold (Nat.mul_le_mul_left _ h.types_le)
  have hpending := List.length_filter_le (fun w : Work => w.constraint.In b.extent)
    b.worklist.pending
  have hboth := congrArg (fun ws => (ws.filter (·.constraint.In b.extent)).length) hbalance
  simp only [List.filter_append, List.length_append] at hboth
  rw [Worklist.length_pending] at hpending
  omega

theorem constraints_le (hb : b.Sound) (hapart : b.SetsApart) :
    c.constraints.size ≤ b.constraintBound := by
  obtain ⟨edges, wired, filters, hsize, ⟨hedges, hflows⟩, ⟨hnodup, hold⟩, hfilters⟩ :=
    h.registered.made
  have hsets := h.stocked.size_le hb.valid hapart h.objects_le
  have hpairs := Nat.le_trans (length_edges_le h.sound.valid hedges hflows)
    (Nat.mul_le_mul hsets hsets)
  have hwired := (hnodup.subperm fun id hid => mem_allConstraints (hold id hid).1).length_le
  have hcount : b.allConstraints.length = b.constraints.size := by simp [allConstraints]
  have hheard := h.heard_le
  rw [hcount] at hwired
  rw [constraintBound]
  omega

/-- A pass is no longer than its bound. -/
theorem length_le (hb : b.Sound) (hapart : b.SetsApart) : done.length ≤ b.deliveryBound := by
  obtain ⟨works, hbalance, hnodup, hall⟩ := h.queued
  have hids : ∀ w ∈ works, w.constraint ∈ c.allConstraints :=
    fun w hw => mem_allConstraints ((h.sound.valid.sets _).constraints _ (hall w hw).1)
  have hworks := length_work_le h.listed h.sound.valid hnodup hall hids
  have hcount : c.allConstraints.length = c.constraints.size := by simp [allConstraints]
  rw [hcount] at hworks
  have hbound := Nat.le_trans hworks
    (Nat.mul_le_mul (h.constraints_le hb hapart) h.types_le)
  have hboth := congrArg List.length hbalance
  rw [List.length_append, List.length_append, Worklist.length_pending] at hboth
  rw [deliveryBound]
  omega

end Ledger

/-- A pass without handlers takes no more deliveries than its bound allows. -/
theorem Ran.le_deliveryBound {n : Nat} (hb : b.Sound) (hlisted : b.Listed) (hapart : b.SetsApart)
    (h : Ran .engine b n c) : n ≤ b.deliveryBound := by
  obtain ⟨done, hlength, hledger⟩ := h.ledger hb hlisted
  rw [← hlength]
  exact hledger.length_le hb hapart

end Compartment

end FlowTypes
