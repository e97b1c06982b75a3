import FlowTypes.Proofs.Change

/-!
# Every change keeps a compartment sound

The three invariants of a sound compartment are kept by every single change, and so by every
sequence of changes.

## Main results

* `Change.valid`, `Change.forest`, `Change.names`: one invariant after the other.
* `Did.sound`, `Did.grows`: sequences of changes keep a compartment sound and take nothing back.
* `Did.trans`: sequences are put one behind the other.
-/

namespace FlowTypes

namespace TypeSet

variable {s : TypeSet} {e : Extent}

theorem Valid.insert (hs : s.Valid e) {t : Ty} (ht : t.In e) : (s.insert t).Valid e where
  coherent := coherent_insert hs.coherent t
  types u hu := by
    by_cases h : s.has t = true
    · rw [insert_of_has h] at hu
      exact hs.types u hu
    · rw [types_insert (by simpa using h), List.mem_append, List.mem_singleton] at hu
      obtain hu | rfl := hu
      · exact hs.types u hu
      · exact ht
  constraints k hk := by
    rw [constraints_insert] at hk
    exact hs.constraints k hk
  targets u hu := by
    unfold TypeSet.insert at hu
    split at hu
    · exact hs.targets u hu
    · exact hs.targets u hu

theorem Valid.listen (hs : s.Valid e) {k : ConstraintId} (hk : k.In e) : (s.listen k).Valid e where
  coherent := coherent_listen hs.coherent k
  types := hs.types
  constraints j hj := by
    rw [constraints_listen, List.mem_append, List.mem_singleton] at hj
    obtain hj | rfl := hj
    · exact hs.constraints j hj
    · exact hk
  targets := hs.targets

theorem Valid.addTarget (hs : s.Valid e) {target : SetId} (ht : target.In e) :
    (s.addTarget target).Valid e where
  coherent := coherent_addTarget hs.coherent target
  types := hs.types
  constraints := hs.constraints
  targets u hu := by
    rw [flowsInto_addTarget, Bool.or_eq_true, beq_iff_eq] at hu
    obtain hu | rfl := hu
    · exact hs.targets u hu
    · exact ht

end TypeSet

theorem Constraint.Valid.wire {k : Constraint} {e : Extent} (hk : k.Valid e) : k.wire.Valid e := by
  cases k <;> exact hk

theorem Constraint.Valid.spend {k : Constraint} {e : Extent} (hk : k.Valid e) :
    k.spend.Valid e := by
  cases k <;> exact hk

theorem ObjectInfo.Demoted.valid {o o' : ObjectInfo} (h : o.Demoted o') {e : Extent}
    (ho : o.Valid e) : o'.Valid e where
  properties p hp := ho.properties p (h.properties ▸ hp)
  proto p hp := ho.proto p (h.proto ▸ hp)
  instances i hi := ho.instances i (h.instances ▸ hi)
  newObject n hn := ho.newObject n (h.newObject ▸ hn)
  function f hf := ho.function f (h.function ▸ hf)

namespace Compartment

variable {c : Compartment}

/-! ## Handles stay in their tables -/

theorem Valid.insertType (h : c.Valid) {target : SetId} (htarget : target.In c.extent) {t : Ty}
    (ht : t.In c.extent) : (c.insertType target t).Valid := by
  have hset := h.changeSet htarget (f := (·.insert t)) ((h.sets target).insert ht)
  refine (hset.record _).enqueue ?_
  intro w hw
  rw [extent_record, extent_changeSet]
  obtain ⟨k, hk, rfl⟩ := List.mem_map.mp hw
  exact ⟨(h.sets target).constraints k hk, htarget, ht⟩

theorem extent_attach (source : SetId) (k : Constraint) (callExisting : Bool) :
    (c.attach source k callExisting).extent =
      { c.extent with constraints := c.constraints.size + 1 } := by
  simp [attach, extent, record, changeSet]

theorem set_attach {source : SetId} (hsource : source.In c.extent) (k : Constraint)
    (callExisting : Bool) (id : SetId) :
    (c.attach source k callExisting).set id =
      if source = id then (c.set id).listen ⟨c.constraints.size⟩ else c.set id :=
  set_changeSet hsource (·.listen ⟨c.constraints.size⟩) id

theorem constraint_attach (source : SetId) (k : Constraint) (callExisting : Bool)
    (id : ConstraintId) :
    (c.attach source k callExisting).constraint id =
      if id = ⟨c.constraints.size⟩ then k else c.constraint id :=
  constraint_push (c := c) k id

theorem Valid.attach (h : c.Valid) {source : SetId} (hsource : source.In c.extent)
    {k : Constraint} (hk : k.Valid c.extent) (callExisting : Bool) :
    (c.attach source k callExisting).Valid := by
  have hwithin := (grows_attach hsource k callExisting).extent
  refine h.extend (.of_tables hwithin ?_ ?_ (fun _ => .inl rfl) (fun _ => .inl rfl)
    rfl rfl rfl rfl rfl)
  · intro id
    rw [set_attach hsource]
    split
    · refine .inr (((h.sets id).mono hwithin).listen ?_)
      rw [extent_attach]
      show c.constraints.size < c.constraints.size + 1
      omega
    · exact .inl rfl
  · intro id
    rw [constraint_attach]
    split
    · exact .inr (hk.mono hwithin)
    · exact .inl rfl

theorem Valid.register (h : c.Valid) {source : SetId} (hsource : source.In c.extent)
    {k : Constraint} (hk : k.Valid c.extent) (callExisting : Bool) :
    (c.register source k callExisting).Valid := by
  unfold Compartment.register
  split
  · refine (h.attach hsource hk true).enqueue ?_
    intro w hw
    have hwithin := (grows_attach hsource k true).extent
    obtain ⟨t, ht, rfl⟩ := List.mem_map.mp hw
    refine ⟨?_, hsource.mono hwithin, ((h.sets source).types t ht).mono hwithin⟩
    rw [extent_attach]
    show c.constraints.size < c.constraints.size + 1
    omega
  · exact h.attach hsource hk false

theorem Valid.addEdge (h : c.Valid) {source target : SetId} (hsource : source.In c.extent)
    (htarget : target.In c.extent) : (c.addEdge source target).Valid := by
  have hset := h.changeSet hsource (f := (·.addTarget target)) ((h.sets source).addTarget htarget)
  refine hset.register ?_ ?_ true
  · rwa [extent_changeSet]
  · rw [extent_changeSet]
    exact htarget

theorem Valid.wireUp (h : c.Valid) {id : ConstraintId} (hid : id.In c.extent) {objects : SetId}
    (hobjects : objects.In c.extent) {k : Constraint} (hk : k.Valid c.extent) :
    (c.wireUp id objects k).Valid := by
  have hwire := h.changeConstraint hid (f := Constraint.wire) (h.constraints id).wire
  refine hwire.register ?_ ?_ true
  · rwa [extent_changeConstraint]
  · rwa [extent_changeConstraint]

theorem Valid.spend (h : c.Valid) {id : ConstraintId} (hid : id.In c.extent) (script : ScriptId) :
    (c.spend id script).Valid :=
  (h.changeConstraint hid (f := Constraint.spend) (h.constraints id).spend).extend
    (.of_tables (.refl _) (fun _ => .inl rfl) (fun _ => .inl rfl) (fun _ => .inl rfl)
      (fun _ => .inl rfl) rfl rfl rfl rfl rfl)

theorem Valid.notifyKind (h : c.Valid) (id : ObjectId) : (c.notifyKind id).Valid :=
  notifyKind_induction (P := Valid)
    (fun _ _ script _ hk hc => hc.spend (in_of_heldFor (heldFor_of_elementKind hk)) script) id h

theorem Valid.pushProperty (h : c.Valid) {owner : ObjectId} (howner : owner.In c.extent)
    (key : Key) : (c.pushProperty owner key).Valid := by
  have hsets : c.Grows c.pushSet.pushSet := grows_pushSet.trans grows_pushSet
  have hvalid : c.pushSet.pushSet.Valid := h.pushSet.pushSet
  have hsize : c.pushSet.pushSet.sets.size = c.sets.size + 2 := by
    simp [Compartment.pushSet]
  refine (hvalid.changeObject (howner.mono hsets.extent) ?_).record _
  have hobject := hvalid.objects owner
  refine ⟨?_, hobject.proto, hobject.instances, hobject.newObject, hobject.function⟩
  intro p hp
  have hp : p ∈ (c.pushSet.pushSet.object owner).properties ++ [c.nextProperty key] := hp
  rw [List.mem_append, List.mem_singleton] at hp
  obtain hp | rfl := hp
  · exact hobject.properties p hp
  · constructor
    · show c.sets.size < c.pushSet.pushSet.sets.size
      omega
    · show c.sets.size + 1 < c.pushSet.pushSet.sets.size
      omega

theorem Valid.setProto (h : c.Valid) {id proto : ObjectId} (hid : id.In c.extent)
    (hproto : proto.In c.extent) (hne : id ≠ proto) : (c.setProto id proto).Valid := by
  have hextent : (c.setProto id proto).extent = c.extent := by
    rw [Compartment.setProto, extent_record, extent_changeObject, extent_changeObject]
  refine h.extend (.of_tables (hextent ▸ .refl _) (fun _ => .inl rfl) (fun _ => .inl rfl) ?_
    (fun _ => .inl rfl) rfl rfl rfl rfl rfl)
  intro o
  rw [object_setProto hid hproto hne, hextent]
  have hobject := h.objects o
  refine .inr ⟨hobject.properties, fun p hp => ?_, fun i hi => ?_, hobject.newObject,
    hobject.function⟩
  · dsimp only at hp
    split at hp
    · cases hp
      exact hproto
    · exact hobject.proto p hp
  · dsimp only at hi
    split at hi
    · obtain hi | hi := List.mem_append.mp hi
      · exact hobject.instances i hi
      · rw [List.mem_singleton.mp hi]
        exact hid
    · exact hobject.instances i hi

theorem Aside.extended {c' : Compartment} (h : c.Aside c') : Extended c c' := by
  have hset : c'.set = c.set := by funext id; rw [set, set, h.sets]
  have hconstraint : c'.constraint = c.constraint := by
    funext id
    rw [constraint, constraint, h.constraints]
  have hobject : c'.object = c.object := by funext id; rw [object, object, h.objects]
  have hsite : c'.site = c.site := by funext id; rw [site, site, h.sites]
  have hwithin := h.grows.extent
  constructor
  · exact hwithin
  · exact fun id => .inl (congrFun hset id)
  · exact fun id => .inl (congrFun hconstraint id)
  · exact fun id => .inl (congrFun hobject id)
  · exact fun id => .inl (congrFun hsite id)
  · intro b hb
    rw [h.builtins] at hb
    exact .inl hb
  · exact fun i hi => (h.initializers i hi).imp_right fun hi => hi.1.mono hwithin
  · exact fun s hs => (h.scripts s hs).imp_right fun hs => hs.mono hwithin
  · exact h.representatives
  · exact h.slots
  · exact h.slotCount
  · intro w hw
    rw [h.pending] at hw
    exact .inl hw

theorem Traffic.valid {sc : Scope} {c' : Compartment} (hc : c.Valid) (h : c.Traffic sc c') :
    c'.Valid := by
  cases h with
  | insert htarget ht => exact hc.insertType htarget ht
  | register _ hsource hk => exact hc.register hsource hk _
  | edge hsource htarget => exact hc.addEdge hsource htarget
  | @wire id _ _ _ _ hid hk =>
    have hconstraint := hc.constraints id
    rw [hk] at hconstraint
    exact hc.wireUp hid hconstraint.1 hconstraint.2
  | @pop work rest _ hnext =>
    refine (hc.extend (extended_changeWorklist (f := fun _ => rest) ?_)).record _
    intro w hw
    left
    rw [Worklist.pending_of_next? hnext]
    exact List.mem_cons_of_mem _ hw
  | deliver _ hwork =>
    refine hc.enqueue ?_
    intro w hw
    rw [List.mem_singleton.mp hw]
    exact hwork
  | @abandon e =>
    have hclear : ((c.record (.passAborted e)).changeWorklist (·.clear.stop)).Valid :=
      (hc.record _).extend (extended_changeWorklist (f := (·.clear.stop)) fun w hw => by cases hw)
    exact hclear.extend (.of_tables (.refl _) (fun _ => .inl rfl) (fun _ => .inl rfl)
      (fun _ => .inl rfl) (fun _ => .inl rfl) rfl rfl rfl rfl rfl)

/-- A change keeps every handle in its table. -/
theorem Change.valid {sc : Scope} {c' : Compartment} (hc : c.Valid) (h : c.Change sc c') :
    c'.Valid := by
  cases h with
  | traffic h => exact h.valid hc
  | aside h => exact hc.extend h.extended
  | pushSet => exact hc.pushSet
  | pushObject _ _ hfunction =>
    refine (hc.pushObject ?_).record _
    constructor
    · intro p hp
      cases hp
    · intro p hp
      cases hp
    · intro i hi
      cases hi
    · intro n hn
      cases hn
    · exact fun f hf => (hfunction f hf).2.1
  | pushProperty howner => exact hc.pushProperty howner _
  | setProto hid hproto _ hne => exact hc.setProto hid hproto hne
  | @memo id _ hid hnew =>
    have hobject := hc.objects id
    refine hc.changeObject hid
      ⟨hobject.properties, hobject.proto, hobject.instances, ?_, hobject.function⟩
    rintro n ⟨⟩
    exact hnew
  | @retool id g hid hg =>
    have hobject := hc.objects id
    refine hc.changeObject hid
      ⟨hobject.properties, hobject.proto, hobject.instances, hobject.newObject, ?_⟩
    intro f hf
    obtain ⟨f', hf', rfl⟩ := Option.map_eq_some_iff.mp hf
    exact (hg f' hf').valid
  | @possiblyPacked id _ hid =>
    have hobject := hc.objects id
    exact hc.changeObject hid
      ⟨hobject.properties, hobject.proto, hobject.instances, hobject.newObject, hobject.function⟩
  | builtin hid =>
    refine hc.extend ⟨.refl _, fun _ => .inl rfl, fun _ => .inl rfl, fun _ => .inl rfl,
      fun _ => .inl rfl, ?_, fun _ h => .inl h, fun _ h => .inl h, fun _ h => .inl h,
      fun _ h => .inl h, fun h => h, fun _ h => .inl h⟩
    intro b hb
    obtain hb | hb := List.mem_append.mp hb
    · exact .inl hb
    · rw [List.mem_singleton.mp hb]
      exact .inr hid
  | @demote id _ hid hf => exact (hc.changeObject hid (hf.valid (hc.objects id))).notifyKind id
  | spend hheld => exact hc.spend (in_of_heldFor hheld) _
  | handOut =>
    exact hc.extend (.of_tables (.refl _) (fun _ => .inl rfl) (fun _ => .inl rfl)
      (fun _ => .inl rfl) (fun _ => .inl rfl) rfl rfl rfl rfl rfl)
  | pushSite _ hs => exact hc.pushSite hs
  | changeSite _ hid _ hf => exact hc.changeSite hid hf

/-! ## The forest and the names -/

theorem objects_register (source : SetId) (k : Constraint) (callExisting : Bool) :
    (c.register source k callExisting).objects = c.objects := by
  unfold Compartment.register
  split <;> rfl

theorem builtins_register (source : SetId) (k : Constraint) (callExisting : Bool) :
    (c.register source k callExisting).builtins = c.builtins := by
  unfold Compartment.register
  split <;> rfl

theorem object_register (source : SetId) (k : Constraint) (callExisting : Bool) (o : ObjectId) :
    (c.register source k callExisting).object o = c.object o := by
  rw [object, objects_register, object]

theorem objects_notifyKind (id : ObjectId) : (c.notifyKind id).objects = c.objects :=
  notifyKind_induction (P := fun c' => c'.objects = c.objects) (fun _ _ _ _ _ h => h) id rfl

theorem builtins_notifyKind (id : ObjectId) : (c.notifyKind id).builtins = c.builtins :=
  notifyKind_induction (P := fun c' => c'.builtins = c.builtins) (fun _ _ _ _ _ h => h) id rfl

theorem object_notifyKind (id o : ObjectId) : (c.notifyKind id).object o = c.object o := by
  rw [object, objects_notifyKind, object]

theorem object_pushObject (name : String) (function : Option FunctionInfo) (o : ObjectId) :
    (c.pushObject name function).object o =
      if o = ⟨c.objects.size⟩ then { name, function } else c.object o :=
  object_push (c := c) { name, function } o

/-- The place of a new object is empty before, so that no more than a name and a function are new. -/
theorem object_pushObject_eq (name : String) (function : Option FunctionInfo) (o : ObjectId) :
    (c.pushObject name function).object o = { c.object o with
      name := if o = ⟨c.objects.size⟩ then name else (c.object o).name
      function := if o = ⟨c.objects.size⟩ then function else (c.object o).function } := by
  have hempty : c.object ⟨c.objects.size⟩ = default := object_of_not_in (Nat.lt_irrefl _)
  rw [object_pushObject]
  split
  · rename_i ho
    rw [ho, hempty]
    rfl
  · rfl

theorem object_pushProperty {owner : ObjectId} (howner : owner.In c.extent) (key : Key)
    (o : ObjectId) :
    (c.pushProperty owner key).object o =
      if owner = o then (c.object o).addProperty (c.nextProperty key) else c.object o := by
  have hin : owner.In c.pushSet.pushSet.extent :=
    howner.mono (grows_pushSet.trans grows_pushSet : c.Grows c.pushSet.pushSet).extent
  exact object_changeObject hin (·.addProperty (c.nextProperty key)) o

theorem Traffic.objects_eq {sc : Scope} {c' : Compartment} (h : c.Traffic sc c') :
    c'.objects = c.objects ∧ c'.builtins = c.builtins := by
  cases h with
  | insert | pop | deliver | abandon => exact ⟨rfl, rfl⟩
  | register | edge | wire => exact ⟨objects_register _ _ _, builtins_register _ _ _⟩

/-- The objects decide about the forest. -/
theorem Forest.of_objects {c' : Compartment} (h : c.Forest) (hobjects : c'.objects = c.objects) :
    c'.Forest := by
  have hobject : ∀ o, c'.object o = c.object o := by
    intro o
    rw [object, object, hobjects]
  exact h.congr (fun o => by rw [hobject]) fun o => by rw [hobject]

/-- A change keeps the forest of prototypes. -/
theorem Change.forest {sc : Scope} {c' : Compartment} (hforest : c.Forest)
    (h : c.Change sc c') : c'.Forest := by
  cases h with
  | traffic h => exact hforest.of_objects h.objects_eq.1
  | aside h => exact hforest.of_objects h.objects
  | pushSet => exact hforest.of_objects rfl
  | @pushObject name function =>
    exact hforest.congr (fun o => by rw [object_pushObject_eq]) fun o => by rw [object_pushObject_eq]
  | @pushProperty owner key howner =>
    have hsame : ∀ o, ((c.pushProperty owner key).object o).proto = (c.object o).proto ∧
        ((c.pushProperty owner key).object o).instances = (c.object o).instances := by
      intro o
      rw [object_pushProperty howner]
      split <;> exact ⟨rfl, rfl⟩
    exact hforest.congr (fun o => (hsame o).1) fun o => (hsame o).2
  | setProto hid hproto hnone hne hup => exact forest_setProto hid hproto hforest hnone hne hup
  | memo hid =>
    exact hforest.congr
      (fun o => by rw [object_changeObject hid]; split <;> rfl)
      fun o => by rw [object_changeObject hid]; split <;> rfl
  | retool hid =>
    exact hforest.congr
      (fun o => by rw [changeFunction, object_changeObject hid]; split <;> rfl)
      fun o => by rw [changeFunction, object_changeObject hid]; split <;> rfl
  | possiblyPacked _ hid =>
    exact hforest.congr
      (fun o => by rw [object_changeObject hid]; split <;> rfl)
      fun o => by rw [object_changeObject hid]; split <;> rfl
  | builtin => exact hforest.of_objects rfl
  | @demote id f hid hf =>
    have hsame : ∀ o, (((c.changeObject id f).notifyKind id).object o).proto = (c.object o).proto ∧
        (((c.changeObject id f).notifyKind id).object o).instances = (c.object o).instances := by
      intro o
      rw [object_notifyKind, object_changeObject hid]
      split
      · rename_i ho
        subst ho
        exact ⟨hf.proto, hf.instances⟩
      · exact ⟨rfl, rfl⟩
    exact hforest.congr (fun o => (hsame o).1) fun o => (hsame o).2
  | spend | handOut => exact hforest.of_objects rfl
  | pushSite => exact hforest.of_objects rfl
  | changeSite => exact hforest.of_objects rfl

/-- A new object does not take a name that is in use. -/
theorem Names.pushObject (h : c.Names) {name : String} {function : Option FunctionInfo}
    (hc : c.Valid) (hfresh : c.objectNamed? name = none)
    (hfunction : ∀ f ∈ function, f.prototypeObject = none) : (c.pushObject name function).Names := by
  have hname : ∀ o : ObjectId, o.In c.extent →
      (c.pushObject name function).objectName o = c.objectName o := by
    intro o ho
    rw [objectName, object_pushObject, if_neg (ne_next_object ho), objectName]
  have hnew : (c.pushObject name function).objectName ⟨c.objects.size⟩ = name := by
    rw [objectName, object_pushObject, if_pos rfl]
  have hsplit : ∀ o : ObjectId, o.In (c.pushObject name function).extent →
      o = ⟨c.objects.size⟩ ∨ o.In c.extent := by
    rintro ⟨i⟩ hi
    have hi : i < (c.objects.push { name, function }).size := hi
    rw [Array.size_push] at hi
    by_cases hi' : i = c.objects.size
    · exact .inl (congrArg ObjectId.mk hi')
    · right
      show i < c.objects.size
      omega
  constructor
  · intro a b ha hb hab
    obtain rfl | ha := hsplit a ha
    · obtain rfl | hb := hsplit b hb
      · rfl
      · rw [hnew, hname b hb] at hab
        exact absurd hab.symm (objectNamed?_none hfresh hb)
    · obtain rfl | hb := hsplit b hb
      · rw [hnew, hname a ha] at hab
        exact absurd hab (objectNamed?_none hfresh ha)
      · rw [hname a ha, hname b hb] at hab
        exact h.unique a b ha hb hab
  · intro o n hn
    rw [object_pushObject] at hn
    split at hn
    · cases hn
    · rw [hname o (in_of_newObject hn), hname n ((hc.objects o).newObject n hn)]
      exact h.newObject o n hn
  · intro o f p hf hp
    rw [object_pushObject] at hf
    split at hf
    · rw [hfunction f hf] at hp
      cases hp
    · have hpin := ((hc.objects o).function f hf).prototypeObject p hp
      rw [hname o (in_of_function hf), hname p hpin]
      exact h.prototypeObject o f p hf hp
  · intro b hb
    rw [hname b.2 (hc.builtins b hb)]
    exact h.builtins b hb
  · intro o
    rw [object_pushObject_eq]
    exact h.keys o

/-- A change of one object that neither renames it nor adds properties. -/
theorem Names.changeObject (h : c.Names) {id : ObjectId} (hid : id.In c.extent)
    {f : ObjectInfo → ObjectInfo} (hname : (f (c.object id)).name = (c.object id).name)
    (hnew : ∀ n, (f (c.object id)).newObject = some n → (c.object id).newObject = some n ∨
      c.objectName n = c.objectName id ++ ":new")
    (hproto : ∀ g p, (f (c.object id)).function = some g → g.prototypeObject = some p →
      (∃ g', (c.object id).function = some g' ∧ g'.prototypeObject = some p) ∨
        c.objectName p = c.objectName id ++ ":prototype")
    (hkeys : ((f (c.object id)).properties.map Property.key).Nodup) :
    (c.changeObject id f).Names := by
  refine h.of_name (by rw [extent_changeObject]) ?_ ?_ ?_ (fun _ hb => .inl hb) ?_
  · intro o
    rw [objectName, object_changeObject hid]
    split
    · rename_i ho
      rw [← ho, hname, objectName]
    · rfl
  · intro o n hn
    rw [object_changeObject hid] at hn
    split at hn
    · rename_i ho
      subst ho
      exact hnew n hn
    · exact .inl hn
  · intro o g p hg hp
    rw [object_changeObject hid] at hg
    split at hg
    · rename_i ho
      subst ho
      exact hproto g p hg hp
    · exact .inl ⟨g, hg, hp⟩
  · intro o
    rw [object_changeObject hid]
    split
    · rename_i ho
      subst ho
      exact hkeys
    · exact h.keys o

/-- A change keeps names names of one object. -/
theorem Change.names {sc : Scope} {c' : Compartment} (hc : c.Valid) (hnames : c.Names)
    (h : c.Change sc c') : c'.Names := by
  cases h with
  | traffic h => exact hnames.congr h.objects_eq.1 h.objects_eq.2
  | aside h => exact hnames.congr h.objects h.builtins
  | pushSet => exact hnames.congr rfl rfl
  | pushObject hfresh _ hfunction =>
    exact hnames.pushObject hc hfresh fun f hf => (hfunction f hf).2.2.1
  | @pushProperty owner key howner hknown hlacks =>
    have hsets : c.pushSet.pushSet.Names := hnames.congr rfl rfl
    have hin : owner.In c.pushSet.pushSet.extent :=
      howner.mono (grows_pushSet.trans grows_pushSet : c.Grows c.pushSet.pushSet).extent
    have hchange : (c.pushSet.pushSet.changeObject owner
        (·.addProperty (c.nextProperty key))).Names := by
      refine hsets.changeObject hin rfl (fun _ hn => .inl hn) (fun g p hg hp => .inl ⟨g, hg, hp⟩) ?_
      show (((c.object owner).properties ++ [c.nextProperty key]).map Property.key).Nodup
      rw [List.map_append]
      refine (hnames.keys owner).append (List.nodup_singleton _) ?_
      rw [List.map_singleton, List.disjoint_singleton, List.mem_map]
      rintro ⟨p, hp, hpkey⟩
      have hpkey : p.key = key := hpkey
      exact absurd hpkey (by simpa using List.find?_eq_none.mp hlacks p hp)
    exact hchange.congr rfl rfl
  | @setProto id proto hid hproto =>
    have hfirst : (c.changeObject proto fun o =>
        { o with instances := o.instances ++ [id] }).Names :=
      hnames.changeObject hproto rfl (fun _ hn => .inl hn) (fun g p hg hp => .inl ⟨g, hg, hp⟩)
        (hnames.keys proto)
    have hin : id.In (c.changeObject proto fun o =>
        { o with instances := o.instances ++ [id] }).extent := by rwa [extent_changeObject]
    have hsecond := hfirst.changeObject hin (f := fun o => { o with proto := some proto }) rfl
      (fun _ hn => .inl hn) (fun g p hg hp => .inl ⟨g, hg, hp⟩) (hfirst.keys id)
    exact hsecond.congr rfl rfl
  | @memo id new hid _ hname =>
    refine hnames.changeObject hid rfl ?_ (fun g p hg hp => .inl ⟨g, hg, hp⟩) (hnames.keys id)
    rintro n ⟨⟩
    exact .inr hname
  | @retool id g hid hg =>
    refine hnames.changeObject hid rfl (fun _ hn => .inl hn) ?_ (hnames.keys id)
    intro f p hf hp
    obtain ⟨f', hf', rfl⟩ := Option.map_eq_some_iff.mp hf
    exact ((hg f' hf').prototypeObject p hp).imp_left fun hp => ⟨f', hf', hp⟩
  | @possiblyPacked id _ hid =>
    exact hnames.changeObject hid rfl (fun _ hn => .inl hn) (fun g p hg hp => .inl ⟨g, hg, hp⟩)
      (hnames.keys id)
  | builtin hid hname =>
    refine hnames.of_name rfl (fun _ => rfl) (fun _ _ hn => .inl hn)
      (fun _ f p hf hp => .inl ⟨f, hf, hp⟩) ?_ hnames.keys
    intro b hb
    obtain hb | hb := List.mem_append.mp hb
    · exact .inl hb
    · rw [List.mem_singleton.mp hb]
      exact .inr hname
  | @demote id f hid hf =>
    have hchange := hnames.changeObject hid hf.name
      (fun n hn => .inl (by rwa [hf.newObject] at hn))
      (fun g p hg hp => .inl ⟨g, by rwa [hf.function] at hg, hp⟩)
      (by rw [hf.properties]; exact hnames.keys id)
    refine notifyKind_induction (P := Names) ?_ id hchange
    exact fun _ _ _ _ _ h => h.congr rfl rfl
  | spend | handOut => exact hnames.congr rfl rfl
  | pushSite => exact hnames.congr rfl rfl
  | changeSite => exact hnames.congr rfl rfl

/-! ## Sequences of changes -/

/-- A change keeps a compartment sound. -/
theorem Change.sound {sc : Scope} {c' : Compartment} (hc : c.Sound) (h : c.Change sc c') :
    c'.Sound :=
  ⟨h.valid hc.valid, h.forest hc.forest, h.names hc.valid hc.names⟩

theorem Sound.register (hc : c.Sound) {source : SetId} (hsource : source.In c.extent) {k : Constraint}
    (hk : k.Valid c.extent) (callExisting : Bool) : (c.register source k callExisting).Sound :=
  ⟨hc.valid.register hsource hk callExisting, hc.forest.of_objects (objects_register _ _ _),
    hc.names.congr (objects_register _ _ _) (builtins_register _ _ _)⟩

theorem Sound.classify (hc : c.Sound) {id : ObjectId} (hid : id.In c.extent) :
    (c.classify id).Sound := by
  have hobject := hc.valid.objects id
  refine ⟨?_, ?_, ?_⟩
  · exact hc.valid.changeObject hid
      ⟨hobject.properties, hobject.proto, hobject.instances, hobject.newObject, hobject.function⟩
  · exact hc.forest.congr
      (fun o => by rw [Compartment.classify, object_changeObject hid]; split <;> rfl)
      fun o => by rw [Compartment.classify, object_changeObject hid]; split <;> rfl
  · exact hc.names.changeObject hid rfl (fun _ hn => .inl hn)
      (fun g p hg hp => .inl ⟨g, hg, hp⟩) (hc.names.keys id)

/-- A sequence of changes keeps a compartment sound. -/
theorem Did.sound {sc : Scope} {c c' : Compartment} (hc : c.Sound) (h : Did sc c c') :
    c'.Sound := by
  induction h with
  | refl => exact hc
  | step _ hchange ih => exact hchange.sound (ih hc)
  | classify _ _ _ hid _ _ ih ih' => exact (ih' (ih hc)).classify hid

/-- A sequence of changes takes nothing back. -/
theorem Did.grows {sc : Scope} {c c' : Compartment} (hc : c.Sound) (h : Did sc c c') :
    c.Grows c' := by
  induction h with
  | refl c => exact Grows.refl c
  | step h hchange ih => exact (ih hc).trans (hchange.grows (h.sound hc).valid)
  | classify h _ _ hid _ _ ih ih' =>
    exact ((ih hc).trans (ih' (h.sound hc))).trans (grows_classify hid)

theorem Did.trans {sc : Scope} {c c' c'' : Compartment} (h : Did sc c c') (h' : Did sc c' c'') :
    Did sc c c'' := by
  induction h' with
  | refl => exact h
  | step _ hchange ih => exact .step (ih h) hchange
  | classify _ hnone hbetween hid harray hknown ih _ =>
    exact .classify (ih h) hnone hbetween hid harray hknown

theorem Did.single {sc : Scope} {c c' : Compartment} (h : c.Change sc c') : Did sc c c' :=
  .step (.refl c) h

/-- What every single change keeps, a sequence of changes keeps. -/
theorem Did.change_induction {sc : Scope} {P : Compartment → Prop} {c c' : Compartment}
    (hc : c.Sound) (h : Did sc c c')
    (hchange : ∀ a b : Compartment, a.Sound → a.Change sc b → P a → P b)
    (hclassify : ∀ (a : Compartment) id, a.Sound → id.In a.extent → P a → P (a.classify id))
    (hstart : P c) : P c' := by
  induction h with
  | refl => exact hstart
  | step h hstep ih => exact hchange _ _ (h.sound hc) hstep (ih hc hstart)
  | classify h _ h' hid _ _ ih ih' =>
    have hsound := h.sound hc
    exact hclassify _ _ (h'.sound hsound) hid (ih' hsound (ih hc hstart))

/-! ## Handlers -/

/-- Every handler of a function is one that the host could give it when it did. -/
def HandledBy (c : Compartment) (sc : Scope) : Prop :=
  ∀ o f name, (c.object o).function = some f → f.handler = some name →
    ∃ e, e.Within c.extent ∧ sc.handler e name

/-- A function has the record that it had, or a later one. -/
theorem Change.function {sc : Scope} {c c' : Compartment} (h : c.Change sc c') {o : ObjectId}
    {f' : FunctionInfo} (hf' : (c'.object o).function = some f') :
    (c.object o).function = some f' ∨ f'.handler = none ∨
      ∃ f, (c.object o).function = some f ∧ c.Retooled sc o f f' := by
  have hobject : ∀ {id : ObjectId} (g : ObjectInfo → ObjectInfo), id.In c.extent →
      ((c.changeObject id g).object o).function = some f' →
      (∀ i, (g i).function = i.function) → (c.object o).function = some f' := by
    intro id g hid hf' hg
    rw [object_changeObject hid] at hf'
    split at hf'
    · rwa [hg] at hf'
    · exact hf'
  cases h with
  | traffic h =>
    rw [object, h.objects_eq.1] at hf'
    exact .inl hf'
  | aside h =>
    rw [object, h.objects] at hf'
    exact .inl hf'
  | @pushObject name function _ _ hfunction =>
    rw [object_pushObject] at hf'
    split at hf'
    · exact .inr (.inl (hfunction f' hf').2.2.2)
    · exact .inl hf'
  | pushProperty howner =>
    rw [object_pushProperty howner] at hf'
    split at hf' <;> exact .inl hf'
  | setProto hid hproto _ hne =>
    rw [object_setProto hid hproto hne] at hf'
    exact .inl hf'
  | memo hid | possiblyPacked _ hid => exact .inl (hobject _ hid hf' fun _ => rfl)
  | @retool id g hid hg =>
    rw [changeFunction, object_changeObject hid] at hf'
    split at hf'
    · rename_i ho
      subst ho
      obtain ⟨f, hf, rfl⟩ := Option.map_eq_some_iff.mp hf'
      exact .inr (.inr ⟨f, hf, hg f hf⟩)
    · exact .inl hf'
  | @demote id f hid hf =>
    rw [object_notifyKind, object_changeObject hid] at hf'
    split at hf'
    · rename_i ho
      subst ho
      rw [hf.function] at hf'
      exact .inl hf'
    · exact .inl hf'
  | pushSet | builtin | spend | handOut | pushSite | changeSite => exact .inl hf'

theorem Did.handled {sc : Scope} {c c' : Compartment} (hc : c.Sound) (h : Did sc c c')
    (hhandled : c.HandledBy sc) : c'.HandledBy sc := by
  induction h with
  | refl => exact hhandled
  | @step _ b b' h hchange ih =>
    have hsound := h.sound hc
    have hwithin := (hchange.grows hsound.valid).extent
    intro o f name hf hname
    obtain hold | hnone | ⟨f₀, hf₀, hretooled⟩ := hchange.function hf
    · obtain ⟨e, he, hallowed⟩ := ih hc hhandled o f name hold hname
      exact ⟨e, he.trans hwithin, hallowed⟩
    · rw [hnone] at hname
      cases hname
    · obtain hold | hallowed := hretooled.handler name hname
      · obtain ⟨e, he, hallowed⟩ := ih hc hhandled o f₀ name hf₀ hold
        exact ⟨e, he.trans hwithin, hallowed⟩
      · exact ⟨b.extent, hwithin, hallowed⟩
  | @classify _ c₁ c₂ id h _ h' hid _ _ ih ih' =>
    have hall := ih' (h.sound hc) (ih hc hhandled)
    intro o f name hf hname
    refine (hall o f name ?_ hname).imp fun e he => he.imp_left fun he =>
      he.trans (grows_classify hid).extent
    rw [Compartment.classify, object_changeObject hid] at hf
    split at hf <;> exact hf

end Compartment

end FlowTypes
