import FlowTypes.Proofs.Lookup

/-!
# What a compartment never takes back

Sets gain types, listeners and targets and lose none; constraints only get their marks; an object
keeps its name, its prototype and its properties, and once it is unknown it gets no further
property.  `Grows` says all of this of an earlier and a later compartment.  Most facts about a
compartment are stated so that they stay true while it grows.

## Main results

* `Grows.refl`, `Grows.trans`.
* `Grows.has`, `Grows.property?`, `Grows.builtin?`, `Grows.flows`: what was found is found again.
* `grows_changeSet`, `grows_changeConstraint`, `grows_changeObject`, …: the single changes grow a
  compartment if they grow the entry that they change.
-/

namespace FlowTypes

/-! ## Records -/

/-- The constraint without its marks. -/
def Constraint.bare : Constraint → Constraint
  | .element code objects target access _ => .element code objects target access false
  | .freezeTag script tag _ => .freezeTag script tag false
  | .freezeKind script kind _ => .freezeKind script kind false
  | .freezeEmpty script _ => .freezeEmpty script false
  | .freezeElementKind script kind _ => .freezeElementKind script kind false
  | k => k

/-- The property of an element access has been wired up. -/
def Constraint.isWired : Constraint → Bool
  | .element _ _ _ _ wired => wired
  | _ => false

/-- A freeze constraint has asked for its recompilation. -/
def Constraint.isSpent : Constraint → Bool
  | .freezeTag _ _ spent => spent
  | .freezeKind _ _ spent => spent
  | .freezeEmpty _ spent => spent
  | .freezeElementKind _ _ spent => spent
  | _ => false

/-- The constraint gets no marks. -/
def Constraint.isPlain : Constraint → Bool
  | .element .. | .freezeTag .. | .freezeKind .. | .freezeEmpty .. | .freezeElementKind .. => false
  | _ => true

theorem Constraint.isPlain_bare (k : Constraint) : k.bare.isPlain = k.isPlain := by
  cases k <;> rfl

theorem Constraint.bare_of_isPlain {k : Constraint} (h : k.isPlain = true) : k.bare = k := by
  cases k <;> first | rfl | cases h

/-- A constraint that gets no marks is known by what is left without them. -/
theorem Constraint.eq_of_bare_eq {k k' : Constraint} (h : k'.bare = k.bare)
    (hplain : k.isPlain = true) : k' = k := by
  have hplain' : k'.isPlain = true := by rw [← isPlain_bare, h, isPlain_bare, hplain]
  rw [← bare_of_isPlain hplain', h, bare_of_isPlain hplain]

/-- A constraint gets marks and is otherwise the same. -/
structure Constraint.Evolves (k k' : Constraint) : Prop where
  bare : k'.bare = k.bare
  wired : k.isWired = true → k'.isWired = true
  spent : k.isSpent = true → k'.isSpent = true

theorem Constraint.Evolves.refl (k : Constraint) : k.Evolves k := ⟨rfl, id, id⟩

theorem Constraint.Evolves.trans {a b c : Constraint} (h : a.Evolves b) (h' : b.Evolves c) :
    a.Evolves c :=
  ⟨h'.bare.trans h.bare, fun hw => h'.wired (h.wired hw), fun hs => h'.spent (h.spent hs)⟩

theorem Constraint.evolves_wire (k : Constraint) : k.Evolves k.wire := by
  cases k <;> exact ⟨rfl, fun h => by simp_all [wire, isWired], id⟩

theorem Constraint.evolves_spend (k : Constraint) : k.Evolves k.spend := by
  cases k <;> exact ⟨rfl, id, fun h => by simp_all [spend, isSpent]⟩

/-- A function keeps its sets, and its default prototype object once it has one. -/
structure FunctionInfo.Grows (f f' : FunctionInfo) : Prop where
  returns : f'.returns = f.returns
  thisTypes : f'.thisTypes = f.thisTypes
  prototypeObject : ∀ o, f.prototypeObject = some o → f'.prototypeObject = some o

/-- An object gains properties and instances, and keeps what it has. -/
structure ObjectInfo.Grows (o o' : ObjectInfo) : Prop where
  properties : o.properties <+: o'.properties
  proto : ∀ p, o.proto = some p → o'.proto = some p
  instances : o.instances <+: o'.instances
  newObject : ∀ n, o.newObject = some n → o'.newObject = some n
  unknown : o.isUnknown = true → o'.isUnknown = true ∧ o'.properties = o.properties
  function : ∀ f, o.function = some f → ∃ f', o'.function = some f' ∧ f.Grows f'

/-- A call site keeps what it has, and may get a set for its `this` types and its result. -/
structure CallSite.Grows (s s' : CallSite) : Prop where
  code : s'.code = s.code
  isNew : s'.isNew = s.isNew
  arguments : s'.arguments = s.arguments
  thisTypes : ∀ t, s.thisTypes = some t → s'.thisTypes = some t
  thisType : s'.thisType = s.thisType
  result : ∀ t, s.result = some t → s'.result = some t

/-- A type set gains types, listeners and targets. -/
structure TypeSet.Grows (s s' : TypeSet) : Prop where
  types : s.types <+: s'.types
  constraints : s.constraints <+: s'.constraints
  targets : ∀ t, s.flowsInto t = true → s'.flowsInto t = true

theorem FunctionInfo.Grows.refl (f : FunctionInfo) : f.Grows f := ⟨rfl, rfl, fun _ h => h⟩

theorem FunctionInfo.Grows.trans {a b c : FunctionInfo} (h : a.Grows b) (h' : b.Grows c) :
    a.Grows c :=
  ⟨h'.returns.trans h.returns, h'.thisTypes.trans h.thisTypes,
    fun o ho => h'.prototypeObject o (h.prototypeObject o ho)⟩

theorem ObjectInfo.Grows.refl (o : ObjectInfo) : o.Grows o :=
  ⟨List.prefix_rfl, fun _ h => h, List.prefix_rfl, fun _ h => h, fun h => ⟨h, rfl⟩,
    fun f h => ⟨f, h, FunctionInfo.Grows.refl f⟩⟩

theorem ObjectInfo.Grows.trans {a b c : ObjectInfo} (h : a.Grows b) (h' : b.Grows c) :
    a.Grows c where
  properties := h.properties.trans h'.properties
  proto p hp := h'.proto p (h.proto p hp)
  instances := h.instances.trans h'.instances
  newObject n hn := h'.newObject n (h.newObject n hn)
  unknown ha := by
    obtain ⟨hb, hab⟩ := h.unknown ha
    obtain ⟨hc, hbc⟩ := h'.unknown hb
    exact ⟨hc, hbc.trans hab⟩
  function f hf := by
    obtain ⟨f', hf', hgrows⟩ := h.function f hf
    obtain ⟨f'', hf'', hgrows'⟩ := h'.function f' hf'
    exact ⟨f'', hf'', hgrows.trans hgrows'⟩

theorem CallSite.Grows.refl (s : CallSite) : s.Grows s :=
  ⟨rfl, rfl, rfl, fun _ h => h, rfl, fun _ h => h⟩

theorem CallSite.Grows.trans {a b c : CallSite} (h : a.Grows b) (h' : b.Grows c) : a.Grows c :=
  ⟨h'.code.trans h.code, h'.isNew.trans h.isNew, h'.arguments.trans h.arguments,
    fun t ht => h'.thisTypes t (h.thisTypes t ht), h'.thisType.trans h.thisType,
    fun t ht => h'.result t (h.result t ht)⟩

theorem TypeSet.Grows.refl (s : TypeSet) : s.Grows s :=
  ⟨List.prefix_rfl, List.prefix_rfl, fun _ h => h⟩

theorem TypeSet.Grows.trans {a b c : TypeSet} (h : a.Grows b) (h' : b.Grows c) : a.Grows c :=
  ⟨h.types.trans h'.types, h.constraints.trans h'.constraints,
    fun t ht => h'.targets t (h.targets t ht)⟩

theorem TypeSet.grows_empty (s : TypeSet) : ({} : TypeSet).Grows s :=
  ⟨List.nil_prefix, List.nil_prefix, fun t ht => by simp [flowsInto, IndexSet.contains] at ht⟩

theorem TypeSet.grows_insert (s : TypeSet) (t : Ty) : s.Grows (s.insert t) := by
  refine ⟨types_prefix_insert s t, ?_, ?_⟩
  · simp only [constraints_insert, List.prefix_rfl]
  · intro target ht
    unfold insert
    split
    · exact ht
    · exact ht

theorem TypeSet.grows_listen (s : TypeSet) (k : ConstraintId) : s.Grows (s.listen k) := by
  refine ⟨List.prefix_rfl, ?_, fun t ht => ht⟩
  rw [constraints_listen]
  exact List.prefix_append _ _

theorem TypeSet.grows_addTarget (s : TypeSet) (target : SetId) :
    s.Grows (s.addTarget target) := by
  refine ⟨List.prefix_rfl, List.prefix_rfl, ?_⟩
  intro t ht
  rw [flowsInto_addTarget, ht]
  rfl

theorem ObjectInfo.Grows.property? {o o' : ObjectInfo} (h : o.Grows o') {key : Key}
    {p : Property} (hp : o.property? key = some p) : o'.property? key = some p := by
  obtain ⟨more, hmore⟩ := h.properties
  rw [ObjectInfo.property?] at hp ⊢
  rw [← hmore, List.find?_append, hp]
  rfl

theorem ObjectInfo.key_of_property? {o : ObjectInfo} {key : Key} {p : Property}
    (hp : o.property? key = some p) : p.key = key := by
  simpa using List.find?_some hp

/-- What is not in a table yet has no parts. -/
theorem ObjectInfo.grows_default (o : ObjectInfo) : (default : ObjectInfo).Grows o where
  properties := List.nil_prefix
  proto p hp := by cases hp
  instances := List.nil_prefix
  newObject n hn := by cases hn
  unknown h := by cases h
  function f hf := by cases hf

namespace Compartment

/-! ## The compartment -/

/-- A later compartment has all that an earlier one has. -/
structure Grows (c c' : Compartment) : Prop where
  extent : c.extent.Within c'.extent
  set : ∀ id, (c.set id).Grows (c'.set id)
  constraint : ∀ id, id.In c.extent → (c.constraint id).Evolves (c'.constraint id)
  object : ∀ id, (c.object id).Grows (c'.object id)
  name : ∀ id, id.In c.extent → (c'.object id).name = (c.object id).name
  isFunction : ∀ id, id.In c.extent → (c'.object id).isFunction = (c.object id).isFunction
  site : ∀ id, id.In c.extent → (c.site id).Grows (c'.site id)
  builtins : c.builtins <+: c'.builtins
  monitored : ∀ code ∈ c.monitored, code ∈ c'.monitored
  journal : c.journal <:+ c'.journal

namespace Grows

theorem refl (c : Compartment) : c.Grows c :=
  ⟨Extent.Within.refl _, fun _ => TypeSet.Grows.refl _, fun _ _ => Constraint.Evolves.refl _,
    fun _ => ObjectInfo.Grows.refl _, fun _ _ => rfl, fun _ _ => rfl,
    fun _ _ => CallSite.Grows.refl _, List.prefix_rfl, fun _ h => h, List.suffix_rfl⟩

theorem trans {a b c : Compartment} (h : a.Grows b) (h' : b.Grows c) : a.Grows c where
  extent := h.extent.trans h'.extent
  set id := (h.set id).trans (h'.set id)
  constraint id hid := (h.constraint id hid).trans (h'.constraint id (hid.mono h.extent))
  object id := (h.object id).trans (h'.object id)
  name id hid := (h'.name id (hid.mono h.extent)).trans (h.name id hid)
  isFunction id hid := (h'.isFunction id (hid.mono h.extent)).trans (h.isFunction id hid)
  site id hid := (h.site id hid).trans (h'.site id (hid.mono h.extent))
  builtins := h.builtins.trans h'.builtins
  monitored code hcode := h'.monitored code (h.monitored code hcode)
  journal := h.journal.trans h'.journal

variable {c c' : Compartment} (h : c.Grows c')
include h

theorem has (hc : c.Valid) (hc' : c'.Valid) {id : SetId} {t : Ty}
    (ht : (c.set id).has t = true) : (c'.set id).has t = true :=
  (hc.sets id).coherent.has_of_prefix (hc'.sets id).coherent (h.set id).types ht

theorem property? {id : ObjectId} {key : Key} {p : Property}
    (hp : (c.object id).property? key = some p) : (c'.object id).property? key = some p :=
  (h.object id).property? hp

theorem isUnknown {id : ObjectId} (hid : (c.object id).isUnknown = true) :
    (c'.object id).isUnknown = true :=
  ((h.object id).unknown hid).1

theorem proto_ne_none {id : ObjectId} (hid : (c.object id).proto ≠ none) :
    (c'.object id).proto ≠ none := by
  obtain ⟨p, hp⟩ := Option.ne_none_iff_exists'.mp hid
  rw [(h.object id).proto p hp]
  exact Option.some_ne_none p

theorem builtin? {b : Builtin} {id : ObjectId} (hb : c.builtin? b = some id) :
    c'.builtin? b = some id := by
  obtain ⟨more, hmore⟩ := h.builtins
  simp only [Compartment.builtin?, Option.map_eq_some_iff] at hb ⊢
  obtain ⟨a, ha, hid⟩ := hb
  refine ⟨a, ?_, hid⟩
  rw [← hmore, List.find?_append, ha]
  rfl

theorem isMonitored {code : Location} (hcode : c.isMonitored code = true) :
    c'.isMonitored code = true := by
  simp only [Compartment.isMonitored, List.contains_iff_mem] at hcode ⊢
  exact h.monitored code hcode

end Grows

/-- The types of the first set flow into the second one. -/
def Flows (c : Compartment) (source target : SetId) : Prop :=
  source = target ∨ (c.set source).flowsInto target = true

theorem Grows.flows {c c' : Compartment} (h : c.Grows c') {source target : SetId}
    (hflows : c.Flows source target) : c'.Flows source target :=
  hflows.imp_right ((h.set source).targets target)

/-! ## Single changes -/

variable {c : Compartment}

/-- A change that touches neither sets, constraints, objects, sites nor builtins. -/
theorem grows_of_eq {c' : Compartment} (hsets : c'.sets = c.sets)
    (hconstraints : c'.constraints = c.constraints) (hobjects : c'.objects = c.objects)
    (hsites : c'.sites = c.sites) (hstack : c.stack.size ≤ c'.stack.size)
    (hbuiltins : c'.builtins = c.builtins)
    (hmonitored : ∀ code ∈ c.monitored, code ∈ c'.monitored)
    (hjournal : c.journal <:+ c'.journal) : c.Grows c' := by
  have hset : c'.set = c.set := by funext id; simp only [Compartment.set, hsets]
  have hconstraint : c'.constraint = c.constraint := by
    funext id
    simp only [Compartment.constraint, hconstraints]
  have hobject : c'.object = c.object := by
    funext id
    simp only [Compartment.object, hobjects]
  have hsite : c'.site = c.site := by funext id; simp only [Compartment.site, hsites]
  constructor
  · constructor <;> simp [extent, hsets, hconstraints, hobjects, hsites, hstack]
  · rw [hset]
    exact fun _ => TypeSet.Grows.refl _
  · rw [hconstraint]
    exact fun _ _ => Constraint.Evolves.refl _
  · rw [hobject]
    exact fun _ => ObjectInfo.Grows.refl _
  · simp [hobject]
  · simp [hobject]
  · rw [hsite]
    exact fun _ _ => CallSite.Grows.refl _
  · simp only [hbuiltins, List.prefix_rfl]
  · exact hmonitored
  · exact hjournal

theorem grows_record (e : Event) : c.Grows (c.record e) :=
  grows_of_eq rfl rfl rfl rfl (Nat.le_refl _) rfl (fun _ h => h) (List.suffix_cons _ _)

theorem grows_changeWorklist (f : Worklist → Worklist) : c.Grows (c.changeWorklist f) :=
  grows_of_eq rfl rfl rfl rfl (Nat.le_refl _) rfl (fun _ h => h) List.suffix_rfl

theorem grows_queueRecompile (script : ScriptId) (cause : Cause) :
    c.Grows (c.queueRecompile script cause) :=
  grows_of_eq rfl rfl rfl rfl (Nat.le_refl _) rfl (fun _ h => h) (List.suffix_cons _ _)

theorem grows_changeSet {id : SetId} (hid : id.In c.extent) {f : TypeSet → TypeSet}
    (hf : (c.set id).Grows (f (c.set id))) : c.Grows (c.changeSet id f) :=
  { Grows.refl c with
    extent := by rw [extent_changeSet]; exact Extent.Within.refl _
    set := fun a => by
      rw [set_changeSet hid]
      split
      · rename_i h
        rw [← h]
        exact hf
      · exact TypeSet.Grows.refl _ }

theorem grows_changeConstraint {id : ConstraintId} (hid : id.In c.extent)
    {f : Constraint → Constraint} (hf : (c.constraint id).Evolves (f (c.constraint id))) :
    c.Grows (c.changeConstraint id f) :=
  { Grows.refl c with
    extent := by rw [extent_changeConstraint]; exact Extent.Within.refl _
    constraint := fun a _ => by
      rw [constraint_changeConstraint hid]
      split
      · rename_i h
        rw [← h]
        exact hf
      · exact Constraint.Evolves.refl _ }

theorem grows_changeObject {id : ObjectId} (hid : id.In c.extent) {f : ObjectInfo → ObjectInfo}
    (hf : (c.object id).Grows (f (c.object id)))
    (hname : (f (c.object id)).name = (c.object id).name)
    (hfunction : (f (c.object id)).isFunction = (c.object id).isFunction) :
    c.Grows (c.changeObject id f) :=
  { Grows.refl c with
    extent := by rw [extent_changeObject]; exact Extent.Within.refl _
    object := fun a => by
      rw [object_changeObject hid]
      split
      · rename_i h
        rw [← h]
        exact hf
      · exact ObjectInfo.Grows.refl _
    name := fun a _ => by
      rw [object_changeObject hid]
      split
      · rename_i h
        rw [← h]
        exact hname
      · rfl
    isFunction := fun a _ => by
      rw [object_changeObject hid]
      split
      · rename_i h
        rw [← h]
        exact hfunction
      · rfl }

theorem grows_changeSite {id : SiteId} (hid : id.In c.extent) {f : CallSite → CallSite}
    (hf : (c.site id).Grows (f (c.site id))) : c.Grows (c.changeSite id f) :=
  { Grows.refl c with
    extent := by rw [extent_changeSite]; exact Extent.Within.refl _
    site := fun a _ => by
      rw [site_changeSite hid]
      split
      · rename_i h
        rw [← h]
        exact hf
      · exact CallSite.Grows.refl _ }

theorem grows_builtin (b : Builtin) (id : ObjectId) :
    c.Grows { c with builtins := c.builtins ++ [(b, id)] } :=
  { Grows.refl c with
    builtins := List.prefix_append _ _ }

/-! ## New entries -/

theorem grows_pushSet : c.Grows { c with sets := c.sets.push {} } :=
  { Grows.refl c with
    extent := by constructor <;> simp [extent]
    set := fun a => by
      rw [set_push]
      split
      · rename_i h
        rw [set_of_not_in (by subst h; simp [SetId.In, extent])]
        exact TypeSet.grows_empty _
      · exact TypeSet.Grows.refl _ }

theorem grows_pushConstraint (k : Constraint) :
    c.Grows { c with constraints := c.constraints.push k } :=
  { Grows.refl c with
    extent := by constructor <;> simp [extent]
    constraint := fun a ha => by
      rw [constraint_push, if_neg (ne_next_constraint ha)]
      exact Constraint.Evolves.refl _ }

theorem grows_pushObject (o : ObjectInfo) :
    c.Grows { c with objects := c.objects.push o } :=
  { Grows.refl c with
    extent := by constructor <;> simp [extent]
    object := fun a => by
      rw [object_push]
      split
      · rename_i h
        rw [object_of_not_in (by subst h; simp [ObjectId.In, extent])]
        exact ObjectInfo.grows_default _
      · exact ObjectInfo.Grows.refl _
    name := fun a ha => by
      rw [object_push, if_neg (ne_next_object ha)]
    isFunction := fun a ha => by
      rw [object_push, if_neg (ne_next_object ha)] }

theorem grows_pushSite (s : CallSite) : c.Grows { c with sites := c.sites.push s } :=
  { Grows.refl c with
    extent := by constructor <;> simp [extent]
    site := fun a ha => by
      rw [site_push, if_neg (ne_next_site ha)]
      exact CallSite.Grows.refl _ }

end Compartment

end FlowTypes
