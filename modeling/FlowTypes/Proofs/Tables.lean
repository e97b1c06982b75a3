import FlowTypes.Proofs.Traffic

/-!
# What a single change does to the tables

Most changes add nothing to the tables of sets and objects, and rename nothing.  The others add one
set, one object, or one property with its two sets, or they move types.

An object gets a prototype, becomes unknown or is remembered as a builtin for a reason only.

Every property has sets of its own, so that a set tells the property that it belongs to.

## Main results

* `Barren`: a change that adds neither sets nor objects nor properties; `Change.barren_or`.
* `Grounded`, `Change.grounded`: what becomes of prototypes, unknown objects and builtins.
* `SetsApart`, `Did.setsApart`: no two properties share a set; `Did.mem_properties`: nor does a new
  one share a set with anything that was there.
-/

namespace FlowTypes

namespace Compartment

variable {sc : Scope} {c c' c'' : Compartment}

/-! ## Changes that add nothing -/

/-- No set, no object and no property is added, nothing is renamed, and nothing moves. -/
structure Barren (c c' : Compartment) : Prop where
  quiet : c.Quiet c'
  sets : c'.sets.size = c.sets.size
  objects : c'.objects.size = c.objects.size
  properties : ∀ o, (c'.object o).properties = (c.object o).properties
  name : ∀ o, (c'.object o).name = (c.object o).name
  isFunction : ∀ o, (c'.object o).isFunction = (c.object o).isFunction

/-- The tables of sets and objects are the same. -/
theorem Barren.of_tables (hquiet : c.Quiet c') (hsets : c'.sets.size = c.sets.size)
    (hobjects : c'.objects = c.objects) : c.Barren c' := by
  have hobject : ∀ o, c'.object o = c.object o := fun o => by rw [object, object, hobjects]
  exact ⟨hquiet, hsets, by rw [hobjects], fun o => by rw [hobject], fun o => by rw [hobject],
    fun o => by rw [hobject]⟩

theorem Barren.trans (h : c.Barren c') (h' : c'.Barren c'') : c.Barren c'' where
  quiet := h.quiet.trans h'.quiet
  sets := h'.sets.trans h.sets
  objects := h'.objects.trans h.objects
  properties o := (h'.properties o).trans (h.properties o)
  name o := (h'.name o).trans (h.name o)
  isFunction o := (h'.isFunction o).trans (h.isFunction o)

/-- One object is changed, but not its name, its properties, or whether it is a function. -/
theorem barren_changeObject {id : ObjectId} (hid : id.In c.extent) {f : ObjectInfo → ObjectInfo}
    (hproperties : (f (c.object id)).properties = (c.object id).properties)
    (hname : (f (c.object id)).name = (c.object id).name)
    (hfunction : (f (c.object id)).isFunction = (c.object id).isFunction) :
    c.Barren (c.changeObject id f) := by
  refine ⟨.of_tables rfl rfl rfl rfl, rfl, Array.size_modify, ?_, ?_, ?_⟩
  all_goals
    intro o
    rw [object_changeObject hid]
    split
    · rename_i ho
      subst ho
      assumption
    · rfl

theorem Barren.record (e : Event) (he : e.isDelivery = false) : c.Barren (c.record e) :=
  .of_tables (Quiet.extend he) rfl rfl

theorem barren_notifyKind (id : ObjectId) : c.Barren (c.notifyKind id) :=
  .of_tables (quiet_notifyKind id)
    (notifyKind_induction (P := fun b => b.sets.size = c.sets.size) (fun _ _ _ _ _ h => h) id rfl)
    (objects_notifyKind id)

theorem barren_classify {id : ObjectId} (hid : id.In c.extent) : c.Barren (c.classify id) :=
  barren_changeObject hid rfl rfl rfl

theorem Aside.barren (h : c.Aside c') : c.Barren c' :=
  .of_tables h.quiet (by rw [h.sets]) h.objects

/-- A change is barren, or it adds one entry, or it moves types. -/
theorem Change.barren_or (h : c.Change sc c') : c.Barren c' ∨ (sc.choice ∧ c' = c.pushSet) ∨
    (∃ name function, (sc.choice ∨ c.Nameable name) ∧
      (∀ f ∈ function, sc.choice ∧ f.Valid c.extent ∧ f.prototypeObject = none ∧
        f.handler = none) ∧ c' = c.pushObject name function) ∨
    (∃ owner key, owner.In c.extent ∧ (c.object owner).isUnknown = false ∧
      (c.object owner).property? key = none ∧ (sc.grant.keys key ∨ c.Keyed key) ∧
        c' = c.pushProperty owner key) ∨ c.Traffic sc c' := by
  cases h with
  | traffic h => exact .inr (.inr (.inr (.inr h)))
  | pushSet hchoice => exact .inr (.inl ⟨hchoice, rfl⟩)
  | pushObject _ hname hfunction => exact .inr (.inr (.inl ⟨_, _, hname, hfunction, rfl⟩))
  | pushProperty howner hknown hlacks hkey =>
    exact .inr (.inr (.inr (.inl ⟨_, _, howner, hknown, hlacks, hkey, rfl⟩)))
  | aside h => exact .inl h.barren
  | @setProto id proto hid hproto =>
    have hinstances : c.Barren (c.changeObject proto fun o =>
        { o with instances := o.instances ++ [id] }) := barren_changeObject hproto rfl rfl rfl
    have hid' : id.In (c.changeObject proto fun o =>
        { o with instances := o.instances ++ [id] }).extent := by rwa [extent_changeObject]
    exact .inl (hinstances.trans ((barren_changeObject hid' rfl rfl rfl).trans (.record _ rfl)))
  | memo hid => exact .inl (barren_changeObject hid rfl rfl rfl)
  | retool hid => exact .inl (barren_changeObject hid rfl rfl (by simp [ObjectInfo.isFunction]))
  | possiblyPacked _ hid => exact .inl (barren_changeObject hid rfl rfl rfl)
  | builtin => exact .inl (.of_tables (.of_tables rfl rfl rfl rfl) rfl rfl)
  | demote hid hf =>
    refine .inl ((barren_changeObject hid hf.properties hf.name ?_).trans (barren_notifyKind _))
    rw [ObjectInfo.isFunction, hf.function]
    rfl
  | spend hheld => exact .inl (.of_tables (quiet_spend hheld) rfl rfl)
  | handOut =>
    exact .inl (.of_tables (.of_eq rfl rfl rfl
      ⟨[_], rfl, fun e he => by rw [List.mem_singleton.mp he]; rfl⟩) rfl rfl)
  | pushSite | changeSite => exact .inl (.of_tables (.of_tables rfl rfl rfl rfl) rfl rfl)

/-! ## Prototypes, unknown objects and builtins -/

/-- An object that has got a prototype, has become unknown, or is a builtin from now on, has a reason
for that. -/
structure Grounded (sc : Scope) (c c' : Compartment) : Prop where
  proto : ∀ o p, (c'.object o).proto = some p → (c.object o).proto = some p ∨
    (c.object o).proto = none ∧ c.Linked sc o p
  unknown : ∀ o, (c'.object o).isUnknown = true → (c.object o).isUnknown = true ∨ c.Forsaken sc o
  builtins : ∀ b id, c'.builtin? b = some id → c.builtin? b = some id ∨
    id.In c.extent ∧ c.objectName id = b.name ∧ (c.object id).isFunction = b.isFunction ∧
      c.Demanded sc b

/-- Nothing of this has happened. -/
theorem Grounded.of_same (hproto : ∀ o, (c'.object o).proto = (c.object o).proto)
    (hunknown : ∀ o, (c'.object o).isUnknown = (c.object o).isUnknown)
    (hbuiltins : c'.builtins = c.builtins) : Grounded sc c c' where
  proto o p hp := .inl (hproto o ▸ hp)
  unknown o ho := .inl (hunknown o ▸ ho)
  builtins b id hb := by
    rw [builtin?, hbuiltins] at hb
    exact .inl hb

theorem Grounded.of_objects (hobjects : c'.objects = c.objects)
    (hbuiltins : c'.builtins = c.builtins) : Grounded sc c c' :=
  .of_same (fun o => by rw [object, object, hobjects]) (fun o => by rw [object, object, hobjects])
    hbuiltins

theorem grounded_changeObject {id : ObjectId} (hid : id.In c.extent)
    {f : ObjectInfo → ObjectInfo} (hproto : (f (c.object id)).proto = (c.object id).proto)
    (hunknown : (f (c.object id)).isUnknown = (c.object id).isUnknown) :
    Grounded sc c (c.changeObject id f) := by
  refine .of_same (fun o => ?_) (fun o => ?_) rfl
  all_goals
    rw [object_changeObject hid]
    split
    · rename_i ho
      subst ho
      assumption
    · rfl

/-- A builtin is one that was remembered before, or the one that is. -/
theorem builtin?_of_append {b b' : Builtin} {id id' : ObjectId}
    (h : ({ c with builtins := c.builtins ++ [(b, id)] } : Compartment).builtin? b' = some id') :
    c.builtin? b' = some id' ∨ b = b' ∧ id = id' := by
  rw [builtin?, List.find?_append] at h
  cases hold : c.builtins.find? (·.1 == b') with
  | some a =>
    rw [hold] at h
    exact .inl (by rw [builtin?, hold]; exact h)
  | none =>
    rw [hold, Option.none_or, List.find?_singleton] at h
    split at h
    · rename_i hb
      cases h
      exact .inr ⟨beq_iff_eq.mp hb, rfl⟩
    · cases h

/-- Every change has a reason for what it does. -/
theorem Change.grounded (h : c.Change sc c') : Grounded sc c c' := by
  cases h with
  | traffic h => exact .of_objects h.objects_eq.1 h.objects_eq.2
  | aside h => exact .of_objects h.objects h.builtins
  | pushSet => exact .of_objects rfl rfl
  | @pushObject name function =>
    exact .of_same (fun o => by rw [object_pushObject_eq]) (fun o => by rw [object_pushObject_eq]) rfl
  | pushProperty howner =>
    refine .of_same (fun o => ?_) (fun o => ?_) rfl
    all_goals
      rw [object_pushProperty howner]
      split <;> rfl
  | @setProto id proto hid hproto hnone hne _ hlinked =>
    refine ⟨fun o p hp => ?_, fun o ho => .inl ?_, fun b id hb => .inl hb⟩
    · rw [object_setProto hid hproto hne] at hp
      dsimp only at hp
      split at hp
      · rename_i hido
        subst hido
        cases hp
        exact .inr ⟨hnone, hlinked⟩
      · exact .inl hp
    · rwa [object_setProto hid hproto hne] at ho
  | memo hid => exact grounded_changeObject hid rfl rfl
  | retool hid => exact grounded_changeObject hid rfl rfl
  | possiblyPacked _ hid => exact grounded_changeObject hid rfl rfl
  | @builtin b id hid hname hnone hdemanded hkind =>
    refine ⟨fun o p hp => .inl hp, fun o ho => .inl ho, fun b' id' hb' => ?_⟩
    obtain hold | ⟨rfl, rfl⟩ := builtin?_of_append hb'
    · exact .inl hold
    · exact .inr ⟨hid, hname, hkind, hdemanded⟩
  | @demote id f hid hf _ hforsaken =>
    have hproto : ∀ o, ((c.changeObject id f).object o).proto = (c.object o).proto := by
      intro o
      rw [object_changeObject hid]
      split
      · rename_i ho
        rw [← ho, hf.proto]
      · rfl
    refine ⟨fun o p hp => .inl ?_, fun o ho => ?_, fun b k hb => .inl ?_⟩
    · rwa [object_notifyKind, hproto] at hp
    · rw [object_notifyKind, object_changeObject hid] at ho
      split at ho
      · rename_i hido
        subst hido
        exact hforsaken ho
      · exact .inl ho
    · rwa [builtin?, builtins_notifyKind] at hb
  | spend | handOut | pushSite | changeSite => exact .of_objects rfl rfl

theorem grounded_classify {id : ObjectId} (hid : id.In c.extent) :
    Grounded sc c (c.classify id) :=
  grounded_changeObject hid rfl rfl

/-! ## Properties and their sets -/

theorem properties_pushObject (name : String) (function : Option FunctionInfo) (o : ObjectId) :
    ((c.pushObject name function).object o).properties = (c.object o).properties := by
  rw [object_pushObject_eq]

/-- An object has the properties that it had, and maybe the one that is added. -/
theorem mem_properties_pushProperty {owner : ObjectId} (howner : owner.In c.extent) (key : Key)
    {o : ObjectId} {p : Property} :
    p ∈ ((c.pushProperty owner key).object o).properties ↔
      p ∈ (c.object o).properties ∨ owner = o ∧ p = c.nextProperty key := by
  rw [object_pushProperty howner]
  by_cases ho : owner = o
  · rw [if_pos ho]
    simp [ObjectInfo.addProperty, ho]
  · rw [if_neg ho]
    simp [ho]

/-- Every property has two sets of its own. -/
structure SetsApart (c : Compartment) : Prop where
  types : ∀ {o o' p p'}, p ∈ (c.object o).properties → p' ∈ (c.object o').properties →
    p.types = p'.types → o = o' ∧ p = p'
  ownTypes : ∀ {o o' p p'}, p ∈ (c.object o).properties → p' ∈ (c.object o').properties →
    p.ownTypes = p'.ownTypes → o = o' ∧ p = p'
  mixed : ∀ {o o' p p'}, p ∈ (c.object o).properties → p' ∈ (c.object o').properties →
    p.types ≠ p'.ownTypes

theorem setsApart_fresh (options : Options) : (fresh options).SetsApart := by
  have hnone : ∀ {o p}, p ∉ ((fresh options).object o).properties := by
    rintro ⟨i⟩ p hp
    cases i <;> cases hp
  exact ⟨fun hp => absurd hp hnone, fun hp => absurd hp hnone, fun hp => absurd hp hnone⟩

theorem SetsApart.congr (h : c.SetsApart)
    (hproperties : ∀ o, (c'.object o).properties = (c.object o).properties) : c'.SetsApart := by
  have hmem : ∀ {o p}, p ∈ (c'.object o).properties → p ∈ (c.object o).properties :=
    fun {o p} hp => hproperties o ▸ hp
  exact ⟨fun hp hp' => h.types (hmem hp) (hmem hp'), fun hp hp' => h.ownTypes (hmem hp) (hmem hp'),
    fun hp hp' => h.mixed (hmem hp) (hmem hp')⟩

/-- The sets of a property that is added are new, so no other property has them. -/
theorem SetsApart.pushProperty (h : c.SetsApart) (hc : c.Valid) {owner : ObjectId}
    (howner : owner.In c.extent) (key : Key) : (c.pushProperty owner key).SetsApart := by
  have hold : ∀ {o p}, p ∈ (c.object o).properties → ∀ i, c.sets.size ≤ i →
      p.types ≠ ⟨i⟩ ∧ p.ownTypes ≠ ⟨i⟩ := by
    intro o p hp i hi
    have hin := (hc.objects o).properties p hp
    refine ⟨fun heq => ?_, fun heq => ?_⟩
    · have htypes : p.types.index < c.sets.size := hin.types
      rw [heq] at htypes
      exact Nat.not_lt.mpr hi htypes
    · have hown : p.ownTypes.index < c.sets.size := hin.ownTypes
      rw [heq] at hown
      exact Nat.not_lt.mpr hi hown
  have hsplit : ∀ {o p}, p ∈ ((c.pushProperty owner key).object o).properties →
      p ∈ (c.object o).properties ∨ owner = o ∧ p = c.nextProperty key :=
    (mem_properties_pushProperty howner key).mp
  refine ⟨fun hp hp' hsame => ?_, fun hp hp' hsame => ?_, fun hp hp' hsame => ?_⟩
  all_goals
    obtain hp | ⟨rfl, rfl⟩ := hsplit hp <;> obtain hp' | ⟨rfl, rfl⟩ := hsplit hp'
  · exact h.types hp hp' hsame
  · exact absurd hsame (hold hp _ (Nat.le_refl _)).1
  · exact absurd hsame.symm (hold hp' _ (Nat.le_refl _)).1
  · exact ⟨rfl, rfl⟩
  · exact h.ownTypes hp hp' hsame
  · exact absurd hsame (hold hp _ (Nat.le_succ _)).2
  · exact absurd hsame.symm (hold hp' _ (Nat.le_succ _)).2
  · exact ⟨rfl, rfl⟩
  · exact h.mixed hp hp' hsame
  · exact absurd hsame (hold hp _ (Nat.le_succ _)).1
  · exact absurd hsame.symm (hold hp' _ (Nat.le_refl _)).2
  · exact absurd (congrArg SetId.index hsame) (Nat.ne_of_lt (Nat.lt_succ_self _))

/-- Every sequence of changes keeps the properties apart. -/
theorem Did.setsApart (hc : c.Sound) (h : Did sc c c') (hapart : c.SetsApart) : c'.SetsApart := by
  refine h.change_induction hc ?_ ?_ hapart
  · intro a b ha hchange hapart
    obtain hbarren | ⟨-, rfl⟩ | ⟨name, function, -, -, rfl⟩ |
      ⟨owner, key, howner, -, -, -, rfl⟩ | htraffic := hchange.barren_or
    · exact hapart.congr hbarren.properties
    · exact hapart.congr fun _ => rfl
    · exact hapart.congr (properties_pushObject name function)
    · exact hapart.pushProperty ha.valid howner key
    · exact hapart.congr fun o => by rw [object, htraffic.objects_eq.1, object]
  · exact fun a id ha hid hapart => hapart.congr (barren_classify hid).properties

/-- The sets of a property that was added are new. -/
theorem Did.mem_properties (hc : c.Sound) (h : Did sc c c') {o : ObjectId} {p : Property}
    (hp : p ∈ (c'.object o).properties) : p ∈ (c.object o).properties ∨
      ¬ p.types.In c.extent ∧ ¬ p.ownTypes.In c.extent := by
  refine (h.change_induction (P := fun b => c.Grows b ∧ ∀ o, ∀ p ∈ (b.object o).properties,
    p ∈ (c.object o).properties ∨ ¬ p.types.In c.extent ∧ ¬ p.ownTypes.In c.extent) hc ?_ ?_
      ⟨.refl c, fun _ _ hp => .inl hp⟩).2 o p hp
  · rintro a b ha hchange ⟨hgrows, hall⟩
    refine ⟨hgrows.trans (hchange.grows ha.valid), fun o p hp => ?_⟩
    obtain hbarren | ⟨-, rfl⟩ | ⟨name, function, -, -, rfl⟩ |
      ⟨owner, key, howner, -, -, -, rfl⟩ | htraffic := hchange.barren_or
    · exact hall o p (hbarren.properties o ▸ hp)
    · exact hall o p hp
    · exact hall o p (properties_pushObject name function o ▸ hp)
    · rw [mem_properties_pushProperty howner] at hp
      obtain hp | ⟨-, rfl⟩ := hp
      · exact hall o p hp
      · have hsize : c.sets.size ≤ a.sets.size := hgrows.extent.sets
        exact .inr ⟨Nat.not_lt.mpr hsize, Nat.not_lt.mpr (Nat.le_succ_of_le hsize)⟩
    · rw [object, htraffic.objects_eq.1, ← object] at hp
      exact hall o p hp
  · rintro a id ha hid ⟨hgrows, hall⟩
    refine ⟨hgrows.trans (grows_classify hid), fun o p hp => ?_⟩
    exact hall o p ((barren_classify hid).properties o ▸ hp)

end Compartment

end FlowTypes
