import FlowTypes.Proofs.Forest
import FlowTypes.Proofs.Growth

/-!
# Sound compartments

What holds of a compartment at every moment, also in the middle of a request and after a request
that failed: every handle is in its table, the prototypes make a forest, and names are names of one
object only.

A change touches few entries of a compartment.  `Valid.extend` asks only for those: each entry of
the later compartment is either as it was or valid itself.

## Main results

* `Names`: objects are told apart by their names, the properties of an object by their keys, and the
  objects that the engine makes for another one have a name made from that one's.
* `Sound`: the three invariants together; `sound_fresh`.
* `Valid.extend`: what a change leaves alone stays valid.
-/

namespace FlowTypes

namespace Compartment

/-- Objects and properties are found by their names and keys. -/
structure Names (c : Compartment) : Prop where
  unique : ∀ a b : ObjectId, a.In c.extent → b.In c.extent → c.objectName a = c.objectName b → a = b
  newObject : ∀ o n, (c.object o).newObject = some n → c.objectName n = c.objectName o ++ ":new"
  prototypeObject : ∀ o f p, (c.object o).function = some f → f.prototypeObject = some p →
    c.objectName p = c.objectName o ++ ":prototype"
  builtins : ∀ b ∈ c.builtins, c.objectName b.2 = b.1.name
  keys : ∀ o, ((c.object o).properties.map Property.key).Nodup

/-- What holds of a compartment at every moment. -/
structure Sound (c : Compartment) : Prop where
  valid : c.Valid
  forest : c.Forest
  names : c.Names

variable {c c' : Compartment}

theorem names_fresh (options : Options) : (fresh options).Names := by
  have hobject : ∀ o, ((fresh options).object o).newObject = none ∧
      ((fresh options).object o).function = none ∧
      ((fresh options).object o).properties = [] := by
    intro o
    obtain ⟨i⟩ := o
    cases i <;> exact ⟨rfl, rfl, rfl⟩
  constructor
  · rintro ⟨i⟩ ⟨j⟩ hi hj -
    have hi : i < 1 := hi
    have hj : j < 1 := hj
    have hij : i = j := by omega
    rw [hij]
  · intro o n hn
    rw [(hobject o).1] at hn
    cases hn
  · intro o f p hf
    rw [(hobject o).2.1] at hf
    cases hf
  · intro b hb
    cases hb
  · intro o
    rw [(hobject o).2.2]
    exact List.nodup_nil

theorem sound_fresh (options : Options) : (fresh options).Sound :=
  ⟨valid_fresh options, forest_fresh options, names_fresh options⟩

/-! ## Extending a valid compartment -/

/-- Each entry of the later compartment is as it was, or it is valid. -/
structure Extended (c c' : Compartment) : Prop where
  extent : c.extent.Within c'.extent
  sets : ∀ id, c'.set id = c.set id ∨ (c'.set id).Valid c'.extent
  constraints : ∀ id, c'.constraint id = c.constraint id ∨ (c'.constraint id).Valid c'.extent
  objects : ∀ id, c'.object id = c.object id ∨ (c'.object id).Valid c'.extent
  sites : ∀ id, c'.site id = c.site id ∨ (c'.site id).Valid c'.extent
  builtins : ∀ b ∈ c'.builtins, b ∈ c.builtins ∨ b.2.In c'.extent
  initializers : ∀ i ∈ c'.initializers, i ∈ c.initializers ∨ i.2.In c'.extent
  scripts : ∀ s ∈ c'.scripts, s ∈ c.scripts ∨ s.2.Valid c'.extent
  representatives : ∀ n ∈ c'.stack.representatives,
    n ∈ c.stack.representatives ∨ n.In c'.extent
  slots : ∀ s ∈ c'.stack.slots, s ∈ c.stack.slots ∨ s.Valid c'.extent
  slotCount : c.stack.slots.size = c.stack.size → c'.stack.slots.size = c'.stack.size
  pending : ∀ w ∈ c'.worklist.pending, w ∈ c.worklist.pending ∨ w.Valid c'.extent

theorem Valid.extend (h : c.Valid) (he : Extended c c') : c'.Valid where
  universal := h.universal.mono he.extent
  global := h.global.mono he.extent
  sets id := (he.sets id).elim (fun heq => heq ▸ (h.sets id).mono he.extent) fun hv => hv
  constraints id :=
    (he.constraints id).elim (fun heq => heq ▸ (h.constraints id).mono he.extent) fun hv => hv
  objects id := (he.objects id).elim (fun heq => heq ▸ (h.objects id).mono he.extent) fun hv => hv
  sites id := (he.sites id).elim (fun heq => heq ▸ (h.sites id).mono he.extent) fun hv => hv
  builtins b hb := (he.builtins b hb).elim (fun hb => (h.builtins b hb).mono he.extent) fun hv => hv
  initializers i hi :=
    (he.initializers i hi).elim (fun hi => (h.initializers i hi).mono he.extent) fun hv => hv
  scripts s hs := (he.scripts s hs).elim (fun hs => (h.scripts s hs).mono he.extent) fun hv => hv
  representatives n hn :=
    (he.representatives n hn).elim (fun hn => (h.representatives n hn).mono he.extent) fun hv => hv
  slots s hs := (he.slots s hs).elim (fun hs => (h.slots s hs).mono he.extent) fun hv => hv
  slotCount := he.slotCount h.slotCount
  pending w hw := (he.pending w hw).elim (fun hw => (h.pending w hw).mono he.extent) fun hv => hv

/-- A change of the large tables only. -/
theorem Extended.of_tables (hextent : c.extent.Within c'.extent)
    (hsets : ∀ id, c'.set id = c.set id ∨ (c'.set id).Valid c'.extent)
    (hconstraints : ∀ id, c'.constraint id = c.constraint id ∨ (c'.constraint id).Valid c'.extent)
    (hobjects : ∀ id, c'.object id = c.object id ∨ (c'.object id).Valid c'.extent)
    (hsites : ∀ id, c'.site id = c.site id ∨ (c'.site id).Valid c'.extent)
    (hbuiltins : c'.builtins = c.builtins) (hinitializers : c'.initializers = c.initializers)
    (hscripts : c'.scripts = c.scripts) (hstack : c'.stack = c.stack)
    (hpending : c'.worklist.pending = c.worklist.pending) : Extended c c' where
  extent := hextent
  sets := hsets
  constraints := hconstraints
  objects := hobjects
  sites := hsites
  builtins _ h := .inl (hbuiltins ▸ h)
  initializers _ h := .inl (hinitializers ▸ h)
  scripts _ h := .inl (hscripts ▸ h)
  representatives _ h := .inl (hstack ▸ h)
  slots _ h := .inl (hstack ▸ h)
  slotCount h := hstack ▸ h
  pending _ h := .inl (hpending ▸ h)

/-- A change of the worklist only. -/
theorem extended_changeWorklist {f : Worklist → Worklist}
    (hpending : ∀ w ∈ (f c.worklist).pending, w ∈ c.worklist.pending ∨ w.Valid c.extent) :
    Extended c (c.changeWorklist f) where
  extent := .refl _
  sets _ := .inl rfl
  constraints _ := .inl rfl
  objects _ := .inl rfl
  sites _ := .inl rfl
  builtins _ h := .inl h
  initializers _ h := .inl h
  scripts _ h := .inl h
  representatives _ h := .inl h
  slots _ h := .inl h
  slotCount h := h
  pending := hpending

section Entries

variable (h : c.Valid)
include h

theorem Valid.changeSet {id : SetId} (hid : id.In c.extent) {f : TypeSet → TypeSet}
    (hf : (f (c.set id)).Valid c.extent) : (c.changeSet id f).Valid := by
  have hextent : (c.changeSet id f).extent = c.extent := extent_changeSet id f
  refine h.extend (.of_tables (hextent ▸ .refl _) ?_ (fun _ => .inl rfl) (fun _ => .inl rfl)
    (fun _ => .inl rfl) rfl rfl rfl rfl rfl)
  intro a
  rw [set_changeSet hid, hextent]
  split
  · rename_i ha
    exact .inr (ha ▸ hf)
  · exact .inl rfl

theorem Valid.changeConstraint {id : ConstraintId} (hid : id.In c.extent)
    {f : Constraint → Constraint} (hf : (f (c.constraint id)).Valid c.extent) :
    (c.changeConstraint id f).Valid := by
  have hextent : (c.changeConstraint id f).extent = c.extent := extent_changeConstraint id f
  refine h.extend (.of_tables (hextent ▸ .refl _) (fun _ => .inl rfl) ?_ (fun _ => .inl rfl)
    (fun _ => .inl rfl) rfl rfl rfl rfl rfl)
  intro a
  rw [constraint_changeConstraint hid, hextent]
  split
  · rename_i ha
    exact .inr (ha ▸ hf)
  · exact .inl rfl

theorem Valid.changeObject {id : ObjectId} (hid : id.In c.extent) {f : ObjectInfo → ObjectInfo}
    (hf : (f (c.object id)).Valid c.extent) : (c.changeObject id f).Valid := by
  have hextent : (c.changeObject id f).extent = c.extent := extent_changeObject id f
  refine h.extend (.of_tables (hextent ▸ .refl _) (fun _ => .inl rfl) (fun _ => .inl rfl) ?_ (fun _ => .inl rfl)
    rfl rfl rfl rfl rfl)
  intro a
  rw [object_changeObject hid, hextent]
  split
  · rename_i ha
    exact .inr (ha ▸ hf)
  · exact .inl rfl

theorem Valid.changeSite {id : SiteId} (hid : id.In c.extent) {f : CallSite → CallSite}
    (hf : (f (c.site id)).Valid c.extent) : (c.changeSite id f).Valid := by
  have hextent : (c.changeSite id f).extent = c.extent := extent_changeSite id f
  refine h.extend (.of_tables (hextent ▸ .refl _) (fun _ => .inl rfl) (fun _ => .inl rfl) (fun _ => .inl rfl) ?_
    rfl rfl rfl rfl rfl)
  intro a
  rw [site_changeSite hid, hextent]
  split
  · rename_i ha
    exact .inr (ha ▸ hf)
  · exact .inl rfl

theorem Valid.pushSet : ({ c with sets := c.sets.push {} } : Compartment).Valid := by
  refine h.extend (.of_tables grows_pushSet.extent ?_ (fun _ => .inl rfl) (fun _ => .inl rfl) (fun _ => .inl rfl)
    rfl rfl rfl rfl rfl)
  intro a
  rw [set_push]
  split
  · exact .inr (TypeSet.valid_empty _)
  · exact .inl rfl

theorem Valid.pushObject {o : ObjectInfo} (ho : o.Valid c.extent) :
    ({ c with objects := c.objects.push o } : Compartment).Valid := by
  have hwithin := (grows_pushObject (c := c) o).extent
  refine h.extend (.of_tables hwithin (fun _ => .inl rfl) (fun _ => .inl rfl) ?_ (fun _ => .inl rfl)
    rfl rfl rfl rfl rfl)
  intro a
  rw [object_push]
  split
  · exact .inr (ho.mono hwithin)
  · exact .inl rfl

theorem Valid.pushSite {s : CallSite} (hs : s.Valid c.extent) :
    ({ c with sites := c.sites.push s } : Compartment).Valid := by
  have hwithin := (grows_pushSite (c := c) s).extent
  refine h.extend (.of_tables hwithin (fun _ => .inl rfl) (fun _ => .inl rfl) (fun _ => .inl rfl) ?_
    rfl rfl rfl rfl rfl)
  intro a
  rw [site_push]
  split
  · exact .inr (hs.mono hwithin)
  · exact .inl rfl

theorem Valid.record (e : Event) : (c.record e).Valid :=
  h.extend (.of_tables (.refl _) (fun _ => .inl rfl) (fun _ => .inl rfl) (fun _ => .inl rfl)
    (fun _ => .inl rfl) rfl rfl rfl rfl rfl)

theorem Valid.enqueue {works : List Work} (hworks : ∀ w ∈ works, w.Valid c.extent) :
    (c.enqueue works).Valid := by
  refine h.extend (extended_changeWorklist ?_)
  intro w hw
  have hpending : w ∈ c.worklist.pending ++ works := by
    rwa [← Worklist.pending_enqueue]
  exact (List.mem_append.mp hpending).imp_right (hworks w)

end Entries

/-! ## Extending the names -/

/-- Names stay names of one object if no object is added, none is renamed, and what the objects know
of each other is named as it should be. -/
theorem Names.of_name (h : c.Names) (hextent : c'.extent.objects = c.extent.objects)
    (hname : ∀ o, c'.objectName o = c.objectName o)
    (hnew : ∀ o n, (c'.object o).newObject = some n → (c.object o).newObject = some n ∨
      c.objectName n = c.objectName o ++ ":new")
    (hproto : ∀ o f p, (c'.object o).function = some f → f.prototypeObject = some p →
      (∃ f', (c.object o).function = some f' ∧ f'.prototypeObject = some p) ∨
        c.objectName p = c.objectName o ++ ":prototype")
    (hbuiltins : ∀ b ∈ c'.builtins, b ∈ c.builtins ∨ c.objectName b.2 = b.1.name)
    (hkeys : ∀ o, ((c'.object o).properties.map Property.key).Nodup) : c'.Names where
  unique a b ha hb hab := by
    rw [hname, hname] at hab
    rw [ObjectId.In, hextent] at ha hb
    exact h.unique a b ha hb hab
  newObject o n hn := by
    rw [hname, hname]
    obtain hold | hnamed := hnew o n hn
    · exact h.newObject o n hold
    · exact hnamed
  prototypeObject o f p hf hp := by
    rw [hname, hname]
    obtain ⟨f', hf', hp'⟩ | hnamed := hproto o f p hf hp
    · exact h.prototypeObject o f' p hf' hp'
    · exact hnamed
  builtins b hb := by
    rw [hname]
    exact (hbuiltins b hb).elim (h.builtins b) fun hb => hb
  keys := hkeys

/-- Names do not depend on anything but the objects and the builtins. -/
theorem Names.congr (h : c.Names) (hobjects : c'.objects = c.objects)
    (hbuiltins : c'.builtins = c.builtins) : c'.Names := by
  have hobject : ∀ o, c'.object o = c.object o := by
    intro o
    rw [object, object, hobjects]
  have hname : ∀ o, c'.objectName o = c.objectName o := by
    intro o
    rw [objectName, objectName, hobject]
  refine h.of_name (by simp only [extent, hobjects]) hname ?_ ?_ ?_ ?_
  · intro o n hn
    rw [hobject] at hn
    exact .inl hn
  · intro o f p hf hp
    rw [hobject] at hf
    exact .inl ⟨f, hf, hp⟩
  · intro b hb
    rw [hbuiltins] at hb
    exact .inl hb
  · intro o
    rw [hobject]
    exact h.keys o

end Compartment

end FlowTypes
