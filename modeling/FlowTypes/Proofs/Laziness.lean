import FlowTypes.Proofs.Inheritance
import FlowTypes.Proofs.Termination

/-!
# Properties come into being unseen

An object gets a property when it is asked for it, and a request that only asks is no more than a
look at the compartment: no set that was there gets a type, no object changes but for having more
properties, and no code is monitored or compiled again.

The new property is made on a whole chain of prototypes, and types are delivered while it is wired.
They stay among the sets that were made: the edges of a new set go to new sets, because no object
below has a property that the ones above it lack.  An object whose properties are unknown may have
one, but the sets of that hold the unknown type already.

## Main results

* `Carries`, `Sealed`: from some set on, types move among the sets that came later.
* `stays_solve`, `stays_addSubset`, `stays_flowDown`: what moves no others.
* `Unmoved`: what a look leaves alone.
* `looks_unseen`: between requests, asking for properties and kinds always succeeds and is unseen.
-/

namespace FlowTypes

/-- Two sets have the same types, whoever listens to them. -/
structure TypeSet.Alike (s s' : TypeSet) : Prop where
  flags : s'.flags = s.flags
  latest : s'.latest = s.latest
  objects : s'.objects = s.objects

/-- A set that has the unknown type stands for every type. -/
theorem TypeSet.has_of_unknown {s : TypeSet} (h : s.has .unknown = true) (t : Ty) :
    s.has t = true := by
  have hall : s.isUnknown = true := by
    simpa [TypeSet.has, TypeSet.isUnknown, Ty.flag] using h
  unfold TypeSet.has
  rw [hall]
  exact Bool.true_or _

namespace TypeSet.Alike

variable {s s' s'' : TypeSet}

theorem refl (s : TypeSet) : s.Alike s := ⟨rfl, rfl, rfl⟩

theorem trans (h : s.Alike s') (h' : s'.Alike s'') : s.Alike s'' :=
  ⟨h'.flags.trans h.flags, h'.latest.trans h.latest, h'.objects.trans h.objects⟩

theorem types (h : s.Alike s') : s'.types = s.types := by
  rw [TypeSet.types, h.latest, TypeSet.types]

theorem has (h : s.Alike s') (t : Ty) : s'.has t = s.has t := by
  unfold TypeSet.has TypeSet.isUnknown
  rw [h.flags, h.objects]

end TypeSet.Alike

namespace Compartment

variable {host : Host} {n : Nat} {c c' c'' : Compartment} {α β : Type}

/-! ## Types that stay among new sets -/

/-- The types of the first so many sets stay as they are, and so does all that is known about
objects and code. -/
structure Carries (n : Nat) (c c' : Compartment) : Prop where
  objects : c'.objects = c.objects
  monitored : c'.monitored = c.monitored
  queued : c'.queued = c.queued
  extent : c.extent.Within c'.extent
  constraint : ∀ id, id.In c.extent → c'.constraint id = c.constraint id
  carrying : ∀ id, ¬ id.In c.extent → (c'.constraint id).isFreeze = false
  set : ∀ s : SetId, s.index < n → (c.set s).Alike (c'.set s)

namespace Carries

theorem refl (n : Nat) (c : Compartment) : Carries n c c :=
  ⟨rfl, rfl, rfl, .refl _, fun _ _ => rfl,
    fun _ hid => by rw [constraint_of_not_in hid]; rfl, fun _ _ => .refl _⟩

theorem trans (h : Carries n c c') (h' : Carries n c' c'') : Carries n c c'' where
  objects := h'.objects.trans h.objects
  monitored := h'.monitored.trans h.monitored
  queued := h'.queued.trans h.queued
  extent := h.extent.trans h'.extent
  constraint id hid := (h'.constraint id (hid.mono h.extent)).trans (h.constraint id hid)
  carrying id hid := by
    by_cases hid' : id.In c'.extent
    · rw [h'.constraint id hid']
      exact h.carrying id hid
    · exact h'.carrying id hid'
  set s hs := (h.set s hs).trans (h'.set s hs)

/-- Only what is not in the tables changes. -/
theorem of_tables (hsets : c'.sets = c.sets) (hconstraints : c'.constraints = c.constraints)
    (hobjects : c'.objects = c.objects) (hsites : c'.sites = c.sites) (hstack : c'.stack = c.stack)
    (hmonitored : c'.monitored = c.monitored) (hqueued : c'.queued = c.queued) :
    Carries n c c' := by
  have hconstraint : ∀ id, c'.constraint id = c.constraint id := fun id => by
    rw [Compartment.constraint, hconstraints, Compartment.constraint]
  refine ⟨hobjects, hmonitored, hqueued, ?_, fun id _ => hconstraint id, fun id hid => ?_,
    fun s _ => ?_⟩
  · have hextent : c'.extent = c.extent := by
      rw [Compartment.extent, hsets, hconstraints, hobjects, hsites, hstack, Compartment.extent]
    exact hextent ▸ .refl _
  · rw [hconstraint, constraint_of_not_in hid]
    rfl
  · have hset : c'.set s = c.set s := by rw [Compartment.set, hsets, Compartment.set]
    exact hset ▸ .refl _

theorem changeWorklist (f : Worklist → Worklist) : Carries n c (c.changeWorklist f) :=
  .of_tables rfl rfl rfl rfl rfl rfl rfl

theorem object (h : Carries n c c') (o : ObjectId) : c'.object o = c.object o := by
  rw [Compartment.object, h.objects, Compartment.object]

end Carries

/-- A constraint that hears of this type sends it to a set that is new, or has it. -/
def Contained (n : Nat) (c : Compartment) (id : ConstraintId) (t : Ty) : Prop :=
  id.In c.extent ∧ ∃ target : SetId, target.In c.extent ∧ c.constraint id = .subset target ∧
    (n ≤ target.index ∨ (c.set target).has t = true)

theorem Contained.carry {id : ConstraintId} {t : Ty} (hc : Carries n c c')
    (h : Contained n c id t) : Contained n c' id t := by
  obtain ⟨hid, target, htarget, hk, hfits⟩ := h
  refine ⟨hid.mono hc.extent, target, htarget.mono hc.extent, (hc.constraint id hid).trans hk, ?_⟩
  by_cases hnew : n ≤ target.index
  · exact .inl hnew
  · right
    rw [(hc.set target (by omega)).has]
    exact hfits.resolve_left hnew

/-- What the new sets hear, and what is pending, goes to new sets. -/
structure Sealed (n : Nat) (c : Compartment) : Prop where
  pending : ∀ w ∈ c.worklist.pending, Contained n c w.constraint w.type
  listeners : ∀ s : SetId, n ≤ s.index → ∀ id ∈ (c.set s).constraints, Contained n c id .unknown

/-- A set that has the unknown type has every type. -/
theorem Contained.of_unknown {id : ConstraintId} (h : Contained n c id .unknown) (t : Ty) :
    Contained n c id t := by
  obtain ⟨hid, target, htarget, hk, hfits⟩ := h
  exact ⟨hid, target, htarget, hk, hfits.imp_right fun hall => TypeSet.has_of_unknown hall t⟩

/-- Changes of nothing that flows keep the seal. -/
theorem Sealed.carry (hc : Carries n c c') (hpending : c'.worklist.pending = c.worklist.pending)
    (hlisteners : ∀ s, (c'.set s).constraints = (c.set s).constraints) (h : Sealed n c) :
    Sealed n c' where
  pending w hw := (h.pending w (hpending ▸ hw)).carry hc
  listeners s hs id hid := (h.listeners s hs id (hlisteners s ▸ hid)).carry hc

/-! ## Single changes -/

section InsertType

variable {target : SetId} {t : Ty} (htarget : target.In c.extent) (hnew : n ≤ target.index)
include htarget hnew

theorem carries_insertType : Carries n c (c.insertType target t) where
  objects := rfl
  monitored := rfl
  queued := rfl
  extent := (grows_insertType htarget t).extent
  constraint _ _ := rfl
  carrying := (Carries.refl n c).carrying
  set s hs := by
    rw [set_insertType htarget, if_neg (by rintro rfl; omega)]
    exact .refl _

theorem Sealed.insertType (h : Sealed n c) : Sealed n (c.insertType target t) where
  pending w hw := by
    refine Contained.carry (carries_insertType htarget hnew) ?_
    rw [pending_insertType] at hw
    obtain hw | hw := List.mem_append.mp hw
    · exact h.pending w hw
    · obtain ⟨id, hid, rfl⟩ := List.mem_map.mp hw
      exact (h.listeners target hnew id hid).of_unknown t
  listeners s hs id hid := by
    rw [constraints_insertType htarget] at hid
    exact (h.listeners s hs id hid).carry (carries_insertType htarget hnew)

end InsertType

/-- The types of a set may be sent to another one without changing any set that was there. -/
def Suits (n : Nat) (c : Compartment) (source target : SetId) : Prop :=
  n ≤ target.index ∨ (c.set target).has .unknown = true ∨
    source.index < n ∧ ∀ t ∈ (c.set source).types, (c.set target).has t = true

theorem Suits.carry {source target : SetId} (hc : Carries n c c') (h : Suits n c source target) :
    Suits n c' source target := by
  by_cases hnew : n ≤ target.index
  · exact .inl hnew
  · have halike := hc.set target (by omega)
    obtain h | h | ⟨hold, hall⟩ := h
    · exact absurd h hnew
    · exact .inr (.inl ((halike.has _).trans h))
    · refine .inr (.inr ⟨hold, fun t ht => (halike.has t).trans (hall t ?_)⟩)
      rwa [(hc.set source hold).types] at ht

section AddEdge

variable {source target : SetId} (hsource : source.In c.extent)
include hsource

theorem carries_addEdge : Carries n c (c.addEdge source target) where
  objects := rfl
  monitored := rfl
  queued := rfl
  extent := (grows_addEdge hsource target).extent
  constraint id hid := by
    rw [constraint_addEdge, if_neg (ne_next_constraint hid)]
  carrying id hid := by
    rw [constraint_addEdge]
    split
    · rfl
    · exact (Carries.refl n c).carrying id hid
  set s _ := by
    rw [set_addEdge hsource]
    split
    · exact ⟨rfl, rfl, rfl⟩
    · exact .refl _

theorem Sealed.addEdge (htarget : target.In c.extent) (hsuits : Suits n c source target)
    (h : Sealed n c) : Sealed n (c.addEdge source target) := by
  have hcarries : Carries n c (c.addEdge source target) := carries_addEdge hsource
  have hlast : ∀ t, (n ≤ target.index ∨ (c.set target).has t = true) →
      Contained n (c.addEdge source target) ⟨c.constraints.size⟩ t := by
    intro t ht
    refine ⟨?_, target, htarget.mono hcarries.extent, ?_, ?_⟩
    · show c.constraints.size < (c.addEdge source target).constraints.size
      rw [size_addEdge]
      exact Nat.lt_succ_self _
    · rw [constraint_addEdge, if_pos rfl]
    · by_cases hnew : n ≤ target.index
      · exact .inl hnew
      · right
        rw [(hcarries.set target (by omega)).has]
        exact ht.resolve_left hnew
  constructor
  · intro w hw
    rw [pending_addEdge hsource] at hw
    obtain hw | hw := List.mem_append.mp hw
    · exact (h.pending w hw).carry hcarries
    · obtain ⟨t, ht, rfl⟩ := List.mem_map.mp hw
      refine hlast t (hsuits.imp_right ?_)
      rintro (hunknown | ⟨-, hall⟩)
      · exact TypeSet.has_of_unknown hunknown t
      · exact hall t ht
  · intro s hs id hid
    obtain hid | ⟨rfl, rfl⟩ := (mem_listeners_addEdge hsource target s id).mp hid
    · exact (h.listeners s hs id hid).carry hcarries
    · refine hlast .unknown (hsuits.imp_right ?_)
      rintro (hunknown | ⟨hold, -⟩)
      · exact hunknown
      · omega

end AddEdge

/-! ## Actions -/

/-- An action answers, and types stay among the new sets; or it fails because a pass got to its
bound. -/
def Stays (n : Nat) (a : Action α) (c : Compartment) : Prop :=
  Outcome a c (fun _ c' => Carries n c c' ∧ Sealed n c') fun e _ => e = .outOfMemory "worklist"

theorem Stays.pure {x : α} (h : Sealed n c) : Stays n (Pure.pure x) c :=
  outcome_pure.mpr ⟨.refl n c, h⟩

theorem Stays.after {a : Action α} (hc : Carries n c c') (h : Stays n a c') :
    Outcome a c' (fun _ c'' => Carries n c c'' ∧ Sealed n c'') fun e _ =>
      e = .outOfMemory "worklist" :=
  Outcome.imp h (fun _ _ h => ⟨hc.trans h.1, h.2⟩) fun _ _ h => h

theorem Stays.bind {a : Action α} {f : α → Action β} (ha : Stays n a c)
    (hf : ∀ x c', Carries n c c' → Sealed n c' → Stays n (f x) c') : Stays n (a >>= f) c :=
  outcome_bind.mpr (Outcome.imp ha (fun x c' h => (hf x c' h.1 h.2).after h.1) fun _ _ h => h)

theorem Sealed.changeWorklist {f : Worklist → Worklist}
    (hf : (f c.worklist).pending = c.worklist.pending) (h : Sealed n c) :
    Sealed n (c.changeWorklist f) :=
  h.carry (.changeWorklist f) hf fun _ => rfl

section Pass

variable {pass : Action Unit} (hpass : ∀ b, Sealed n b → Stays n pass b)
include hpass

theorem stays_requestPass (h : Sealed n c) : Stays n (requestPass pass) c := by
  have henter : Sealed n (c.changeWorklist Worklist.enter) := h.changeWorklist rfl
  by_cases hresolving : c.worklist.resolving = true
  · exact outcome_of_ok (requestPass_of_resolving pass hresolving)
      ⟨(Carries.changeWorklist _).trans (.changeWorklist _), henter.changeWorklist rfl⟩
  · have hrun := requestPass_of_not_resolving pass (eq_false_of_ne_true hresolving)
    have hstays := hpass _ henter
    cases hresult : (pass (c.changeWorklist Worklist.enter)).1 with
    | ok =>
      obtain ⟨hcarries, hsealed⟩ := hstays.ok hresult
      exact outcome_of_ok (hrun.trans (Prod.ext hresult rfl))
        ⟨((Carries.changeWorklist _).trans hcarries).trans (.changeWorklist _),
          hsealed.changeWorklist rfl⟩
    | error e =>
      exact outcome_of_error (hrun.trans (Prod.ext hresult rfl)) (hstays.error hresult)

/-- A type may be added to a new set, and to one that has it. -/
theorem stays_addType (h : Sealed n c) {target : SetId} (htarget : target.In c.extent) {t : Ty}
    (hfits : n ≤ target.index ∨ (c.set target).has t = true) : Stays n (addType pass target t) c := by
  by_cases hhas : (c.set target).has t = true
  · exact outcome_of_ok (addType_of_has pass hhas) ⟨.refl n c, h⟩
  · have hnew := hfits.resolve_right hhas
    have hrun : addType pass target t c = requestPass pass (c.insertType target t) := by
      show (if (c.set target).has t = true then _ else _ : Action Unit) c = _
      rw [if_neg hhas]
      rfl
    exact (outcome_congr hrun).mpr
      ((stays_requestPass hpass (h.insertType htarget hnew)).after (carries_insertType htarget hnew))

theorem stays_addSubset (h : Sealed n c) {source target : SetId} (hsource : source.In c.extent)
    (htarget : target.In c.extent) (hsuits : Suits n c source target) :
    Stays n (addSubset pass source target) c := by
  by_cases hflows : c.Flows source target
  · exact outcome_of_ok (addSubset_of_flows pass hflows) ⟨.refl n c, h⟩
  · refine (outcome_congr (addSubset_run pass hsource hflows)).mpr ?_
    exact (stays_requestPass hpass (h.addEdge hsource htarget hsuits)).after
      (carries_addEdge hsource)

end Pass

theorem stays_idle (b : Compartment) (h : Sealed n b) : Stays n idle b := .pure h

/-- A pass delivers types from new sets to new sets only. -/
theorem stays_drain (fuel : Nat) (h : Sealed n c) : Stays n (drain host fuel) c := by
  induction fuel generalizing c with
  | zero => exact outcome_of_error rfl rfl
  | succ fuel ih =>
    cases hnext : c.worklist.next? with
    | none =>
      exact outcome_of_ok (drain_of_empty fuel hnext) ⟨.changeWorklist _, h.changeWorklist rfl⟩
    | some next =>
      obtain ⟨work, rest⟩ := next
      have hpending := Worklist.pending_of_next? hnext
      have hpop : Carries n c (c.pop work rest) := .of_tables rfl rfl rfl rfl rfl rfl rfl
      have hpopped : Sealed n (c.pop work rest) :=
        ⟨fun w hw => (h.pending w (hpending ▸ List.mem_cons_of_mem _ hw)).carry hpop,
          fun s hs id hid => (h.listeners s hs id hid).carry hpop⟩
      obtain ⟨-, target, htarget, hk, hfits⟩ :=
        (h.pending work (hpending ▸ List.mem_cons_self)).carry hpop
      have hfire : fire host work { c with worklist := rest } =
          addType idle target work.type (c.pop work rest) := by
        show react host work ((c.pop work rest).constraint work.constraint) (c.pop work rest) = _
        rw [hk]
        rfl
      have hstays := stays_addType stays_idle hpopped htarget hfits
      cases hresult : (addType idle target work.type (c.pop work rest)).1 with
      | ok =>
        obtain ⟨hcarries, hsealed⟩ := hstays.ok hresult
        have hrun := drain_of_delivered fuel hnext (hfire.trans (Prod.ext hresult rfl))
        exact (outcome_congr hrun).mpr ((ih hsealed).after (hpop.trans hcarries))
      | error e =>
        have hrun := drain_of_failed fuel hnext (hfire.trans (Prod.ext hresult rfl))
        exact outcome_of_error hrun (hstays.error hresult)

theorem stays_solve (b : Compartment) (h : Sealed n b) : Stays n (solve host) b := by
  have hrun : solve host b = drain host (b.deliveryBound + 1) (b.changeWorklist Worklist.start) :=
    rfl
  exact (outcome_congr hrun).mpr
    ((stays_drain _ (h.changeWorklist rfl)).after (.changeWorklist _))

/-! ## Wiring properties -/

section Wiring

variable {b : Compartment} (hb : b.Sound) {pass : Action Unit}
  (hpass : ∀ b, Sealed n b → Stays n pass b) {key : Key}
include hb hpass

/-- A set flows down to properties that it suits. -/
theorem stays_flowDown {root : ObjectId} {base : SetId} (hbase : base.In b.extent)
    (hsuits : ∀ o, b.Inherits o root → ∀ p, (b.object o).property? key = some p →
      Suits n b base p.types)
    {fuel : Nat} {visited stack : List ObjectId} (hwalk : Walk b root visited stack)
    (hfuel : b.objects.size ≤ visited.length + fuel) (hc : Carries n b c) (h : Sealed n c) :
    Stays n (flowDown pass base key fuel stack) c := by
  induction fuel generalizing c visited stack with
  | zero =>
    cases stack with
    | nil => exact .pure h
    | cons o rest =>
      have hle := hwalk.length_le
      rw [List.length_cons] at hle
      omega
  | succ fuel ih =>
    cases stack with
    | nil => exact .pure h
    | cons o rest =>
      have hlength : (visited ++ [o]).length + fuel = visited.length + (fuel + 1) := by
        rw [List.length_append, List.length_singleton]
        omega
      have hnext : ∀ is, is = [] ∨ is = (b.object o).instances.reverse → ∀ c',
          Carries n b c' → Sealed n c' → Stays n (flowDown pass base key fuel (is ++ rest)) c' :=
        fun is his c' hc' h' =>
          ih (hwalk.next hb.forest his) (by rw [hlength]; exact hfuel) hc' h'
      refine outcome_get.mpr ?_
      dsimp only
      rw [hc.object]
      cases hp : (b.object o).property? key with
      | some p =>
        have hvalid := (hb.valid.objects o).properties p (List.mem_of_find?_eq_some hp)
        refine Stays.bind (stays_addSubset hpass h (hbase.mono hc.extent)
          (hvalid.types.mono hc.extent) ((hsuits o (hwalk.below o (by simp)) p hp).carry hc)) ?_
        exact fun _ c' hc' h' => hnext [] (.inl rfl) c' (hc.trans hc') h'
      | none => exact hnext _ (.inr rfl) c hc h

/-- The types of a property are sent to the objects below, if they suit each of them. -/
theorem stays_storeToInstances {id : ObjectId}
    (hsuits : ∀ p, (b.object id).property? key = some p → ∀ o, b.Inherits o id →
      ∀ q, (b.object o).property? key = some q → Suits n b p.types q.types)
    (hc : Carries n b c) (h : Sealed n c) : Stays n (storeToInstances pass id key) c := by
  refine outcome_get.mpr ?_
  rw [hc.object]
  cases hp : (b.object id).property? key with
  | none => exact Stays.pure h
  | some p =>
    have hvalid := (hb.valid.objects id).properties p (List.mem_of_find?_eq_some hp)
    refine stays_flowDown hb hpass hvalid.types (hsuits p hp) (Walk.start hb.forest id) ?_ hc h
    rw [objectBound, hc.objects, List.length_nil]
    omega

/-- New properties are wired to new sets, unless the objects below had one that is unknown. -/
theorem stays_wireProperties {above : Option SetId} {made : List (ObjectId × Property)}
    (hladder : b.Ladder key above made)
    (hmade : ∀ x ∈ made, n ≤ x.2.types.index ∧ ∀ o, b.Inherits o x.1 →
      ∀ q, (b.object o).property? key = some q →
        n ≤ q.types.index ∨ (b.set q.types).has .unknown = true)
    (hc : Carries n b c) (h : Sealed n c) : Stays n (wireProperties pass key above made) c := by
  induction made generalizing c above with
  | nil => exact .pure h
  | cons x rest ih =>
    obtain ⟨owner, p⟩ := x
    obtain ⟨hfound, habove, hrest⟩ := hladder
    obtain ⟨hnew, hbelow⟩ := hmade (owner, p) List.mem_cons_self
    have hvalid := (hb.valid.objects owner).properties p (List.mem_of_find?_eq_some hfound)
    have hrest : ∀ c', Carries n b c' → Sealed n c' → Stays n (do
        storeToInstances pass owner key
        wireProperties pass key (some p.types) rest) c' := by
      intro c₁ hc₁ h₁
      refine Stays.bind (stays_storeToInstances hb hpass ?_ hc₁ h₁) fun _ c₂ hc₂ h₂ =>
        ih hrest (fun x hx => hmade x (List.mem_cons_of_mem _ hx)) (hc₁.trans hc₂) h₂
      exact fun _ _ o ho q hq => (hbelow o ho q hq).imp_right .inl
    refine Stays.bind (stays_addSubset hpass h (hvalid.ownTypes.mono hc.extent)
      (hvalid.types.mono hc.extent) (.inl hnew)) fun _ c₁ hc₁ h₁ => ?_
    cases above with
    | none => exact hrest c₁ (hc.trans hc₁) h₁
    | some s =>
      obtain ⟨proto, -, hanswers⟩ := habove
      have hs := hanswers.in hb.valid
      refine Stays.bind (stays_addSubset hpass h₁ (hs.mono (hc.trans hc₁).extent)
        (hvalid.types.mono (hc.trans hc₁).extent) (.inl hnew)) fun _ c₂ hc₂ h₂ => ?_
      exact hrest c₂ ((hc.trans hc₁).trans hc₂) h₂

end Wiring

/-! ## Looks -/

/-- What a look leaves alone: the types of the sets that are there, and all of the objects but for
the properties that they have been asked for. -/
structure Unmoved (c c' : Compartment) : Prop where
  types : ∀ s, s.In c.extent → (c'.set s).types = (c.set s).types
  sets : c.sets.size ≤ c'.sets.size
  objects : c'.objects.size = c.objects.size
  object : ∀ o, ∃ ps, c'.object o = { c.object o with properties := (c.object o).properties ++ ps }
  monitored : c'.monitored = c.monitored
  queued : c'.queued = c.queued

theorem Unmoved.refl (c : Compartment) : c.Unmoved c :=
  ⟨fun _ _ => rfl, Nat.le_refl _, rfl, fun o => ⟨[], by rw [List.append_nil]⟩, rfl, rfl⟩

theorem Unmoved.isUnknown (h : c.Unmoved c') (o : ObjectId) :
    (c'.object o).isUnknown = (c.object o).isUnknown := by
  obtain ⟨ps, hps⟩ := h.object o
  rw [hps]

theorem Unmoved.trans (h : c.Unmoved c') (h' : c'.Unmoved c'') : c.Unmoved c'' where
  types s hs := (h'.types s (Nat.lt_of_lt_of_le hs h.sets)).trans (h.types s hs)
  sets := Nat.le_trans h.sets h'.sets
  objects := h'.objects.trans h.objects
  object o := by
    obtain ⟨ps, hps⟩ := h.object o
    obtain ⟨ps', hps'⟩ := h'.object o
    exact ⟨ps ++ ps', by rw [hps', hps, List.append_assoc]⟩
  monitored := h'.monitored.trans h.monitored
  queued := h'.queued.trans h.queued

/-- Properties are made, and then types move among their sets. -/
theorem Furnished.unmoved (h : c.Furnished c') (h' : Carries c.sets.size c' c'') :
    c.Unmoved c'' where
  types s hs := by rw [(h'.set s hs).types, h.set]
  sets := Nat.le_trans h.sets h'.extent.sets
  objects := by rw [h'.objects, h.objects]
  object o := by
    rw [h'.object]
    exact h.object o
  monitored := h'.monitored.trans h.monitored
  queued := h'.queued.trans h.queued

/-- No answer begins to be held meanwhile. -/
theorem Furnished.frozen (h : c.Furnished c') (h' : Carries n c' c'') {id : ConstraintId}
    (hfreeze : (c''.constraint id).isFreeze = true) :
    id.In c.extent ∧ c''.constraint id = c.constraint id := by
  have hextent : c'.extent.constraints = c.extent.constraints := congrArg Array.size h.constraints
  have hin : id.In c'.extent := by
    by_contra hnew
    rw [h'.carrying id hnew] at hfreeze
    cases hfreeze
  refine ⟨?_, ?_⟩
  · rwa [ConstraintId.In, hextent] at hin
  · rw [h'.constraint id hin, constraint, h.constraints, constraint]

theorem Carries.unmoved (h : Carries c.sets.size c c') : c.Unmoved c' :=
  (Furnished.refl c).unmoved h

/-- An action leaves everything alone, or fails because a pass got to its bound. -/
def Looks (a : Action α) (c : Compartment) : Prop :=
  Outcome a c (fun _ c' => c.Unmoved c') fun e _ => e = .outOfMemory "worklist"

namespace Resolved

variable (h : c.Resolved)
include h

theorem sealed_of_set (hset : ∀ s, c'.set s = c.set s)
    (hworklist : c'.worklist = c.worklist) : Sealed c.sets.size c' := by
  constructor
  · intro w hw
    rw [hworklist, h.pending] at hw
    exact absurd hw List.not_mem_nil
  · intro s hs id hid
    rw [hset, set_of_not_in (Nat.not_lt.mpr hs)] at hid
    exact absurd hid List.not_mem_nil

/-- An object below one that lacks a property lacks it too, or is unknown. -/
theorem unknown_of_lacks {o a : ObjectId} (ho : c.Inherits o a) {q : Property}
    (hq : q ∈ (c.object o).properties) (hlacks : (c.object a).property? q.key = none) :
    (c.object o).isUnknown = true := by
  by_contra hknown
  obtain ⟨above, habove, -⟩ := (h.handedDown ho).derives (by simpa using hknown) q hq
  rw [hlacks] at habove
  cases habove

/-- A request for a property makes properties, and then types move among their sets. -/
theorem furnishes_getProperty {id : ObjectId} (hid : id.In c.extent) (key : Key) (own : Bool) :
    Outcome (getProperty (solve host) id key own) c
      (fun _ c' => ∃ c₁, c.Furnished c₁ ∧ Carries c.sets.size c₁ c')
      fun e _ => e = .outOfMemory "worklist" := by
  by_cases hunknown : (c.object id).isUnknown = true
  · exact outcome_of_ok (getProperty_of_unknown hunknown key own) ⟨c, .refl c, .refl _ c⟩
  cases hp : (c.object id).property? key with
  | some p =>
    exact outcome_of_ok (getProperty_of_found hunknown hp own) ⟨c, .refl c, .refl _ c⟩
  | none =>
    have hknown : (c.object id).isUnknown = false := by simpa using hunknown
    obtain ⟨made, p, c₁, hrun, hmade, hladder, -, hfst⟩ := addProperty_run (solve host) .plain
      h.sound hid hknown hp (.inl trivial)
    have hrun' : getProperty (solve host) id key own c =
        (wireProperties (solve host) key (c.lacking key (c.chain id)).2 made >>= fun _ =>
          pure (if own then p.ownTypes else p.types) : Action SetId) c₁ := by
      unfold getProperty
      rw [run_get]
      dsimp only
      rw [if_neg hunknown, hp]
      show (addProperty (solve host) id key >>= fun p => _) c = _
      rw [run_bind, hrun, run_bind, run_bind]
      cases wireProperties (solve host) key (c.lacking key (c.chain id)).2 made c₁ with
      | mk r c₂ => cases r <;> rfl
    have hlacks : ∀ x ∈ made, (c.object x.1).property? key = none := by
      intro x hx
      have hx : x.1 ∈ made.map Prod.fst := List.mem_map_of_mem hx
      rw [hfst] at hx
      obtain hx | hx := List.mem_append.mp hx
      · exact ((c.lacking_spec key (c.chain id)).1 x.1 (List.mem_reverse.mp hx)).2
      · rw [List.mem_singleton.mp hx, hp]
    have hwire : Stays c.sets.size
        (wireProperties (solve host) key (c.lacking key (c.chain id)).2 made) c₁ := by
      refine stays_wireProperties (hmade.did.sound h.sound) stays_solve hladder ?_ (.refl _ c₁)
        (h.sealed_of_set hmade.furnished.set hmade.worklist)
      refine fun x hx => ⟨(hmade.fresh x hx).1, fun o ho q hq => ?_⟩
      have hkey := ObjectInfo.key_of_property? hq
      obtain hold | hnew := hmade.properties o q (List.mem_of_find?_eq_some hq)
      · have hunknown := h.unknown_of_lacks (ho.congr hmade.proto) hold (by rw [hkey, hlacks x hx])
        right
        rw [hmade.furnished.set]
        exact (h.forgotten o hunknown q hold).1
      · exact .inl (hmade.fresh (o, q) hnew).1
    refine (outcome_congr hrun').mpr (outcome_bind.mpr (Outcome.imp hwire ?_ fun _ _ h => h))
    rintro _ c' ⟨hcarries, -⟩
    exact outcome_pure.mpr ⟨c₁, hmade.furnished, hcarries⟩

/-- Asking for a property is a look. -/
theorem looks_getProperty {id : ObjectId} (hid : id.In c.extent) (key : Key) (own : Bool) :
    Looks (getProperty (solve host) id key own) c := by
  refine Outcome.imp (h.furnishes_getProperty hid key own) ?_ fun _ _ h => h
  rintro _ c' ⟨c₁, hfurnished, hcarries⟩
  exact hfurnished.unmoved hcarries

/-- Sending the types of a property down is a look: they have come down already. -/
theorem looks_storeToInstances (id : ObjectId) (key : Key) :
    Looks (storeToInstances (solve host) id key) c := by
  have hstays : Stays c.sets.size (storeToInstances (solve host) id key) c := by
    refine stays_storeToInstances h.sound stays_solve ?_ (.refl _ c)
      (h.sealed_of_set (fun _ => rfl) rfl)
    intro p hp o ho q hq
    have hvalid := (h.sound.valid.objects id).properties p (List.mem_of_find?_eq_some hp)
    have hmem := List.mem_of_find?_eq_some hq
    by_cases hunknown : (c.object o).isUnknown = true
    · exact .inr (.inl (h.forgotten o hunknown q hmem).1)
    · obtain ⟨above, habove, htypes, -⟩ :=
        (h.handedDown ho).derives (by simpa using hunknown) q hmem
      rw [ObjectInfo.key_of_property? hq, hp, Option.some.injEq] at habove
      subst habove
      exact .inr (.inr ⟨hvalid.types, fun t ht =>
        htypes t ((h.sound.valid.sets _).coherent.has_of_mem ht)⟩)
  exact Outcome.imp hstays (fun _ _ h => h.1.unmoved) fun _ _ h => h

end Resolved

/-! ## Freezing a kind -/

/-- A constraint that is registered for what is to come changes no types. -/
theorem unmoved_register {source : SetId} (hsource : source.In c.extent) (k : Constraint) :
    c.Unmoved (c.register source k false) where
  types s _ := types_register hsource k false s
  sets := Nat.le_of_eq (by simp [register, attach, changeSet, record])
  objects := rfl
  object o := ⟨[], by rw [List.append_nil]; rfl⟩
  monitored := rfl
  queued := rfl

/-- A constraint that is registered for what is to come starts no pass. -/
theorem addConstraint_for_later (pass : Action Unit) (source : SetId) (k : Constraint) :
    addConstraint pass source k false c =
      (.ok ⟨c.constraints.size⟩, c.register source k false) := rfl

/-- What freezing a kind keeps: nothing is done but to put one constraint on the set, and then one
on the element types of each object that is in it. -/
theorem outcome_knownKind {pass : Action Unit} {id : SetId} (hid : id.In c.extent)
    {script : Option ScriptId} {I : Compartment → Prop} {failed : InferError → Compartment → Prop}
    (hstart : I c)
    (hregister : ∀ r, c.setKind id ≠ .unknown →
      I (c.register id (.freezeKind r (c.setKind id) false) false))
    (hwatch : ∀ r, c.setKind id ≠ .unknown → ∀ o ∈ (c.set id).objectTypes, ∀ b, I b → Outcome (do
      let elements ← getProperty pass o .index false
      discard <| addConstraint pass elements (.freezeElementKind r (c.setKind id) false) false) b
        (fun _ b' => I b') failed) :
    Outcome (knownKind pass id script) c (fun _ c' => I c') failed := by
  refine outcome_get.mpr ?_
  dsimp only
  cases script with
  | none => exact outcome_pure.mpr hstart
  | some r =>
    by_cases hkind : c.setKind id = .unknown
    · dsimp only
      rw [if_pos hkind]
      exact outcome_pure.mpr hstart
    · dsimp only
      rw [if_neg hkind]
      refine outcome_bind.mpr (outcome_discard.mpr (outcome_of_ok
        (addConstraint_for_later pass id _) (outcome_get.mpr ?_)))
      have htypes : ((c.register id (.freezeKind r (c.setKind id) false) false).set id).objectTypes =
          (c.set id).objectTypes := by
        rw [TypeSet.objectTypes, types_register hid, TypeSet.objectTypes]
      rw [htypes]
      refine outcome_bind.mpr (Outcome.imp (outcome_forM (hregister r hkind) (hwatch r hkind)) ?_
        fun _ _ h => h)
      exact fun _ _ h => outcome_pure.mpr h

/-- A run that succeeded so far, and only looked since some moment. -/
structure Looking (host : Host) (scope : Scope) (options : Options) (c b : Compartment) : Prop where
  rests : (unhandled host scope).At b
  good : (unhandled host scope).Good (fresh options) b
  unmoved : c.Unmoved b

section Looking

variable {scope : Scope} {options : Options} {b : Compartment} (hpasses : scope.passes)
  (hhandler : ∀ e h, ¬ scope.handler e h) (haborts : ¬ scope.aborts)
include haborts

theorem Looking.resolved (h : Looking host scope options c b) : b.Resolved :=
  resolved_of_good haborts h.rests h.good

omit haborts in
theorem Looking.step {a : Action α} {Q : α → Compartment → Prop}
    (h : Looking host scope options c b) (hlooks : Looks a b)
    (hmoves : (unhandled host scope).Moves a b Q) :
    Outcome a b (fun x b' => Looking host scope options c b' ∧ Q x b')
      fun e _ => e = .outOfMemory "worklist" := by
  refine Outcome.imp (hlooks.and hmoves) ?_ fun _ _ h => h.1
  rintro x b' ⟨hunmoved, hgood, hrest, hx⟩
  exact ⟨⟨hgood.at h.rests hrest, h.good.trans (sound_fresh options) hgood,
    h.unmoved.trans hunmoved⟩, hx⟩

omit haborts in
/-- A constraint begins to hold an answer. -/
theorem Looking.register (hfreezes : scope.grant.Freezes) (h : Looking host scope options c b)
    {source : SetId} (hsource : source.In b.extent) {k : Constraint} (hk : k.isFreeze = true) :
    Looking host scope options c (b.register source k false) := by
  obtain ⟨hgood, hrest, -⟩ := (moves_freeze h.rests (hfreezes.asks _ _ hk) hsource hk).ok rfl
  exact ⟨hgood.at h.rests hrest, h.good.trans (sound_fresh options) hgood,
    h.unmoved.trans (unmoved_register hsource k)⟩

include hpasses hhandler

/-- Asking for a kind is a look, also if the answer is frozen. -/
theorem Looking.knownKind (hfreezes : scope.grant.Freezes) (h : Looking host scope options c c)
    {id : SetId} (hid : id.In c.extent) (script : Option ScriptId) :
    Looks (Compartment.knownKind (solve host) id script) c := by
  have hL := lawful_unhandled host hpasses hhandler
  refine Outcome.imp (outcome_knownKind (I := Looking host scope options c) hid h ?_ ?_)
    (fun _ _ hb => hb.unmoved) fun _ _ h => h
  · exact fun r _ => h.register hfreezes hid rfl
  · intro r _ o ho b hb
    have ho : o.In b.extent :=
      Nat.lt_of_lt_of_eq (in_of_mem_objectTypes h.rests.sound.valid ho) hb.unmoved.objects.symm
    have hproperty := hb.step ((hb.resolved haborts).looks_getProperty ho .index false)
      (moves_getProperty hL (.inl trivial) hb.rests ho (.inl hfreezes.elements) false)
    refine outcome_bind.mpr (Outcome.imp hproperty ?_ fun _ _ h => h)
    rintro elements b₁ ⟨hb₁, hanswers⟩
    exact outcome_discard.mpr (outcome_of_ok (addConstraint_for_later _ elements _)
      (hb₁.register hfreezes (hanswers.in hb₁.rests.sound.valid) rfl))

end Looking

theorem Looks.map {a : Action α} {f : α → β} (h : Looks a c) :
    Looks (a >>= fun x => pure (f x)) c :=
  outcome_bind.mpr (Outcome.imp h (fun _ _ h => outcome_pure.mpr h) fun _ _ h => h)

end Compartment

open Compartment

/-- The request asks for a property or a kind, or for the types of a property to be sent down. -/
def Request.isLook : Request → Bool
  | property .. | storeToInstances .. | knownKind .. => true
  | _ => false

namespace Compartment

variable {host : Host} {c c' : Compartment}

/-- Requests that only ask are looks. -/
theorem Looking.run {scope : Scope} {options : Options} (hpasses : scope.passes)
    (hhandler : ∀ e h, ¬ scope.handler e h) (haborts : ¬ scope.aborts)
    (hfreezes : scope.grant.Freezes) (h : Looking host scope options c c) {r : Request}
    (hlook : r.isLook = true) (hvalid : r.Valid c.extent) : Looks (r.run host) c := by
  have hresolved := h.resolved haborts
  cases r with
  | property o key own => exact Looks.map (hresolved.looks_getProperty hvalid key own)
  | storeToInstances o key => exact Looks.map (hresolved.looks_storeToInstances o key)
  | knownKind s script => exact Looks.map (h.knownKind hpasses hhandler haborts hfreezes hvalid script)
  | _ => cases hlook

/-- A request for a property is answered by a set. -/
theorem set_of_property {o : ObjectId} {key : Key} {own : Bool} {x : Answer}
    (h : ((Request.property o key own).run host c).1 = .ok x) : ∃ s, x = .set s := by
  have hrun : (Request.property o key own).run host c =
      (getProperty (solve host) o key own >>= fun s => pure (.set s) : Action Answer) c := rfl
  rw [hrun, run_bind] at h
  split at h
  · cases h
    exact ⟨_, rfl⟩
  · cases h

/-- The answer for a property stays the same, as long as the object is no less known. -/
theorem property_again {o : ObjectId} {key : Key} {own : Bool} {s : SetId}
    (hanswers : c.Answers o key own s)
    (huniversal : (c.object o).isUnknown = true → s = universal) (hgrows : c.Grows c')
    (hsame : (c'.object o).isUnknown = (c.object o).isUnknown) :
    (Request.property o key own).run host c' = (.ok (.set s), c') := by
  have hrun : getProperty (solve host) o key own c' = (.ok s, c') := by
    by_cases hunknown : (c'.object o).isUnknown = true
    · rw [huniversal (hsame ▸ hunknown)]
      exact Resolved.getProperty_of_unknown hunknown key own
    · obtain ⟨hunknown', -⟩ | ⟨p, hp, rfl⟩ := hanswers
      · exact absurd (hsame.trans hunknown') hunknown
      · exact Resolved.getProperty_of_found hunknown (hgrows.property? hp) own
  exact run_bind_ok hrun

/-- Between two requests of a host without handlers, a request that only asks succeeds, nothing is
seen of it, and a property that is asked for again is answered by the same set, until nothing is
known about the object any more. -/
theorem looks_unseen {options : Options} {rs : List Request}
    {outcomes : List (Except InferError Answer)}
    (hrun : Request.runAll host rs (fresh options) = (outcomes, c))
    (hvalid : Request.ValidAlong host rs (fresh options)) (hok : ∀ o ∈ outcomes, o.isOk = true)
    (hnative : ∀ r ∈ rs, r.isNative = false) {r : Request} (hlook : r.isLook = true)
    (hr : r.Valid c.extent) :
    ∃ x c', r.run host c = (.ok x, c') ∧ c.Unmoved c' ∧
      ∀ o key own, r = .property o key own → ∀ safe host' rs' c'',
        Request.Reaches safe host' rs' c' c'' →
          (c''.object o).isUnknown = (c'.object o).isUnknown → r.run host' c'' = (.ok x, c'') := by
  have hredelivery : ∀ r ∈ rs, r.isRedelivery = true → True := fun _ _ _ => trivial
  obtain ⟨hat, hgood, -⟩ := Request.runAll_unhandled hrun hvalid hok hnative hredelivery
  have hlooking : Looking host (Request.scopeOf outcomes True) options c c :=
    ⟨hat, hgood, .refl c⟩
  have hlooks : Looks (r.run host) c :=
    hlooking.run trivial (fun _ _ => id) id ⟨trivial, fun _ _ _ => trivial⟩ hlook hr
  have hends : (r.run host c).1 ≠ .error (.outOfMemory "worklist") :=
    run_ne_worklist (at_ending (congrArg Prod.snd hrun) hvalid hnative) hr
  cases hresult : (r.run host c).1 with
  | error e => exact absurd (hresult.trans (congrArg _ (hlooks.error hresult))) hends
  | ok x =>
    have hunmoved := hlooks.ok hresult
    refine ⟨x, (r.run host c).2, Prod.ext hresult rfl, hunmoved, ?_⟩
    rintro o key own rfl safe host' rs' c'' hlater hsame
    have hmoves : (unhandled host (Request.scopeOf outcomes True)).Moves
        ((Request.property o key own).run host) c _ :=
      Request.moves (lawful_unhandled host trivial fun _ _ => id) hat
        ((free_unhandled host _).supported _) hr trivial
    obtain ⟨hgood', hrest, hanswered⟩ := hmoves.ok hresult
    have hat' := hgood'.at hat hrest
    have hgrows := (hlater.moves (at_handled (fun _ _ => id) hat' host' safe)).2.grows hat'.sound
    obtain ⟨s, rfl⟩ := set_of_property hresult
    refine property_again (hanswered.property o key own s rfl rfl) (fun hunknown => ?_) hgrows hsame
    -- The request did not make the object unknown.
    rw [hunmoved.isUnknown] at hunknown
    have hfirst : getProperty (solve host) o key own c = (.ok universal, c) :=
      Resolved.getProperty_of_unknown hunknown key own
    cases hresult.symm.trans (congrArg Prod.fst
      (run_bind_ok (f := fun s => (pure (.set s) : Action Answer)) hfirst))
    rfl

/-- An object inherits from another one and is in a set; neither has been asked for anything. -/
def curiousRun : List Request :=
  [.newSet, .typeObject none "above" false none, .typeObject none "below" false (some ⟨1⟩),
    .addType ⟨1⟩ (.object ⟨2⟩)]

theorem looks_unseen_curious :
    ∃ x c', (Request.property ⟨2⟩ (.named "x") false).run .silent
        (Request.runAll .silent curiousRun (fresh {})).2 = (.ok x, c') ∧
      (Request.runAll .silent curiousRun (fresh {})).2.Unmoved c' ∧
      (Request.property ⟨2⟩ (.named "x") false).run .silent c' = (.ok x, c') := by
  have hrun : Request.runAll .silent curiousRun (fresh {}) =
      ((Request.runAll .silent curiousRun (fresh {})).1,
        (Request.runAll .silent curiousRun (fresh {})).2) := rfl
  obtain ⟨x, c', hanswer, hunmoved, hagain⟩ := looks_unseen hrun (by decide +kernel)
    (by decide +kernel) (by decide +kernel) (r := .property ⟨2⟩ (.named "x") false) rfl
    (by decide +kernel)
  exact ⟨x, c', hanswer, hunmoved, hagain _ _ _ rfl (fun _ _ => True) .silent [] c'
    ⟨fun _ _ _ _ _ _ _ _ => trivial, rfl, trivial⟩ rfl⟩

end Compartment

end FlowTypes
