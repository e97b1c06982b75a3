import FlowTypes.Proofs.Soundness

/-!
# What flows, and what leaves the flow alone

A change either moves types, listeners and pending work, or it is quiet: it leaves every set, the
wiring of the constraints and the worklist as they are.  What is proved about deliveries looks at
the few changes of the first sort only.

The journal says which constraint was put on which set and which types it heard of.  A constraint
that is put on a set for all of its types hears of each of them, at once or later.

## Main results

* `Change.quiet_or_traffic`: a change is quiet or moves something.
* `Attended`: for a constraint that hears of all types of its set, every type is pending or heard
  of; every subset edge has such a constraint.
* `Did.attended`: every sequence of changes in which no pass is given up keeps this.
* `Did.listed`, `Did.wired`: where the listeners and the wired element accesses come from.
-/

namespace FlowTypes

namespace Compartment

variable {c c' c'' : Compartment}

/-! ## Quiet changes -/

/-- No set, no wiring and no pending type changes. -/
structure Quiet (c c' : Compartment) : Prop where
  types : ∀ s, (c'.set s).types = (c.set s).types
  listeners : ∀ s, (c'.set s).constraints = (c.set s).constraints
  targets : ∀ s t, (c'.set s).flowsInto t = (c.set s).flowsInto t
  count : c'.constraints.size = c.constraints.size
  bare : ∀ id, (c'.constraint id).bare = (c.constraint id).bare
  wired : ∀ id, (c'.constraint id).isWired = (c.constraint id).isWired
  pending : c'.worklist.pending = c.worklist.pending
  journal : ∃ es, c'.journal = es ++ c.journal ∧ ∀ e ∈ es, e.isDelivery = false

/-- Only the sets, the constraints, the pending types and the journal matter. -/
theorem Quiet.of_eq (hsets : c'.sets = c.sets) (hconstraints : c'.constraints = c.constraints)
    (hpending : c'.worklist.pending = c.worklist.pending)
    (hjournal : ∃ es, c'.journal = es ++ c.journal ∧ ∀ e ∈ es, e.isDelivery = false) :
    c.Quiet c' := by
  have hset : ∀ s, c'.set s = c.set s := fun s => by rw [set, set, hsets]
  have hconstraint : ∀ id, c'.constraint id = c.constraint id :=
    fun id => by rw [constraint, constraint, hconstraints]
  exact ⟨fun s => by rw [hset], fun s => by rw [hset], fun s t => by rw [hset],
    by rw [hconstraints], fun id => by rw [hconstraint], fun id => by rw [hconstraint], hpending,
    hjournal⟩

/-- A change of the other tables is quiet. -/
theorem Quiet.of_tables (hsets : c'.sets = c.sets) (hconstraints : c'.constraints = c.constraints)
    (hpending : c'.worklist.pending = c.worklist.pending) (hjournal : c'.journal = c.journal) :
    c.Quiet c' :=
  .of_eq hsets hconstraints hpending ⟨[], hjournal, fun _ h => absurd h List.not_mem_nil⟩

theorem Quiet.refl (c : Compartment) : c.Quiet c := .of_tables rfl rfl rfl rfl

theorem Quiet.trans (h : c.Quiet c') (h' : c'.Quiet c'') : c.Quiet c'' where
  types s := (h'.types s).trans (h.types s)
  listeners s := (h'.listeners s).trans (h.listeners s)
  targets s t := (h'.targets s t).trans (h.targets s t)
  count := h'.count.trans h.count
  bare id := (h'.bare id).trans (h.bare id)
  wired id := (h'.wired id).trans (h.wired id)
  pending := h'.pending.trans h.pending
  journal := by
    obtain ⟨es, hes, hquiet⟩ := h.journal
    obtain ⟨es', hes', hquiet'⟩ := h'.journal
    refine ⟨es' ++ es, by rw [hes', hes, List.append_assoc], ?_⟩
    intro e he
    obtain he | he := List.mem_append.mp he
    · exact hquiet' e he
    · exact hquiet e he

theorem Quiet.extend {e : Event} (h : e.isDelivery = false) : c.Quiet (c.record e) :=
  .of_eq rfl rfl rfl ⟨[e], rfl, fun e' he' => by rwa [List.mem_singleton.mp he']⟩

/-- A quiet change fires nothing. -/
theorem Quiet.not_fired (h : c.Quiet c') :
    ∃ es, c'.journal = es ++ c.journal ∧ ∀ w, .fired w ∉ es := by
  obtain ⟨es, hes, hquiet⟩ := h.journal
  refine ⟨es, hes, fun w hw => ?_⟩
  cases hquiet _ hw

/-- Nothing is fired by two steps if neither fires anything. -/
theorem not_fired_trans (h : ∃ es, c'.journal = es ++ c.journal ∧ ∀ w, .fired w ∉ es)
    (h' : ∃ es, c''.journal = es ++ c'.journal ∧ ∀ w, .fired w ∉ es) :
    ∃ es, c''.journal = es ++ c.journal ∧ ∀ w, .fired w ∉ es := by
  obtain ⟨es, hes, hnone⟩ := h
  obtain ⟨es', hes', hnone'⟩ := h'
  refine ⟨es' ++ es, by rw [hes', hes, List.append_assoc], fun w hw => ?_⟩
  exact (List.mem_append.mp hw).elim (hnone' w) (hnone w)

theorem set_pushSet (s : SetId) : c.pushSet.set s = c.set s := by
  rw [pushSet, set_push]
  split
  · rename_i h
    rw [h, set_of_not_in (Nat.lt_irrefl _)]
  · rfl

theorem quiet_pushSet : c.Quiet c.pushSet :=
  ⟨fun s => by rw [set_pushSet], fun s => by rw [set_pushSet], fun s t => by rw [set_pushSet], rfl,
    fun _ => rfl, fun _ => rfl, rfl, [], rfl, fun _ h => absurd h List.not_mem_nil⟩

theorem quiet_spend {id : ConstraintId} {script : ScriptId}
    (hheld : (c.constraint id).heldFor? = some script) : c.Quiet (c.spend id script) := by
  have hconstraint : ∀ a, (c.spend id script).constraint a =
      if id = a then (c.constraint a).spend else c.constraint a :=
    constraint_changeConstraint (in_of_heldFor hheld) Constraint.spend
  refine ⟨fun _ => rfl, fun _ => rfl, fun _ _ => rfl, ?_, ?_, ?_, rfl, ?_⟩
  · show (c.constraints.modify _ _).size = _
    rw [Array.size_modify]
  · intro a
    rw [hconstraint]
    split
    · exact (Constraint.evolves_spend _).bare
    · rfl
  · intro a
    rw [hconstraint]
    split
    · cases c.constraint a <;> rfl
    · rfl
  · exact ⟨[_], rfl, fun e he => by rw [List.mem_singleton.mp he]; rfl⟩

theorem quiet_notifyKind (id : ObjectId) : c.Quiet (c.notifyKind id) :=
  notifyKind_induction (P := c.Quiet)
    (fun _ _ _ _ hk h => h.trans (quiet_spend (heldFor_of_elementKind hk))) id (Quiet.refl c)

theorem Aside.quiet (h : c.Aside c') : c.Quiet c' := by
  obtain ⟨es, hes, hquiet⟩ := h.journal
  exact .of_eq h.sets h.constraints h.pending
    ⟨es, hes, fun e he => Event.not_isDelivery_of_isQuiet (hquiet e he)⟩

/-- A change either leaves the flow alone or moves something. -/
theorem Change.quiet_or_traffic {sc : Scope} (h : c.Change sc c') :
    c.Quiet c' ∨ c.Traffic sc c' := by
  cases h with
  | traffic h => exact .inr h
  | aside h => exact .inl h.quiet
  | pushSet => exact .inl quiet_pushSet
  | @pushObject name function =>
    have hobjects : c.Quiet { c with objects := c.objects.push { name, function } } :=
      .of_tables rfl rfl rfl rfl
    exact .inl (hobjects.trans (Quiet.extend rfl))
  | @pushProperty owner key =>
    have hsets : c.Quiet (c.pushSet.pushSet.changeObject owner
        (·.addProperty (c.nextProperty key))) := quiet_pushSet.trans (quiet_pushSet.trans
          (.of_tables rfl rfl rfl rfl))
    exact .inl (hsets.trans (Quiet.extend rfl))
  | @setProto id proto =>
    have hobjects : c.Quiet ((c.changeObject proto fun o =>
        { o with instances := o.instances ++ [id] }).changeObject id fun o =>
          { o with proto := some proto }) :=
      .of_tables rfl rfl rfl rfl
    exact .inl (hobjects.trans (Quiet.extend rfl))
  | memo | retool | possiblyPacked | builtin => exact .inl (.of_tables rfl rfl rfl rfl)
  | @demote id f =>
    have hobject : c.Quiet (c.changeObject id f) :=
      .of_tables rfl rfl rfl rfl
    exact .inl (hobject.trans (quiet_notifyKind id))
  | spend hheld => exact .inl (quiet_spend hheld)
  | handOut =>
    exact .inl (.of_eq rfl rfl rfl ⟨[_], rfl, fun e he => by rw [List.mem_singleton.mp he]; rfl⟩)
  | pushSite | changeSite => exact .inl (.of_tables rfl rfl rfl rfl)

theorem quiet_classify (id : ObjectId) : c.Quiet (c.classify id) :=
      .of_tables rfl rfl rfl rfl

/-! ## Look-ups after a constraint is registered -/

section Register

variable {source : SetId} (hsource : source.In c.extent) (k : Constraint) (callExisting : Bool)

theorem journal_register : (c.register source k callExisting).journal =
    .constraintAdded source ⟨c.constraints.size⟩ callExisting :: c.journal := by
  cases callExisting <;> rfl

theorem constraint_register (id : ConstraintId) : (c.register source k callExisting).constraint id =
    if id = ⟨c.constraints.size⟩ then k else c.constraint id := by
  cases callExisting
  · exact constraint_attach source k false id
  · exact constraint_attach source k true id

theorem size_register :
    (c.register source k callExisting).constraints.size = c.constraints.size + 1 := by
  cases callExisting <;> exact Array.size_push _

theorem pending_register : (c.register source k callExisting).worklist.pending =
    c.worklist.pending ++
      if callExisting then
        (c.set source).types.map fun t => ⟨⟨c.constraints.size⟩, source, t⟩
      else [] := by
  cases callExisting
  · exact (List.append_nil _).symm
  · exact Worklist.pending_enqueue _ _

include hsource

theorem set_register (s : SetId) : (c.register source k callExisting).set s =
    if source = s then (c.set s).listen ⟨c.constraints.size⟩ else c.set s := by
  cases callExisting
  · exact set_attach hsource k false s
  · exact set_attach hsource k true s

theorem types_register (s : SetId) :
    ((c.register source k callExisting).set s).types = (c.set s).types := by
  rw [set_register hsource]
  split <;> rfl

theorem flowsInto_register (s t : SetId) :
    ((c.register source k callExisting).set s).flowsInto t = (c.set s).flowsInto t := by
  rw [set_register hsource]
  split <;> rfl

theorem mem_listeners_register (s : SetId) (id : ConstraintId) :
    id ∈ ((c.register source k callExisting).set s).constraints ↔
      id ∈ (c.set s).constraints ∨ source = s ∧ id = ⟨c.constraints.size⟩ := by
  rw [set_register hsource]
  split
  · rename_i h
    rw [TypeSet.constraints_listen, List.mem_append, List.mem_singleton]
    simp [h]
  · rename_i h
    simp [h]

end Register

/-! ## Look-ups after an edge is added -/

section Edge

variable {source : SetId} (hsource : source.In c.extent) (target : SetId)

theorem journal_addEdge : (c.addEdge source target).journal =
    .constraintAdded source ⟨c.constraints.size⟩ true :: c.journal :=
  journal_register _ _

theorem constraint_addEdge (id : ConstraintId) : (c.addEdge source target).constraint id =
    if id = ⟨c.constraints.size⟩ then .subset target else c.constraint id :=
  constraint_register _ _ id

theorem size_addEdge : (c.addEdge source target).constraints.size = c.constraints.size + 1 :=
  size_register _ _

include hsource

theorem set_addEdge (s : SetId) : (c.addEdge source target).set s =
    if source = s then ((c.set s).addTarget target).listen ⟨c.constraints.size⟩ else c.set s := by
  have hsource' : source.In (c.changeSet source (·.addTarget target)).extent := by
    rwa [extent_changeSet]
  rw [addEdge, set_register hsource', set_changeSet hsource]
  split <;> rfl

theorem pending_addEdge : (c.addEdge source target).worklist.pending = c.worklist.pending ++
    (c.set source).types.map fun t => ⟨⟨c.constraints.size⟩, source, t⟩ := by
  rw [addEdge, pending_register, if_pos rfl, set_changeSet hsource, if_pos rfl]
  rfl

theorem types_addEdge (s : SetId) :
    ((c.addEdge source target).set s).types = (c.set s).types := by
  rw [set_addEdge hsource]
  split <;> rfl

theorem mem_listeners_addEdge (s : SetId) (id : ConstraintId) :
    id ∈ ((c.addEdge source target).set s).constraints ↔
      id ∈ (c.set s).constraints ∨ source = s ∧ id = ⟨c.constraints.size⟩ := by
  rw [set_addEdge hsource]
  split
  · rename_i h
    rw [TypeSet.constraints_listen, TypeSet.constraints_addTarget, List.mem_append,
      List.mem_singleton]
    simp [h]
  · rename_i h
    simp [h]

theorem flowsInto_addEdge (s t : SetId) : ((c.addEdge source target).set s).flowsInto t = true ↔
    (c.set s).flowsInto t = true ∨ source = s ∧ target = t := by
  have hlistens : ∀ (x : TypeSet) (id : ConstraintId), (x.listen id).flowsInto t = x.flowsInto t :=
    fun _ _ => rfl
  rw [set_addEdge hsource]
  split
  · rename_i h
    rw [hlistens, TypeSet.flowsInto_addTarget, Bool.or_eq_true, beq_iff_eq, and_iff_right h,
      eq_comm (a := t)]
  · rename_i h
    simp [h]

end Edge

/-! ## Look-ups after an element access is wired up -/

section Wire

variable {id : ConstraintId} (hid : id.In c.extent) {objects : SetId}
  (hobjects : objects.In c.extent) (k : Constraint)

theorem size_changeConstraint (f : Constraint → Constraint) :
    (c.changeConstraint id f).constraints.size = c.constraints.size :=
  Array.size_modify

theorem journal_wireUp : (c.wireUp id objects k).journal =
    .constraintAdded objects ⟨c.constraints.size⟩ true :: c.journal := by
  rw [wireUp, journal_register, size_changeConstraint]
  rfl

theorem size_wireUp : (c.wireUp id objects k).constraints.size = c.constraints.size + 1 := by
  rw [wireUp, size_register, size_changeConstraint]

include hid in
theorem constraint_wireUp (other : ConstraintId) : (c.wireUp id objects k).constraint other =
    if other = ⟨c.constraints.size⟩ then k
    else if id = other then (c.constraint other).wire else c.constraint other := by
  rw [wireUp, constraint_register, size_changeConstraint, constraint_changeConstraint hid]

include hobjects

theorem in_wire : objects.In (c.changeConstraint id Constraint.wire).extent := by
  rwa [extent_changeConstraint]

theorem types_wireUp (s : SetId) : ((c.wireUp id objects k).set s).types = (c.set s).types :=
  types_register (in_wire hobjects) k true s

theorem mem_listeners_wireUp (s : SetId) (other : ConstraintId) :
    other ∈ ((c.wireUp id objects k).set s).constraints ↔
      other ∈ (c.set s).constraints ∨ objects = s ∧ other = ⟨c.constraints.size⟩ := by
  rw [wireUp, mem_listeners_register (in_wire hobjects), size_changeConstraint]
  rfl

theorem flowsInto_wireUp (s t : SetId) :
    ((c.wireUp id objects k).set s).flowsInto t = (c.set s).flowsInto t :=
  flowsInto_register (in_wire hobjects) k true s t

end Wire

/-! ## Look-ups after a type is added -/

section Insert

variable {target : SetId} (htarget : target.In c.extent) (t : Ty)

theorem journal_insertType : (c.insertType target t).journal = .typeAdded target t :: c.journal :=
  rfl

theorem pending_insertType : (c.insertType target t).worklist.pending =
    c.worklist.pending ++ (c.set target).constraints.map fun id => ⟨id, target, t⟩ :=
  Worklist.pending_enqueue _ _

include htarget

theorem set_insertType (s : SetId) :
    (c.insertType target t).set s = if target = s then (c.set s).insert t else c.set s :=
  set_changeSet htarget (·.insert t) s

theorem constraints_insertType (s : SetId) :
    ((c.insertType target t).set s).constraints = (c.set s).constraints := by
  rw [set_insertType htarget]
  split
  · exact TypeSet.constraints_insert _ t
  · rfl

theorem flowsInto_insertType (s u : SetId) :
    ((c.insertType target t).set s).flowsInto u = (c.set s).flowsInto u := by
  rw [set_insertType htarget]
  split
  · unfold TypeSet.insert
    split <;> rfl
  · rfl

theorem types_insertType (hnew : (c.set target).has t = false) (s : SetId) :
    ((c.insertType target t).set s).types =
      if target = s then (c.set s).types ++ [t] else (c.set s).types := by
  rw [set_insertType htarget]
  split
  · rename_i h
    subst h
    exact TypeSet.types_insert hnew
  · rfl

end Insert

/-- What flows leaves the answers alone that are held. -/
theorem Traffic.freeze_eq {sc : Scope} (h : c.Traffic sc c') {id : ConstraintId}
    (hfreeze : (c.constraint id).isFreeze = true) : c'.constraint id = c.constraint id := by
  have hold := ne_next_constraint (in_of_isFreeze hfreeze)
  cases h with
  | insert | pop | deliver | abandon => rfl
  | register => rw [constraint_register, if_neg hold]
  | edge => rw [constraint_addEdge, if_neg hold]
  | @wire other _ _ _ _ hother hk =>
    have hne : other ≠ id := by
      rintro rfl
      rw [hk] at hfreeze
      cases hfreeze
    rw [constraint_wireUp hother, if_neg hold, if_neg hne]

/-! ## What delivering looks at -/

/-- What delivering looks at stays the same. -/
structure Still (c c' : Compartment) : Prop where
  types : ∀ s, (c'.set s).types = (c.set s).types
  listeners : ∀ s, (c'.set s).constraints = (c.set s).constraints
  count : c'.constraints.size = c.constraints.size
  pending : c'.worklist.pending = c.worklist.pending
  journal : ∃ es, c'.journal = es ++ c.journal ∧ ∀ e ∈ es, e.isDelivery = false

theorem Quiet.still (h : c.Quiet c') : c.Still c' :=
  ⟨h.types, h.listeners, h.count, h.pending, h.journal⟩

/-- What comes before the constraint of an edge is registered. -/
theorem still_addTarget {source : SetId} (hsource : source.In c.extent) (target : SetId) :
    c.Still (c.changeSet source (·.addTarget target)) := by
  have hset : ∀ s, (c.changeSet source (·.addTarget target)).set s =
      if source = s then (c.set s).addTarget target else c.set s :=
    set_changeSet hsource (·.addTarget target)
  refine ⟨fun s => ?_, fun s => ?_, rfl, rfl, [], rfl, fun _ h => absurd h List.not_mem_nil⟩
  · rw [hset]
    split <;> rfl
  · rw [hset]
    split <;> rfl

/-- What comes before the constraint is registered that an element access is wired up with. -/
theorem still_wire (id : ConstraintId) : c.Still (c.changeConstraint id Constraint.wire) :=
  ⟨fun _ => rfl, fun _ => rfl, size_changeConstraint _, rfl, [], rfl,
    fun _ h => absurd h List.not_mem_nil⟩

/-! ## The constraints of a set hear of its types -/

/-- A constraint was put on a set, for all of its types. -/
def Hears (c : Compartment) (s : SetId) (id : ConstraintId) : Prop :=
  .constraintAdded s id true ∈ c.journal

theorem Hears.mono {s : SetId} {id : ConstraintId} (hgrows : c.Grows c') (h : c.Hears s id) :
    c'.Hears s id :=
  hgrows.journal.subset h

/-- What the journal says of the constraints agrees with the sets and the worklist. -/
structure Attended (c : Compartment) : Prop where
  listens : ∀ s id callExisting, .constraintAdded s id callExisting ∈ c.journal →
    id ∈ (c.set s).constraints
  heard : ∀ s id t, c.Hears s id → t ∈ (c.set s).types →
    ⟨id, s, t⟩ ∈ c.worklist.pending ∨ .fired ⟨id, s, t⟩ ∈ c.journal

/-- Every subset edge has its constraint. -/
def EdgesHeard (c : Compartment) : Prop :=
  ∀ s t, (c.set s).flowsInto t = true → ∃ id, c.Hears s id ∧ c.constraint id = .subset t

theorem attended_fresh (options : Options) : (fresh options).Attended where
  listens s id callExisting h := by cases h
  heard s id t h := by cases h

theorem edgesHeard_fresh (options : Options) : (fresh options).EdgesHeard := by
  intro s t hflows
  obtain ⟨i⟩ := s
  have htargets : ((fresh options).set ⟨i⟩).targets = {} := by
    cases i
    · show TypeSet.universal.targets = {}
      decide
    · rfl
  rw [TypeSet.flowsInto, htargets] at hflows
  simp [IndexSet.contains] at hflows

theorem Attended.still (h : c.Attended) (hstill : c.Still c') : c'.Attended := by
  obtain ⟨es, hes, hdelivery⟩ := hstill.journal
  have hmem : ∀ e : Event, e.isDelivery = true → (e ∈ c'.journal ↔ e ∈ c.journal) := by
    intro e he
    rw [hes, List.mem_append]
    constructor
    · rintro (hnew | hold)
      · rw [hdelivery e hnew] at he
        cases he
      · exact hold
    · exact .inr
  constructor
  · intro s id callExisting hadded
    rw [hstill.listeners]
    exact h.listens s id callExisting ((hmem _ rfl).mp hadded)
  · intro s id t hhears ht
    rw [hstill.types] at ht
    rw [hstill.pending, hmem _ rfl]
    exact h.heard s id t ((hmem _ rfl).mp hhears) ht

theorem Attended.register (h : c.Attended) {source : SetId} (hsource : source.In c.extent)
    (k : Constraint) (callExisting : Bool) : (c.register source k callExisting).Attended := by
  constructor
  · intro s id ce hadded
    rw [journal_register, List.mem_cons] at hadded
    rw [mem_listeners_register hsource]
    obtain hnew | hold := hadded
    · cases hnew
      exact .inr ⟨rfl, rfl⟩
    · exact .inl (h.listens s id ce hold)
  · intro s id t hhears ht
    rw [types_register hsource] at ht
    rw [pending_register, journal_register, List.mem_append, List.mem_cons]
    rw [Hears, journal_register, List.mem_cons] at hhears
    obtain hnew | hold := hhears
    · -- The new constraint hears of the types that are there already.
      cases hnew
      exact .inl (.inr (List.mem_map.mpr ⟨t, ht, rfl⟩))
    · exact (h.heard s id t hold ht).imp .inl .inr

theorem Attended.insertType (h : c.Attended) {target : SetId} (htarget : target.In c.extent)
    {t : Ty} (hnew : (c.set target).has t = false) : (c.insertType target t).Attended := by
  have hjournal : ∀ e, e ∈ (c.insertType target t).journal ↔
      e = .typeAdded target t ∨ e ∈ c.journal := fun _ => List.mem_cons
  constructor
  · intro s id ce hadded
    rw [constraints_insertType htarget]
    obtain hadded | hadded := (hjournal _).mp hadded
    · cases hadded
    · exact h.listens s id ce hadded
  · intro s id u hhears hu
    have hhears : c.Hears s id := ((hjournal _).mp hhears).resolve_left fun h => by cases h
    rw [pending_insertType, List.mem_append, hjournal]
    rw [types_insertType htarget t hnew] at hu
    have hold : u ∈ (c.set s).types → (⟨id, s, u⟩ ∈ c.worklist.pending ∨
        (⟨id, s, u⟩ : Work) ∈ (c.set target).constraints.map fun id => ⟨id, target, t⟩) ∨
          .fired ⟨id, s, u⟩ = Event.typeAdded target t ∨ .fired ⟨id, s, u⟩ ∈ c.journal := by
      intro hu
      exact (h.heard s id u hhears hu).imp .inl .inr
    split at hu
    · rename_i htarget
      subst htarget
      obtain hu | hu := List.mem_append.mp hu
      · exact hold hu
      · -- Every listener of the set has the new type pending.
        rw [List.mem_singleton.mp hu]
        exact .inl (.inr (List.mem_map.mpr ⟨id, h.listens target id true hhears, rfl⟩))
    · exact hold hu

theorem Attended.pop (h : c.Attended) {work : Work} {rest : Worklist}
    (hnext : c.worklist.next? = some (work, rest)) :
    (c.pop work rest).Attended := by
  have hjournal : ∀ e, e ∈ (c.pop work rest).journal ↔ e = .fired work ∨ e ∈ c.journal :=
    fun _ => List.mem_cons
  constructor
  · intro s id ce hadded
    obtain hadded | hadded := (hjournal _).mp hadded
    · cases hadded
    · exact h.listens s id ce hadded
  · intro s id t hhears ht
    have hhears : c.Hears s id := ((hjournal _).mp hhears).resolve_left fun h => by cases h
    rw [hjournal]
    obtain hpending | hfired := h.heard s id t hhears ht
    · rw [Worklist.pending_of_next? hnext, List.mem_cons] at hpending
      obtain hwork | hrest := hpending
      · exact .inr (.inl (congrArg Event.fired hwork))
      · exact .inl hrest
    · exact .inr (.inr hfired)

theorem Traffic.attended {sc : Scope} (haborts : ¬ sc.aborts) (hc : c.Valid) (h : c.Traffic sc c')
    (hattended : c.Attended) : c'.Attended := by
  cases h with
  | insert htarget _ hnew => exact hattended.insertType htarget hnew
  | register _ hsource => exact hattended.register hsource _ _
  | @edge source target hsource =>
    refine (hattended.still (still_addTarget hsource target)).register ?_ _ _
    rwa [extent_changeSet]
  | wire hid hk =>
    exact (hattended.still (still_wire _)).register (in_wire (hc.in_of_element hk)) _ _
  | pop _ hnext => exact hattended.pop hnext
  | deliver =>
    constructor
    · exact hattended.listens
    · intro s id t hhears ht
      rw [enqueue, changeWorklist, Worklist.pending_enqueue, List.mem_append]
      exact (hattended.heard s id t hhears ht).imp_left .inl
  | abandon h => exact absurd h haborts

/-- A listening constraint without marks stays what it is. -/
theorem Attended.constraint_eq (h : c.Attended) (hc : c.Valid) (hgrows : c.Grows c') {s : SetId}
    {id : ConstraintId} {k : Constraint} (hhears : c.Hears s id) (hk : c.constraint id = k)
    (hplain : k.isPlain = true) : c'.constraint id = k := by
  have hin := (hc.sets s).constraints id (h.listens s id true hhears)
  have hbare := (hgrows.constraint id hin).bare
  rw [hk] at hbare
  exact Constraint.eq_of_bare_eq hbare hplain

theorem Attended.hears_kept (h : c.Attended) (hc : c.Valid) (hgrows : c.Grows c') {s : SetId}
    {k : Constraint} (hplain : k.isPlain = true) (hex : ∃ id, c.Hears s id ∧ c.constraint id = k) :
    ∃ id, c'.Hears s id ∧ c'.constraint id = k := by
  obtain ⟨id, hhears, hk⟩ := hex
  exact ⟨id, hhears.mono hgrows, h.constraint_eq hc hgrows hhears hk hplain⟩

/-- An edge that a change adds has its constraint from the start. -/
theorem EdgesHeard.of_grows (h : c.EdgesHeard) (hc : c.Valid) (hattended : c.Attended)
    (hgrows : c.Grows c')
    (hnew : ∀ s t, (c'.set s).flowsInto t = true → (c.set s).flowsInto t = true ∨
      ∃ id, c'.Hears s id ∧ c'.constraint id = .subset t) : c'.EdgesHeard := by
  intro s t hflows
  obtain hold | hnew := hnew s t hflows
  · exact hattended.hears_kept hc hgrows rfl (h s t hold)
  · exact hnew

theorem Traffic.edgesHeard {sc : Scope} (hc : c.Valid) (hattended : c.Attended)
    (h : c.Traffic sc c') (hedges : c.EdgesHeard) : c'.EdgesHeard := by
  refine hedges.of_grows hc hattended (h.grows hc) ?_
  intro s t hflows
  cases h with
  | insert htarget =>
    rw [flowsInto_insertType htarget] at hflows
    exact .inl hflows
  | register _ hsource =>
    rw [flowsInto_register hsource] at hflows
    exact .inl hflows
  | @edge source target hsource =>
    obtain hold | ⟨rfl, rfl⟩ := (flowsInto_addEdge hsource target s t).mp hflows
    · exact .inl hold
    · refine .inr ⟨⟨c.constraints.size⟩, ?_, ?_⟩
      · rw [Hears, journal_addEdge]
        exact List.mem_cons_self
      · rw [constraint_addEdge, if_pos rfl]
  | wire hid hk =>
    rw [flowsInto_wireUp (hc.in_of_element hk)] at hflows
    exact .inl hflows
  | pop | deliver | abandon => exact .inl hflows

/-! ## Sequences of changes -/

/-- What quiet changes and changes of the flow keep, a sequence of changes keeps. -/
theorem Did.flow_induction {sc : Scope} {P : Compartment → Prop} (hc : c.Sound)
    (h : Did sc c c') (hquiet : ∀ a b : Compartment, a.Sound → a.Grows b → a.Quiet b → P a → P b)
    (htraffic : ∀ a b : Compartment, a.Sound → a.Grows b → a.Traffic sc b → P a → P b)
    (hstart : P c) : P c' := by
  induction h with
  | refl => exact hstart
  | step h hchange ih =>
    have hsound := h.sound hc
    have hgrows := hchange.grows hsound.valid
    obtain hq | ht := hchange.quiet_or_traffic
    · exact hquiet _ _ hsound hgrows hq (ih hc hstart)
    · exact htraffic _ _ hsound hgrows ht (ih hc hstart)
  | @classify _ _ c₂ id h _ h' hid _ _ ih ih' =>
    have hsound := h'.sound (h.sound hc)
    exact hquiet _ _ hsound (grows_classify hid) (c₂.quiet_classify id)
      (ih' (h.sound hc) (ih hc hstart))

/-- An edge, and a constraint that an element access is wired up with, are registered after something
that delivering does not look at. -/
theorem Did.delivery_induction {sc : Scope} {P : Compartment → Prop} (hc : c.Sound)
    (h : Did sc c c') (hstill : ∀ a b : Compartment, a.Still b → P a → P b)
    (hinsert : ∀ (a : Compartment) target t, target.In a.extent →
      (a.set target).has t = false → P a → P (a.insertType target t))
    (hregister : ∀ (a : Compartment) source k callExisting, a.Valid → source.In a.extent →
      P a → P (a.register source k callExisting))
    (hpop : ∀ (a : Compartment) work rest, sc.passes → a.Valid →
      a.worklist.next? = some (work, rest) → P a → P (a.pop work rest))
    (hdeliver : ∀ (a : Compartment) work, sc.redelivery → P a → P (a.enqueue [work]))
    (habandon : ∀ (a : Compartment) e, sc.aborts → P a → P (a.abandon e)) (hstart : P c) :
    P c' := by
  refine h.flow_induction hc (fun a b _ _ hquiet => hstill a b hquiet.still) ?_ hstart
  intro a b hsound _ htraffic ha
  cases htraffic with
  | insert htarget _ hnew => exact hinsert a _ _ htarget hnew ha
  | register _ hsource => exact hregister a _ _ _ hsound.valid hsource ha
  | @edge source target hsource htarget =>
    refine hregister (a.changeSet source (·.addTarget target)) source _ true ?_ ?_
      (hstill a _ (still_addTarget hsource target) ha)
    · exact hsound.valid.changeSet hsource (f := (·.addTarget target))
        ((hsound.valid.sets source).addTarget htarget)
    · rwa [extent_changeSet]
  | @wire id _ objects _ _ hid hk =>
    exact hregister (a.changeConstraint id Constraint.wire) objects _ true
      (hsound.valid.changeConstraint hid (f := Constraint.wire)
        (hsound.valid.constraints id).wire)
      (in_wire (hsound.valid.in_of_element hk)) (hstill a _ (still_wire id) ha)
  | pop hpasses hnext => exact hpop a _ _ hpasses hsound.valid hnext ha
  | deliver hredelivery => exact hdeliver a _ hredelivery ha
  | abandon haborts => exact habandon a _ haborts ha

/-- Every sequence of changes in which no pass is given up keeps the deliveries complete. -/
theorem Did.attended {sc : Scope} (haborts : ¬ sc.aborts) (hc : c.Sound) (h : Did sc c c')
    (hattended : c.Attended) (hedges : c.EdgesHeard) : c'.Attended ∧ c'.EdgesHeard := by
  refine h.flow_induction (P := fun c => c.Attended ∧ c.EdgesHeard) hc ?_ ?_ ⟨hattended, hedges⟩
  · rintro a b ha hgrows hquiet ⟨hattended, hedges⟩
    refine ⟨hattended.still hquiet.still, ?_⟩
    refine hedges.of_grows ha.valid hattended hgrows ?_
    intro s t hflows
    rw [hquiet.targets] at hflows
    exact .inl hflows
  · rintro a b ha - htraffic ⟨hattended, hedges⟩
    exact ⟨htraffic.attended haborts ha.valid hattended,
      htraffic.edgesHeard ha.valid hattended hedges⟩

/-- A constraint that came to listen hears of all types of its set, unless it holds an answer or the
host registered it itself. -/
theorem Did.listed {sc : Scope} (hc : c.Sound) (h : Did sc c c') {s : SetId} {id : ConstraintId}
    (hid : id ∈ (c'.set s).constraints) :
    id ∈ (c.set s).constraints ∨ c'.Hears s id ∨ (c'.constraint id).isFreeze = true ∨
      sc.direct id := by
  have hfreeze : ∀ {k k' : Constraint}, k.Evolves k' → k.isFreeze = true → k'.isFreeze = true :=
    fun hk hfreeze => hk.isFreeze.trans hfreeze
  refine h.flow_induction (P := fun b => ∀ s id, id ∈ (b.set s).constraints →
    id ∈ (c.set s).constraints ∨ b.Hears s id ∨ (b.constraint id).isFreeze = true ∨ sc.direct id)
    hc ?_ ?_ (fun _ _ hid => .inl hid) s id hid
  · intro a b ha hgrows hquiet hlisted s id hid
    rw [hquiet.listeners] at hid
    have hin := (ha.valid.sets s).constraints id hid
    exact (hlisted s id hid).imp_right fun h =>
      h.imp (Hears.mono hgrows) fun h => h.imp_left (hfreeze (hgrows.constraint id hin))
  · intro a b ha hgrows htraffic hlisted s id hid
    have hold : id ∈ (a.set s).constraints → id ∈ (c.set s).constraints ∨ b.Hears s id ∨
        (b.constraint id).isFreeze = true ∨ sc.direct id := by
      intro hid
      have hin := (ha.valid.sets s).constraints id hid
      exact (hlisted s id hid).imp_right fun h =>
        h.imp (Hears.mono hgrows) fun h => h.imp_left (hfreeze (hgrows.constraint id hin))
    cases htraffic with
    | insert htarget =>
      rw [constraints_insertType htarget] at hid
      exact hold hid
    | register _ hsource _ hregular =>
      rw [mem_listeners_register hsource] at hid
      obtain hid | ⟨rfl, rfl⟩ := hid
      · exact hold hid
      · rw [Hears, journal_register, constraint_register, if_pos rfl]
        obtain (⟨rfl, -⟩ | hk) | hdirect := hregular
        · exact .inr (.inl List.mem_cons_self)
        · exact .inr (.inr (.inl hk))
        · exact .inr (.inr (.inr hdirect))
    | edge hsource =>
      obtain hid | ⟨rfl, rfl⟩ := (mem_listeners_addEdge hsource _ s id).mp hid
      · exact hold hid
      · refine .inr (.inl ?_)
        rw [Hears, journal_addEdge]
        exact List.mem_cons_self
    | wire hwid hk =>
      rw [mem_listeners_wireUp (ha.valid.in_of_element hk)] at hid
      obtain hid | ⟨rfl, rfl⟩ := hid
      · exact hold hid
      · refine .inr (.inl ?_)
        rw [Hears, journal_wireUp]
        exact List.mem_cons_self
    | pop | deliver | abandon => exact hold hid

theorem Constraint.eq_element {k : Constraint} {code : Option Location} {objects target : SetId}
    {access : Access} {wired : Bool}
    (hbare : k.bare = .element code objects target access false) (hwired : k.isWired = wired) :
    k = .element code objects target access wired := by
  cases k <;> simp_all [Constraint.bare, Constraint.isWired]

/-- Since a moment, every wired element access was so then, was registered wired by the host, or has
its property access. -/
def WiredSince (sc : Scope) (c b : Compartment) : Prop :=
  ∀ (id : ConstraintId) (code : Option Location) (objects target : SetId) (access : Access),
    b.constraint id = .element code objects target access true →
      (c.constraint id).isWired = true ∨ sc.direct id ∨
        ∃ k, b.Hears objects k ∧ b.constraint k = .property code .index target access

section WiredSince

variable {sc : Scope} {a b : Compartment}

/-- A wired access that was there before goes on to be accounted for. -/
theorem WiredSince.kept (h : WiredSince sc c a) (hattended : a.Attended) (ha : a.Valid)
    (hgrows : a.Grows b) {id : ConstraintId} {code : Option Location} {objects target : SetId}
    {access : Access} (hk : a.constraint id = .element code objects target access true) :
    (c.constraint id).isWired = true ∨ sc.direct id ∨
      ∃ k, b.Hears objects k ∧ b.constraint k = .property code .index target access :=
  (h id code objects target access hk).imp_right (.imp_right (hattended.hears_kept ha hgrows rfl))

theorem Traffic.wiredSince (hattended : a.Attended) (ha : a.Valid) (h : a.Traffic sc b)
    (hwired : WiredSince sc c a) : WiredSince sc c b := by
  intro id code objects target access hk
  have hold (hk : a.constraint id = .element code objects target access true) :=
    hwired.kept hattended ha (h.grows ha) hk
  cases h with
  | @register source k callExisting _ _ _ hregular =>
    rw [constraint_register] at hk
    split at hk
    · rename_i hid
      subst hid
      -- A wired access that is new is one that the host registers itself.
      obtain (⟨-, hplain⟩ | hfreeze) | hdirect := hregular
      · rw [hk] at hplain
        cases hplain
      · rw [hk] at hfreeze
        cases hfreeze
      · exact .inr (.inl hdirect)
    · exact hold hk
  | edge =>
    rw [constraint_addEdge] at hk
    split at hk
    · cases hk
    · exact hold hk
  | @wire wid wcode wobjects wtarget waccess hwid hwk =>
    rw [constraint_wireUp hwid] at hk
    split at hk
    · cases hk
    · split at hk
      · rename_i hid
        subst hid
        rw [hwk] at hk
        cases hk
        refine .inr (.inr ⟨⟨a.constraints.size⟩, ?_, ?_⟩)
        · rw [Hears, journal_wireUp]
          exact List.mem_cons_self
        · rw [constraint_wireUp hwid, if_pos rfl]
      · exact hold hk
  | insert | pop | deliver | abandon => exact hold hk

/-- A wired element access has its property access, unless the host registered it wired. -/
theorem Did.wired (haborts : ¬ sc.aborts) (hc : c.Sound) (h : Did sc c c')
    (hattended : c.Attended) {id : ConstraintId} {code : Option Location}
    {objects target : SetId} {access : Access}
    (hk : c'.constraint id = .element code objects target access true) :
    (c.constraint id).isWired = true ∨ sc.direct id ∨
      ∃ k, c'.Hears objects k ∧ c'.constraint k = .property code .index target access := by
  refine (h.flow_induction (P := fun b => b.Attended ∧ WiredSince sc c b) hc ?_ ?_
    ⟨hattended, ?_⟩).2 id code objects target access hk
  · rintro a b ha hgrows hquiet ⟨hattended, hwired⟩
    refine ⟨hattended.still hquiet.still, ?_⟩
    intro id code objects target access hk
    have hbare := hquiet.bare id
    have hsame := hquiet.wired id
    rw [hk] at hbare hsame
    have hold := Constraint.eq_element hbare.symm hsame.symm
    exact hwired.kept hattended ha.valid hgrows hold
  · rintro a b ha - htraffic ⟨hattended, hwired⟩
    exact ⟨htraffic.attended haborts ha.valid hattended, htraffic.wiredSince hattended ha.valid hwired⟩
  · intro id code objects target access hk
    rw [hk]
    exact .inl rfl

end WiredSince

end Compartment

end FlowTypes
