import FlowTypes.Proofs.Moves

/-!
# How types and constraints are added

A type that is added is in the set afterwards, and the types of a set flow to where a subset edge was
asked for.  A constraint that is registered gets the next place in the table.

## Main results

* `moves_addType`, `moves_addSubset`, `moves_addConstraint`.
* `outcome_addConstraint`: the same from the middle of another action.
-/

namespace FlowTypes

namespace Compartment

variable {L : Law} {c : Compartment}

theorem calm_insertType (target : SetId) (t : Ty) : c.Calm (c.insertType target t) :=
  .of_objects rfl rfl ⟨[.typeAdded target t], rfl, fun w hw => by cases List.mem_singleton.mp hw⟩

theorem calm_register (source : SetId) (k : Constraint) (callExisting : Bool) :
    c.Calm (c.register source k callExisting) where
  properties o := by rw [object_register]
  proto o := by rw [object_register]
  unknown o := by rw [object_register]
  builtins := builtins_register _ _ _
  journal := by
    refine ⟨[_], journal_register k callExisting, ?_⟩
    intro w hw
    cases List.mem_singleton.mp hw

theorem calm_addEdge (source target : SetId) : c.Calm (c.addEdge source target) := by
  have hregister := calm_register (c := c.changeSet source (·.addTarget target)) source
    (.subset target) true
  exact ⟨hregister.properties, hregister.proto, hregister.unknown, hregister.builtins,
    hregister.journal⟩

theorem calm_wireUp (id : ConstraintId) (objects : SetId) (k : Constraint) :
    c.Calm (c.wireUp id objects k) := by
  have hregister := calm_register (c := c.changeConstraint id Constraint.wire) objects k true
  exact ⟨hregister.properties, hregister.proto, hregister.unknown, hregister.builtins,
    hregister.journal⟩

/-- A constraint was put on a set, for all of its types. -/
def Asked (c : Compartment) (s : SetId) (k : Constraint) : Prop :=
  ∃ id, id.In c.extent ∧ c.Hears s id ∧ (c.constraint id).bare = k.bare

theorem Asked.mono {c' : Compartment} {s : SetId} {k : Constraint} (hgrows : c.Grows c')
    (h : c.Asked s k) : c'.Asked s k := by
  obtain ⟨id, hid, hhears, hbare⟩ := h
  exact ⟨id, hid.mono hgrows.extent, hhears.mono hgrows,
    (hgrows.constraint id hid).bare.trans hbare⟩

/-- A constraint that hears of what is there is registered, and then a pass is asked for. -/
theorem addConstraint_run (pass : Action Unit) {source : SetId} (hsource : source.In c.extent)
    (k : Constraint) : addConstraint pass source k true c =
      (requestPass pass >>= fun _ => pure ⟨c.constraints.size⟩ : Action ConstraintId)
        (c.register source k true) := by
  have htypes : ((c.attach source k true).set source).types = (c.set source).types := by
    rw [set_attach hsource, if_pos rfl]
    rfl
  rw [register, if_pos rfl, ← htypes]
  rfl

/-- A set that flows into another one already is left alone. -/
theorem addSubset_of_flows (pass : Action Unit) {source target : SetId}
    (h : c.Flows source target) : addSubset pass source target c = (.ok (), c) := by
  have hflows : (source = target || (c.set source).flowsInto target) = true := by
    rw [Bool.or_eq_true, decide_eq_true_eq]
    exact h
  show (if (source = target || (c.set source).flowsInto target) = true then _ else _ :
    Action Unit) c = _
  rw [if_pos hflows]
  rfl

/-- Otherwise there is one more edge, and a pass is asked for. -/
theorem addSubset_run (pass : Action Unit) {source target : SetId} (hsource : source.In c.extent)
    (h : ¬ c.Flows source target) :
    addSubset pass source target c = requestPass pass (c.addEdge source target) := by
  have hnew : ¬ (source = target || (c.set source).flowsInto target) = true := by
    rw [Bool.or_eq_true, decide_eq_true_eq]
    exact h
  have hsource' : source.In (c.changeSet source (·.addTarget target)).extent := by
    rwa [extent_changeSet]
  have hrun : addSubset pass source target c = (discard (addConstraint pass source (.subset target)) :
      Action Unit) (c.changeSet source (·.addTarget target)) := by
    show (if (source = target || (c.set source).flowsInto target) = true then _ else _ :
      Action Unit) c = _
    rw [if_neg hnew]
    rfl
  have hdiscard : (discard (addConstraint pass source (.subset target)) : Action Unit) =
      (addConstraint pass source (.subset target) >>= fun _ => pure ()) := by
    show (fun _ => PUnit.unit) <$> addConstraint pass source (.subset target) = _
    exact map_eq_pure_bind _ _
  rw [hrun, hdiscard, run_bind, addConstraint_run pass hsource', run_bind]
  show _ = requestPass pass ((c.changeSet source (·.addTarget target)).register source
    (.subset target) true)
  cases requestPass pass ((c.changeSet source (·.addTarget target)).register source
    (.subset target) true) with
  | mk r c' => cases r <;> rfl

section Lawful

variable (hL : L.Lawful)
include hL

/-- A type that is added is in the set afterwards. -/
theorem moves_addType (h : L.At c) {target : SetId} (htarget : target.In c.extent) {t : Ty}
    (ht : t.In c.extent) (hwarrant : c.Warranted L.scope target t) :
    L.Moves (addType L.pass target t) c fun _ c' => (c'.set target).has t = true := by
  by_cases hhas : (c.set target).has t = true
  · exact outcome_of_ok (addType_of_has L.pass hhas) ⟨.refl c, h.rest, hhas⟩
  · have hnew : (c.set target).has t = false := by simpa using hhas
    have hchange : c.Change L.scope (c.insertType target t) :=
      .traffic (.insert htarget ht hnew hwarrant)
    have hgood : L.Good c (c.insertType target t) := .of_calm hchange (calm_insertType target t)
    have hsound := hgood.sound h.sound
    have hrun : addType L.pass target t c = requestPass L.pass (c.insertType target t) := by
      show (if (c.set target).has t = true then _ else _ : Action Unit) c = _
      rw [if_neg hhas]
      rfl
    refine (outcome_congr hrun).mpr ?_
    have hpass := hL.requestPass (c.insertType target t) (h.toStanding.did hgood.did)
      (hL.ready _ _ h.rest)
    have hset : ((c.insertType target t).set target).has t = true := by
      rw [set_insertType htarget, if_pos rfl]
      exact TypeSet.has_insert (h.sound.valid.sets target).coherent t
    refine Law.Moves.after hL.within h.sound hgood (Outcome.imp hpass ?_ fun _ _ h => h)
    rintro _ c' ⟨hgood', hrest, -⟩
    exact ⟨hgood', hrest,
      (hgood'.grows hsound).has hsound.valid (hgood'.sound hsound).valid hset⟩

/-- A constraint is registered, possibly in the middle of another action. -/
theorem outcome_addConstraint (h : L.At c) {b : Compartment} (hrest : L.Rest b.worklist)
    {source : SetId} (hsource : source.In b.extent) {k : Constraint} {callExisting : Bool}
    (hgood : L.Good c (b.register source k callExisting)) :
    Outcome (addConstraint L.pass source k callExisting) b
      (fun id c' => L.Good c c' ∧ L.Rest c'.worklist ∧ id = ⟨b.constraints.size⟩ ∧
        L.Good (b.register source k callExisting) c')
      fun e c' => Did L.failing c c' ∧ L.Rest c'.worklist ∧ L.Fails e := by
  cases callExisting with
  | false => exact outcome_of_ok rfl ⟨hgood, hrest, rfl, .refl _⟩
  | true =>
    have hpass := hL.requestPass (b.register source k true) (h.toStanding.did hgood.did)
      (hL.ready _ _ hrest)
    refine (outcome_congr (addConstraint_run L.pass hsource k)).mpr
      (outcome_bind.mpr (Outcome.imp hpass ?_ ?_))
    · rintro _ c' ⟨hgood', hrest', -⟩
      exact outcome_of_ok rfl ⟨hgood.trans h.sound hgood', hrest', rfl, hgood'⟩
    · rintro e c' ⟨hdid, hrest', he⟩
      exact ⟨(hgood.did.mono hL.within).trans hdid, hrest', he⟩

/-- The host has a constraint registered. -/
theorem moves_addConstraint (h : L.At c) {source : SetId} {k : Constraint} {callExisting : Bool}
    (hasked : L.scope.grant.asks source k) (hsource : source.In c.extent) (hk : k.Valid c.extent)
    (hregular : (callExisting = true ∧ k.isWired = false ∨ k.isFreeze = true) ∨
      L.scope.direct ⟨c.constraints.size⟩) :
    L.Moves (addConstraint L.pass source k callExisting) c fun id c' =>
      id = ⟨c.constraints.size⟩ ∧ id.In c'.extent ∧
        .constraintAdded source id callExisting ∈ c'.journal ∧
          (c'.constraint id).bare = k.bare := by
  have hgood : L.Good c (c.register source k callExisting) :=
    .of_calm (.traffic (.register (.inl hasked) hsource hk hregular)) (calm_register _ _ _)
  refine Outcome.imp (outcome_addConstraint hL h h.rest hsource hgood) ?_ fun _ _ h => h
  rintro _ c' ⟨hgood', hrest, rfl, hlater⟩
  have hin : ConstraintId.In ⟨c.constraints.size⟩ (c.register source k callExisting).extent := by
    show c.constraints.size < (c.register source k callExisting).constraints.size
    rw [size_register]
    omega
  have hgrows := hlater.grows (hgood.sound h.sound)
  refine ⟨hgood', hrest, rfl, hin.mono hgrows.extent, ?_, ?_⟩
  · exact hgrows.journal.subset (journal_register k callExisting ▸ List.mem_cons_self)
  · rw [(hgrows.constraint _ hin).bare, constraint_register, if_pos rfl]

/-- A constraint of the program is registered, and its place does not matter. -/
theorem moves_discard_addConstraint (h : L.At c) {source : SetId} {k : Constraint}
    (hasked : L.scope.grant.asks source k) (hsource : source.In c.extent) (hk : k.Valid c.extent)
    (hwired : k.isWired = false) :
    L.Moves (discard <| addConstraint L.pass source k) c fun _ c' => c'.Asked source k := by
  have hadd := moves_addConstraint hL h hasked hsource hk (.inl (.inl ⟨rfl, hwired⟩))
  exact .discard (Law.Moves.imp h hadd fun id c' _ _ hid => ⟨id, hid.2⟩)

/-- The types of a set flow to where they were sent. -/
theorem moves_addSubset (h : L.At c) {source target : SetId} (hsource : source.In c.extent)
    (htarget : target.In c.extent) (hdrawn : c.Drawn L.scope source target) :
    L.Moves (addSubset L.pass source target) c fun _ c' => c'.Flows source target := by
  by_cases hflows : c.Flows source target
  · exact outcome_of_ok (addSubset_of_flows L.pass hflows) ⟨.refl c, h.rest, hflows⟩
  · obtain ⟨hne, hnew⟩ := not_or.mp hflows
    have hgood : L.Good c (c.addEdge source target) :=
      .of_calm (.traffic (.edge hsource htarget hne (by simpa using hnew) hdrawn))
        (calm_addEdge source target)
    have hpass := hL.requestPass (c.addEdge source target) (h.toStanding.did hgood.did)
      (hL.ready _ _ h.rest)
    refine (outcome_congr (addSubset_run L.pass hsource hflows)).mpr ?_
    refine Law.Moves.after hL.within h.sound hgood (Outcome.imp hpass ?_ fun _ _ h => h)
    rintro _ c' ⟨hgood', hrest, -⟩
    refine ⟨hgood', hrest, .inr ?_⟩
    refine ((hgood'.grows (hgood.sound h.sound)).set source).targets target ?_
    exact (flowsInto_addEdge hsource target source target).mpr (.inr ⟨rfl, rfl⟩)

end Lawful

end Compartment

end FlowTypes
