import FlowTypes.Compartment.Observation
import FlowTypes.Compartment.Report
import FlowTypes.Compartment.Sites
import FlowTypes.Proofs.Actions.Prototype

/-!
# How the host observes a program

Types that are seen at run time join sets as all other types do.  The sets of variables, pushed
values and call sites are made on first request.

## Main results

* `moves_observeType`, `moves_observePush`, `moves_observeAssignment`.
* `moves_forceThisTypes`, `moves_forceResult`.
-/

namespace FlowTypes

namespace Compartment

variable {L : Law} {c : Compartment}

/-! ## Sets that are made on first request -/

theorem ScriptTable.mem_alter {id : ScriptId} {f : ScriptTypes → ScriptTypes} {t : ScriptTable}
    {s : ScriptId × ScriptTypes} (h : s ∈ ScriptTable.alter id f t) :
    s ∈ t ∨ s.2 = f {} ∨ ∃ s' ∈ t, s.2 = f s'.2 := by
  induction t with
  | nil =>
    rw [List.mem_singleton.mp h]
    exact .inr (.inl rfl)
  | cons i t ih =>
    rw [ScriptTable.alter] at h
    split at h
    · obtain rfl | h := List.mem_cons.mp h
      · exact .inr (.inr ⟨i, List.mem_cons_self, rfl⟩)
      · exact .inl (List.mem_cons_of_mem _ h)
    · split at h
      · obtain rfl | h := List.mem_cons.mp h
        · exact .inr (.inl rfl)
        · exact .inl h
      · obtain rfl | h := List.mem_cons.mp h
        · exact .inl List.mem_cons_self
        · obtain h | h | ⟨s', hs', h⟩ := ih h
          · exact .inl (List.mem_cons_of_mem _ h)
          · exact .inr (.inl h)
          · exact .inr (.inr ⟨s', List.mem_cons_of_mem _ hs', h⟩)

/-- The record of a script may change to a valid one. -/
theorem aside_changeScript (hc : c.Valid) (id : ScriptId) {f : ScriptTypes → ScriptTypes}
    (hf : ∀ s : ScriptTypes, s.Valid c.extent → (f s).Valid c.extent) :
    c.Aside (c.changeScript id f) := by
  refine ⟨rfl, rfl, rfl, rfl, rfl, rfl, fun _ h => h,
    ⟨[], rfl, fun _ h => absurd h List.not_mem_nil⟩, fun h => h, fun _ h => .inl h, ?_, Nat.le_refl _,
    fun _ h => .inl h, fun _ h => .inl h, fun h => h⟩
  intro s hs
  refine (ScriptTable.mem_alter hs).imp_right ?_
  rintro (h | ⟨s', hs', h⟩)
  · rw [h]
    exact hf _ ⟨fun v hv => absurd hv List.not_mem_nil, fun p hp => absurd hp List.not_mem_nil⟩
  · rw [h]
    exact hf _ (hc.scripts s' hs')

theorem ScriptTable.mem_of_get? {t : ScriptTable} {id : ScriptId} {s : ScriptTypes}
    (h : ScriptTable.get? t id = some s) : ∃ i ∈ t, i.2 = s := by
  obtain ⟨i, hi, rfl⟩ := Option.map_eq_some_iff.mp h
  exact ⟨i, List.mem_of_find?_eq_some hi, rfl⟩

theorem mem_insertPushed {p q : Pushed} {ps : List Pushed}
    (h : q ∈ ScriptTypes.insertPushed p ps) : q = p ∨ q ∈ ps := by
  induction ps with
  | nil => exact .inl (List.mem_singleton.mp h)
  | cons r ps ih =>
    rw [ScriptTypes.insertPushed] at h
    split at h
    · exact List.mem_cons.mp h
    · obtain rfl | h := List.mem_cons.mp h
      · exact .inr List.mem_cons_self
      · exact (ih h).imp_right (List.mem_cons_of_mem _)

/-! ## Single steps -/

theorem moves_record (h : L.At c) {e : Event} (he : e.isQuiet = true) (hqueue : e.requeues = false) :
    L.Moves (modify (·.record e)) c fun _ c' => c' = c.record e :=
  Law.Moves.aside h (aside_record he hqueue) rfl

theorem aside_queueRecompile {script : ScriptId} {cause : Cause}
    (hcause : ∀ id, cause ≠ .frozen id) : c.Aside (c.queueRecompile script cause) := by
  refine .of_eq rfl rfl rfl rfl rfl rfl rfl rfl rfl (fun _ h => h)
    ⟨[.recompileQueued script cause], rfl, ?_⟩ (congrArg (script :: ·))
  intro e he
  rw [List.mem_singleton.mp he]
  cases cause with
  | frozen id => exact absurd rfl (hcause id)
  | _ => rfl

theorem aside_monitor (code : Location) : c.Aside (c.monitor code) := by
  unfold monitor
  split
  · exact aside_refl c
  · refine .of_eq rfl rfl rfl rfl rfl rfl rfl rfl rfl (fun _ hl => List.mem_cons_of_mem _ hl)
      ⟨[.recompileQueued code.script (.monitored code), .monitored code], rfl, ?_⟩
      (congrArg (code.script :: ·))
    intro e he
    obtain rfl | he := List.mem_cons.mp he
    · rfl
    · rw [List.mem_singleton.mp he]
      rfl

theorem worklist_monitor (code : Location) : (c.monitor code).worklist = c.worklist := by
  unfold monitor
  split <;> rfl

theorem moves_monitor (h : L.At c) (code : Location) :
    L.Moves (modify (·.monitor code)) c fun _ c' => c'.isMonitored code = true := by
  refine .imp h (Law.Moves.aside h (aside_monitor code) (worklist_monitor code)) ?_
  rintro _ _ - - rfl
  unfold monitor
  split
  · assumption
  · simp [isMonitored, record, queueRecompile]

theorem moves_newCallSite (h : L.At c) (hchoice : L.scope.choice) {s : CallSite}
    (hs : s.Valid c.extent) :
    L.Moves (newCallSite s) c fun id c' => id.In c'.extent := by
  have hcalm : c.Calm { c with sites := c.sites.push s } :=
    .of_objects rfl rfl ⟨[], rfl, fun _ => List.not_mem_nil⟩
  refine outcome_of_ok rfl ⟨.of_calm (.pushSite hchoice hs) hcalm, h.rest, ?_⟩
  show c.sites.size < (c.sites.push s).size
  rw [Array.size_push]
  omega

/-- A call site that is asked for a set gets it. -/
theorem moves_changeSite (h : L.At c) (hchoice : L.scope.choice) {id : SiteId}
    (hid : id.In c.extent) {f : CallSite → CallSite} (hgrows : (c.site id).Grows (f (c.site id)))
    (hf : (f (c.site id)).Valid c.extent) :
    L.Moves (modify (·.changeSite id f)) c fun _ _ => True :=
  .modify (.of_calm (.changeSite hchoice hid hgrows hf)
    (.of_objects rfl rfl ⟨[], rfl, fun _ => List.not_mem_nil⟩)) h.rest trivial

section Lawful

variable (hL : L.Lawful)
include hL

theorem moves_variableTypes (h : L.At c) (hchoice : L.scope.choice) (script : ScriptId)
    (name : String) :
    L.Moves (variableTypes script name) c fun s c' => s.In c'.extent := by
  refine .get ?_
  cases hfound : (ScriptTable.get? c.scripts script).bind (·.typesOf? name) with
  | some types =>
    obtain ⟨s, hs, htypes⟩ := Option.bind_eq_some_iff.mp hfound
    obtain ⟨i, hi, rfl⟩ := ScriptTable.mem_of_get? hs
    obtain ⟨v, hv, rfl⟩ := Option.map_eq_some_iff.mp htypes
    exact .pure h ((h.sound.valid.scripts i hi).named v (List.mem_of_find?_eq_some hv))
  | none =>
    refine .bind hL.within h (moves_newSet h hchoice) ?_
    rintro types c₁ h₁ - ⟨htypes, -⟩
    have haside : c₁.Aside (c₁.changeScript script (·.addVariable name types)) := by
      refine aside_changeScript h₁.sound.valid script fun s hs => ⟨?_, hs.pushed⟩
      intro v hv
      obtain hv | hv := List.mem_append.mp hv
      · exact hs.named v hv
      · rw [List.mem_singleton.mp hv]
        exact htypes
    refine .bind hL.within h₁ (Law.Moves.aside h₁ haside rfl) ?_
    exact fun _ c₂ h₂ hgood₂ _ => .pure h₂ (htypes.mono (hgood₂.grows h₁.sound).extent)

theorem moves_pushedTypes (h : L.At c) (hchoice : L.scope.choice) (code : Location)
    (index : Nat) :
    L.Moves (pushedTypes code index) c fun s c' => s.In c'.extent := by
  refine .get ?_
  cases hfound : (ScriptTable.get? c.scripts code.script).bind (·.pushed? code.offset index) with
  | some types =>
    obtain ⟨s, hs, htypes⟩ := Option.bind_eq_some_iff.mp hfound
    obtain ⟨i, hi, rfl⟩ := ScriptTable.mem_of_get? hs
    obtain ⟨p, hp, rfl⟩ := Option.map_eq_some_iff.mp htypes
    exact .pure h ((h.sound.valid.scripts i hi).pushed p (List.mem_of_find?_eq_some hp))
  | none =>
    refine .bind hL.within h (moves_newSet h hchoice) ?_
    rintro types c₁ h₁ - ⟨htypes, -⟩
    have haside : c₁.Aside
        (c₁.changeScript code.script (·.addPushed ⟨code.offset, index, types⟩)) := by
      refine aside_changeScript h₁.sound.valid code.script fun s hs => ⟨hs.named, ?_⟩
      intro p hp
      obtain rfl | hp := mem_insertPushed hp
      · exact htypes
      · exact hs.pushed p hp
    refine .bind hL.within h₁ (Law.Moves.aside h₁ haside rfl) ?_
    exact fun _ c₂ h₂ hgood₂ _ => .pure h₂ (htypes.mono (hgood₂.grows h₁.sound).extent)

/-- A call site that lacks a set gets a new one. -/
theorem moves_provide (h : L.At c) (hchoice : L.scope.choice) {id : SiteId} (hid : id.In c.extent)
    {f : SetId → CallSite → CallSite} (hgrows : ∀ s, (c.site id).Grows (f s (c.site id)))
    (hf : ∀ {e : Extent} {s : SetId}, s.In e → (c.site id).Valid e → (f s (c.site id)).Valid e) :
    L.Moves (do
      let types ← newSet
      modify (·.changeSite id (f types))
      return types) c fun s c' => s.In c'.extent := by
  refine .bind hL.within h (moves_newSet h hchoice) ?_
  rintro types _ h₁ hgood₁ ⟨hin, rfl⟩
  have hwithin := (hgood₁.grows h.sound).extent
  refine .bind hL.within h₁ (moves_changeSite h₁ hchoice (hid.mono hwithin) (hgrows types)
    (hf hin ((h.sound.valid.sites id).mono hwithin))) ?_
  exact fun _ c₂ h₂ hgood₂ _ => .pure h₂ (hin.mono (hgood₂.grows h₁.sound).extent)

theorem moves_forceThisTypes (h : L.At c) (hchoice : L.scope.choice) {id : SiteId}
    (hid : id.In c.extent) :
    L.Moves (forceThisTypes id) c fun s c' => s.In c'.extent := by
  refine .get ?_
  cases htypes : (c.site id).thisTypes with
  | some types => exact .pure h ((h.sound.valid.sites id).thisTypes types htypes)
  | none =>
    refine moves_provide hL h hchoice hid (f := fun s site => { site with thisTypes := some s })
      (fun s => ⟨rfl, rfl, rfl, fun t ht => ?_, rfl, fun _ ht => ht⟩) fun hs hsite =>
        ⟨hsite.arguments, fun t ht => ?_, hsite.thisType, hsite.result⟩
    · rw [htypes] at ht
      cases ht
    · cases ht
      exact hs

theorem moves_forceResult (h : L.At c) (hchoice : L.scope.choice) {id : SiteId}
    (hid : id.In c.extent) :
    L.Moves (forceResult id) c fun s c' => s.In c'.extent := by
  refine .get ?_
  cases htypes : (c.site id).result with
  | some types => exact .pure h ((h.sound.valid.sites id).result types htypes)
  | none =>
    refine moves_provide hL h hchoice hid (f := fun s site => { site with result := some s })
      (fun s => ⟨rfl, rfl, rfl, fun _ ht => ht, rfl, fun t ht => ?_⟩) fun hs hsite =>
        ⟨hsite.arguments, hsite.thisTypes, hsite.thisType, fun t ht => ?_⟩
    · rw [htypes] at ht
      cases ht
    · cases ht
      exact hs

/-! ## Types seen at run time -/

theorem moves_observeType (h : L.At c) {target : SetId} (htarget : target.In c.extent) {t : Ty}
    (ht : t.In c.extent) (hadds : L.scope.grant.adds target t) :
    L.Moves (observeType L.pass target t) c fun _ c' => (c'.set target).has t = true := by
  refine .get ?_
  by_cases hhas : (c.set target).has t = true
  · rw [if_pos hhas]
    exact .pure h hhas
  · rw [if_neg hhas]
    refine .bind hL.within h (moves_record h rfl rfl) ?_
    rintro _ _ h₁ - rfl
    exact moves_addType hL h₁ htarget ht (.given hadds)

theorem moves_observePush (h : L.At c) (hchoice : L.scope.choice) (code : Location) (index : Nat)
    {t : Ty} (ht : t.In c.extent) (hadds : ∀ target, L.scope.grant.adds target t) :
    L.Moves (observePush L.pass code index t) c fun _ _ => True := by
  refine .bind hL.within h (moves_pushedTypes hL h hchoice code index) ?_
  intro target c₁ h₁ hgood₁ htarget
  have ht₁ := ht.mono (hgood₁.grows h.sound).extent
  refine .get ?_
  by_cases hhas : (c₁.set target).has t = true
  · rw [if_pos hhas]
    exact .pure h₁ trivial
  · rw [if_neg hhas]
    refine .bind hL.within h₁ (moves_record h₁ rfl rfl) ?_
    rintro _ _ h₂ - rfl
    refine .bind hL.within h₂ (moves_addType hL h₂ htarget ht₁ (.given (hadds target))) ?_
    intro _ c₃ h₃ _ _
    have haside : c₃.Aside (c₃.queueRecompile code.script (.pushed code)) :=
      aside_queueRecompile fun id hid => by cases hid
    exact .imp h₃ (Law.Moves.aside h₃ haside rfl) fun _ _ _ _ _ => trivial

/-- The host may assign a value to a property. -/
def Grant.Assigns (g : Grant) (id : ObjectId) (key : Key) (value : Value) : Prop :=
  if key.isNamed "__proto__" then g.marks id
  else g.keys key ∧ ∀ t, value.type? = some t → g.assigns id key t

omit hL in
/-- What is known of a property to which a value was assigned. -/
def Assigned (c : Compartment) (id : ObjectId) (key : Key) (value : Value) : Prop :=
  (c.object id).isUnknown = true ∨ key.isNamed "__proto__" = false ∧
    ∀ t, value.type? = some t →
      ∃ p, (c.object id).property? key = some p ∧ (c.set p.ownTypes).has t = true

omit hL in
theorem Assigned.mono {c' : Compartment} {id : ObjectId} {key : Key} {value : Value}
    (hgrows : c.Grows c') (hc : c.Valid) (hc' : c'.Valid) (h : c.Assigned id key value) :
    c'.Assigned id key value := by
  refine h.imp hgrows.isUnknown (And.imp_right fun hall t ht => ?_)
  obtain ⟨p, hp, hhas⟩ := hall t ht
  exact ⟨p, hgrows.property? hp, hgrows.has hc hc' hhas⟩

/-- A value is assigned to a property, or the object gets a new prototype. -/
theorem moves_observeAssignment (hroom : L.Roomy) (h : L.At c)
    {id : ObjectId} (hid : id.In c.extent) (key : Key) {value : Value}
    (hvalue : ∀ t, value.type? = some t → t.In c.extent)
    (hassigns : L.scope.grant.Assigns id key value) :
    L.Moves (observeAssignment L.pass id key value) c fun _ c' => c'.Assigned id key value := by
  unfold observeAssignment
  unfold Grant.Assigns at hassigns
  by_cases hproto : key.isNamed "__proto__" = true
  · rw [if_pos hproto] at hassigns ⊢
    exact .imp h (moves_markUnknown hL hroom h hid (.given hassigns)) fun _ _ _ _ h => .inl h
  · rw [if_neg hproto] at hassigns ⊢
    obtain ⟨hkey, hassigns⟩ := hassigns
    have hproto' : key.isNamed "__proto__" = false := by simpa using hproto
    refine .get ?_
    by_cases hunknown : (c.object id).isUnknown = true
    · rw [if_pos hunknown]
      exact .pure h (.inl hunknown)
    · rw [if_neg hunknown]
      cases htype : value.type? with
      | none => exact .pure h (.inr ⟨hproto', fun t ht => by rw [htype] at ht; cases ht⟩)
      | some t =>
        have hdone : ∀ (c' : Compartment) p, (c'.object id).property? key = some p →
            (c'.set p.ownTypes).has t = true → c'.Assigned id key value := by
          intro c' p hp hhas
          refine .inr ⟨hproto', fun t' ht' => ⟨p, hp, ?_⟩⟩
          rw [htype] at ht'
          cases ht'
          exact hhas
        refine .bind hL.within h (moves_getKnown hL hroom h hid (by simpa using hunknown)
          (.inl hkey) true) ?_
        rintro _ c₁ h₁ hgood₁ ⟨p, hp, rfl⟩
        have hown₁ := ((h₁.sound.valid.objects id).properties p
          (List.mem_of_find?_eq_some hp)).ownTypes
        have ht₁ := (hvalue t htype).mono (hgood₁.grows h.sound).extent
        refine .get ?_
        by_cases hhas : (c₁.set p.ownTypes).has t = true
        · rw [if_pos rfl, if_pos hhas]
          exact .pure h₁ (hdone c₁ p hp hhas)
        · rw [if_pos rfl, if_neg hhas]
          refine .bind hL.within h₁ (moves_record h₁ rfl rfl) ?_
          rintro _ _ h₂ hgood₂ rfl
          refine .imp h₂ (moves_addType hL h₂ hown₁ ht₁ (.assigned (hassigns t htype) hp)) ?_
          intro _ c₃ _ hgood₃ hhas
          exact hdone c₃ p (((hgood₂.grows h₁.sound).trans (hgood₃.grows h₂.sound)).property? hp) hhas

end Lawful

end Compartment

end FlowTypes
