import FlowTypes.Proofs.Actions.Property

/-!
# How objects lose what is known about them

An object that is marked unknown gets the unknown type into the types of all its properties, and so
do the objects below it.  Until this is done the object is unknown and its properties are not, which
is why the whole action is tidy and its first step is not.

## Main results

* `did_markNotPacked`, `calm_markNotPacked`.
* `moves_forgetAll`, `moves_markUnknown`: the objects are unknown afterwards.
-/

namespace FlowTypes

namespace Compartment

variable {L : Law} {sc : Scope} {c c' : Compartment}

/-! ## Arrays with holes -/

theorem worklist_notifyKind (id : ObjectId) : (c.notifyKind id).worklist = c.worklist :=
  notifyKind_induction (P := fun c' => c'.worklist = c.worklist) (fun _ _ _ _ _ h => h) id rfl

theorem justMarked_record {id : ObjectId} {e : Event} (he : e.marks id) :
    (c.record e).JustMarked id :=
  ⟨[], e, c.journal, rfl, he, fun _ h => absurd h List.not_mem_nil⟩

/-- Being marked outlasts what is quiet. -/
theorem JustMarked.quiet {id : ObjectId} (h : c.JustMarked id) (hquiet : c.Quiet c') :
    c'.JustMarked id := by
  obtain ⟨es, e, before, hjournal, he, hes⟩ := h
  obtain ⟨es', hes', hnone⟩ := hquiet.journal
  refine ⟨es' ++ es, e, before, ?_, he, ?_⟩
  · rw [hes', hjournal, List.append_assoc]
  · intro e' he'
    obtain he' | he' := List.mem_append.mp he'
    · exact hnone e' he'
    · exact hes e' he'

/-- The object is no longer packed, or no longer dense either. -/
def loosen (notDense : Bool) (o : ObjectInfo) : ObjectInfo :=
  { o with isPacked := false, isDense := o.isDense && !notDense }

/-- The properties of the object are unknown. -/
def forget (o : ObjectInfo) : ObjectInfo := { o with isUnknown := true }

theorem demoted_loosen (notDense : Bool) (o : ObjectInfo) : o.Demoted (loosen notDense o) where
  name := rfl
  properties := rfl
  proto := rfl
  instances := rfl
  newObject := rfl
  function := rfl
  unknown h := h
  dense h := (Bool.and_eq_true_iff.mp h).1
  packed h := by cases h
  packedDense h := by cases h
  loose h := .inl h

theorem demoted_forget {o : ObjectInfo} (h : o.isLoose = true) : o.Demoted (forget o) :=
  ⟨rfl, rfl, rfl, rfl, rfl, rfl, fun _ => rfl, fun h => h, fun h => h, fun _ => rfl,
    fun _ => .inr h⟩

/-- An array that has holes already is left alone. -/
theorem markNotPacked_cases (c : Compartment) (id : ObjectId) (notDense : Bool) :
    c.markNotPacked id notDense = c ∨ c.markNotPacked id notDense =
      ((c.record (.markedNotPacked id notDense)).changeObject id (loosen notDense)).notifyKind
        id := by
  by_cases h : (!(c.object id).isPacked && !(notDense && (c.object id).isDense)) = true
  · exact .inl (if_pos h)
  · exact .inr (if_neg h)

theorem worklist_markNotPacked (id : ObjectId) (notDense : Bool) :
    (c.markNotPacked id notDense).worklist = c.worklist := by
  obtain h | h := c.markNotPacked_cases id notDense
  · rw [h]
  · rw [h, worklist_notifyKind]
    rfl

theorem builtins_markNotPacked (id : ObjectId) (notDense : Bool) :
    (c.markNotPacked id notDense).builtins = c.builtins := by
  obtain h | h := c.markNotPacked_cases id notDense
  · rw [h]
  · rw [h, builtins_notifyKind]
    rfl

theorem quiet_markNotPacked (id : ObjectId) (notDense : Bool) :
    c.Quiet (c.markNotPacked id notDense) := by
  obtain h | h := c.markNotPacked_cases id notDense
  · rw [h]
    exact Quiet.refl c
  · rw [h]
    have hrecord : c.Quiet (c.record (.markedNotPacked id notDense)) := Quiet.extend rfl
    have hobject : (c.record (.markedNotPacked id notDense)).Quiet
        ((c.record (.markedNotPacked id notDense)).changeObject id (loosen notDense)) :=
      .of_tables rfl rfl rfl rfl
    exact hrecord.trans (hobject.trans (quiet_notifyKind id))

theorem did_markNotPacked {id : ObjectId} (hid : id.In c.extent) (notDense : Bool) :
    Did sc c (c.markNotPacked id notDense) := by
  obtain h | h := c.markNotPacked_cases id notDense
  · rw [h]
    exact .refl c
  · rw [h]
    exact (Did.single (.aside (aside_record rfl rfl))).trans
      (.single (.demote hid (demoted_loosen notDense _) (justMarked_record rfl) .inl))

theorem object_markNotPacked {id : ObjectId} (hid : id.In c.extent) (notDense : Bool)
    (o : ObjectId) : (c.markNotPacked id notDense).object o = c.object o ∨
      (c.markNotPacked id notDense).object o = loosen notDense (c.object o) := by
  obtain h | h := c.markNotPacked_cases id notDense
  · rw [h]
    exact .inl rfl
  · have hid' : id.In (c.record (.markedNotPacked id notDense)).extent := hid
    rw [h, object_notifyKind, object_changeObject hid']
    split
    · exact .inr rfl
    · exact .inl rfl

theorem calm_markNotPacked {id : ObjectId} (hid : id.In c.extent) (notDense : Bool) :
    c.Calm (c.markNotPacked id notDense) where
  properties o := by
    obtain h | h := object_markNotPacked hid notDense o
    · rw [h]
    · rw [h]
      rfl
  proto o := by
    obtain h | h := object_markNotPacked hid notDense o
    · rw [h]
    · rw [h]
      rfl
  unknown o := by
    obtain h | h := object_markNotPacked hid notDense o
    · rw [h]
    · rw [h]
      rfl
  builtins := builtins_markNotPacked id notDense
  journal := (quiet_markNotPacked id notDense).not_fired

/-! ## Unknown objects -/

section Forget

variable {id : ObjectId} (hid : id.In c.extent)
include hid

theorem in_markNotPacked (notDense : Bool) : id.In (c.markNotPacked id notDense).extent := by
  have hobjects : (c.markNotPacked id notDense).objects.size = c.objects.size := by
    obtain h | h := c.markNotPacked_cases id notDense
    · rw [h]
    · rw [h, objects_notifyKind]
      exact Array.size_modify
  show id.index < (c.markNotPacked id notDense).objects.size
  rw [hobjects]
  exact hid

/-- An object that is no longer dense is not packed either. -/
theorem isLoose_markNotPacked : ((c.markNotPacked id true).object id).isLoose = true := by
  by_cases hdone : (!(c.object id).isPacked && !(true && (c.object id).isDense)) = true
  · have hsame : c.markNotPacked id true = c :=
      markNotPacked_of_done (by simp_all) (by simp_all)
    rw [hsame]
    simp_all [ObjectInfo.isLoose]
  · have hmarked : c.markNotPacked id true =
        ((c.record (.markedNotPacked id true)).changeObject id (loosen true)).notifyKind id :=
      if_neg hdone
    have hid' : id.In (c.record (.markedNotPacked id true)).extent := hid
    rw [hmarked, object_notifyKind, object_changeObject hid', if_pos rfl]
    simp [ObjectInfo.isLoose, loosen]

theorem did_forgetProperties (hc : c.Sound) (hforsaken : c.Forsaken sc id) :
    Did sc c (c.forgetProperties id) := by
  have hrecord : Did sc c (c.record (.markedUnknown id)) := .single (.aside (aside_record rfl rfl))
  have hid' : id.In (c.record (.markedUnknown id)).extent := hid
  have hmarked : (c.record (.markedUnknown id)).JustMarked id := justMarked_record rfl
  have hdid : Did sc c ((c.record (.markedUnknown id)).markNotPacked id true) :=
    hrecord.trans (did_markNotPacked hid' true)
  refine hdid.trans (.single ?_)
  exact .demote (in_markNotPacked hid' true) (demoted_forget (isLoose_markNotPacked hid'))
    (hmarked.quiet (quiet_markNotPacked id true)) fun _ => .inr (hforsaken.later (hdid.grows hc))

theorem object_forgetProperties (o : ObjectId) :
    ((c.forgetProperties id).object o).properties = (c.object o).properties ∧
      ((c.forgetProperties id).object o).proto = (c.object o).proto ∧
      ((c.forgetProperties id).object o).isUnknown =
        (decide (id = o) || (c.object o).isUnknown) := by
  have hid' : id.In (c.record (.markedUnknown id)).extent := hid
  have hobject : (c.forgetProperties id).object o =
      if id = o then forget (((c.record (.markedUnknown id)).markNotPacked id true).object o)
      else ((c.record (.markedUnknown id)).markNotPacked id true).object o := by
    rw [forgetProperties, object_notifyKind, object_changeObject (in_markNotPacked hid' true)]
    rfl
  have hcalm := calm_markNotPacked hid' true
  rw [hobject]
  split
  · rename_i ho
    rw [decide_eq_true ho]
    exact ⟨hcalm.properties o, hcalm.proto o, rfl⟩
  · rename_i ho
    rw [decide_eq_false ho]
    exact ⟨hcalm.properties o, hcalm.proto o, hcalm.unknown o⟩

omit hid in
theorem worklist_forgetProperties : (c.forgetProperties id).worklist = c.worklist := by
  rw [forgetProperties, worklist_notifyKind]
  exact worklist_markNotPacked id true

omit hid in
theorem builtins_forgetProperties : (c.forgetProperties id).builtins = c.builtins := by
  rw [forgetProperties, builtins_notifyKind]
  exact builtins_markNotPacked id true

omit hid in
theorem quiet_forgetProperties : c.Quiet (c.forgetProperties id) := by
  have hrecord : c.Quiet (c.record (.markedUnknown id)) := Quiet.extend rfl
  have hobject : ((c.record (.markedUnknown id)).markNotPacked id true).Quiet
      (((c.record (.markedUnknown id)).markNotPacked id true).changeObject id forget) :=
    .of_tables rfl rfl rfl rfl
  exact hrecord.trans ((quiet_markNotPacked id true).trans (hobject.trans (quiet_notifyKind id)))

end Forget

/-- Once the properties of a forgotten object hold the unknown type, and the objects that inherit from
it are forgotten too, everything is tidy. -/
theorem tidied_of_forgetProperties {id : ObjectId} (hid : id.In c.extent)
    (hgrows : (c.forgetProperties id).Grows c')
    (h : (c.forgetProperties id).Tidied c')
    (hall : ∀ p ∈ ((c.forgetProperties id).object id).properties,
      (c'.set p.types).has .unknown = true ∧ (c'.set p.ownTypes).has .unknown = true)
    (hbelow : ∀ o, ((c.forgetProperties id).object o).proto = some id →
      (c'.object o).isUnknown = true) : c.Tidied c' where
  wired o p hp := by
    refine (h.wired o p hp).imp_left ?_
    rw [(object_forgetProperties hid o).1]
    exact fun hp => hp
  inherited o proto ho p hp := by
    refine (h.inherited o proto ho p hp).imp_left ?_
    rw [(object_forgetProperties hid o).1, (object_forgetProperties hid o).2.1]
    exact fun h => h
  forgotten o ho := by
    obtain ho' | hdone := h.forgotten o ho
    · have hsplit := ho'
      rw [(object_forgetProperties hid o).2.2, Bool.or_eq_true, decide_eq_true_eq] at hsplit
      obtain rfl | hold := hsplit
      · right
        rw [((hgrows.object id).unknown ho').2]
        exact hall
      · exact .inl hold
    · exact .inr hdone
  spread o proto ho hunknown := by
    obtain ⟨ho', hunknown'⟩ | hdone := h.spread o proto ho hunknown
    · rw [(object_forgetProperties hid proto).2.2, Bool.or_eq_true, decide_eq_true_eq] at hunknown'
      obtain rfl | hold := hunknown'
      · exact .inr (hbelow o ho')
      · rw [(object_forgetProperties hid o).2.1] at ho'
        exact .inl ⟨ho', hold⟩
    · exact .inr hdone
  builtins b k hb hp := by
    refine (h.builtins b k hb hp).imp_left ?_
    rw [Compartment.builtin?, builtins_forgetProperties]
    exact fun hb => hb

/-- One round of the loop, for an object that is not unknown yet. -/
theorem forgetAll_run (pass : Action Unit) (fuel : Nat) {id : ObjectId} (rest : List ObjectId)
    (hknown : ¬ (c.object id).isUnknown = true) :
    forgetAll pass (fuel + 1) (id :: rest) c =
      (((c.forgetProperties id).object id).properties.forM (fun p => do
          addType pass p.types .unknown
          addType pass p.ownTypes .unknown) >>= fun _ => do
        let c' ← get
        forgetAll pass fuel ((c'.object id).instances.reverse ++ rest) : Action Unit)
          (c.forgetProperties id) := by
  rw [forgetAll]
  show (if (c.object id).isUnknown = true then _ else _ : Action Unit) c = _
  rw [if_neg hknown, run_modify, run_get]

/-- An object that is unknown already is passed over. -/
theorem forgetAll_of_unknown (pass : Action Unit) (fuel : Nat) {id : ObjectId}
    (rest : List ObjectId) (hunknown : (c.object id).isUnknown = true) :
    forgetAll pass (fuel + 1) (id :: rest) c = forgetAll pass fuel rest c := by
  rw [forgetAll]
  show (if (c.object id).isUnknown = true then _ else _ : Action Unit) c = _
  rw [if_pos hunknown]

theorem moves_markNotPacked (h : L.At c) {id : ObjectId} (hid : id.In c.extent)
    (notDense : Bool) : L.Moves (modify (·.markNotPacked id notDense)) c
      fun _ c' => c' = c.markNotPacked id notDense := by
  have hcalm := calm_markNotPacked hid notDense
  refine .modify ⟨did_markNotPacked hid notDense, fun _ => hcalm.tidied, hcalm.delivered⟩ ?_ rfl
  rw [worklist_markNotPacked]
  exact h.rest

section Lawful

variable (hL : L.Lawful)
include hL

/-- The types of some properties get the unknown type. -/
theorem moves_addUnknown (h : L.At c) {id : ObjectId} (hunknown : (c.object id).isUnknown = true)
    {ps : List Property} (hps : ∀ p ∈ ps, p ∈ (c.object id).properties) :
    L.Moves (ps.forM fun p => do
      addType L.pass p.types .unknown
      addType L.pass p.ownTypes .unknown) c fun _ c' => ∀ p ∈ ps,
        (c'.set p.types).has .unknown = true ∧ (c'.set p.ownTypes).has .unknown = true := by
  induction ps generalizing c with
  | nil => exact .pure h fun p hp => absurd hp List.not_mem_nil
  | cons p ps ih =>
    have hadd : ∀ c', L.At c' → c.Grows c' → ∀ s, s = p.types ∨ s = p.ownTypes →
        L.Moves (addType L.pass s .unknown) c' fun _ c'' => (c''.set s).has .unknown = true := by
      intro c' h' hgrows s hs
      have hmem := (hgrows.object id).properties.subset (hps p List.mem_cons_self)
      have hp := (h'.sound.valid.objects id).properties p hmem
      have hin : s.In c'.extent := by
        obtain rfl | rfl := hs
        · exact hp.types
        · exact hp.ownTypes
      exact moves_addType hL h' hin (Ty.in_of_object?_eq_none rfl _)
        (.forgotten (hgrows.isUnknown hunknown) hmem hs)
    have hfirst : L.Moves (do
        addType L.pass p.types .unknown
        addType L.pass p.ownTypes .unknown) c fun _ c' =>
          (c'.set p.types).has .unknown = true ∧ (c'.set p.ownTypes).has .unknown = true := by
      refine .bind hL.within h (hadd c h (Grows.refl c) _ (.inl rfl)) ?_
      intro _ c₁ h₁ hgood₁ htypes
      refine .imp h₁ (hadd c₁ h₁ (hgood₁.grows h.sound) _ (.inr rfl)) ?_
      intro _ c₂ h₂ hgood₂ hown
      exact ⟨(hgood₂.grows h₁.sound).has h₁.sound.valid h₂.sound.valid htypes, hown⟩
    refine .bind hL.within h hfirst ?_
    rintro _ c₁ h₁ hgood₁ ⟨htypes, hown⟩
    have hgrows₁ := hgood₁.grows h.sound
    refine .imp h₁ (ih h₁ (hgrows₁.isUnknown hunknown) fun q hq =>
      (hgrows₁.object id).properties.subset (hps q (List.mem_cons_of_mem _ hq))) ?_
    intro _ c₂ h₂ hgood₂ hall q hq
    have hgrows := hgood₂.grows h₁.sound
    obtain rfl | hq := List.mem_cons.mp hq
    · exact ⟨hgrows.has h₁.sound.valid h₂.sound.valid htypes,
        hgrows.has h₁.sound.valid h₂.sound.valid hown⟩
    · exact hall q hq

/-- What follows in a round after an object has been forgotten: its properties get the unknown type,
and what inherits from it is forgotten before the others on the stack. -/
theorem moves_forgetBelow (h : L.At c) {id : ObjectId}
    (hforgotten : (c.object id).isUnknown = true) {fuel : Nat} {rest : List ObjectId}
    (hnext : ∀ c', L.At c' → L.Good c c' → L.Moves
      (forgetAll L.pass fuel ((c'.object id).instances.reverse ++ rest)) c' fun _ c'' =>
        ∀ o ∈ (c'.object id).instances.reverse ++ rest, (c''.object o).isUnknown = true) :
    L.Moves ((c.object id).properties.forM (fun p => do
        addType L.pass p.types .unknown
        addType L.pass p.ownTypes .unknown) >>= fun _ => do
      let c' ← get
      forgetAll L.pass fuel ((c'.object id).instances.reverse ++ rest)) c fun _ c' =>
        (∀ p ∈ (c.object id).properties,
          (c'.set p.types).has .unknown = true ∧ (c'.set p.ownTypes).has .unknown = true) ∧
        (∀ o, (c.object o).proto = some id → (c'.object o).isUnknown = true) ∧
          ∀ o ∈ rest, (c'.object o).isUnknown = true := by
  refine .bind hL.within h (moves_addUnknown hL h hforgotten fun p hp => hp) ?_
  intro _ c₁ h₁ hgood₁ hall
  refine .get (.imp h₁ (hnext c₁ h₁ hgood₁) ?_)
  intro _ c₂ h₂ hgood₂ hstack
  have hhas : ∀ {s}, (c₁.set s).has .unknown = true → (c₂.set s).has .unknown = true :=
    (hgood₂.grows h₁.sound).has h₁.sound.valid h₂.sound.valid
  refine ⟨fun p hp => (hall p hp).imp hhas hhas, fun o ho => ?_, fun o ho => ?_⟩
  · refine hstack o (List.mem_append_left _ (List.mem_reverse.mpr ?_))
    exact (h₁.sound.forest.instances o id).mpr (((hgood₁.grows h.sound).object o).proto _ ho)
  · exact hstack o (List.mem_append_right _ ho)

/-- The objects on a stack are unknown afterwards. -/
theorem moves_forgetAll (h : L.At c) {fuel : Nat} {stack : List ObjectId}
    (hspare : Spare L c fuel stack)
    (hstack : ∀ o ∈ stack, o.In c.extent ∧ c.Forsaken L.scope o) :
    L.Moves (forgetAll L.pass fuel stack) c fun _ c' =>
      ∀ o ∈ stack, (c'.object o).isUnknown = true := by
  induction fuel generalizing c stack with
  | zero =>
    cases stack with
    | nil => exact .pure h fun o ho => absurd ho List.not_mem_nil
    | cons => exact .throw h hspare.exhausted
  | succ fuel ih =>
    cases stack with
    | nil => exact .pure h fun o ho => absurd ho List.not_mem_nil
    | cons id rest =>
      obtain ⟨hid, hforsaken⟩ := hstack id List.mem_cons_self
      have hrest : ∀ {c'}, c.Grows c' → ∀ o ∈ rest, o.In c'.extent ∧ c'.Forsaken L.scope o :=
        fun hgrows o ho => by
          obtain ⟨hin, hwhy⟩ := hstack o (List.mem_cons_of_mem _ ho)
          exact ⟨hin.mono hgrows.extent, hwhy.later hgrows⟩
      by_cases hunknown : (c.object id).isUnknown = true
      · have hspare' : Spare L c fuel ([] ++ rest) := hspare.next h.sound (.refl c) (.inl rfl)
        refine (outcome_congr (forgetAll_of_unknown L.pass fuel rest hunknown)).mpr
          (Law.Moves.imp h (ih h hspare' (hrest (Grows.refl c))) ?_)
        intro _ c' _ hgood hall o ho
        obtain rfl | ho := List.mem_cons.mp ho
        · exact (hgood.grows h.sound).isUnknown hunknown
        · exact hall o ho
      · have hdid : Did L.scope c (c.forgetProperties id) :=
          did_forgetProperties hid h.sound hforsaken
        have hat : L.At (c.forgetProperties id) := h.did hdid (by
          rw [worklist_forgetProperties]
          exact h.rest)
        have hforgotten : ((c.forgetProperties id).object id).isUnknown = true := by
          rw [(object_forgetProperties hid id).2.2]
          simp
        -- What follows the first step is tidy from there on, and makes that step tidy in the end.
        refine (outcome_congr (forgetAll_run L.pass fuel rest hunknown)).mpr
          (Law.Moves.tidying hL.within h.sound hdid quiet_forgetProperties.not_fired
            (moves_forgetBelow hL hat hforgotten fun c' h' hgood => ?_) ?_)
        · have hgrows := hgood.grows hat.sound
          refine ih h' (hspare.next h.sound (hdid.trans hgood.did) (.inr rfl)) fun o ho => ?_
          obtain ho | ho := List.mem_append.mp ho
          · have ho := List.mem_reverse.mp ho
            exact ⟨(h'.sound.valid.objects id).instances o ho, .inherited
              ((h'.sound.forest.instances o id).mp ho) (hgrows.isUnknown hforgotten)⟩
          · exact hrest ((hdid.grows h.sound).trans hgrows) o ho
        · rintro _ c' hgood ⟨hall, hbelow, hothers⟩
          have hgrows := hgood.grows hat.sound
          refine ⟨fun htidied => tidied_of_forgetProperties hid hgrows htidied hall hbelow, ?_⟩
          intro o ho
          obtain rfl | ho := List.mem_cons.mp ho
          · exact hgrows.isUnknown hforgotten
          · exact hothers o ho

/-- An object that is marked unknown is unknown afterwards. -/
theorem moves_markUnknown (hroom : L.Roomy) (h : L.At c) {id : ObjectId}
    (hid : id.In c.extent) (hforsaken : c.Forsaken L.scope id) :
    L.Moves (markUnknown L.pass id) c fun _ c' => (c'.object id).isUnknown = true := by
  refine .get (.imp h (moves_forgetAll hL h (.ofRoot hroom h.sound id) ?_) ?_)
  · intro o ho
    rw [List.mem_singleton.mp ho]
    exact ⟨hid, hforsaken⟩
  · exact fun _ _ _ _ hall => hall id List.mem_cons_self

end Lawful

end Compartment

end FlowTypes
