import FlowTypes.Proofs.Actions.Unknown
import FlowTypes.Proofs.Checked.Property

/-!
# Kinds and demotions, checked

The kind of an object is asked for in the middle of changes that take flags from it, and an array
that is packed but not dense would stop the engine there.  The flags are taken in an order that never
leaves an object so, and only constraints that hold an answer are spent.

## Main results

* `reads_objectKind`, `reads_setKind`: in an intact compartment every object has a kind.
* `gives_notifyKind`, `gives_markNotPacked`, `gives_forgetProperties`: an object is demoted without a
  fault, and the compartment is intact afterwards.
* `tracks_markUnknown`: so are all that inherit from it.
-/

namespace FlowTypes

namespace Checked

/-! ## Actions -/

/-- The kind that the flags and the record of an object make. -/
def kindOf (o : ObjectInfo) : Kind :=
  if o.isUnknown then .unknown
  else if o.isPacked then .packedArray
  else if o.isDense then .denseArray
  else match o.function with
    | some f => if f.isNative then .nativeFunction else .scriptedFunction
    | none => .unknown

def objectKind (id : ObjectId) : Checked Kind := do
  let o ← objectAt id
  if o.isPacked && !o.isDense then fault .packedNotDense
  else return kindOf o

def setKind (id : SetId) : Checked Kind := do
  let s ← setAt id
  if s.isUnknown then return .unknown
  else s.objectTypes.foldlM (fun kind o => return kind.combine (← objectKind o)) .none

/-- Only a constraint that holds an answer can be spent. -/
def spend (id : ConstraintId) (script : ScriptId) : Checked Unit := do
  let k ← constraintAt id
  if k.isFreeze then modify (·.spend id script)
  else fault .notFreeze

def kindChanged (id : ConstraintId) (new : Kind) : Checked Unit := do
  match ← constraintAt id with
  | .freezeElementKind script kind false =>
    if kind.combine new = kind then pure () else spend id script
  | _ => pure ()

def notifyKind (id : ObjectId) : Checked Unit := do
  let o ← objectAt id
  match o.property? .index with
  | none => pure ()
  | some p =>
    let kind ← objectKind id
    let s ← setAt p.types
    s.constraints.forM fun listener => kindChanged listener kind

def markNotPacked (id : ObjectId) (notDense : Bool) : Checked Unit := do
  let o ← objectAt id
  if !o.isPacked && !(notDense && o.isDense) then pure ()
  else
    changeObject id fun o => { o with isPacked := false, isDense := o.isDense && !notDense }
    discard <| objectName id
    modify (·.record (.markedNotPacked id notDense))
    notifyKind id

def forgetProperties (id : ObjectId) : Checked Unit := do
  discard <| objectName id
  modify (·.record (.markedUnknown id))
  markNotPacked id true
  changeObject id fun o => { o with isUnknown := true }
  notifyKind id

section Actions

variable (pass : Checked Unit)

def forgetAll : Nat → List ObjectId → Checked Unit
  | _, [] => pure ()
  | 0, _ => throw (.outOfMemory "instance list")
  | fuel + 1, id :: rest => do
    let o ← objectAt id
    if o.isUnknown then forgetAll fuel rest
    else
      forgetProperties id
      let o ← objectAt id
      o.properties.forM fun p => do
        addType pass p.types .unknown
        addType pass p.ownTypes .unknown
      let o ← objectAt id
      forgetAll fuel (o.instances.reverse ++ rest)

def markUnknown (id : ObjectId) : Checked Unit := do
  forgetAll pass ((← get).objectBound + 1) [id]

end Actions

/-! ## Kinds -/

variable {c c' : Compartment}

theorem reads_objectKind (hc : c.Intact) {id : ObjectId} (hid : id.In c.extent) :
    Reads (objectKind id) c (c.objectKind id) := by
  refine (reads_objectAt hid).bind ?_
  have hdense : ((c.object id).isPacked && !(c.object id).isDense) = false := by
    cases hpacked : (c.object id).isPacked with
    | false => rfl
    | true => rw [hc.dense id hpacked]; rfl
  rw [if_neg (by rw [hdense]; exact Bool.false_ne_true)]
  exact .pure _

theorem reads_setKind (hc : c.Intact) {id : SetId} (hid : id.In c.extent) :
    Reads (setKind id) c (c.setKind id) := by
  refine (reads_setAt hid).bind ?_
  rw [Compartment.setKind]
  split
  · exact .pure _
  · refine Reads.foldlM (fun o ho kind => ?_) _
    exact (reads_objectKind hc (Compartment.in_of_mem_objectTypes hc.toValid ho)).bind (.pure _)

/-! ## Telling the constraints -/

theorem Gives.forM_foldl {α : Type} {f : α → Checked PUnit} {g : Compartment → α → Compartment}
    {I : Compartment → Prop} {xs : List α}
    (hf : ∀ x ∈ xs, ∀ c, I c → Gives (f x) c ⟨⟩ (g c x) ∧ I (g c x)) (h : I c) :
    Gives (xs.forM f) c ⟨⟩ (xs.foldl g c) := by
  induction xs generalizing c with
  | nil => exact .pure _
  | cons x xs ih =>
    obtain ⟨hgives, hnext⟩ := hf x List.mem_cons_self c h
    exact hgives.bind (ih (fun y hy => hf y (List.mem_cons_of_mem _ hy)) hnext)

theorem gives_spend {id : ConstraintId} (hid : id.In c.extent)
    (hfreeze : (c.constraint id).isFreeze = true) (script : ScriptId) :
    Gives (spend id script) c ⟨⟩ (c.spend id script) := by
  refine (reads_constraintAt hid).gives ?_
  rw [if_pos hfreeze]
  exact .modify _

theorem gives_kindChanged {id : ConstraintId} (hid : id.In c.extent) (new : Kind) :
    Gives (kindChanged id new) c ⟨⟩ (c.kindChanged id new) := by
  refine (reads_constraintAt hid).gives ?_
  rw [Compartment.kindChanged]
  cases hk : c.constraint id with
  | freezeElementKind script kind spent =>
    cases spent with
    | true => exact .pure _
    | false =>
      dsimp only
      split
      · exact .pure _
      · exact gives_spend hid (by rw [hk]; rfl) script
  | _ => exact .pure _

theorem within_kindChanged {id : ConstraintId} (hid : id.In c.extent) (new : Kind) :
    c.extent.Within (c.kindChanged id new).extent := by
  rw [Compartment.kindChanged]
  split
  · split
    · exact .refl _
    · exact (Compartment.grows_spend hid _).extent
  · exact .refl _

theorem gives_notifyKind (hc : c.Intact) {id : ObjectId} (hid : id.In c.extent) :
    Gives (notifyKind id) c ⟨⟩ (c.notifyKind id) := by
  refine (reads_objectAt hid).gives ?_
  rw [Compartment.notifyKind]
  cases hfound : (c.object id).property? .index with
  | none => exact .pure _
  | some p =>
    have hp := (hc.objects id).properties p (List.mem_of_find?_eq_some hfound)
    refine (reads_objectKind hc hid).gives ((reads_setAt hp.types).gives ?_)
    refine Gives.forM_foldl (I := fun c' => c.extent.Within c'.extent) (fun k hk b hb => ?_) (.refl _)
    have hk : k.In b.extent := ((hc.sets p.types).constraints k hk).mono hb
    exact ⟨gives_kindChanged hk _, hb.trans (within_kindChanged hk _)⟩

end Checked

namespace Compartment

variable {c : Compartment}

theorem later_notifyKind (id : ObjectId) : c.Later (c.notifyKind id) :=
  ⟨(grows_notifyKind id).extent, by rw [worklist_notifyKind]⟩

theorem Intact.notifyKind (hc : c.Intact) (id : ObjectId) : (c.notifyKind id).Intact :=
  hc.of_objects (hc.toValid.notifyKind id) (objects_notifyKind id)

theorem Intact.demote (hc : c.Intact) {id : ObjectId} (hid : id.In c.extent)
    {f : ObjectInfo → ObjectInfo} (hf : (c.object id).Demoted (f (c.object id)))
    (hdense : (f (c.object id)).isPacked = true → (f (c.object id)).isDense = true) :
    ((c.changeObject id f).notifyKind id).Intact :=
  (hc.changeObject hid (hf.valid (hc.objects id)) hdense).notifyKind id

theorem later_demote (id : ObjectId) (f : ObjectInfo → ObjectInfo) :
    c.Later ((c.changeObject id f).notifyKind id) :=
  (later_changeObject id f).trans (later_notifyKind id)

theorem later_markNotPacked (id : ObjectId) (notDense : Bool) :
    c.Later (c.markNotPacked id notDense) := by
  obtain h | h := c.markNotPacked_cases id notDense
  · rw [h]
    exact .refl c
  · rw [h]
    exact (later_record _).trans (later_demote id _)

/-- An array that is not packed any more may be dense or not. -/
theorem Intact.markNotPacked (hc : c.Intact) {id : ObjectId} (hid : id.In c.extent)
    (notDense : Bool) : (c.markNotPacked id notDense).Intact := by
  obtain h | h := c.markNotPacked_cases id notDense
  · rw [h]
    exact hc
  · rw [h]
    exact (hc.record _).demote hid (demoted_loosen notDense _) fun h => nomatch h

theorem later_forgetProperties (id : ObjectId) : c.Later (c.forgetProperties id) :=
  ((later_record (.markedUnknown id)).trans (later_markNotPacked id true)).trans
    (later_demote id forget)

theorem Intact.forgetProperties (hc : c.Intact) {id : ObjectId} (hid : id.In c.extent) :
    (c.forgetProperties id).Intact := by
  have hmarked := (hc.record (.markedUnknown id)).markNotPacked hid true
  exact hmarked.demote (hid.mono (later_markNotPacked (c := c.record _) id true).extent)
    (demoted_forget (isLoose_markNotPacked (c := c.record _) hid)) (hmarked.dense id)

end Compartment

namespace Checked

variable {c : Compartment}

theorem gives_markNotPacked (hc : c.Intact) {id : ObjectId} (hid : id.In c.extent)
    (notDense : Bool) : Gives (markNotPacked id notDense) c ⟨⟩ (c.markNotPacked id notDense) := by
  refine (reads_objectAt hid).gives ?_
  rw [Compartment.markNotPacked]
  by_cases hdone : (!(c.object id).isPacked && !(notDense && (c.object id).isDense)) = true
  · rw [if_pos hdone, if_pos hdone]
    exact .pure _
  · rw [if_neg hdone, if_neg hdone]
    have hchanged : (c.changeObject id (Compartment.loosen notDense)).Intact :=
      hc.changeObject hid ((Compartment.demoted_loosen notDense _).valid (hc.objects id))
        fun h => by cases h
    have hid' : id.In (c.changeObject id (Compartment.loosen notDense)).extent :=
      hid.mono (Compartment.later_changeObject id _).extent
    refine (gives_changeObject hid _).bind ((reads_objectName hid').discard.gives ?_)
    exact (Gives.modify _).bind (gives_notifyKind (hchanged.record _) hid')

/-- The kind of the object is asked for twice on the way, and both times its flags agree. -/
theorem gives_forgetProperties (hc : c.Intact) {id : ObjectId} (hid : id.In c.extent) :
    Gives (forgetProperties id) c ⟨⟩ (c.forgetProperties id) := by
  have hrecorded := hc.record (.markedUnknown id)
  have hmarked := hrecorded.markNotPacked hid true
  have hid₁ := hid.mono (Compartment.later_markNotPacked
    (c := c.record (.markedUnknown id)) id true).extent
  have hforgotten := hmarked.changeObject hid₁ (f := Compartment.forget)
    ((Compartment.demoted_forget (Compartment.isLoose_markNotPacked (c := c.record _) hid)).valid
      (hmarked.objects id)) (hmarked.dense id)
  refine (reads_objectName hid).discard.gives ((Gives.modify _).bind ?_)
  refine (gives_markNotPacked hrecorded hid true).bind ((gives_changeObject hid₁ _).bind ?_)
  exact gives_notifyKind hforgotten (hid₁.mono (Compartment.later_changeObject id _).extent)

/-! ## Keeping up -/

section Passes

variable {pass' : Checked Unit} {pass : Action Unit} (hpass : Parallel pass' pass)
include hpass

theorem tracks_forgetAll (hc : c.Intact) (fuel : Nat) {stack : List ObjectId}
    (hstack : ∀ o ∈ stack, o.In c.extent) :
    Tracks c (fun _ _ => True) (forgetAll pass' fuel stack c)
      (Compartment.forgetAll pass fuel stack c) := by
  induction fuel generalizing c stack with
  | zero =>
    cases stack with
    | nil => exact .pure hc trivial
    | cons o rest => exact .throw hc
  | succ fuel ih =>
    cases stack with
    | nil => exact .pure hc trivial
    | cons o rest =>
      have ho := hstack o List.mem_cons_self
      have hrest : ∀ i ∈ rest, i.In c.extent := fun i hi => hstack i (List.mem_cons_of_mem _ hi)
      refine .step (reads_objectAt ho) (.get (.ite (fun _ => ih hc hrest) fun _ => ?_))
      have hc₁ := hc.forgetProperties ho
      have hlater₁ := Compartment.later_forgetProperties (c := c) o
      have ho₁ := ho.mono hlater₁.extent
      refine .step (gives_forgetProperties hc ho) (.modifies (.after hlater₁ ?_))
      refine .step (reads_objectAt ho₁) (.get (.bind (.forM hc₁ ?_) ?_))
      · intro p hp c₂ hc₂ hlater₂
        have hp := ((hc₁.objects o).properties p hp).mono hlater₂.extent
        have hunknown : ∀ e, Ty.In .unknown e := fun e => Ty.in_of_object?_eq_none rfl e
        refine .bind (tracks_addType hpass hc₂ hp.types (hunknown _)) fun _ c₃ hc₃ hlater₃ _ => ?_
        exact tracks_addType hpass hc₃ (hp.ownTypes.mono hlater₃.extent) (hunknown _)
      · intro _ c₂ hc₂ hlater₂ _
        have hlater := hlater₁.trans hlater₂
        refine .step (reads_objectAt (ho.mono hlater.extent)) (.get (ih hc₂ fun i hi => ?_))
        obtain hi | hi := List.mem_append.mp hi
        · exact (hc₂.objects o).instances i (List.mem_reverse.mp hi)
        · exact (hrest i hi).mono hlater.extent

theorem tracks_markUnknown (hc : c.Intact) {id : ObjectId} (hid : id.In c.extent) :
    Tracks c (fun _ _ => True) (markUnknown pass' id c) (Compartment.markUnknown pass id c) := by
  refine .step .get (.get (tracks_forgetAll hpass hc _ fun o ho => ?_))
  rwa [List.mem_singleton.mp ho]

end Passes

end Checked

end FlowTypes
