import FlowTypes.Proofs.Actions.Property
import FlowTypes.Proofs.Checked.Propagation

/-!
# Properties, checked

The checked actions that make properties along a chain of prototypes and wire them up.  They go from
object to object by the handles that the objects keep.

## Main results

* `reads_chain`, `reads_lacking`: the way up a chain of prototypes finds every object on it.
* `tracks_addProperty`: the property that was asked for is among those that are made.
* `tracks_getProperty`: the set that is answered is in the table.
-/

namespace FlowTypes

theorem ObjectInfo.Valid.addProperty {e : Extent} {o : ObjectInfo} {p : Property}
    (ho : o.Valid e) (hp : p.Valid e) : (o.addProperty p).Valid e :=
  ⟨fun q hq => (List.mem_append.mp hq).elim (ho.properties q) fun hq =>
    List.mem_singleton.mp hq ▸ hp, ho.proto, ho.instances, ho.newObject, ho.function⟩

namespace Checked

/-! ## Actions -/

/-- Follows prototypes for as many steps as are allowed. -/
def chainFrom : Nat → Option ObjectId → Checked (List ObjectId)
  | 0, _ => return []
  | _, none => return []
  | fuel + 1, some p => do
    let o ← objectAt p
    let above ← chainFrom fuel o.proto
    return p :: above

def chain (id : ObjectId) : Checked (List ObjectId) := do
  let fuel := (← get).objects.size
  let o ← objectAt id
  chainFrom fuel o.proto

def isArray (id : ObjectId) : Checked Bool := do
  match (← get).builtin? .arrayPrototype with
  | none => return false
  | some p => return (← chain id).contains p

def lacking (key : Key) : List ObjectId → Checked (List ObjectId × Option SetId)
  | [] => return ([], none)
  | p :: ps => do
    let o ← objectAt p
    if o.isUnknown then return ([], some Compartment.universal)
    else match o.property? key with
      | some q => return ([], some q.types)
      | none =>
        let above ← lacking key ps
        return (p :: above.1, above.2)

def createProperty (id : ObjectId) (key : Key) : Checked Property := do
  let types ← lift Compartment.newSet
  let ownTypes ← lift Compartment.newSet
  let p : Property := { key, types, ownTypes }
  changeObject id (·.addProperty p)
  discard <| objectName id
  modify (·.record (.propertyCreated id p))
  return p

section Actions

variable (pass : Checked Unit)

def flowDown (base : SetId) (key : Key) : Nat → List ObjectId → Checked Unit
  | _, [] => pure ()
  | 0, _ => throw (.outOfMemory "instance list")
  | fuel + 1, id :: rest => do
    let o ← objectAt id
    match o.property? key with
    | some p =>
      addSubset pass base p.types
      flowDown base key fuel rest
    | none => flowDown base key fuel (o.instances.reverse ++ rest)

def storeToInstances (id : ObjectId) (key : Key) : Checked Unit := do
  let o ← objectAt id
  match o.property? key with
  | none => pure ()
  | some p => flowDown pass p.types key ((← get).objectBound + 1) o.instances.reverse

def wireProperties (key : Key) : Option SetId → List (ObjectId × Property) → Checked Unit
  | _, [] => pure ()
  | above, (owner, p) :: rest => do
    addSubset pass p.ownTypes p.types
    if let some above := above then
      addSubset pass above p.types
    storeToInstances pass owner key
    wireProperties key (some p.types) rest

/-- The properties are made from the top of the chain down, so the one that was asked for comes
last. -/
def addProperty (id : ObjectId) (key : Key) : Checked Property := do
  let above ← chain id
  let missing ← lacking key above
  let created ← (id :: missing.1).reverse.mapM fun owner =>
    return (owner, ← createProperty owner key)
  wireProperties pass key missing.2 created
  match created.getLast? with
  | some (_, p) => return p
  | none => fault .noProperty

def getProperty (id : ObjectId) (key : Key) (own : Bool) : Checked SetId := do
  let o ← objectAt id
  if o.isUnknown then return Compartment.universal
  else
    let p ← match o.property? key with
      | some p => pure p
      | none => addProperty pass id key
    return if own then p.ownTypes else p.types

end Actions

/-! ## The way up -/

variable {c : Compartment}

theorem reads_chainFrom (hc : c.Valid) (fuel : Nat) {start : Option ObjectId}
    (hstart : ∀ p ∈ start, p.In c.extent) :
    Reads (chainFrom fuel start) c (c.chainFrom fuel start) := by
  induction fuel generalizing start with
  | zero => exact .pure _
  | succ fuel ih =>
    cases start with
    | none => exact .pure _
    | some p =>
      exact (reads_objectAt (hstart p rfl)).bind
        ((ih (hc.objects p).proto).bind (.pure _))

theorem in_of_mem_chainFrom (hc : c.Valid) (fuel : Nat) {start : Option ObjectId}
    (hstart : ∀ p ∈ start, p.In c.extent) : ∀ p ∈ c.chainFrom fuel start, p.In c.extent := by
  induction fuel generalizing start with
  | zero => exact fun _ hp => absurd hp List.not_mem_nil
  | succ fuel ih =>
    cases start with
    | none => exact fun _ hp => absurd hp List.not_mem_nil
    | some q =>
      intro p hp
      obtain rfl | hp := List.mem_cons.mp hp
      · exact hstart p rfl
      · exact ih (hc.objects q).proto p hp

theorem reads_chain (hc : c.Valid) {id : ObjectId} (hid : id.In c.extent) :
    Reads (chain id) c (c.chain id) :=
  Reads.bind .get ((reads_objectAt hid).bind (reads_chainFrom hc _ (hc.objects id).proto))

theorem in_of_mem_chain (hc : c.Valid) (id : ObjectId) : ∀ p ∈ c.chain id, p.In c.extent :=
  in_of_mem_chainFrom hc _ (hc.objects id).proto

theorem reads_isArray (hc : c.Valid) {id : ObjectId} (hid : id.In c.extent) :
    Reads (isArray id) c (c.isArray id) := by
  refine Reads.bind .get ?_
  rw [Compartment.isArray]
  cases c.builtin? .arrayPrototype with
  | none => exact .pure _
  | some p => exact (reads_chain hc hid).bind (.pure _)

theorem reads_lacking (key : Key) {ps : List ObjectId} (hps : ∀ p ∈ ps, p.In c.extent) :
    Reads (lacking key ps) c (c.lacking key ps) := by
  induction ps with
  | nil => exact .pure _
  | cons p ps ih =>
    refine (reads_objectAt (hps p List.mem_cons_self)).bind ?_
    rw [Compartment.lacking]
    by_cases hunknown : (c.object p).isUnknown = true
    · rw [if_pos hunknown, if_pos hunknown]
      exact .pure _
    · rw [if_neg hunknown, if_neg hunknown]
      cases (c.object p).property? key with
      | some q => exact .pure _
      | none => exact (ih fun q hq => hps q (List.mem_cons_of_mem _ hq)).bind (.pure _)

/-- The objects that lack a property are on the chain, and the set that comes from above exists. -/
theorem in_of_lacking (hc : c.Valid) (key : Key) {ps : List ObjectId}
    (hps : ∀ p ∈ ps, p.In c.extent) : (∀ o ∈ (c.lacking key ps).1, o.In c.extent) ∧
      ∀ s ∈ (c.lacking key ps).2, s.In c.extent := by
  induction ps with
  | nil => exact ⟨fun _ ho => absurd ho List.not_mem_nil, fun _ hs => nomatch hs⟩
  | cons p ps ih =>
    have ih := ih fun q hq => hps q (List.mem_cons_of_mem _ hq)
    rw [Compartment.lacking]
    split
    · refine ⟨fun _ ho => absurd ho List.not_mem_nil, ?_⟩
      rintro _ ⟨⟩
      exact hc.universal
    · split
      · rename_i q hq
        refine ⟨fun _ ho => absurd ho List.not_mem_nil, ?_⟩
        rintro _ ⟨⟩
        exact ((hc.objects p).properties q (List.mem_of_find?_eq_some hq)).types
      · refine ⟨fun o ho => ?_, ih.2⟩
        obtain rfl | ho := List.mem_cons.mp ho
        · exact hps o List.mem_cons_self
        · exact ih.1 o ho

/-! ## Keeping up -/

theorem tracks_newSet (hc : c.Intact) :
    Tracks c (fun s c' => s.In c'.extent) (lift Compartment.newSet c) (Compartment.newSet c) := by
  have hsize : (c.sets.push {}).size = c.sets.size + 1 := Array.size_push _
  refine .lift ⟨Compartment.grows_pushSet.extent, rfl⟩ (hc.of_objects hc.toValid.pushSet rfl) ?_
  rintro _ ⟨⟩
  show c.sets.size < (c.sets.push {}).size
  omega

theorem tracks_createProperty (hc : c.Intact) {id : ObjectId} (hid : id.In c.extent) (key : Key) :
    Tracks c (fun p c' => p.Valid c'.extent) (createProperty id key c)
      (Compartment.createProperty id key c) := by
  refine .bind (tracks_newSet hc) fun types c₁ hc₁ hlater₁ htypes => ?_
  refine .bind (tracks_newSet hc₁) fun ownTypes c₂ hc₂ hlater₂ hown => ?_
  have hid₂ : id.In c₂.extent := (hid.mono hlater₁.extent).mono hlater₂.extent
  have hp : Property.Valid c₂.extent ⟨key, types, ownTypes⟩ := ⟨htypes.mono hlater₂.extent, hown⟩
  have hchanged : (c₂.changeObject id (·.addProperty ⟨key, types, ownTypes⟩)).Intact :=
    hc₂.changeObject hid₂ ((hc₂.objects id).addProperty hp) (hc₂.dense id)
  have hlater := Compartment.later_changeObject (c := c₂) id (·.addProperty ⟨key, types, ownTypes⟩)
  refine .step (gives_changeObject hid₂ _) ?_
  refine .step (reads_objectName (hid₂.mono hlater.extent)).discard (.step (.modify _) ?_)
  refine .modifies (.after (hlater.trans (Compartment.later_record
    (.propertyCreated id ⟨key, types, ownTypes⟩))) ?_)
  exact .pure (hchanged.record _) (hp.mono hlater.extent)

section Passes

variable {pass' : Checked Unit} {pass : Action Unit} (hpass : Parallel pass' pass)
include hpass

theorem tracks_flowDown (hc : c.Intact) {base : SetId} (hbase : base.In c.extent) (key : Key)
    (fuel : Nat) {stack : List ObjectId} (hstack : ∀ o ∈ stack, o.In c.extent) :
    Tracks c (fun _ _ => True) (flowDown pass' base key fuel stack c)
      (Compartment.flowDown pass base key fuel stack c) := by
  induction fuel generalizing c stack with
  | zero =>
    cases stack with
    | nil => exact .pure hc trivial
    | cons o rest => exact .throw hc
  | succ fuel ih =>
    cases stack with
    | nil => exact .pure hc trivial
    | cons o rest =>
      have hrest : ∀ i ∈ rest, i.In c.extent := fun i hi => hstack i (List.mem_cons_of_mem _ hi)
      refine .step (reads_objectAt (hstack o List.mem_cons_self)) (.get ?_)
      cases hfound : (c.object o).property? key with
      | some p =>
        have hp := (hc.objects o).properties p (List.mem_of_find?_eq_some hfound)
        refine .bind (tracks_addSubset hpass hc hbase hp.types) fun _ c' hc' hlater _ => ?_
        exact ih hc' (hbase.mono hlater.extent) fun i hi => (hrest i hi).mono hlater.extent
      | none =>
        refine ih hc hbase fun i hi => ?_
        obtain hi | hi := List.mem_append.mp hi
        · exact (hc.objects o).instances i (List.mem_reverse.mp hi)
        · exact hrest i hi

theorem tracks_storeToInstances (hc : c.Intact) {id : ObjectId} (hid : id.In c.extent) (key : Key) :
    Tracks c (fun _ _ => True) (storeToInstances pass' id key c)
      (Compartment.storeToInstances pass id key c) := by
  refine .step (reads_objectAt hid) (.get ?_)
  cases hfound : (c.object id).property? key with
  | none => exact .pure hc trivial
  | some p =>
    have hp := (hc.objects id).properties p (List.mem_of_find?_eq_some hfound)
    refine .step .get (tracks_flowDown hpass hc hp.types key _ fun i hi => ?_)
    exact (hc.objects id).instances i (List.mem_reverse.mp hi)

theorem tracks_wireProperties (hc : c.Intact) (key : Key) {above : Option SetId}
    (habove : ∀ s ∈ above, s.In c.extent) {made : List (ObjectId × Property)}
    (hmade : ∀ x ∈ made, x.1.In c.extent ∧ x.2.Valid c.extent) :
    Tracks c (fun _ _ => True) (wireProperties pass' key above made c)
      (Compartment.wireProperties pass key above made c) := by
  induction made generalizing c above with
  | nil => exact .pure hc trivial
  | cons x rest ih =>
    obtain ⟨owner, p⟩ := x
    obtain ⟨howner, hp⟩ := hmade _ List.mem_cons_self
    refine .bind (tracks_addSubset hpass hc hp.ownTypes hp.types) fun _ c₁ hc₁ hlater₁ _ => ?_
    -- What comes after the set above has been wired.
    have hrest : ∀ c₂ : Compartment, c₂.Intact → c₁.Later c₂ → Tracks c₂ (fun _ _ => True)
        ((storeToInstances pass' owner key >>= fun _ =>
          wireProperties pass' key (some p.types) rest) c₂)
        ((Compartment.storeToInstances pass owner key >>= fun _ =>
          Compartment.wireProperties pass key (some p.types) rest) c₂) := by
      intro c₂ hc₂ hlater₂
      have hlater := hlater₁.trans hlater₂
      refine .bind (tracks_storeToInstances hpass hc₂ (howner.mono hlater.extent) key)
        fun _ c₃ hc₃ hlater₃ _ => ?_
      have hwithin := (hlater.trans hlater₃).extent
      refine ih hc₃ ?_ fun y hy => ?_
      · rintro _ ⟨⟩
        exact hp.types.mono hwithin
      · have hy := hmade y (List.mem_cons_of_mem _ hy)
        exact ⟨hy.1.mono hwithin, hy.2.mono hwithin⟩
    cases above with
    | none => exact hrest c₁ hc₁ (.refl _)
    | some s =>
      exact .bind (tracks_addSubset hpass hc₁ ((habove s rfl).mono hlater₁.extent)
        (hp.types.mono hlater₁.extent)) fun _ c₂ hc₂ hlater₂ _ => hrest c₂ hc₂ hlater₂

theorem tracks_addProperty (hc : c.Intact) {id : ObjectId} (hid : id.In c.extent) (key : Key) :
    Tracks c (fun p c' => p.Valid c'.extent) (addProperty pass' id key c)
      (Compartment.addProperty pass id key c) := by
  have hchain := in_of_mem_chain hc.toValid id
  obtain ⟨howners, habove⟩ := in_of_lacking hc.toValid key hchain
  have hcreate : ∀ owner, owner.In c.extent → ∀ c' : Compartment, c'.Intact → c.Later c' →
      Tracks c' (fun x c'' => x.1.In c''.extent ∧ x.2.Valid c''.extent)
        ((do return (owner, ← createProperty owner key) : Checked (ObjectId × Property)) c')
        ((do return (owner, ← Compartment.createProperty owner key) :
          Action (ObjectId × Property)) c') := by
    intro owner howner c' hc' hlater
    have howner' := howner.mono hlater.extent
    exact .bind (tracks_createProperty hc' howner' key) fun p c'' hc'' hlater' hp =>
      .pure hc'' ⟨howner'.mono hlater'.extent, hp⟩
  have hkept : ∀ (x : ObjectId × Property) (c' c'' : Compartment), c'.Later c'' →
      x.1.In c'.extent ∧ x.2.Valid c'.extent → x.1.In c''.extent ∧ x.2.Valid c''.extent :=
    fun x _ _ hlater hx => ⟨hx.1.mono hlater.extent, hx.2.mono hlater.extent⟩
  refine .step (reads_chain hc.toValid hid) (.step (reads_lacking key hchain) (.get ?_))
  -- The property that was asked for is made last.
  rw [List.reverse_cons, List.mapM_append, bind_assoc]
  refine .bind (.mapM hc hkept fun owner howner => ?_) fun created c₁ hc₁ hlater₁ hcreated => ?_
  · exact hcreate owner (howners owner (List.mem_reverse.mp howner))
  simp only [List.mapM_cons, List.mapM_nil, bind_assoc, pure_bind]
  refine .bind (tracks_createProperty hc₁ (hid.mono hlater₁.extent) key)
    fun p c₂ hc₂ hlater₂ hp => ?_
  have hlater := hlater₁.trans hlater₂
  refine .bind (tracks_wireProperties hpass hc₂ key (fun s hs => (habove s hs).mono hlater.extent)
    fun x hx => ?_) fun _ c₃ hc₃ hlater₃ _ => ?_
  · obtain hx | hx := List.mem_append.mp hx
    · exact hkept x c₁ c₂ hlater₂ (hcreated x hx)
    · rw [List.mem_singleton.mp hx]
      exact ⟨hid.mono hlater.extent, hp⟩
  · rw [List.getLast?_append]
    exact .pure hc₃ (hp.mono hlater₃.extent)

theorem tracks_getProperty (hc : c.Intact) {id : ObjectId} (hid : id.In c.extent) (key : Key)
    (own : Bool) : Tracks c (fun s c' => s.In c'.extent) (getProperty pass' id key own c)
      (Compartment.getProperty pass id key own c) := by
  refine .step (reads_objectAt hid) (.get (.ite (fun _ => .pure hc hc.universal) fun _ => ?_))
  -- The set is one of the two of the property.
  have hanswer : ∀ (p : Property) (c' : Compartment), c'.Intact → p.Valid c'.extent →
      Tracks c' (fun s c'' => s.In c''.extent)
        ((pure (if own then p.ownTypes else p.types) : Checked SetId) c')
        ((pure (if own then p.ownTypes else p.types) : Action SetId) c') := by
    intro p c' hc' hp
    refine .pure hc' ?_
    cases own with
    | true => exact hp.ownTypes
    | false => exact hp.types
  cases hfound : (c.object id).property? key with
  | some p =>
    exact hanswer p c hc ((hc.objects id).properties p (List.mem_of_find?_eq_some hfound))
  | none =>
    exact .bind (tracks_addProperty hpass hc hid key) fun p c' hc' _ hp => hanswer p c' hc' hp

end Passes

end Checked

end FlowTypes
