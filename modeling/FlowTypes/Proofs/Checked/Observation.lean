import FlowTypes.Proofs.Actions.Observation
import FlowTypes.Proofs.Checked.Prototype

/-!
# Observations, answers, sites and stack slots, checked

The checked actions for what the host observes, for the answers that compiled code relies on, and
for the sites and the stack slots that it registers.

## Main results

* `tracks_observeType`, `tracks_observePush`, `tracks_observeAssignment`.
* `tracks_knownTag`, `tracks_knownKind`, `tracks_knownNonEmpty`.
* `tracks_forceThisTypes`, `tracks_forceResult`.
* `tracks_mergeStacks`, `tracks_setInnerStack`: the nodes that are met on the way down exist.
-/

namespace FlowTypes

namespace Checked

/-! ## Actions -/

def variableTypes (script : ScriptId) (name : String) : Checked SetId := do
  match (ScriptTable.get? (← get).scripts script).bind (·.typesOf? name) with
  | some types => return types
  | none =>
    let types ← lift Compartment.newSet
    modify (·.changeScript script (·.addVariable name types))
    return types

def pushedTypes (code : Location) (index : Nat) : Checked SetId := do
  match (ScriptTable.get? (← get).scripts code.script).bind (·.pushed? code.offset index) with
  | some types => return types
  | none =>
    let types ← lift Compartment.newSet
    modify (·.changeScript code.script (·.addPushed ⟨code.offset, index, types⟩))
    return types

section Actions

variable (pass : Checked Unit)

def observeType (target : SetId) (t : Ty) : Checked Unit := do
  let s ← setAt target
  unless s.has t do
    discard <| typeName t
    modify (·.record (.typeObserved target t))
    addType pass target t

def observePush (code : Location) (index : Nat) (t : Ty) : Checked Unit := do
  let target ← pushedTypes code index
  let s ← setAt target
  unless s.has t do
    discard <| typeName t
    modify (·.record (.pushObserved code index t))
    addType pass target t
    modify (·.queueRecompile code.script (.pushed code))

def observeAssignment (id : ObjectId) (key : Key) (value : Value) : Checked Unit := do
  if key.isNamed "__proto__" then markUnknown pass id
  else
    let o ← objectAt id
    if o.isUnknown then pure ()
    else match value.type? with
      | none => pure ()
      | some t =>
        let own ← getProperty pass id key true
        let s ← setAt own
        unless s.has t do
          discard <| objectName id
          discard <| typeName t
          modify (·.record (.assignmentObserved id key t))
          addType pass own t

def knownTag (id : SetId) (script : Option ScriptId) : Checked (Option Tag) := do
  let s ← setAt id
  match script, s.tag? with
  | some script, some tag =>
    discard <| addConstraint pass id (.freezeTag script tag false) false
  | _, _ => pure ()
  return s.tag?

def knownKind (id : SetId) (script : Option ScriptId) : Checked Kind := do
  let kind ← setKind id
  match script with
  | none => return kind
  | some script =>
    if kind = .unknown then return kind
    else
      discard <| addConstraint pass id (.freezeKind script kind false) false
      let s ← setAt id
      s.objectTypes.forM fun o => do
        let elements ← getProperty pass o .index false
        discard <| addConstraint pass elements (.freezeElementKind script kind false) false
      return kind

def knownNonEmpty (id : SetId) (script : Option ScriptId) : Checked Bool := do
  let s ← setAt id
  if s.isEmpty then
    if let some script := script then
      discard <| addConstraint pass id (.freezeEmpty script false) false
    return false
  else return true

def forceThisTypes (id : SiteId) : Checked SetId := do
  let site ← siteAt id
  match site.thisTypes with
  | some types => return types
  | none =>
    let types ← lift Compartment.newSet
    changeSite id fun s => { s with thisTypes := some types }
    return types

def forceResult (id : SiteId) : Checked SetId := do
  let site ← siteAt id
  match site.result with
  | some types => return types
  | none =>
    let types ← lift Compartment.newSet
    changeSite id fun s => { s with result := some types }
    return types

def newStackNode (inner : Option StackId) : Checked StackId := do
  let types ← lift Compartment.newSet
  let node : StackId := ⟨(← get).stack.size⟩
  modify (·.changeStacks (·.push { types, inner }))
  return node

/-- Two nodes are in one group. -/
def sameGroup (one two : StackId) : Checked Bool := do
  let first ← representativeAt one
  let second ← representativeAt two
  return first == second

/-- Makes two groups into one. -/
def unite (one two : StackId) : Checked Unit := do
  discard <| slotAt one
  discard <| slotAt two
  modify (·.changeStacks (·.merge one two))

/-- Gives a node's group a new record. -/
def changeSlot (node : StackId) (s : Slot) : Checked Unit := do
  discard <| slotAt node
  modify (·.changeStacks (·.update node s))

def mergeDown : Nat → StackId → StackId → Checked Unit
  | 0, _, _ => throw (.outOfMemory "stack table")
  | fuel + 1, one, two => do
    let same ← sameGroup one two
    unless same do
      let a ← slotAt one
      let b ← slotAt two
      unless a.types = b.types do
        addSubset pass a.types b.types
        addSubset pass b.types a.types
      unite one two
      match a.inner, b.inner with
      | some i, some j => mergeDown fuel i j
      | _, _ => pure ()

def mergeStacks (one two : StackId) : Checked Unit := do
  mergeDown pass ((← get).stack.size + 1) one two

def setInnerStack (node inner : StackId) : Checked Unit := do
  let slot ← slotAt node
  match slot.inner with
  | some other => mergeStacks pass other inner
  | none => changeSlot node { slot with inner := some inner }

def setSlotFlags (node : StackId) (flags : SlotFlags) : Checked Unit := do
  let slot ← slotAt node
  changeSlot node (slot.mark flags)

end Actions

/-! ## Variables and pushed values -/

variable {c : Compartment}

theorem later_aside {c' : Compartment} (h : c.Aside c') (hdepth : c'.worklist.depth = c.worklist.depth) :
    c.Later c' :=
  ⟨h.grows.extent, hdepth⟩

/-- A change that leaves the tables alone is made. -/
theorem Tracks.aside {g : Compartment → Compartment} (hc : c.Intact) (haside : c.Aside (g c))
    (hdepth : (g c).worklist.depth = c.worklist.depth) :
    Tracks c (fun _ c' => c' = g c) ((modify g : Checked Unit) c) ((modify g : Action Unit) c) :=
  .change (.modify g) (later_aside haside hdepth) (hc.aside haside) rfl

/-- A set of a script is made on first access. -/
theorem tracks_scriptTypes (hc : c.Intact) (id : ScriptId) {f : SetId → ScriptTypes → ScriptTypes}
    (hf : ∀ e s types, ScriptTypes.Valid e s → types.In e → (f types s).Valid e) :
    Tracks c (fun s c' => s.In c'.extent)
      ((do
        let types ← lift Compartment.newSet
        modify (·.changeScript id (f types))
        return types : Checked SetId) c)
      ((do
        let types ← Compartment.newSet
        modify (·.changeScript id (f types))
        return types : Action SetId) c) := by
  refine .bind (tracks_newSet hc) fun types c₁ hc₁ hlater₁ htypes => ?_
  have haside := Compartment.aside_changeScript hc₁.toValid id (f := f types)
    fun s hs => hf _ s types hs htypes
  refine .bind (Tracks.aside hc₁ haside rfl) ?_
  rintro _ c₂ hc₂ hlater₂ -
  exact .pure hc₂ (htypes.mono hlater₂.extent)

theorem tracks_variableTypes (hc : c.Intact) (script : ScriptId) (name : String) :
    Tracks c (fun s c' => s.In c'.extent) (variableTypes script name c)
      (Compartment.variableTypes script name c) := by
  refine .step .get (.get ?_)
  cases hfound : (ScriptTable.get? c.scripts script).bind (·.typesOf? name) with
  | some types =>
    obtain ⟨s, hs, htypes⟩ := Option.bind_eq_some_iff.mp hfound
    obtain ⟨i, hi, rfl⟩ := Compartment.ScriptTable.mem_of_get? hs
    obtain ⟨v, hv, rfl⟩ := Option.map_eq_some_iff.mp htypes
    exact .pure hc ((hc.scripts i hi).named v (List.mem_of_find?_eq_some hv))
  | none =>
    refine tracks_scriptTypes hc script (f := fun types s => s.addVariable name types) ?_
    intro e s types hs htypes
    refine ⟨fun v hv => ?_, hs.pushed⟩
    obtain hv | hv := List.mem_append.mp hv
    · exact hs.named v hv
    · rw [List.mem_singleton.mp hv]
      exact htypes

theorem tracks_pushedTypes (hc : c.Intact) (code : Location) (index : Nat) :
    Tracks c (fun s c' => s.In c'.extent) (pushedTypes code index c)
      (Compartment.pushedTypes code index c) := by
  refine .step .get (.get ?_)
  cases hfound : (ScriptTable.get? c.scripts code.script).bind (·.pushed? code.offset index) with
  | some types =>
    obtain ⟨s, hs, htypes⟩ := Option.bind_eq_some_iff.mp hfound
    obtain ⟨i, hi, rfl⟩ := Compartment.ScriptTable.mem_of_get? hs
    obtain ⟨p, hp, rfl⟩ := Option.map_eq_some_iff.mp htypes
    exact .pure hc ((hc.scripts i hi).pushed p (List.mem_of_find?_eq_some hp))
  | none =>
    refine tracks_scriptTypes hc code.script
      (f := fun types s => s.addPushed ⟨code.offset, index, types⟩) ?_
    intro e s types hs htypes
    refine ⟨hs.named, fun p hp => ?_⟩
    obtain rfl | hp := Compartment.mem_insertPushed hp
    · exact htypes
    · exact hs.pushed p hp

/-! ## Types seen at run time -/

section Passes

variable {pass' : Checked Unit} {pass : Action Unit} (hpass : Parallel pass' pass)
include hpass

/-- A type that was seen is written down and added. -/
theorem tracks_seen (hc : c.Intact) (e : Event) {target : SetId} (htarget : target.In c.extent)
    {t : Ty} (ht : t.In c.extent) :
    Tracks c (fun _ _ => True)
      ((do modify (·.record e); addType pass' target t : Checked Unit) c)
      ((do modify (·.record e); Compartment.addType pass target t : Action Unit) c) :=
  .step (.modify _) (.modifies (.after (Compartment.later_record e)
    (tracks_addType hpass (hc.record e) htarget ht)))

theorem tracks_observeType (hc : c.Intact) {target : SetId} (htarget : target.In c.extent) {t : Ty}
    (ht : t.In c.extent) :
    Tracks c (fun _ _ => True) (observeType pass' target t c)
      (Compartment.observeType pass target t c) := by
  refine .step (reads_setAt htarget) (.get (.ite (fun _ => .pure hc trivial) fun _ => ?_))
  exact .step (reads_typeName ht).discard (tracks_seen hpass hc _ htarget ht)

theorem tracks_observePush (hc : c.Intact) (code : Location) (index : Nat) {t : Ty}
    (ht : t.In c.extent) :
    Tracks c (fun _ _ => True) (observePush pass' code index t c)
      (Compartment.observePush pass code index t c) := by
  refine .bind (tracks_pushedTypes hc code index) fun target c₁ hc₁ hlater₁ htarget => ?_
  have ht₁ := ht.mono hlater₁.extent
  refine .step (reads_setAt htarget) (.get (.ite (fun _ => .pure hc₁ trivial) fun _ => ?_))
  refine .step (reads_typeName ht₁).discard (.step (.modify _) (.modifies ?_))
  let e := Event.pushObserved code index t
  refine .after (Compartment.later_record e)
    (.bind (tracks_addType hpass (hc₁.record e) htarget ht₁) fun _ c₂ hc₂ _ _ => ?_)
  have haside : c₂.Aside (c₂.queueRecompile code.script (.pushed code)) :=
    Compartment.aside_queueRecompile nofun
  exact (Tracks.aside hc₂ haside rfl).imp fun _ _ _ _ _ => trivial

theorem tracks_observeAssignment (hc : c.Intact) {id : ObjectId} (hid : id.In c.extent) (key : Key)
    {value : Value} (hvalue : ∀ t ∈ value.type?, t.In c.extent) :
    Tracks c (fun _ _ => True) (observeAssignment pass' id key value c)
      (Compartment.observeAssignment pass id key value c) := by
  refine .ite (fun _ => tracks_markUnknown hpass hc hid) fun _ => ?_
  refine .step (reads_objectAt hid) (.get (.ite (fun _ => .pure hc trivial) fun _ => ?_))
  cases htype : value.type? with
  | none => exact .pure hc trivial
  | some t =>
    refine .bind (tracks_getProperty hpass hc hid key true) fun own c₁ hc₁ hlater₁ hown => ?_
    have ht := (hvalue t htype).mono hlater₁.extent
    refine .step (reads_setAt hown) (.get (.ite (fun _ => .pure hc₁ trivial) fun _ => ?_))
    refine .step (reads_objectName (hid.mono hlater₁.extent)).discard ?_
    exact .step (reads_typeName ht).discard (tracks_seen hpass hc₁ _ hown ht)

/-! ## Answers that compiled code relies on -/

theorem tracks_freeze (hc : c.Intact) {source : SetId} (hsource : source.In c.extent)
    {k : Constraint} (hk : k.isFreeze = true) :
    Tracks c (fun _ _ => True) ((discard (addConstraint pass' source k false) : Checked Unit) c)
      ((discard (Compartment.addConstraint pass source k false) : Action Unit) c) := by
  refine tracks_listen hpass hc hsource ?_ false
  cases k <;> trivial

theorem tracks_knownTag (hc : c.Intact) {id : SetId} (hid : id.In c.extent)
    (script : Option ScriptId) :
    Tracks c (fun _ _ => True) (knownTag pass' id script c) (Compartment.knownTag pass id script c) := by
  refine .step (reads_setAt hid) (.get ?_)
  cases script with
  | none => exact .pure hc trivial
  | some script =>
    cases htag : (c.set id).tag? with
    | none => exact .pure hc trivial
    | some tag =>
      exact .bind (tracks_freeze hpass hc hid (k := .freezeTag script tag false) rfl)
        fun _ _ hc₁ _ _ => .pure hc₁ trivial

theorem tracks_knownKind (hc : c.Intact) {id : SetId} (hid : id.In c.extent)
    (script : Option ScriptId) :
    Tracks c (fun _ _ => True) (knownKind pass' id script c)
      (Compartment.knownKind pass id script c) := by
  refine .step (reads_setKind hc hid) (.get ?_)
  cases script with
  | none => exact .pure hc trivial
  | some script =>
    refine .ite (fun _ => .pure hc trivial) fun _ => ?_
    refine .bind (tracks_freeze hpass hc hid (k := .freezeKind script _ false) rfl)
      fun _ c₁ hc₁ hlater₁ _ => ?_
    refine .step (reads_setAt (hid.mono hlater₁.extent)) (.get (.bind (.forM hc₁ ?_) ?_))
    · intro o ho c₂ hc₂ hlater₂
      have ho := (Compartment.in_of_mem_objectTypes hc₁.toValid ho).mono hlater₂.extent
      refine .bind (tracks_getProperty hpass hc₂ ho .index false) fun elements c₃ hc₃ _ hs => ?_
      exact tracks_freeze hpass hc₃ hs rfl
    · exact fun _ _ hc₂ _ _ => .pure hc₂ trivial

theorem tracks_knownNonEmpty (hc : c.Intact) {id : SetId} (hid : id.In c.extent)
    (script : Option ScriptId) :
    Tracks c (fun _ _ => True) (knownNonEmpty pass' id script c)
      (Compartment.knownNonEmpty pass id script c) := by
  refine .step (reads_setAt hid) (.get (.ite (fun _ => ?_) fun _ => .pure hc trivial))
  cases script with
  | none => exact .pure hc trivial
  | some script =>
    exact .bind (tracks_freeze hpass hc hid (k := .freezeEmpty script false) rfl)
      fun _ _ hc₁ _ _ => .pure hc₁ trivial

end Passes

/-! ## Sites -/

theorem tracks_newCallSite (hc : c.Intact) {s : CallSite} (hs : s.Valid c.extent) :
    Tracks c (fun id c' => id.In c'.extent) (lift (Compartment.newCallSite s) c)
      (Compartment.newCallSite s c) := by
  have hsize : (c.sites.push s).size = c.sites.size + 1 := Array.size_push _
  refine .lift ⟨(Compartment.grows_pushSite (c := c) s).extent, rfl⟩
    (hc.of_objects (hc.toValid.pushSite hs) rfl) ?_
  rintro _ ⟨⟩
  show c.sites.size < (c.sites.push s).size
  omega

/-- A site that has no set of its own gets a new one. -/
theorem tracks_ownTypes (hc : c.Intact) {id : SiteId} (hid : id.In c.extent)
    {f : SetId → CallSite → CallSite}
    (hf : ∀ e s types, CallSite.Valid e s → types.In e → (f types s).Valid e) :
    Tracks c (fun s c' => s.In c'.extent)
      ((do
        let types ← lift Compartment.newSet
        changeSite id (f types)
        return types : Checked SetId) c)
      ((do
        let types ← Compartment.newSet
        modify (·.changeSite id (f types))
        return types : Action SetId) c) := by
  refine .bind (tracks_newSet hc) fun types c₁ hc₁ hlater₁ htypes => ?_
  have hid₁ := hid.mono hlater₁.extent
  have hlater₂ := Compartment.later_changeSite (c := c₁) id (f types)
  have hc₂ : (c₁.changeSite id (f types)).Intact :=
    hc₁.of_objects (hc₁.toValid.changeSite hid₁ (hf _ _ types (hc₁.sites id) htypes)) rfl
  exact .step (gives_changeSite hid₁ _) (.modifies (.after hlater₂
    (.pure hc₂ (htypes.mono hlater₂.extent))))

theorem tracks_forceThisTypes (hc : c.Intact) {id : SiteId} (hid : id.In c.extent) :
    Tracks c (fun s c' => s.In c'.extent) (forceThisTypes id c)
      (Compartment.forceThisTypes id c) := by
  refine .step (reads_siteAt hid) (.get ?_)
  cases htypes : (c.site id).thisTypes with
  | some types => exact .pure hc ((hc.sites id).thisTypes types htypes)
  | none =>
    refine tracks_ownTypes hc hid (f := fun types s => { s with thisTypes := some types }) ?_
    exact fun e s types hs htypes =>
      ⟨hs.arguments, fun _ ht => Option.some.inj ht ▸ htypes, hs.thisType, hs.result⟩

theorem tracks_forceResult (hc : c.Intact) {id : SiteId} (hid : id.In c.extent) :
    Tracks c (fun s c' => s.In c'.extent) (forceResult id c) (Compartment.forceResult id c) := by
  refine .step (reads_siteAt hid) (.get ?_)
  cases htypes : (c.site id).result with
  | some types => exact .pure hc ((hc.sites id).result types htypes)
  | none =>
    refine tracks_ownTypes hc hid (f := fun types s => { s with result := some types }) ?_
    exact fun e s types hs htypes =>
      ⟨hs.arguments, hs.thisTypes, hs.thisType, fun _ ht => Option.some.inj ht ▸ htypes⟩

/-! ## Stack slots -/

theorem reads_sameGroup {one two : StackId} (hone : one.In c.extent) (htwo : two.In c.extent) :
    Reads (sameGroup one two) c (c.stack.same one two) :=
  (reads_representativeAt hone).bind ((reads_representativeAt htwo).bind (.pure _))

theorem tracks_newStackNode (hc : c.Intact) {inner : Option StackId}
    (hinner : ∀ n ∈ inner, n.In c.extent) :
    Tracks c (fun node c' => node.In c'.extent) (newStackNode inner c)
      (Compartment.newStackNode inner c) := by
  refine .bind (tracks_newSet hc) fun types c₁ hc₁ hlater₁ htypes => ?_
  have hs : Slot.Valid c₁.extent { types, inner } :=
    ⟨htypes, fun n hn => (hinner n hn).mono hlater₁.extent⟩
  refine .step .get (.get (.bind (Tracks.aside hc₁ (Compartment.aside_push hs) rfl) ?_))
  rintro _ c₂ hc₂ - rfl
  refine .pure hc₂ ?_
  show c₁.stack.size < (c₁.stack.push _).size
  rw [show (c₁.stack.push { types, inner }).size = c₁.stack.size + 1 from Array.size_push _]
  omega

theorem tracks_unite (hc : c.Intact) {one two : StackId} (hone : one.In c.extent)
    (htwo : two.In c.extent) :
    Tracks c (fun _ _ => True) (unite one two c)
      ((modify (·.changeStacks (·.merge one two)) : Action Unit) c) := by
  refine .step (reads_slotAt hc.toValid hone).discard
    (.step (reads_slotAt hc.toValid htwo).discard ?_)
  exact (Tracks.aside hc (Compartment.aside_merge hc.toValid hone htwo) rfl).imp
    fun _ _ _ _ _ => trivial

theorem tracks_changeSlot (hc : c.Intact) {node : StackId} (hnode : node.In c.extent) {s : Slot}
    (hs : s.Valid c.extent) :
    Tracks c (fun _ _ => True) (changeSlot node s c)
      ((modify (·.changeStacks (·.update node s)) : Action Unit) c) := by
  refine .step (reads_slotAt hc.toValid hnode).discard ?_
  exact (Tracks.aside hc (Compartment.aside_update hs) rfl).imp fun _ _ _ _ _ => trivial

section Passes

variable {pass' : Checked Unit} {pass : Action Unit} (hpass : Parallel pass' pass)
include hpass

theorem tracks_mergeDown (hc : c.Intact) (fuel : Nat) {one two : StackId} (hone : one.In c.extent)
    (htwo : two.In c.extent) :
    Tracks c (fun _ _ => True) (mergeDown pass' fuel one two c)
      (Compartment.mergeDown pass fuel one two c) := by
  induction fuel generalizing c one two with
  | zero => exact .throw hc
  | succ fuel ih =>
    have ha := Compartment.valid_slot hc.toValid hone
    have hb := Compartment.valid_slot hc.toValid htwo
    refine .step (reads_sameGroup hone htwo) (.get (.ite (fun _ => .pure hc trivial) fun _ => ?_))
    refine .step (reads_slotAt hc.toValid hone) (.step (reads_slotAt hc.toValid htwo) ?_)
    -- The slots below the two are merged after them.
    have hbelow : ∀ c₁ : Compartment, c₁.Intact → c.Later c₁ → Tracks c₁ (fun _ _ => True)
        ((do
          unite one two
          match (c.stack.slot one).inner, (c.stack.slot two).inner with
          | some i, some j => mergeDown pass' fuel i j
          | _, _ => pure () : Checked Unit) c₁)
        ((do
          modify (·.changeStacks (·.merge one two))
          match (c.stack.slot one).inner, (c.stack.slot two).inner with
          | some i, some j => Compartment.mergeDown pass fuel i j
          | _, _ => pure () : Action Unit) c₁) := by
      intro c₁ hc₁ hlater₁
      refine .bind (tracks_unite hc₁ (hone.mono hlater₁.extent) (htwo.mono hlater₁.extent))
        fun _ c₂ hc₂ hlater₂ _ => ?_
      have hwithin := (hlater₁.trans hlater₂).extent
      cases hi : (c.stack.slot one).inner with
      | none => exact .pure hc₂ trivial
      | some i =>
        cases hj : (c.stack.slot two).inner with
        | none => exact .pure hc₂ trivial
        | some j => exact ih hc₂ ((ha.inner i hi).mono hwithin) ((hb.inner j hj).mono hwithin)
    refine .ite (fun _ => hbelow c hc (.refl c)) fun _ => ?_
    refine .bind (tracks_addSubset hpass hc ha.types hb.types) fun _ c₁ hc₁ hlater₁ _ => ?_
    refine .bind (tracks_addSubset hpass hc₁ (hb.types.mono hlater₁.extent)
      (ha.types.mono hlater₁.extent)) fun _ c₂ hc₂ hlater₂ _ => ?_
    exact hbelow c₂ hc₂ (hlater₁.trans hlater₂)

theorem tracks_mergeStacks (hc : c.Intact) {one two : StackId} (hone : one.In c.extent)
    (htwo : two.In c.extent) :
    Tracks c (fun _ _ => True) (mergeStacks pass' one two c)
      (Compartment.mergeStacks pass one two c) :=
  .step .get (.get (tracks_mergeDown hpass hc _ hone htwo))

theorem tracks_setInnerStack (hc : c.Intact) {node inner : StackId} (hnode : node.In c.extent)
    (hinner : inner.In c.extent) :
    Tracks c (fun _ _ => True) (setInnerStack pass' node inner c)
      (Compartment.setInnerStack pass node inner c) := by
  have hslot := Compartment.valid_slot hc.toValid hnode
  refine .step (reads_slotAt hc.toValid hnode) (.get ?_)
  cases hother : (c.stack.slot node).inner with
  | some other => exact tracks_mergeStacks hpass hc (hslot.inner other hother) hinner
  | none =>
    refine tracks_changeSlot hc hnode ⟨hslot.types, ?_⟩
    rintro _ ⟨⟩
    exact hinner

end Passes

theorem tracks_setSlotFlags (hc : c.Intact) {node : StackId} (hnode : node.In c.extent)
    (flags : SlotFlags) :
    Tracks c (fun _ _ => True) (setSlotFlags node flags c)
      ((modify (·.setSlotFlags node flags) : Action Unit) c) := by
  have hslot := Compartment.valid_slot hc.toValid hnode
  refine .step (reads_slotAt hc.toValid hnode) ?_
  exact tracks_changeSlot hc hnode (s := (c.stack.slot node).mark flags) ⟨hslot.types, hslot.inner⟩

end Checked

end FlowTypes
