import FlowTypes.Proofs.Actions.Reaction
import FlowTypes.Proofs.Checked.Requests

/-!
# Reactions of constraints, checked

What a constraint does when it hears of a type.  Everything that it goes by, the sets that it carries
types between, the site that it calls at, and the function that is called, was written down earlier.

## Main results

* `tracks_react`: a constraint whose handles exist has no fault, whatever type it hears of.
* `tracks_fire`: so a type that is taken off the worklist is delivered without one.
-/

namespace FlowTypes

namespace Checked

/-! ## Actions -/

def readFrom (object : ObjectId) (key : Key) (target : SetId) : Checked Unit := do
  let types ← getProperty idle object key false
  addSubset idle types target

def writeTo (object : ObjectId) (key : Key) (values : SetId) : Checked Unit := do
  let o ← objectAt object
  unless o.isUnknown do
    let own ← getProperty idle object key true
    addSubset idle values own

def monitorUnknown (code : Option Location) : Checked Unit :=
  match code with
  | some code => modify (·.monitor code)
  | none => pure ()

def accessProperty (code : Option Location) (key : Key) (target : SetId) :
    Access → Ty → Checked Unit
  | .read, .unknown => addType idle target .unknown
  | .write, .unknown => monitorUnknown code
  | .read, .object o => readFrom o key target
  | .write, .object o => writeTo o key target
  | .read, t =>
    match Compartment.wrapper? t with
    | some b => do readFrom (← builtin idle b) key target
    | none => pure ()
  | .write, _ => pure ()

def accessElement (id : ConstraintId) (code : Option Location) (objects target : SetId)
    (access : Access) (wired : Bool) (t : Ty) : Checked Unit := do
  if Compartment.isIndexType t then
    unless wired do
      changeConstraint id Constraint.wire
      match access with
      | .read => readProperty idle objects code target .index
      | .write => writeProperty idle objects code target .index
  else match access with
    | .read => addType idle target .unknown
    | .write => monitorUnknown code

def bindArguments (site : CallSite) (f : FunctionInfo) : Checked Unit :=
  if f.script.isSome then do
    (site.arguments.zip f.parameters).forM fun (argument, parameter) =>
      addSubset idle argument parameter
    (f.parameters.drop site.arguments.length).forM fun parameter =>
      addType idle parameter .undefined
  else if f.isGeneric then
    site.arguments.head?.forM fun first => addSubset idle first f.thisTypes
  else pure ()

def construct (callee : ObjectId) (site : CallSite) (f : FunctionInfo) : Checked Unit := do
  let proto ← prototypeObjectOf idle callee
  let new ← newObjectOf idle proto
  addType idle f.thisTypes (.object new)
  site.result.forM fun result => do
    addType idle result (.object new)
    addFilter idle f.returns result .primitives

def passThrough (site : CallSite) (f : FunctionInfo) : Checked Unit := do
  site.thisTypes.forM fun types => addSubset idle types f.thisTypes
  site.thisType.forM fun t => addType idle f.thisTypes t
  site.result.forM fun result => addSubset idle f.returns result

section Host

variable (host : Host)

def callFunction (callee : ObjectId) (f : FunctionInfo) (site : CallSite) : Checked Unit := do
  modify (·.record (.called site (.function callee f)))
  f.handler.forM fun name => runHandler (host name site)
  bindArguments site f
  if site.isNew then construct callee site f
  else passThrough site f

def call (site : CallSite) : Ty → Checked Unit
  | .unknown => do
    modify (·.record (.called site .unknown))
    site.result.forM fun result => addType idle result .unknown
  | .object callee => do
    let o ← objectAt callee
    match o.function with
    | some f => callFunction host callee f site
    | none => pure ()
  | _ => pure ()

def boxedThis (target : SetId) (t : Ty) : Checked Unit :=
  match t with
  | .undefined | .null => addType idle target (.object Compartment.global)
  | t =>
    match Compartment.wrapper? t with
    | some b => do addType idle target (.object (← builtin idle b))
    | none => addType idle target t

def forwardRead (code : Location) (target : SetId) (t : Ty) : Checked Unit := do
  match t, (← get).builtin? .getSet with
  | .object o, some getter =>
    if o = getter then modify (·.monitor code) else addType idle target t
  | t, _ => addType idle target t

def refinedKind (kind : Kind) : Ty → Checked Kind
  | .object o => return kind.combine (← objectKind o)
  | .unknown => return .unknown
  | _ => return kind

def react (w : Work) : Constraint → Checked Unit
  | .subset target => addType idle target w.type
  | .property code key target access => accessProperty code key target access w.type
  | .element code objects target access wired =>
    accessElement w.constraint code objects target access wired w.type
  | .call site => do call host (← siteAt site) w.type
  | .arith op target other => do
    let other ← other.mapM setAt
    (Arith.results op w.type other).forM fun t => addType idle target t
  | .boxThis target => boxedThis target w.type
  | .filter target mode =>
    if mode.passes w.type then addType idle target w.type else pure ()
  | .monitorRead code target => forwardRead code target w.type
  | .freezeTag script tag spent => do
    let s ← setAt w.source
    unless spent || s.tag? = some tag do spend w.constraint script
  | .freezeKind script kind spent => do
    let refined ← refinedKind kind w.type
    unless spent || refined = kind do spend w.constraint script
  | .freezeEmpty script spent => do
    unless spent do spend w.constraint script
  | .freezeElementKind .. => pure ()

def fire (w : Work) : Checked Unit := do
  modify (·.record (.fired w))
  let constraint ← constraintAt w.constraint
  react host w constraint

end Host

/-! ## Properties and elements -/

variable {c : Compartment} (hc : c.Intact)
include hc

theorem tracks_readFrom {o : ObjectId} (ho : o.In c.extent) (key : Key) {target : SetId}
    (htarget : target.In c.extent) :
    Tracks c (fun _ _ => True) (readFrom o key target c) (Compartment.readFrom o key target c) :=
  .bind (tracks_getProperty parallel_idle hc ho key false) fun _ _ hc₁ hlater₁ htypes =>
    tracks_addSubset parallel_idle hc₁ htypes (htarget.mono hlater₁.extent)

theorem tracks_writeTo {o : ObjectId} (ho : o.In c.extent) (key : Key) {values : SetId}
    (hvalues : values.In c.extent) :
    Tracks c (fun _ _ => True) (writeTo o key values c) (Compartment.writeTo o key values c) := by
  refine .step (reads_objectAt ho) (.get (.ite (fun _ => .pure hc trivial) fun _ => ?_))
  exact .bind (tracks_getProperty parallel_idle hc ho key true) fun _ _ hc₁ hlater₁ hown =>
    tracks_addSubset parallel_idle hc₁ (hvalues.mono hlater₁.extent) hown

theorem tracks_monitorUnknown (code : Option Location) :
    Tracks c (fun _ _ => True) (monitorUnknown code c) (Compartment.monitorUnknown code c) := by
  cases code with
  | none => exact .pure hc trivial
  | some code => exact tracks_monitor hc code

theorem tracks_addUnknown {target : SetId} (htarget : target.In c.extent) :
    Tracks c (fun _ _ => True) (addType idle target .unknown c)
      (Compartment.addType Compartment.idle target .unknown c) :=
  tracks_addType parallel_idle hc htarget (Ty.in_of_object?_eq_none rfl _)

/-- What goes through the wrapper object of a primitive value. -/
theorem tracks_wrapped {g : ObjectId → Checked Unit} {f : ObjectId → Action Unit} (b : Builtin)
    (hf : ∀ (id : ObjectId) (c' : Compartment), c'.Intact → c.Later c' → id.In c'.extent →
      Tracks c' (fun _ _ => True) (g id c') (f id c')) :
    Tracks c (fun _ _ => True) ((do g (← builtin idle b) : Checked Unit) c)
      ((do f (← Compartment.builtin Compartment.idle b) : Action Unit) c) :=
  .bind (tracks_builtin parallel_idle hc b) fun id c' hc' hlater hid => hf id c' hc' hlater hid

theorem tracks_accessProperty (code : Option Location) (key : Key) {target : SetId}
    (htarget : target.In c.extent) (access : Access) {t : Ty} (ht : t.In c.extent) :
    Tracks c (fun _ _ => True) (accessProperty code key target access t c)
      (Compartment.accessProperty code key target access t c) := by
  have hwrapped : ∀ b, Tracks c (fun _ _ => True)
      ((do readFrom (← builtin idle b) key target : Checked Unit) c)
      ((do Compartment.readFrom (← Compartment.builtin Compartment.idle b) key target :
        Action Unit) c) := fun b => tracks_wrapped hc b fun id c' hc' hlater hid =>
    tracks_readFrom hc' hid key (htarget.mono hlater.extent)
  cases access with
  | read =>
    cases t with
    | unknown => exact tracks_addUnknown hc htarget
    | object o => exact tracks_readFrom hc (ht o rfl) key htarget
    | undefined | null => exact .pure hc trivial
    | boolean | int32 | double | string => exact hwrapped _
  | write =>
    cases t with
    | unknown => exact tracks_monitorUnknown hc code
    | object o => exact tracks_writeTo hc (ht o rfl) key htarget
    | undefined | null | boolean | int32 | double | string => exact .pure hc trivial

theorem tracks_accessElement {id : ConstraintId} (hid : id.In c.extent) (code : Option Location)
    {objects target : SetId} (hobjects : objects.In c.extent) (htarget : target.In c.extent)
    (access : Access) (wired : Bool) (t : Ty) :
    Tracks c (fun _ _ => True) (accessElement id code objects target access wired t c)
      (Compartment.accessElement id code objects target access wired t c) := by
  refine .ite (fun _ => .ite (fun _ => .pure hc trivial) fun _ => ?_) fun _ => ?_
  · have hextent := Compartment.extent_changeConstraint (c := c) id Constraint.wire
    have hlater : c.Later (c.changeConstraint id Constraint.wire) := .of_extent hextent rfl
    have hwired : (c.changeConstraint id Constraint.wire).Intact :=
      hc.of_objects (hc.toValid.changeConstraint hid (hc.constraints id).wire) rfl
    have hobjects' := hobjects.mono hlater.extent
    refine .step (gives_changeConstraint hid _) (.modifies (.after hlater ?_))
    cases access with
    | read =>
      exact tracks_listen parallel_idle hwired hobjects' (k := .property code .index target .read)
        (htarget.mono hlater.extent) true
    | write =>
      exact tracks_listen parallel_idle hwired hobjects' (k := .property code .index target .write)
        (htarget.mono hlater.extent) true
  · cases access with
    | read => exact tracks_addUnknown hc htarget
    | write => exact tracks_monitorUnknown hc code

/-! ## Calls -/

theorem tracks_bindArguments {site : CallSite} (hsite : site.Valid c.extent) {f : FunctionInfo}
    (hf : f.Valid c.extent) :
    Tracks c (fun _ _ => True) (bindArguments site f c) (Compartment.bindArguments site f c) := by
  refine .ite (fun _ => ?_) fun _ => .ite (fun _ => ?_) fun _ => .pure hc trivial
  · refine .bind (.forM hc ?_) fun _ c₁ hc₁ hlater₁ _ => .forM hc₁ ?_
    · rintro ⟨argument, parameter⟩ hpair c₁ hc₁ hlater₁
      obtain ⟨hargument, hparameter⟩ := List.of_mem_zip hpair
      exact tracks_addSubset parallel_idle hc₁ ((hsite.arguments _ hargument).mono hlater₁.extent)
        ((hf.parameters _ hparameter).mono hlater₁.extent)
    · intro parameter hparameter c₂ hc₂ hlater₂
      have hparameter := hf.parameters _ (List.mem_of_mem_drop hparameter)
      exact tracks_addType parallel_idle hc₂ (hparameter.mono (hlater₁.trans hlater₂).extent)
        (Ty.in_of_object?_eq_none rfl _)
  · refine .forOption hc fun first hfirst => ?_
    exact tracks_addSubset parallel_idle hc (hsite.arguments _ (List.mem_of_head? hfirst)) hf.thisTypes

theorem tracks_construct {callee : ObjectId} (hcallee : callee.In c.extent) {site : CallSite}
    (hsite : site.Valid c.extent) {f : FunctionInfo} (hf : f.Valid c.extent) :
    Tracks c (fun _ _ => True) (construct callee site f c)
      (Compartment.construct callee site f c) := by
  refine .bind (tracks_prototypeObjectOf parallel_idle hc hcallee) fun proto c₁ hc₁ hlater₁ hproto => ?_
  refine .bind (tracks_newObjectOf parallel_idle hc₁ hproto) fun new c₂ hc₂ hlater₂ hnew => ?_
  have hnew' : Ty.In (.object new) c₂.extent := fun o ho => Ty.object.inj ho ▸ hnew
  have hlater := hlater₁.trans hlater₂
  refine .bind (tracks_addType parallel_idle hc₂ (hf.thisTypes.mono hlater.extent) hnew')
    fun _ c₃ hc₃ hlater₃ _ => .forOption hc₃ fun result hresult => ?_
  have hresult := (hsite.result result hresult).mono (hlater.trans hlater₃).extent
  refine .bind (tracks_addType parallel_idle hc₃ hresult (hnew'.mono hlater₃.extent))
    fun _ c₄ hc₄ hlater₄ _ => ?_
  exact tracks_listen parallel_idle hc₄ (hf.returns.mono ((hlater.trans hlater₃).trans hlater₄).extent)
    (k := .filter result .primitives) (hresult.mono hlater₄.extent) true

theorem tracks_passThrough {site : CallSite} (hsite : site.Valid c.extent) {f : FunctionInfo}
    (hf : f.Valid c.extent) :
    Tracks c (fun _ _ => True) (passThrough site f c) (Compartment.passThrough site f c) := by
  refine .bind (.forOption hc fun types htypes =>
    tracks_addSubset parallel_idle hc (hsite.thisTypes types htypes) hf.thisTypes)
      fun _ c₁ hc₁ hlater₁ _ => ?_
  refine .bind (.forOption hc₁ fun t ht => tracks_addType parallel_idle hc₁
    (hf.thisTypes.mono hlater₁.extent) ((hsite.thisType t ht).mono hlater₁.extent))
      fun _ c₂ hc₂ hlater₂ _ => ?_
  have hwithin := (hlater₁.trans hlater₂).extent
  exact .forOption hc₂ fun result hresult => tracks_addSubset parallel_idle hc₂
    (hf.returns.mono hwithin) ((hsite.result result hresult).mono hwithin)

theorem tracks_callFunction (host : Host) {callee : ObjectId} (hcallee : callee.In c.extent)
    {site : CallSite} (hsite : site.Valid c.extent) {f : FunctionInfo} (hf : f.Valid c.extent) :
    Tracks c (fun _ _ => True) (callFunction host callee f site c)
      (Compartment.callFunction host callee f site c) := by
  let e := Event.called site (.function callee f)
  refine .step (.modify _) (.modifies (.after (Compartment.later_record e) ?_))
  have hrecorded : (c.record e).Intact := hc.record e
  refine .bind (.forOption hrecorded fun name _ => tracks_runHandler (host name site) hrecorded)
    fun _ c₁ hc₁ hlater₁ _ => ?_
  have hsite₁ : site.Valid c₁.extent := hsite.mono hlater₁.extent
  refine .bind (tracks_bindArguments hc₁ hsite₁ (hf.mono hlater₁.extent)) fun _ c₂ hc₂ hlater₂ _ => ?_
  have hwithin : c.extent.Within c₂.extent := (hlater₁.trans hlater₂).extent
  refine .ite (fun _ => ?_) fun _ => ?_
  · exact tracks_construct hc₂ (hcallee.mono hwithin) (hsite.mono hwithin) (hf.mono hwithin)
  · exact tracks_passThrough hc₂ (hsite.mono hwithin) (hf.mono hwithin)

theorem tracks_call (host : Host) {site : CallSite} (hsite : site.Valid c.extent) {t : Ty}
    (ht : t.In c.extent) :
    Tracks c (fun _ _ => True) (call host site t c) (Compartment.call host site t c) := by
  cases t with
  | unknown =>
    let e := Event.called site .unknown
    refine .step (.modify _) (.modifies (.after (Compartment.later_record e) ?_))
    have hrecorded : (c.record e).Intact := hc.record e
    exact .forOption hrecorded fun result hresult =>
      tracks_addUnknown hrecorded (hsite.result result hresult)
  | object callee =>
    refine .step (reads_objectAt (ht callee rfl)) (.get ?_)
    cases hf : (c.object callee).function with
    | none => exact .pure hc trivial
    | some f =>
      exact tracks_callFunction hc host (ht callee rfl) hsite ((hc.objects callee).function f hf)
  | undefined | null | boolean | int32 | double | string => exact .pure hc trivial

/-! ## The other constraints -/

theorem tracks_boxedThis {target : SetId} (htarget : target.In c.extent) {t : Ty}
    (ht : t.In c.extent) :
    Tracks c (fun _ _ => True) (boxedThis target t c) (Compartment.boxedThis target t c) := by
  have hglobal : Ty.In (.object Compartment.global) c.extent :=
    fun o ho => Ty.object.inj ho ▸ hc.global
  have hwrapped : ∀ b, Tracks c (fun _ _ => True)
      ((do addType idle target (.object (← builtin idle b)) : Checked Unit) c)
      ((do Compartment.addType Compartment.idle target
            (.object (← Compartment.builtin Compartment.idle b)) : Action Unit) c) := fun b =>
    tracks_wrapped hc b (g := fun id => addType idle target (.object id))
      (f := fun id => Compartment.addType Compartment.idle target (.object id))
      fun id c' hc' hlater hid => tracks_addType parallel_idle hc' (htarget.mono hlater.extent)
        fun o ho => Ty.object.inj ho ▸ hid
  cases t with
  | undefined | null => exact tracks_addType parallel_idle hc htarget hglobal
  | boolean | int32 | double | string => exact hwrapped _
  | unknown | object => exact tracks_addType parallel_idle hc htarget ht

theorem tracks_forwardRead (code : Location) {target : SetId} (htarget : target.In c.extent) {t : Ty}
    (ht : t.In c.extent) :
    Tracks c (fun _ _ => True) (forwardRead code target t c)
      (Compartment.forwardRead code target t c) := by
  have hadd : Tracks c (fun _ _ => True) (addType idle target t c)
      (Compartment.addType Compartment.idle target t c) := tracks_addType parallel_idle hc htarget ht
  refine .step .get (.get ?_)
  cases t with
  | object o =>
    cases c.builtin? .getSet with
    | none => exact hadd
    | some getter => exact .ite (fun _ => tracks_monitor hc code) fun _ => hadd
  | undefined | null | boolean | int32 | double | string | unknown => exact hadd

theorem reads_refinedKind (kind : Kind) {t : Ty} (ht : t.In c.extent) :
    Reads (refinedKind kind t) c (c.refinedKind kind t) := by
  cases t with
  | object o => exact (reads_objectKind hc (ht o rfl)).bind (.pure _)
  | undefined | null | boolean | int32 | double | string | unknown => exact .pure _

/-- A constraint that is told that its answer is no longer true holds one. -/
theorem tracks_spend {id : ConstraintId} (hid : id.In c.extent)
    (hfreeze : (c.constraint id).isFreeze = true) (script : ScriptId) :
    Tracks c (fun _ _ => True) (spend id script c)
      ((modify (·.spend id script) : Action Unit) c) :=
  .change (gives_spend hid hfreeze script) ⟨(Compartment.grows_spend hid script).extent, rfl⟩
    (hc.of_objects (hc.toValid.spend hid script) rfl) trivial

/-- A constraint whose handles exist hears of a type that exists. -/
theorem tracks_react (host : Host) {w : Work} (hw : w.Valid c.extent) {k : Constraint}
    (hk : c.constraint w.constraint = k) :
    Tracks c (fun _ _ => True) (react host w k c) (Compartment.react host w k c) := by
  have hvalid : k.Valid c.extent := hk ▸ hc.constraints w.constraint
  cases k with
  | subset target => exact tracks_addType parallel_idle hc hvalid hw.type
  | property code key target access => exact tracks_accessProperty hc code key hvalid access hw.type
  | element code objects target access wired =>
    exact tracks_accessElement hc hw.constraint code hvalid.1 hvalid.2 access wired w.type
  | call site =>
    exact .step (reads_siteAt hvalid) (.get (tracks_call hc host (hc.sites site) hw.type))
  | arith op target other =>
    have hother : Reads (other.mapM setAt) c (other.map c.set) := by
      cases other with
      | none => exact .pure _
      | some s => exact (reads_setAt (hvalid.2 s rfl)).map some
    refine .step hother (.get (.forM hc fun t ht c₁ hc₁ hlater₁ => ?_))
    exact tracks_addType parallel_idle hc₁ (SetId.In.mono hlater₁.extent hvalid.1)
      (Ty.in_of_object?_eq_none (Compartment.object?_of_mem_results ht) _)
  | boxThis target => exact tracks_boxedThis hc hvalid hw.type
  | filter target mode =>
    exact .ite (fun _ => tracks_addType parallel_idle hc hvalid hw.type) fun _ => .pure hc trivial
  | monitorRead code target => exact tracks_forwardRead hc code hvalid hw.type
  | freezeTag script tag spent =>
    refine .step (reads_setAt hw.source) (.get (.ite (fun _ => .pure hc trivial) fun _ => ?_))
    exact tracks_spend hc hw.constraint (by rw [hk]; rfl) script
  | freezeKind script kind spent =>
    refine .step (reads_refinedKind hc kind hw.type) (.get (.ite (fun _ => .pure hc trivial) fun _ => ?_))
    exact tracks_spend hc hw.constraint (by rw [hk]; rfl) script
  | freezeEmpty script spent =>
    refine .ite (fun _ => .pure hc trivial) fun _ => ?_
    exact tracks_spend hc hw.constraint (by rw [hk]; rfl) script
  | freezeElementKind => exact .pure hc trivial

theorem tracks_fire (host : Host) {w : Work} (hw : w.Valid c.extent) :
    Tracks c (fun _ _ => True) (fire host w c) (Compartment.fire host w c) := by
  refine .step (.modify _) (.modifies (.after (Compartment.later_record (.fired w)) ?_))
  have hrecorded : (c.record (.fired w)).Intact := hc.record _
  exact .step (reads_constraintAt (c := c.record (.fired w)) hw.constraint)
    (.get (tracks_react hrecorded host hw rfl))

end Checked

end FlowTypes
