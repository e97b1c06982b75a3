import FlowTypes.Proofs.Actions.Requests
import FlowTypes.Solver

/-!
# What constraints do when they hear of a type

Within a pass no other pass is started, so the types and the constraints that come up are put on the
worklist and that is all.  What the constraint asks for is there when it is done: the compartment is
settled for the constraint and the type.

A call of a `new` expression ends with a filter on what the callee returns.  The engine registers no
other constraint of its own accord, beside subset edges and the accesses of wired elements; so this
last step is kept apart.

## Main results

* `inner`: the law within a pass; `lawful_inner`.
* `Law.Reacts`: an action that may end with a filter.
* `reacts_react`: every constraint settles what it hears of.
-/

namespace FlowTypes

/-- The constraint carries types on as they are. -/
def Constraint.isCarrier : Constraint → Bool
  | subset _ | filter .. => true
  | _ => false

namespace Compartment

variable {L : Law} {c c' : Compartment} {id : ConstraintId}

/-! ## The law within a pass -/

/-- Within a pass. -/
def inner (scope : Scope) (invariant : scope.Invariant) (tidy : Prop) (fails : InferError → Prop) :
    Law where
  pass := idle
  scope := scope
  invariant := invariant
  failing := scope
  tidy := tidy
  Rest w := w.resolving = true
  Ready w := w.resolving = true
  Fails := fails

/-- A request for a pass within a pass leaves the tables and the pending types alone. -/
theorem aside_passed (c : Compartment) :
    c.Aside ((c.changeWorklist Worklist.enter).changeWorklist Worklist.leave) :=
  .of_eq rfl rfl rfl rfl rfl rfl rfl rfl rfl (fun _ h => h)
    ⟨[], rfl, fun _ h => absurd h List.not_mem_nil⟩ fun h => h

theorem lawful_inner (scope : Scope) (invariant : scope.Invariant) (tidy : Prop)
    (fails : InferError → Prop) : (inner scope invariant tidy fails).Lawful where
  within := Scope.Within.refl scope
  ready _ _ h := h
  requestPass c _ hready := by
    have haside := aside_passed c
    exact outcome_of_ok (requestPass_of_resolving idle hready)
      ⟨.of_calm (.aside haside) haside.calm, hready, trivial⟩

/-! ## Actions that may end with a filter -/

/-- The constraint is a call. -/
def IsCall (c : Compartment) (id : ConstraintId) : Prop :=
  id.In c.extent ∧ ∃ site, c.constraint id = .call site

theorem IsCall.calls (h : c.IsCall id) : c.Calls := ⟨id, h.2.choose, h.1, h.2.choose_spec⟩

/-- A call has a filter put on what its callee returns. -/
def Filtered (id : ConstraintId) (c c' : Compartment) : Prop :=
  c.IsCall id ∧ ∃ source target, source.In c.extent ∧ target.In c.extent ∧
    (c.register source (.filter target .primitives) true).Aside c'

namespace Law

/-- An action obeys the law and may end with a filter, if it is a call. -/
def Reacts (L : Law) (id : ConstraintId) (a : Action Unit) (c : Compartment)
    (Q : Compartment → Prop) : Prop :=
  Outcome a c (fun _ c' => (∃ c₁, L.Good c c₁ ∧ (c' = c₁ ∨ c₁.Filtered id c')) ∧
    L.Rest c'.worklist ∧ Q c')
    fun e c' => Did L.failing c c' ∧ L.Rest c'.worklist ∧ L.Fails e

theorem Moves.reacts {a : Action Unit} {Q : Compartment → Prop} (h : L.Moves a c fun _ => Q) :
    L.Reacts id a c Q := by
  refine Outcome.imp h ?_ fun _ _ h => h
  rintro _ c' ⟨hgood, hrest, hQ⟩
  exact ⟨⟨c', hgood, .inl rfl⟩, hrest, hQ⟩

theorem Reacts.bind (hL : L.scope.Within L.failing) (h : L.At c) {α : Type} {a : Action α}
    {f : α → Action Unit} {P : α → Compartment → Prop} {Q : Compartment → Prop}
    (ha : L.Moves a c P)
    (hf : ∀ x c', L.At c' → L.Good c c' → P x c' → L.Reacts id (f x) c' Q) :
    L.Reacts id (a >>= f) c Q := by
  refine outcome_bind.mpr (Outcome.imp ha ?_ fun _ _ h => h)
  rintro x c' ⟨hgood, hrest, hx⟩
  refine Outcome.imp (hf x c' (hgood.at h hrest) hgood hx) ?_ ?_
  · rintro _ c'' ⟨⟨c₁, hgood₁, hlast⟩, hrest', hQ⟩
    exact ⟨⟨c₁, hgood.trans h.sound hgood₁, hlast⟩, hrest', hQ⟩
  · rintro e c'' ⟨hdid, hrest', he⟩
    exact ⟨(hgood.did.mono hL).trans hdid, hrest', he⟩

theorem Reacts.imp (h : L.At c) {a : Action Unit} {Q Q' : Compartment → Prop}
    (ha : L.Reacts id a c Q) (hQ : ∀ c', c.Grows c' → c'.Sound → Q c' → Q' c') :
    L.Reacts id a c Q' := by
  refine Outcome.imp ha ?_ fun _ _ h => h
  rintro _ c' ⟨⟨c₁, hgood, hlast⟩, hrest, hx⟩
  obtain ⟨hgrows, hsound⟩ : c.Grows c' ∧ c'.Sound := by
    have hsound := hgood.sound h.sound
    obtain rfl | ⟨-, source, target, hsource, htarget, haside⟩ := hlast
    · exact ⟨hgood.grows h.sound, hsound⟩
    · have hregister := hsound.register hsource
        (k := .filter target .primitives) htarget true
      have hchange : Change _ L.scope c' := .aside haside
      exact ⟨((hgood.grows h.sound).trans (grows_register hsource _ true)).trans haside.grows,
        hchange.sound hregister⟩
  exact ⟨⟨c₁, hgood, hlast⟩, hrest, hQ c' hgrows hsound hx⟩

end Law

/-- A constraint without marks stays what it is. -/
theorem constraint_kept (hgrows : c.Grows c') (hid : id.In c.extent) {k : Constraint}
    (hk : c.constraint id = k) (hplain : k.isPlain = true) : c'.constraint id = k := by
  have hbare := (hgrows.constraint id hid).bare
  rw [hk] at hbare
  exact Constraint.eq_of_bare_eq hbare hplain

theorem IsCall.mono (hgrows : c.Grows c') (h : c.IsCall id) : c'.IsCall id := by
  obtain ⟨hid, site, hk⟩ := h
  exact ⟨hid.mono hgrows.extent, site, constraint_kept hgrows hid hk rfl⟩

/-! ## Properties and elements -/

section Lawful

variable (hL : L.Lawful) (hidle : L.pass = idle)
include hL hidle

/-- A type is added, and no pass is started. -/
theorem moves_addIdle (h : L.At c) {target : SetId} (htarget : target.In c.extent) {t : Ty}
    (ht : t.In c.extent) (hwarrant : c.Warranted L.scope target t) :
    L.Moves (addType idle target t) c fun _ c' => (c'.set target).has t = true := by
  have hadd := moves_addType hL h htarget ht hwarrant
  rwa [hidle] at hadd

omit hL hidle in
theorem Hearing.keyed {w : Work} {code : Option Location} {key : Key} {target : SetId}
    {access : Access} (hw : c.Hearing w (.property code key target access)) : c.Keyed key :=
  .inr ⟨w.constraint, code, target, access, Constraint.eq_of_bare_eq hw.2.2 rfl⟩

theorem moves_readFrom (hroom : L.Roomy) (h : L.At c) {w : Work}
    {code : Option Location} {key : Key} {target : SetId}
    (hw : c.Hearing w (.property code key target .read)) {o : ObjectId}
    (hreached : c.Reached w.type o) (ho : o.In c.extent) (htarget : target.In c.extent) :
    L.Moves (readFrom o key target) c fun _ c' => c'.Reads o key target := by
  rw [readFrom, ← hidle]
  refine .bind hL.within h (moves_getProperty hL hroom h ho (.inr hw.keyed) false) ?_
  intro types c₁ h₁ hgood₁ hanswers
  have hgrows₁ := hgood₁.grows h.sound
  refine .imp h₁ (moves_addSubset hL h₁ (hanswers.in h₁.sound.valid) (htarget.mono hgrows₁.extent)
    (.read (hw.mono hgrows₁) (hreached.mono hgrows₁) hanswers)) ?_
  intro _ c₂ _ hgood₂ hflows
  obtain ⟨hunknown, rfl⟩ | ⟨p, hp, rfl⟩ := hanswers.mono (hgood₂.grows h₁.sound)
  · exact .inl ⟨hunknown, hflows⟩
  · exact .inr ⟨p, hp, hflows⟩

theorem moves_writeTo (hroom : L.Roomy) (h : L.At c) {w : Work}
    {code : Option Location} {key : Key} {values : SetId}
    (hw : c.Hearing w (.property code key values .write)) {o : ObjectId} (hwo : w.type = .object o)
    (ho : o.In c.extent) (hvalues : values.In c.extent) :
    L.Moves (writeTo o key values) c fun _ c' => c'.Writes o key values := by
  rw [writeTo, ← hidle]
  refine .get ?_
  by_cases hunknown : (c.object o).isUnknown = true
  · rw [if_pos hunknown]
    exact .pure h (.inl hunknown)
  · rw [if_neg hunknown]
    have hknown : (c.object o).isUnknown = false := by simpa using hunknown
    refine .bind hL.within h (moves_getKnown hL hroom h ho hknown (.inr hw.keyed) true) ?_
    rintro _ c₁ h₁ hgood₁ ⟨p, hp, rfl⟩
    have hgrows₁ := hgood₁.grows h.sound
    have hin := (h₁.sound.valid.objects o).properties p (List.mem_of_find?_eq_some hp)
    refine .imp h₁ (moves_addSubset hL h₁ (hvalues.mono hgrows₁.extent) hin.ownTypes
      (.write (hw.mono hgrows₁) hwo hp)) ?_
    exact fun _ c₂ _ hgood₂ hflows => .inr ⟨p, (hgood₂.grows h₁.sound).property? hp, hflows⟩

omit hL hidle in
theorem moves_monitorUnknown (h : L.At c) (code : Option Location) :
    L.Moves (monitorUnknown code) c fun _ c' => c'.Monitors code := by
  cases code with
  | none => exact .pure h fun l hl => by cases hl
  | some code =>
    refine .imp h (moves_monitor h code) ?_
    rintro _ _ - - hcode l ⟨⟩
    exact hcode

omit hL hidle in
/-- No wrapper is a function, and none inherits from one. -/
theorem isFunction_of_wrapper {t : Ty} {b : Builtin} (hb : wrapper? t = some b) :
    ∀ p ∈ b :: b.lineage, p.isFunction = false := by
  cases t <;> cases hb <;> decide

/-- Reading from a primitive value reads from its wrapper object. -/
theorem moves_readWrapped (hrefuses : L.Refuses) (h : L.At c) {w : Work} {code : Option Location}
    {key : Key} {target : SetId} (hw : c.Hearing w (.property code key target .read))
    (htarget : target.In c.extent) {b : Builtin} (hb : wrapper? w.type = some b) :
    L.Moves (do readFrom (← builtin idle b) key target) c fun _ c' =>
      ∀ b, wrapper? w.type = some b → ∃ o, c'.builtin? b = some o ∧ c'.Reads o key target := by
  have hbuiltin := moves_builtin hL hrefuses h (.inr (isFunction_of_wrapper hb))
    fun p hp => .read hw hb hp
  rw [hidle] at hbuiltin
  refine .bind hL.within h hbuiltin ?_
  rintro o c₁ h₁ hgood₁ ⟨hfound⟩
  have hgrows₁ := hgood₁.grows h.sound
  refine .imp h₁ (moves_readFrom hL hidle hrefuses.roomy h₁ (hw.mono hgrows₁)
    (.inr ⟨b, hb, hfound⟩) (in_of_builtin? h₁.sound.valid hfound)
    (htarget.mono hgrows₁.extent)) ?_
  intro _ c₂ _ hgood₂ hreads b' hb'
  rw [hb] at hb'
  cases hb'
  exact ⟨o, (hgood₂.grows h₁.sound).builtin? hfound, hreads⟩

theorem moves_accessProperty (hrefuses : L.Refuses) (h : L.At c) {w : Work} {code : Option Location}
    {key : Key} {target : SetId} {access : Access}
    (hw : c.Hearing w (.property code key target access)) (htarget : target.In c.extent)
    (hin : w.type.In c.extent) :
    L.Moves (accessProperty code key target access w.type) c fun _ c' =>
      c'.Accessed code key target access w.type := by
  have hroom : L.Roomy := hrefuses.roomy
  cases access with
  | read =>
    have hwrapped : ∀ b, wrapper? w.type = some b →
        L.Moves (do readFrom (← builtin idle b) key target) c fun _ c' =>
          ∀ b, wrapper? w.type = some b → ∃ o, c'.builtin? b = some o ∧ c'.Reads o key target :=
      fun b hb => moves_readWrapped hL hidle hrefuses h hw htarget hb
    cases ht : w.type with
    | unknown =>
      refine moves_addIdle hL hidle h htarget (Ty.in_of_object?_eq_none rfl _) ?_
      exact .emitted hw ⟨rfl, ht, rfl⟩
    | object o => exact moves_readFrom hL hidle hroom h hw (.inl ht) (hin o (ht ▸ rfl)) htarget
    | undefined | null => exact .pure h fun b hb => by cases hb
    | boolean | int32 | double | string =>
      rw [ht] at hwrapped
      exact hwrapped _ rfl
  | write =>
    cases ht : w.type with
    | unknown => exact moves_monitorUnknown h code
    | object o => exact moves_writeTo hL hidle hroom h hw ht (hin o (ht ▸ rfl)) htarget
    | undefined | null | boolean | int32 | double | string => exact .pure h trivial

omit hL hidle in
/-- An element access keeps all but the mark that it is wired. -/
theorem settled_element (hgrows : c.Grows c') {w : Work} (hid : w.constraint.In c.extent)
    {code : Option Location} {objects target : SetId} {access : Access} {wired : Bool}
    (hk : c.constraint w.constraint = .element code objects target access wired) {b : Compartment}
    (h : ∀ wired', (wired = true → wired' = true) →
      c'.Indexed code target access wired' w.type) :
    Settled b c' w (c'.constraint w.constraint) := by
  have hevolves := hgrows.constraint w.constraint hid
  rw [hk] at hevolves
  rw [Constraint.eq_element hevolves.bare rfl]
  exact h _ hevolves.wired

/-- At the first index, the property is accessed that stands for all elements. -/
theorem moves_wireElement (h : L.At c) {w : Work} (hfired : .fired w ∈ c.journal)
    (hid : w.constraint.In c.extent) {code : Option Location} {objects target : SetId}
    {access : Access}
    (hk : c.constraint w.constraint = .element code objects target access false)
    (hindex : isIndexType w.type = true) {b : Compartment} :
    L.Moves (accessElement w.constraint code objects target access false w.type) c fun _ c' =>
      Settled b c' w (c'.constraint w.constraint) := by
  have hobjects := h.sound.valid.in_of_element hk
  have hgood : L.Good c (c.wireUp w.constraint objects (.property code .index target access)) :=
    .of_calm (.traffic (.wire hid hk ⟨w, hfired, rfl, hindex⟩)) (calm_wireUp _ _ _)
  have hrun : accessElement w.constraint code objects target access false w.type c =
      (do
        modify (·.changeConstraint w.constraint Constraint.wire)
        discard <| addConstraint L.pass objects (.property code .index target access) :
          Action Unit) c := by
    unfold accessElement
    rw [if_pos hindex, hidle]
    cases access <;> rfl
  refine (outcome_congr hrun).mpr (outcome_modify.mpr (outcome_discard.mpr ?_))
  refine Outcome.imp (outcome_addConstraint hL h
    (b := c.changeConstraint w.constraint Constraint.wire) h.rest (in_wire hobjects) hgood) ?_
    fun _ _ h => h
  rintro _ c' ⟨hgood', hrest', -, hlater⟩
  refine ⟨hgood', hrest', ?_⟩
  have hwired : (c.wireUp w.constraint objects
      (.property code .index target access)).constraint w.constraint =
        .element code objects target access true := by
    rw [constraint_wireUp hid, if_neg (ne_next_constraint hid), if_pos rfl, hk]
    rfl
  exact settled_element (hlater.grows (hgood.sound h.sound))
    (hid.mono (hgood.grows h.sound).extent) hwired fun wired' hkept =>
      (indexed_of_index hindex).mpr (hkept rfl)

theorem moves_accessElement (h : L.At c) {w : Work} (hfired : .fired w ∈ c.journal)
    (hid : w.constraint.In c.extent) {code : Option Location} {objects target : SetId}
    {access : Access} {wired : Bool}
    (hk : c.constraint w.constraint = .element code objects target access wired)
    {b : Compartment} :
    L.Moves (accessElement w.constraint code objects target access wired w.type) c fun _ c' =>
      Settled b c' w (c'.constraint w.constraint) := by
  have hvalid := h.sound.valid.constraints w.constraint
  rw [hk] at hvalid
  obtain ⟨hobjects, htarget⟩ := hvalid
  by_cases hindex : isIndexType w.type = true
  · cases wired with
    | true =>
      rw [accessElement_wired hindex]
      exact .pure h (settled_element (Grows.refl c) hid hk fun wired' hwired =>
        (indexed_of_index hindex).mpr (hwired rfl))
    | false => exact moves_wireElement hL hidle h hfired hid hk hindex
  · unfold accessElement
    rw [if_neg hindex]
    cases access with
    | read =>
      have hhearing : c.Hearing w (.element code objects target .read false) := by
        refine ⟨hfired, hid, ?_⟩
        rw [hk]
        rfl
      have hindex' : isIndexType w.type = false := by simpa using hindex
      refine .imp h (moves_addIdle hL hidle h htarget (Ty.in_of_object?_eq_none rfl _)
        (.emitted hhearing ⟨rfl, hindex', rfl⟩)) ?_
      exact fun _ c' _ hgood hhas => settled_element (hgood.grows h.sound) hid hk
        fun wired' _ => (indexed_read hindex).mpr hhas
    | write =>
      refine .imp h (moves_monitorUnknown h code) ?_
      exact fun _ c' _ hgood hmonitors => settled_element (hgood.grows h.sound) hid hk
        fun wired' _ => (indexed_write hindex).mpr hmonitors

/-! ## Calls -/

theorem moves_bindArguments (h : L.At c) (hcalls : c.Calls) {site : CallSite}
    (hsite : site.Valid c.extent) {f : FunctionInfo} (hf : f.Valid c.extent) :
    L.Moves (bindArguments site f) c fun _ c' => c'.ArgumentsBound site f := by
  unfold bindArguments ArgumentsBound
  rw [← hidle]
  by_cases hscript : f.script.isSome = true
  · simp only [if_pos hscript]
    refine .bind hL.within h (.forM hL.within h (I := fun _ => True)
      (Q := fun p c' => c'.Flows p.1 p.2) trivial ?_ ?_) ?_
    · exact fun _ _ _ h' hgood' hflows => (hgood'.grows h'.sound).flows hflows
    · rintro ⟨argument, parameter⟩ hmem c' h' hgood' -
      have hgrows := hgood'.grows h.sound
      obtain ⟨hargument, hparameter⟩ := List.of_mem_zip hmem
      exact .imp h' (moves_addSubset hL h'
        ((hsite.arguments argument hargument).mono hgrows.extent)
        ((hf.parameters parameter hparameter).mono hgrows.extent)
        (.called (hcalls.mono hgrows))) fun _ _ _ _ hflows => ⟨trivial, hflows⟩
    · rintro _ c₁ h₁ hgood₁ ⟨-, hflows⟩
      refine .imp h₁ (.forM hL.within h₁ (I := fun _ => True)
        (Q := fun parameter c' => (c'.set parameter).has .undefined = true) trivial ?_ ?_) ?_
      · intro _ _ _ h' hgood' hhas
        exact (hgood'.grows h'.sound).has h'.sound.valid (hgood'.sound h'.sound).valid hhas
      · intro parameter hmem c' h' hgood' _
        have hgrows := (hgood₁.trans h.sound hgood').grows h.sound
        have hparameter := hf.parameters parameter (List.mem_of_mem_drop hmem)
        exact .imp h' (moves_addType hL h' (hparameter.mono hgrows.extent)
          (Ty.in_of_object?_eq_none rfl _) (.called (hcalls.mono hgrows)))
          fun _ _ _ _ hhas => ⟨trivial, hhas⟩
      · exact fun _ _ _ hgood₂ hmissing =>
          ⟨fun p hp => (hgood₂.grows h₁.sound).flows (hflows p hp), hmissing.2⟩
  · simp only [if_neg hscript]
    by_cases hgeneric : f.isGeneric = true
    · rw [if_pos hgeneric]
      cases hfirst : site.arguments.head? with
      | none => exact .pure h fun _ _ hnone => by cases hnone
      | some first =>
        refine .imp h (moves_addSubset hL h (hsite.arguments first (List.mem_of_mem_head? hfirst))
          hf.thisTypes (.called hcalls)) ?_
        rintro _ _ _ _ hflows - _ ⟨⟩
        exact hflows
    · rw [if_neg hgeneric]
      exact .pure h fun hgeneric' => absurd hgeneric' hgeneric

theorem moves_passThrough (h : L.At c) (hcalls : c.Calls) {site : CallSite}
    (hsite : site.Valid c.extent) {f : FunctionInfo} (hf : f.Valid c.extent) :
    L.Moves (passThrough site f) c fun _ c' => c'.PassedThrough site f := by
  unfold passThrough
  rw [← hidle]
  refine .bind (Q := fun _ c' => ∀ types ∈ site.thisTypes, c'.Flows types f.thisTypes)
    hL.within h ?_ ?_
  · cases hthis : site.thisTypes with
    | none => exact .pure h fun _ hnone => by cases hnone
    | some types =>
      refine .imp h (moves_addSubset hL h (hsite.thisTypes types hthis) hf.thisTypes
        (.called hcalls)) ?_
      rintro _ _ _ _ hflows _ ⟨⟩
      exact hflows
  · intro _ c₁ h₁ hgood₁ htypes
    have hgrows₁ := hgood₁.grows h.sound
    refine .bind (Q := fun _ c' => ∀ t ∈ site.thisType, (c'.set f.thisTypes).has t = true)
      hL.within h₁ ?_ ?_
    · cases hthis : site.thisType with
      | none => exact .pure h₁ fun _ hnone => by cases hnone
      | some t =>
        refine .imp h₁ (moves_addType hL h₁ (hf.thisTypes.mono hgrows₁.extent)
          ((hsite.thisType t hthis).mono hgrows₁.extent) (.called (hcalls.mono hgrows₁))) ?_
        rintro _ _ _ _ hhas _ ⟨⟩
        exact hhas
    · intro _ c₂ h₂ hgood₂ htype
      have hgrows₂ := hgrows₁.trans (hgood₂.grows h₁.sound)
      have htypes₂ : ∀ types ∈ site.thisTypes, c₂.Flows types f.thisTypes :=
        fun types hsome => (hgood₂.grows h₁.sound).flows (htypes types hsome)
      cases hresult : site.result with
      | none => exact .pure h₂ ⟨htypes₂, htype, fun _ hnone => by rw [hresult] at hnone; cases hnone⟩
      | some result =>
        refine .imp h₂ (moves_addSubset hL h₂ (hf.returns.mono hgrows₂.extent)
          ((hsite.result result hresult).mono hgrows₂.extent) (.called (hcalls.mono hgrows₂))) ?_
        intro _ c₃ h₃ hgood₃ hflows
        have hgrows₃ := hgood₃.grows h₂.sound
        refine ⟨fun types hsome => hgrows₃.flows (htypes₂ types hsome),
          fun t ht => hgrows₃.has h₂.sound.valid h₃.sound.valid (htype t ht), fun _ hsome => ?_⟩
        rw [hresult] at hsome
        cases hsome
        exact hflows

variable (hrest : ∀ w, L.Rest w ↔ w.resolving = true)
include hrest

omit hL hidle in
/-- What the callee of a `new` expression returns takes the place of the new object if it is one. -/
theorem reacts_addFilter (h : L.At c)
    (hcall : c.IsCall id) {source target : SetId}
    (hsource : source.In c.extent) (htarget : target.In c.extent) :
    L.Reacts id (addFilter idle source target .primitives) c fun c' =>
      c'.Replaces source target := by
  have hresolving := (hrest _).mp h.rest
  have hresolving' : (c.register source (.filter target .primitives) true).worklist.resolving =
      true := hresolving
  have hrun := addConstraint_run idle hsource (.filter target .primitives)
  rw [run_bind_ok (requestPass_of_resolving idle hresolving')] at hrun
  have hplace : (c.register source (.filter target .primitives) true).Replaces source target := by
    refine ⟨⟨c.constraints.size⟩, ?_, ?_, ?_⟩
    · show c.constraints.size < (c.register source (.filter target .primitives) true).constraints.size
      rw [size_register]
      exact Nat.lt_succ_self _
    · rw [Hears, journal_register]
      exact List.mem_cons_self
    · rw [constraint_register, if_pos rfl]
  refine outcome_discard.mpr (outcome_of_ok hrun ⟨⟨c, .refl c, .inr ⟨hcall, source, target,
    hsource, htarget, aside_passed _⟩⟩, ?_, hplace.mono (aside_passed _).grows⟩)
  exact (hrest _).mpr hresolving'

theorem reacts_construct (hrefuses : L.Refuses) (h : L.At c)
    (hcall : c.IsCall id) {callee : ObjectId}
    (hcallee : callee.In c.extent) {site : CallSite} (hsite : site.Valid c.extent)
    {f : FunctionInfo} (hf : f.Valid c.extent) :
    L.Reacts id (construct callee site f) c fun c' => c'.Constructed callee site f := by
  have hcalls := hcall.calls
  have hproto := moves_prototypeObjectOf hL hrefuses h (.inr hcalls) hcallee
  rw [hidle] at hproto
  refine .bind hL.within h hproto ?_
  intro proto c₁ h₁ hgood₁ ⟨g, hg, hproto⟩
  have hgrows₁ := hgood₁.grows h.sound
  have hin := ((h₁.sound.valid.objects callee).function g hg).prototypeObject proto hproto
  have hnew := moves_newObjectOf hL hrefuses h₁ (.inr (hcalls.mono hgrows₁)) hin
    (.inr ⟨callee, g, hg, hproto⟩)
  rw [hidle] at hnew
  refine .bind hL.within h₁ hnew ?_
  rintro new c₂ h₂ hgood₂ ⟨hnew, hkept, -⟩
  have hgrows₂ := hgrows₁.trans (hgood₂.grows h₁.sound)
  have hmakes : c₂.Instantiates callee proto new := by
    obtain ⟨g', hg', hfunction⟩ := ((hgood₂.grows h₁.sound).object callee).function g hg
    exact ⟨⟨g', hg', hfunction.prototypeObject proto hproto⟩, hkept⟩
  have hobject : ∀ {e : Extent}, new.In e → (Ty.object new).In e := by
    rintro e hin o ⟨⟩
    exact hin
  refine .bind hL.within h₂ (moves_addIdle hL hidle h₂ (hf.thisTypes.mono hgrows₂.extent)
    (hobject hnew) (.called (hcalls.mono hgrows₂))) ?_
  intro _ c₃ h₃ hgood₃ hthis
  have hstep₃ := hgood₃.grows h₂.sound
  have hgrows₃ := hgrows₂.trans hstep₃
  cases hresult : site.result with
  | none =>
    refine Law.Moves.reacts (.pure h₃ ⟨proto, new, hmakes.mono hstep₃, hthis, ?_⟩)
    intro result hsome
    rw [hresult] at hsome
    cases hsome
  | some result =>
    have hin := (hsite.result result hresult).mono hgrows₃.extent
    refine .bind hL.within h₃ (moves_addIdle hL hidle h₃ hin (hobject (hnew.mono hstep₃.extent))
      (.called (hcalls.mono hgrows₃))) ?_
    intro _ c₄ h₄ hgood₄ hhas
    have hstep₄ := hgood₄.grows h₃.sound
    refine (reacts_addFilter hrest h₄ (hcall.mono (hgrows₃.trans hstep₄))
      (hf.returns.mono (hgrows₃.trans hstep₄).extent) (hin.mono hstep₄.extent)).imp h₄ ?_
    intro c' hgrows hsound hreplaces
    refine ⟨proto, new, hmakes.mono ((hstep₃.trans hstep₄).trans hgrows),
      (hstep₄.trans hgrows).has h₃.sound.valid hsound.valid hthis, fun _ hsome => ?_⟩
    rw [hresult] at hsome
    cases hsome
    exact ⟨hgrows.has h₄.sound.valid hsound.valid hhas, hreplaces⟩

omit hL hidle hrest in
/-- Every handler that may be called now obeys the law. -/
def Law.Obeyed (L : Law) (host : Host) (c : Compartment) : Prop :=
  ∀ o f name site, (c.object o).function = some f → f.handler = some name →
    site.Valid c.extent → L.Moves (host name site).run
      (c.record (.called site (.function o f))) fun _ _ => True

variable {host : Host}

theorem reacts_callFunction (hrefuses : L.Refuses) (h : L.At c)
    (hcall : c.IsCall id) (hhost : L.Obeyed host c)
    {callee : ObjectId} {f : FunctionInfo} (hfunction : (c.object callee).function = some f)
    {site : CallSite} (hsite : site.Valid c.extent) :
    L.Reacts id (callFunction host callee f site) c fun c' =>
      .called site (.function callee f) :: c.journal <:+ c'.journal ∧ c'.ArgumentsBound site f ∧
        if site.isNew then c'.Constructed callee site f else c'.PassedThrough site f := by
  have hf := (h.sound.valid.objects callee).function f hfunction
  have hcallee : callee.In c.extent := in_of_function hfunction
  unfold callFunction
  refine .bind hL.within h (moves_record h rfl rfl) ?_
  rintro _ _ h₁ - rfl
  have hhandler : L.Moves (f.handler.forM fun name => (host name site).run)
      (c.record (.called site (.function callee f))) fun _ _ => True := by
    cases hname : f.handler with
    | none => exact .pure h₁ trivial
    | some name => exact hhost callee f name site hfunction hname hsite
  refine .bind hL.within h₁ hhandler ?_
  intro _ c₂ h₂ hgood₂ _
  have hgrows₂ := hgood₂.grows h₁.sound
  have hcall₂ := hcall.mono hgrows₂
  refine .bind hL.within h₂ (moves_bindArguments hL hidle h₂
    hcall₂.calls (hsite.mono hgrows₂.extent)
    (hf.mono hgrows₂.extent)) ?_
  intro _ c₃ h₃ hgood₃ hbound
  have hgrows₃ := hgrows₂.trans (hgood₃.grows h₂.sound)
  have hcall₃ := hcall.mono hgrows₃
  have hsite₃ := hsite.mono hgrows₃.extent
  have hf₃ := hf.mono hgrows₃.extent
  have hkept : ∀ c', c₃.Grows c' → c'.Sound →
      .called site (.function callee f) :: c.journal <:+ c'.journal ∧ c'.ArgumentsBound site f :=
    fun c' hgrows hsound => ⟨(hgrows₃.trans hgrows).journal,
      hbound.mono hgrows h₃.sound.valid hsound.valid⟩
  by_cases hnew : site.isNew = true
  · simp only [if_pos hnew]
    refine (reacts_construct hL hidle hrest hrefuses h₃ hcall₃ (hcallee.mono hgrows₃.extent) hsite₃
      hf₃).imp h₃ ?_
    exact fun c' hgrows hsound hmade =>
      ⟨(hkept c' hgrows hsound).1, (hkept c' hgrows hsound).2, hmade⟩
  · simp only [if_neg hnew]
    refine (moves_passThrough hL hidle h₃ hcall₃.calls hsite₃ hf₃).reacts.imp h₃ ?_
    exact fun c' hgrows hsound hpassed =>
      ⟨(hkept c' hgrows hsound).1, (hkept c' hgrows hsound).2, hpassed⟩

theorem reacts_call (hrefuses : L.Refuses) (h : L.At c)
    (hcall : c.IsCall id) (hhost : L.Obeyed host c)
    {site : CallSite} (hsite : site.Valid c.extent) (t : Ty) :
    L.Reacts id (call host site t) c fun c' => Invoked c c' site t := by
  cases t with
  | unknown =>
    refine .bind hL.within h (moves_record h rfl rfl) ?_
    rintro _ _ h₁ - rfl
    cases hresult : site.result with
    | none =>
      refine Law.Moves.reacts (.pure h₁ ⟨List.suffix_rfl, fun _ hsome => ?_⟩)
      rw [hresult] at hsome
      cases hsome
    | some result =>
      refine Law.Moves.reacts (.imp h₁ (moves_addIdle hL hidle h₁ (hsite.result result hresult)
        (t := .unknown) (Ty.in_of_object?_eq_none rfl _) (.called ?_)) ?_)
      · exact hcall.calls
      · refine fun _ c' _ hgood hhas => ⟨(hgood.grows h₁.sound).journal, fun _ hsome => ?_⟩
        rw [hresult] at hsome
        cases hsome
        exact hhas
  | object callee =>
    refine outcome_get.mpr ?_
    dsimp only
    cases hf : (c.object callee).function with
    | some f =>
      refine (reacts_callFunction hL hidle hrest hrefuses h hcall hhost hf hsite).imp h ?_
      intro c' _ _ hinvoked g hg
      rw [hf] at hg
      cases hg
      exact hinvoked
    | none =>
      refine Law.Moves.reacts (.pure h fun f hsome => ?_)
      rw [hf] at hsome
      cases hsome
  | undefined | null | boolean | int32 | double | string =>
    exact Law.Moves.reacts (.pure h trivial)

/-! ## The other constraints -/

omit hL hidle hrest in
theorem object?_of_mem_results {op : ArithOp} {t t' : Ty} {other : Option TypeSet}
    (h : t' ∈ Arith.results op t other) : t'.object? = none := by
  cases other with
  | none =>
    rw [List.mem_singleton.mp h]
    cases t <;> rfl
  | some other =>
    have h : t' ∈ Arith.binary op t other := h
    unfold Arith.binary at h
    split at h <;> simp only [List.mem_append, List.mem_ite_nil_right, List.mem_ite_nil_left,
      List.mem_singleton] at h <;> grind [Ty.object?]

omit hrest in
/-- The results of an operation, for what the other operand has now, are all put into the target. -/
theorem moves_arith (h : L.At c) {w : Work} {op : ArithOp} {target : SetId} {other : Option SetId}
    (hw : c.Hearing w (.arith op target other)) (htarget : target.In c.extent) :
    L.Moves ((Arith.results op w.type (other.map c.set)).forM fun t => addType idle target t) c
      fun _ c' => ∀ t ∈ Arith.results op w.type (other.map c.set),
        (c'.set target).has t = true := by
  refine .imp h (.forM hL.within h (I := fun _ => True)
    (Q := fun t c' => (c'.set target).has t = true) trivial ?_ ?_) fun _ _ _ _ h => h.2
  · intro t c' c'' h' hgood' hhas
    exact (hgood'.grows h'.sound).has h'.sound.valid (hgood'.sound h'.sound).valid hhas
  · intro t ht c' h' hgood' _
    have hgrows := hgood'.grows h.sound
    refine .imp h' (moves_addIdle hL hidle h' (htarget.mono hgrows.extent)
      (Ty.in_of_object?_eq_none (object?_of_mem_results ht) _)
      (.emitted (hw.mono hgrows) ⟨rfl, c, h.sound, hgrows, ht⟩)) ?_
    exact fun _ _ _ _ hhas => ⟨trivial, hhas⟩

omit hrest in
theorem moves_boxedThis (hrefuses : L.Refuses) (h : L.At c) {w : Work} {target : SetId}
    (hw : c.Hearing w (.boxThis target)) (htarget : target.In c.extent)
    (hin : w.type.In c.extent) :
    L.Moves (boxedThis target w.type) c fun _ c' => c'.Boxed target w.type := by
  have hadd : ∀ t : Ty, t.In c.extent → c.BoxesTo w.type t →
      L.Moves (addType idle target t) c fun _ c' => (c'.set target).has t = true :=
    fun t ht hboxes => moves_addIdle hL hidle h htarget ht (.emitted hw ⟨rfl, hboxes⟩)
  have hwrapped : ∀ {b : Builtin}, wrapper? w.type = some b →
      (∀ (c' : Compartment) o, c'.builtin? b = some o → c'.BoxesTo w.type (.object o)) →
      L.Moves (do addType idle target (.object (← builtin idle b))) c fun _ c' =>
        ∃ o, c'.builtin? b = some o ∧ (c'.set target).has (.object o) = true := by
    intro b hb hboxes
    have hbuiltin := moves_builtin hL hrefuses h (.inr (isFunction_of_wrapper hb))
      fun p hp => .boxed hw hb hp
    rw [hidle] at hbuiltin
    refine .bind hL.within h hbuiltin ?_
    rintro o c₁ h₁ hgood₁ ⟨hfound⟩
    have hgrows₁ := hgood₁.grows h.sound
    refine .imp h₁ (moves_addIdle hL hidle h₁ (htarget.mono hgrows₁.extent) ?_
      (.emitted (hw.mono hgrows₁) ⟨rfl, hboxes c₁ o hfound⟩)) ?_
    · rintro _ ⟨⟩
      exact in_of_builtin? h₁.sound.valid hfound
    · exact fun _ c₂ _ hgood₂ hhas => ⟨o, (hgood₂.grows h₁.sound).builtin? hfound, hhas⟩
  cases ht : w.type with
  | undefined | null =>
    rw [ht] at hadd
    refine hadd (.object global) ?_ rfl
    rintro _ ⟨⟩
    exact h.sound.valid.global
  | boolean | int32 | double | string =>
    rw [ht] at hwrapped
    exact hwrapped rfl fun c' o ho => ⟨o, ho, rfl⟩
  | unknown | object =>
    rw [ht] at hadd hin
    exact hadd _ hin rfl

omit hrest in
theorem moves_forwardRead (h : L.At c) {w : Work} {code : Location} {target : SetId}
    (hw : c.Hearing w (.monitorRead code target)) (htarget : target.In c.extent)
    (hin : w.type.In c.extent) :
    L.Moves (forwardRead code target w.type) c fun _ c' => c'.Forwarded code target w.type := by
  have hadd : L.Moves (addType idle target w.type) c fun _ c' =>
      c'.Forwarded code target w.type :=
    .imp h (moves_addIdle hL hidle h htarget hin (.emitted hw ⟨rfl, rfl⟩))
      fun _ _ _ _ hhas => .inl hhas
  refine outcome_get.mpr ?_
  cases ht : w.type with
  | object o =>
    rw [ht] at hadd
    cases hgetter : c.builtin? .getSet with
    | none => exact hadd
    | some getter =>
      by_cases ho : o = getter
      · dsimp only
        rw [if_pos ho]
        refine Law.Moves.imp h (moves_monitor h code) ?_
        rintro _ c' - hgood hcode
        exact .inr ⟨o, rfl, ho ▸ (hgood.grows h.sound).builtin? hgetter, hcode⟩
      · dsimp only
        rw [if_neg ho]
        exact hadd
  | undefined | null | boolean | int32 | double | string | unknown =>
    rw [ht] at hadd
    exact hadd

omit hL hidle hrest in
theorem moves_spend (h : L.At c) {script : ScriptId}
    (hheld : (c.constraint id).heldFor? = some script) (hrefuted : c.Refuted id) :
    L.Moves (modify (·.spend id script)) c fun _ c' =>
      c'.constraint id = (c.constraint id).spend := by
  have hgood : L.Good c (c.spend id script) := .of_calm (.spend hheld hrefuted)
    (.of_objects rfl rfl ⟨[_], rfl, fun w hw => by cases List.mem_singleton.mp hw⟩)
  refine .modify hgood h.rest ?_
  have hconstraint := constraint_changeConstraint (in_of_heldFor hheld) Constraint.spend id
  rw [if_pos rfl] at hconstraint
  exact hconstraint

omit hL hidle hrest in
/-- A constraint that holds an answer lets it stand, or is spent. -/
theorem reacts_held (h : L.At c) {w : Work} {k : Constraint} (hk : c.constraint w.constraint = k)
    {script : ScriptId} {stands : Prop} [Decidable stands] (hstands : stands → Settled c c w k)
    (hspends : ¬ stands → k.heldFor? = some script ∧ c.Refuted w.constraint ∧
      ∀ c', Settled c c' w k.spend) :
    L.Reacts w.constraint (if stands then pure () else modify (·.spend w.constraint script)) c
      fun c' => Settled c c' w (c'.constraint w.constraint) := by
  subst hk
  by_cases hkept : stands
  · rw [if_pos hkept]
    exact Law.Moves.reacts (.pure h (hstands hkept))
  · rw [if_neg hkept]
    obtain ⟨hheld, hrefuted, hsettled⟩ := hspends hkept
    refine Law.Moves.reacts (.imp h (moves_spend h hheld hrefuted) ?_)
    rintro _ c' - - hspent
    rw [hspent]
    exact hsettled c'

/-- Every constraint settles what it hears of. -/
theorem reacts_react (h : L.At c) {w : Work} (hfired : .fired w ∈ c.journal)
    (hw : w.Valid c.extent) {k : Constraint} (hk : c.constraint w.constraint = k)
    (hrefuses : k.isCarrier = false → L.Refuses) (hhost : L.Obeyed host c) :
    L.Reacts w.constraint (react host w k) c fun c' =>
      Settled c c' w (c'.constraint w.constraint) := by
  have hvalid := h.sound.valid.constraints w.constraint
  rw [hk] at hvalid
  have hhearing : k.isPlain = true → c.Hearing w k := by
    refine fun hplain => ⟨hfired, hw.constraint, ?_⟩
    rw [hk, Constraint.bare_of_isPlain hplain]
  -- A constraint without marks is still the same when it is done.
  have hsettles : ∀ {a : Action Unit}, k.isPlain = true →
      L.Reacts w.constraint a c (fun c' => Settled c c' w k) →
      L.Reacts w.constraint a c fun c' => Settled c c' w (c'.constraint w.constraint) := by
    intro a hplain ha
    refine ha.imp h fun c' hgrows _ hsettled => ?_
    rwa [constraint_kept hgrows hw.constraint hk hplain]
  cases k with
  | subset target =>
    exact hsettles rfl (moves_addIdle hL hidle h hvalid hw.type
      (.emitted (hhearing rfl) ⟨rfl, rfl⟩)).reacts
  | property code key target access =>
    exact hsettles rfl (moves_accessProperty hL hidle (hrefuses rfl) h (hhearing rfl) hvalid
      hw.type).reacts
  | element => exact (moves_accessElement hL hidle h hfired hw.constraint hk).reacts
  | call site =>
    exact outcome_get.mpr (hsettles rfl (reacts_call hL hidle hrest (hrefuses rfl) h
      ⟨hw.constraint, site, hk⟩ hhost (h.sound.valid.sites site) w.type))
  | arith op target other =>
    exact outcome_get.mpr (hsettles rfl (moves_arith hL hidle h (hhearing rfl) hvalid.1).reacts)
  | boxThis target =>
    exact hsettles rfl (moves_boxedThis hL hidle (hrefuses rfl) h (hhearing rfl) hvalid
      hw.type).reacts
  | filter target mode =>
    apply hsettles rfl
    by_cases hpasses : mode.passes w.type = true
    · rw [react, if_pos hpasses]
      refine Law.Moves.reacts (.imp h (moves_addIdle hL hidle h hvalid hw.type
        (.emitted (hhearing rfl) ⟨rfl, hpasses, rfl⟩)) ?_)
      exact fun _ _ _ _ hhas _ => hhas
    · rw [react, if_neg hpasses]
      exact Law.Moves.reacts (.pure h fun h => absurd h hpasses)
  | monitorRead code target =>
    exact hsettles rfl (moves_forwardRead hL hidle h (hhearing rfl) hvalid hw.type).reacts
  | freezeTag script tag spent =>
    refine outcome_get.mpr (reacts_held h hk (fun hkept => ?_) fun hkept => ?_)
    · rwa [Bool.or_eq_true, decide_eq_true_eq] at hkept
    · rw [Bool.not_eq_true, Bool.or_eq_false_iff, decide_eq_false_iff_not] at hkept
      obtain ⟨rfl, hne⟩ := hkept
      exact ⟨rfl, ⟨w, hfired, rfl, by rw [hk]; exact hne⟩, fun _ => .inl rfl⟩
  | freezeKind script kind spent =>
    refine outcome_get.mpr (reacts_held h hk (fun hkept => ?_) fun hkept => ?_)
    · rwa [Bool.or_eq_true, decide_eq_true_eq] at hkept
    · rw [Bool.not_eq_true, Bool.or_eq_false_iff] at hkept
      obtain ⟨rfl, -⟩ := hkept
      exact ⟨rfl, ⟨w, hfired, rfl, by rw [hk]; trivial⟩, fun _ => .inl rfl⟩
  | freezeEmpty script spent =>
    refine reacts_held h hk (fun hkept => hkept) fun hkept => ?_
    rw [Bool.not_eq_true] at hkept
    subst hkept
    exact ⟨rfl, ⟨w, hfired, rfl, by rw [hk]; trivial⟩, fun _ => rfl⟩
  | freezeElementKind => exact Law.Moves.reacts (.pure h (hk ▸ trivial))

end Lawful

end Compartment

end FlowTypes
