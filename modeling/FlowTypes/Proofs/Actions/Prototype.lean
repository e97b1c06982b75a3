import FlowTypes.Proofs.Actions.Unknown

/-!
# How objects get their prototypes and functions their records

A prototype is set only if the object has none and is not among the prototypes of the new one.  An
object of a name is found or made; it has that name, and it is a function exactly if one was asked
for.

## Main results

* `moves_link`, `moves_addPrototype`: the object has the prototype afterwards.
* `moves_typeObject`: the answer has the name that was asked for.
* `moves_setFunctionScript`, `moves_setNativeHandler`.
-/

namespace FlowTypes

namespace Compartment

variable {L : Law} {c : Compartment}

/-! ## Prototypes -/

section SetProto

variable {id proto : ObjectId} (hid : id.In c.extent) (hproto : proto.In c.extent)
  (hne : id ≠ proto)
include hid hproto hne

theorem proto_setProto (o : ObjectId) :
    ((c.setProto id proto).object o).proto = if id = o then some proto else (c.object o).proto := by
  rw [object_setProto hid hproto hne]

theorem properties_setProto (o : ObjectId) :
    ((c.setProto id proto).object o).properties = (c.object o).properties ∧
      ((c.setProto id proto).object o).isUnknown = (c.object o).isUnknown := by
  rw [object_setProto hid hproto hne]
  exact ⟨rfl, rfl⟩

/-- Once the properties of an object are wired to those of its new prototype, or the object is
unknown, everything is tidy. -/
theorem tidied_of_setProto {c' : Compartment} (h : (c.setProto id proto).Tidied c')
    (hdone : (c'.object id).isUnknown = true ∨ (c.object proto).isUnknown = false ∧
      ∀ p ∈ ((c.setProto id proto).object id).properties, c'.Inherited id proto p) :
    c.Tidied c' where
  wired o p hp := by
    refine (h.wired o p hp).imp_left ?_
    rw [(properties_setProto hid hproto hne o).1]
    exact fun hp => hp
  inherited o q ho p hp := by
    obtain ⟨hset, hmem⟩ | hinherited := h.inherited o q ho p hp
    · rw [proto_setProto hid hproto hne] at hset
      split at hset
      · rename_i hido
        subst hido
        cases hset
        exact .inr (hdone.elim .inl fun hall => hall.2 p hmem)
      · rw [(properties_setProto hid hproto hne o).1] at hmem
        exact .inl ⟨hset, hmem⟩
    · exact .inr hinherited
  forgotten o ho := by
    refine (h.forgotten o ho).imp_left ?_
    rw [(properties_setProto hid hproto hne o).2]
    exact fun ho => ho
  spread o q ho hunknown := by
    obtain ⟨hset, hold⟩ | hspread := h.spread o q ho hunknown
    · rw [(properties_setProto hid hproto hne q).2] at hold
      rw [proto_setProto hid hproto hne] at hset
      split at hset
      · rename_i hido
        subst hido
        cases hset
        refine .inr (hdone.resolve_right fun hall => ?_)
        rw [hall.1] at hold
        cases hold
      · exact .inl ⟨hset, hold⟩
    · exact .inr hspread
  builtins := h.builtins

end SetProto

theorem calm_classify {id : ObjectId} (hid : id.In c.extent) : c.Calm (c.classify id) :=
  calm_changeObject hid (fun _ => rfl) (fun _ => rfl) fun _ => rfl

/-- An object that had no prototype when the action began may be taken for an array. -/
theorem good_classifyArray {c' : Compartment} {id : ObjectId} (hc : c.Sound)
    (hnone : (c.object id).proto = none) (hid : id.In c'.extent) (hgood : L.Good c c') :
    L.Good c (c'.classifyArray id) := by
  unfold classifyArray
  split
  · rename_i harray
    rw [Bool.and_eq_true, Bool.not_eq_true'] at harray
    refine ⟨.classify (.refl c) (.inr hnone) hgood.did hid harray.1 harray.2, fun ht => ?_, ?_⟩
    · have hsound := hgood.sound hc
      exact (hgood.tidied ht).trans hsound (hsound.classify hid) (grows_classify hid)
        (calm_classify hid).tidied
    · exact hgood.delivered.classify hid harray.1 harray.2
  · exact hgood

theorem worklist_classifyArray (id : ObjectId) :
    (c.classifyArray id).worklist = c.worklist := by
  unfold classifyArray
  split <;> rfl

theorem proto_classifyArray {id : ObjectId} (hid : id.In c.extent) :
    ((c.classifyArray id).object id).proto = (c.object id).proto := by
  unfold classifyArray
  split
  · rw [object_changeObject hid, if_pos rfl]
  · rfl

section Lawful

variable (hL : L.Lawful)
include hL

/-- Each property of an object gets the types of the same property of its prototype. -/
theorem moves_inheritAll (hroom : L.Roomy) (h : L.At c) {id proto : ObjectId}
    (hset : (c.object id).proto = some proto) (hproto : proto.In c.extent) {ps : List Property}
    (hps : ∀ p ∈ ps, p ∈ (c.object id).properties) :
    L.Moves (ps.forM fun p => do
      let inherited ← getProperty L.pass proto p.key false
      addSubset L.pass inherited p.types) c fun _ c' => ∀ p ∈ ps, c'.Inherited id proto p := by
  refine .imp h (.forM hL.within h (I := fun _ => True) trivial
    (fun p c' c'' h' hgood hp => hp.mono (hgood.grows h'.sound)) ?_) fun _ _ _ _ hall => hall.2
  intro p hp c₁ h₁ hgood₁ _
  have hgrows₁ := hgood₁.grows h.sound
  have hmem : p ∈ (c₁.object id).properties := (hgrows₁.object id).properties.subset (hps p hp)
  refine .bind hL.within h₁ (moves_getProperty hL hroom h₁ (hproto.mono hgrows₁.extent)
    (.inr (.inl ⟨id, p, hmem, rfl⟩)) false) ?_
  intro inherited c₂ h₂ hgood₂ hinherited
  have hgrows₂ := hgood₂.grows h₁.sound
  have hmem₂ := (hgrows₂.object id).properties.subset hmem
  have htypes := ((h₂.sound.valid.objects id).properties p hmem₂).types
  have hinherits : c₂.Inherits id proto :=
    .proto (((hgrows₁.trans hgrows₂).object id).proto proto hset)
  refine .imp h₂ (moves_addSubset hL h₂ (hinherited.in h₂.sound.valid) htypes
    (.inherited hinherits hmem₂ hinherited)) ?_
  intro _ c₃ _ hgood₃ hflows
  exact ⟨trivial, .inr ⟨inherited, hinherited.mono (hgood₃.grows h₂.sound), hflows⟩⟩

/-- An object without a prototype gets one, even if what has to be wired up for that fails. -/
theorem outcome_link (hroom : L.Roomy) (h : L.At c)
    {id proto : ObjectId} (hid : id.In c.extent) (hproto : proto.In c.extent)
    (hnone : (c.object id).proto = none) (hne : id ≠ proto) (hup : ¬ c.Inherits proto id)
    (hlinked : c.Linked L.scope id proto) : Outcome (link L.pass id proto) c
      (fun _ c' => L.Good c c' ∧ L.Rest c'.worklist ∧ (c'.object id).proto = some proto)
      fun e c' => Did L.failing (c.setProto id proto) c' ∧ L.Rest c'.worklist ∧ L.Fails e := by
  have hdid : Did L.scope c (c.setProto id proto) :=
    .single (.setProto hid hproto hnone hne hup hlinked)
  have hgrows₁ := hdid.grows h.sound
  have h₁ : L.At (c.setProto id proto) := h.did hdid h.rest
  have hset : ((c.setProto id proto).object id).proto = some proto := by
    rw [proto_setProto hid hproto hne, if_pos rfl]
  -- What follows the first step is tidy from there on, and makes that step tidy in the end.
  have hfinish : ∀ c₂, L.Good (c.setProto id proto) c₂ → ((c₂.object id).isUnknown = true ∨
      (c.object proto).isUnknown = false ∧
        ∀ p ∈ ((c.setProto id proto).object id).properties, c₂.Inherited id proto p) →
      L.Good c c₂ := fun c₂ hgood hdone =>
    .tidying h.sound hdid ⟨[.prototypeLinked id proto], rfl,
      fun w hw => by cases List.mem_singleton.mp hw⟩ hgood
      fun htidied => tidied_of_setProto hid hproto hne htidied hdone
  have hkept : ∀ c', L.Good (c.setProto id proto) c' → (c'.object id).proto = some proto :=
    fun c' hgood => ((hgood.grows h₁.sound).object id).proto proto hset
  refine outcome_modify.mpr (outcome_get.mpr ?_)
  split
  · rename_i hunknown
    refine Outcome.imp (moves_markUnknown hL hroom h₁ (hid.mono hgrows₁.extent)
      (.inherited hset hunknown)) ?_ fun _ _ hfailed => hfailed
    rintro _ c₂ ⟨hgood₂, hrest₂, hforgotten⟩
    exact ⟨hfinish c₂ hgood₂ (.inl hforgotten), hrest₂, hkept c₂ hgood₂⟩
  · rename_i hknown
    have hknown' : (c.object proto).isUnknown = false := by
      rw [(properties_setProto hid hproto hne proto).2] at hknown
      simpa using hknown
    refine outcome_bind.mpr (Outcome.imp (moves_inheritAll hL hroom h₁ hset
      (hproto.mono hgrows₁.extent) fun _ hp => hp) ?_ fun _ _ hfailed => hfailed)
    rintro _ c₂ ⟨hgood₂, hrest₂, hall⟩
    have hgood := hfinish c₂ hgood₂ (.inr ⟨hknown', hall⟩)
    have hid₂ := hid.mono (hgood.grows h.sound).extent
    refine outcome_of_ok rfl ⟨good_classifyArray h.sound hnone hid₂ hgood, ?_, ?_⟩
    · rw [worklist_classifyArray]
      exact hrest₂
    · exact (proto_classifyArray hid₂).trans (hkept c₂ hgood₂)

/-- An object without a prototype gets one. -/
theorem moves_link (hroom : L.Roomy) (h : L.At c)
    {id proto : ObjectId} (hid : id.In c.extent) (hproto : proto.In c.extent)
    (hnone : (c.object id).proto = none) (hne : id ≠ proto) (hup : ¬ c.Inherits proto id)
    (hlinked : c.Linked L.scope id proto) :
    L.Moves (link L.pass id proto) c fun _ c' => (c'.object id).proto = some proto := by
  have hdid : Did L.failing c (c.setProto id proto) :=
    .mono hL.within (.single (.setProto hid hproto hnone hne hup hlinked))
  refine Outcome.imp (outcome_link hL hroom h hid hproto hnone hne hup hlinked)
    (fun _ _ hdone => hdone) ?_
  rintro e c' ⟨hdid', hrest, he⟩
  exact ⟨hdid.trans hdid', hrest, he⟩

/-- A law under which an object gets its prototype whenever it may have it. -/
def Law.Links (L : Law) : Prop :=
  ∀ (c : Compartment) (id proto : ObjectId), L.At c → id.In c.extent → proto.In c.extent →
    (c.object id).proto = none → id ≠ proto → ¬ c.Inherits proto id → c.Linked L.scope id proto →
      L.Moves (link L.pass id proto) c fun _ c' => (c'.object id).proto = some proto

theorem Law.Links.ofRoomy (hroom : L.Roomy) : L.Links :=
  fun _ _ _ h hid hproto hnone hne hup hlinked =>
    moves_link hL hroom h hid hproto hnone hne hup hlinked

omit hL in
/-- A prototype is set once, and makes no cycle; otherwise the host is turned down. -/
theorem addPrototype_cases (pass : Action Unit) (hc : c.Sound) (id proto : ObjectId) :
    (∃ e, e.isRefusal = true ∧ addPrototype pass id proto c = (.error e, c)) ∨
      (c.object id).proto = none ∧ id ≠ proto ∧ ¬ c.Inherits proto id ∧
        addPrototype pass id proto c = link pass id proto c := by
  have hrun : addPrototype pass id proto c =
      (if (c.object id).proto.isSome then throw (.prototypeAlreadySet (c.objectName id))
      else if (proto :: c.chain proto).contains id then
        throw (.prototypeCycle (c.objectName id) (c.objectName proto))
      else link pass id proto : Action Unit) c := rfl
  rw [hrun]
  by_cases hset : (c.object id).proto.isSome = true
  · rw [if_pos hset]
    exact .inl ⟨_, rfl, rfl⟩
  · rw [if_neg hset]
    by_cases hcycle : (proto :: c.chain proto).contains id = true
    · rw [if_pos hcycle]
      exact .inl ⟨_, rfl, rfl⟩
    · rw [if_neg hcycle]
      rw [List.contains_iff_mem, List.mem_cons, not_or] at hcycle
      refine .inr ⟨by simpa using hset, hcycle.1, fun hup => ?_, rfl⟩
      exact hcycle.2 ((mem_chain_iff hc.valid hc.forest).mpr hup)

/-- An object gets a prototype, or the host is turned down. -/
theorem moves_addPrototype (hrefuses : L.Refuses) (h : L.At c) {id proto : ObjectId}
    (hid : id.In c.extent) (hproto : proto.In c.extent) (hlinked : c.Linked L.scope id proto) :
    L.Moves (addPrototype L.pass id proto) c fun _ c' => (c'.object id).proto = some proto := by
  obtain ⟨e, he, hrun⟩ | ⟨hnone, hne, hup, hrun⟩ := addPrototype_cases L.pass h.sound id proto
  · exact outcome_of_error hrun ⟨.refl c, h.rest, hrefuses.fails he⟩
  · exact (outcome_congr hrun).mpr
      (moves_link hL hrefuses.roomy h hid hproto hnone hne hup hlinked)

/-! ## Objects of a name -/

omit hL in
theorem moves_newSet (h : L.At c) (hchoice : L.scope.choice) :
    L.Moves newSet c fun s c' =>
      s.In c'.extent ∧ c' = c.pushSet := by
  have hgood : L.Good c c.pushSet := by
    refine .of_calm (.pushSet hchoice) (.of_objects rfl rfl ⟨[], rfl, fun _ => List.not_mem_nil⟩)
  refine outcome_of_ok rfl ⟨hgood, h.rest, ?_, rfl⟩
  show c.sets.size < (c.sets.push {}).size
  rw [Array.size_push]
  omega

omit hL in
theorem calm_pushObject (name : String) (function : Option FunctionInfo) :
    c.Calm (c.pushObject name function) where
  properties o := by rw [object_pushObject_eq]
  proto o := by rw [object_pushObject_eq]
  unknown o := by rw [object_pushObject_eq]
  builtins := rfl
  journal := ⟨[_], rfl, fun w hw => by cases List.mem_singleton.mp hw⟩

/-- A new object gets a name that is not in use, and its prototype. -/
theorem outcome_newObject (hlinks : L.Links) (h : L.At c) {name : String}
    (function : Option FunctionInfo) {proto : Option ObjectId} (hfresh : c.objectNamed? name = none)
    (hname : L.scope.choice ∨ c.Nameable name)
    (hfunction : ∀ f ∈ function, L.scope.choice ∧ f.Valid c.extent ∧ f.prototypeObject = none ∧
      f.handler = none)
    (hproto : ∀ p, proto = some p → p.In c.extent)
    (hgiven : ∀ p, proto = some p → L.scope.grant.links ⟨c.objects.size⟩ p ∨ c.Calls) :
    L.Moves (do
      let id ← newObject name function
      if let some proto := proto then
        link L.pass id proto
      return id) c fun id c' => id.In c'.extent ∧ c'.objectName id = name ∧
        (c'.object id).isFunction = function.isSome ∧
          (proto = none → c'.builtins = c.builtins) ∧
            ∀ p, proto = some p → (c'.object id).proto = some p := by
  have hgood₁ : L.Good c (c.pushObject name function) :=
    .of_calm (.pushObject hfresh hname hfunction) (calm_pushObject name function)
  have h₁ : L.At (c.pushObject name function) := hgood₁.at h h.rest
  have hid : ObjectId.In ⟨c.objects.size⟩ (c.pushObject name function).extent := by
    show c.objects.size < (c.objects.push _).size
    rw [Array.size_push]
    omega
  have hobject : (c.pushObject name function).object ⟨c.objects.size⟩ = { name, function } := by
    rw [object_pushObject, if_pos rfl]
  have hanswer : ∀ c', (c.pushObject name function).Grows c' →
      ObjectId.In ⟨c.objects.size⟩ c'.extent ∧ c'.objectName ⟨c.objects.size⟩ = name ∧
        (c'.object ⟨c.objects.size⟩).isFunction = function.isSome := by
    intro c' hgrows
    refine ⟨hid.mono hgrows.extent, ?_, ?_⟩
    · rw [objectName, hgrows.name _ hid, hobject]
    · rw [hgrows.isFunction _ hid, hobject]
      rfl
  have hrun : ∀ (f : ObjectId → Action ObjectId), (newObject name function >>= f) c =
      f ⟨c.objects.size⟩ (c.pushObject name function) := fun _ => rfl
  refine (outcome_congr (hrun _)).mpr ?_
  cases proto with
  | none =>
    obtain ⟨hin, hnamed, hkind⟩ := hanswer _ (Grows.refl _)
    refine outcome_of_ok rfl ⟨hgood₁, h₁.rest, hin, hnamed, hkind, fun _ => rfl, ?_⟩
    intro p hp
    cases hp
  | some p =>
    have hp := hproto p rfl
    -- Nothing inherits from an object that has just been made.
    have hup : ¬ (c.pushObject name function).Inherits p ⟨c.objects.size⟩ := by
      intro hinherits
      have hold : c.Inherits p ⟨c.objects.size⟩ :=
        hinherits.congr fun o => by rw [object_pushObject_eq]
      exact Nat.lt_irrefl _ (hold.target_in h.sound.valid)
    have hne : (⟨c.objects.size⟩ : ObjectId) ≠ p := (ne_next_object hp).symm
    have hgrows₁ := hgood₁.grows h.sound
    have hlink := hlinks _ _ _ h₁ hid (hp.mono hgrows₁.extent) (by rw [hobject]) hne hup
      ((hgiven p rfl).elim .given fun hcalls => .called (hcalls.mono hgrows₁))
    refine Law.Moves.after hL.within h.sound hgood₁ (.bind hL.within h₁ hlink ?_)
    intro _ c₂ h₂ hgood₂ hset
    obtain ⟨hin, hnamed, hkind⟩ := hanswer c₂ (hgood₂.grows h₁.sound)
    refine .pure h₂ ⟨hin, hnamed, hkind, ?_, ?_⟩
    · intro hnone
      cases hnone
    · rintro _ ⟨⟩
      exact hset

/-- What is known of the object that was asked for by a name. -/
def IsNamed (c : Compartment) (name : String) (isFunction : Bool) (id : ObjectId) : Prop :=
  id.In c.extent ∧ c.objectName id = name ∧ (c.object id).isFunction = isFunction

omit hL in
/-- An object that has the name is answered as it is, or the host is turned down. -/
theorem typeObject_cases (pass : Action Unit) (c : Compartment) (script : Option ScriptId)
    (name : String) (isFunction : Bool) (proto : Option ObjectId) :
    (∃ e, e.isRefusal = true ∧ typeObject pass script name isFunction proto c = (.error e, c)) ∨
      (∃ id, c.IsNamed (scopedName script name) isFunction id ∧
        typeObject pass script name isFunction proto c = (.ok id, c)) ∨
      c.objectNamed? (scopedName script name) = none := by
  cases hfound : c.objectNamed? (scopedName script name) with
  | none => exact .inr (.inr rfl)
  | some id =>
    obtain ⟨hin, hnamed⟩ := objectNamed?_some hfound
    unfold typeObject
    rw [run_get]
    dsimp only
    cases isFunction with
    | true =>
      cases hkind : (c.object id).isFunction with
      | true => exact .inr (.inl ⟨id, ⟨hin, hnamed, hkind⟩, by simp only [hfound, hkind]; rfl⟩)
      | false => exact .inl ⟨.notAFunction _, rfl, by simp only [hfound, hkind]; rfl⟩
    | false =>
      cases hkind : (c.object id).isFunction with
      | true => exact .inl ⟨.unexpectedFunction _, rfl, by simp only [hfound, hkind]; rfl⟩
      | false => exact .inr (.inl ⟨id, ⟨hin, hnamed, hkind⟩, by simp only [hfound, hkind]; rfl⟩)

/-- An object of a name that is not in use is made. -/
theorem moves_makeObject (hlinks : L.Links) (h : L.At c) {script : Option ScriptId} {name : String}
    {isFunction : Bool} {proto : Option ObjectId}
    (hfresh : c.objectNamed? (scopedName script name) = none)
    (hname : L.scope.choice ∨ c.Nameable (scopedName script name))
    (hfunction : isFunction = true → L.scope.choice)
    (hproto : ∀ p, proto = some p → p.In c.extent)
    (hgiven : ∀ p, proto = some p → L.scope.grant.links ⟨c.objects.size⟩ p ∨ c.Calls) :
    L.Moves (typeObject L.pass script name isFunction proto) c fun id c' =>
      c'.IsNamed (scopedName script name) isFunction id ∧
        (proto = none → c'.builtins = c.builtins) ∧
          ∀ p, proto = some p → (c'.object id).proto = some p := by
  refine .get ?_
  dsimp only
  rw [hfresh]
  cases isFunction with
  | false =>
    refine .imp h (outcome_newObject hL hlinks h none hfresh hname ?_ hproto hgiven) ?_
    · rintro f ⟨⟩
    · rintro id c' - - ⟨hin, hnamed, hkind, hrest⟩
      exact ⟨⟨hin, hnamed, hkind⟩, hrest⟩
  | true =>
    have hchoice := hfunction rfl
    refine .bind hL.within h (moves_newSet h hchoice) ?_
    rintro returns c₁ h₁ hgood₁ ⟨hreturns, rfl⟩
    refine .bind hL.within h₁ (moves_newSet h₁ hchoice) ?_
    rintro thisTypes c₂ h₂ hgood₂ ⟨hthis, rfl⟩
    have hfresh₂ : c.pushSet.pushSet.objectNamed? (scopedName script name) = none := hfresh
    have hgrows := (hgood₁.trans h.sound hgood₂).grows h.sound
    have hnew := outcome_newObject hL hlinks h₂ (some { returns, thisTypes })
      hfresh₂ (.inl hchoice) ?_ (fun p hp => (hproto p hp).mono hgrows.extent)
      fun p hp => (hgiven p hp).imp_right (Calls.mono hgrows)
    · refine .imp h₂ hnew ?_
      rintro id c₃ - - ⟨hin, hnamed, hkind, hrest⟩
      exact ⟨⟨hin, hnamed, hkind⟩, hrest⟩
    rintro f ⟨⟩
    refine ⟨hchoice, ⟨hreturns.mono (hgood₂.grows h₁.sound).extent, hthis, ?_, ?_⟩, rfl, rfl⟩
    · intro s hs
      cases hs
    · intro o ho
      cases ho

/-- The object of a name is found or made, or the host is turned down.  Only a new object gets the
prototype. -/
theorem moves_typeObject (hrefuses : L.Refuses) (h : L.At c) {script : Option ScriptId} {name : String}
    {isFunction : Bool} {proto : Option ObjectId}
    (hname : L.scope.choice ∨ c.Nameable (scopedName script name))
    (hfunction : isFunction = true → L.scope.choice)
    (hproto : ∀ p, proto = some p → p.In c.extent)
    (hgiven : ∀ p, proto = some p → L.scope.grant.links ⟨c.objects.size⟩ p ∨ c.Calls) :
    L.Moves (typeObject L.pass script name isFunction proto) c fun id c' =>
      c'.IsNamed (scopedName script name) isFunction id ∧
        (proto = none → c'.builtins = c.builtins) ∧
          (c.objectNamed? (scopedName script name) = none →
            ∀ p, proto = some p → (c'.object id).proto = some p) := by
  obtain ⟨e, he, hrun⟩ | ⟨id, hnamed, hrun⟩ | hfresh :=
    typeObject_cases L.pass c script name isFunction proto
  · exact outcome_of_error hrun ⟨.refl c, h.rest, hrefuses.fails he⟩
  · refine outcome_of_ok hrun ⟨.refl c, h.rest, hnamed, fun _ => rfl, fun hfresh => ?_⟩
    exact absurd hnamed.2.1 (objectNamed?_none hfresh hnamed.1)
  · refine .imp h (moves_makeObject hL (.ofRoomy hL hrefuses.roomy) h hfresh hname hfunction hproto
      hgiven) ?_
    exact fun _ _ _ _ hmade => ⟨hmade.1, hmade.2.1, fun _ => hmade.2.2⟩

/-! ## Functions -/

omit hL in
theorem moves_functionInfo (hrefuses : L.Refuses) (h : L.At c) (id : ObjectId) :
    L.Moves (functionInfo id) c fun f c' => c' = c ∧ (c.object id).function = some f := by
  refine .get ?_
  dsimp only
  split
  · rename_i f hf
    exact .pure h ⟨rfl, hf⟩
  · exact .throw h (hrefuses.fails rfl)

omit hL in
theorem calm_changeFunction {id : ObjectId} (hid : id.In c.extent)
    (g : FunctionInfo → FunctionInfo) : c.Calm (c.changeFunction id g) :=
  calm_changeObject hid (fun _ => rfl) (fun _ => rfl) fun _ => rfl

omit hL in
/-- A function gets a later record. -/
theorem moves_changeFunction (h : L.At c) {id : ObjectId} (hid : id.In c.extent)
    {g : FunctionInfo → FunctionInfo}
    (hg : ∀ f, (c.object id).function = some f → c.Retooled L.scope id f (g f)) :
    L.Moves (modify (·.changeFunction id g)) c fun _ c' => c' = c.changeFunction id g :=
  .modify (.of_calm (.retool hid hg) (calm_changeFunction hid g)) h.rest rfl

/-- A function is connected with its script. -/
theorem moves_setFunctionScript (hfree : L.Free) (h : L.At c) (hchoice : L.scope.choice) {id : ObjectId}
    (hid : id.In c.extent) (script : ScriptId) (parameters : Nat) :
    L.Moves (setFunctionScript id script parameters) c fun _ _ => True := by
  have hinfo : L.Moves (discard (functionInfo id)) c fun _ c' => c' = c :=
    .discard (.imp h (moves_functionInfo hfree.refuses h id) fun _ _ _ _ h => h.1)
  refine .bind hL.within h hinfo ?_
  rintro _ _ - - rfl
  split
  · exact .bind hL.within h (.throw (Q := fun _ _ => False) h (hfree _ (by decide)))
      fun _ _ _ _ h => h.elim
  · refine .bind hL.within h (.mapM (R := fun s c' => s.In c'.extent) hL.within h ?_ ?_) ?_
    · exact fun s c' c'' h' hgood hs => hs.mono (hgood.grows h'.sound).extent
    · exact fun _ _ c' h' _ => .imp h' (moves_newSet h' hchoice) fun _ _ _ _ h => h.1
    · intro sets c' h' hgood hsets
      refine .imp h' (moves_changeFunction h' (hid.mono (hgood.grows h.sound).extent) ?_)
        fun _ _ _ _ _ => trivial
      intro f hf
      have hvalid := (h'.sound.valid.objects id).function f hf
      exact ⟨⟨rfl, rfl, fun _ ho => ho⟩, ⟨hvalid.returns, hvalid.thisTypes, hsets,
        hvalid.prototypeObject⟩, fun _ hp => .inl hp, .inl hchoice, fun _ hh => .inl hh⟩

/-- A function is made native. -/
theorem moves_setNativeHandler (hrefuses : L.Refuses) (h : L.At c) (hchoice : L.scope.choice) {id : ObjectId}
    (hid : id.In c.extent) {handler : Option String} (isGeneric : Bool)
    (hhandler : ∀ name, handler = some name → L.scope.handler c.extent name) :
    L.Moves (setNativeHandler id handler isGeneric) c fun _ _ => True := by
  have hinfo : L.Moves (discard (functionInfo id)) c fun _ c' => c' = c :=
    .discard (.imp h (moves_functionInfo hrefuses h id) fun _ _ _ _ h => h.1)
  refine .bind hL.within h hinfo ?_
  rintro _ _ - - rfl
  refine .imp h (moves_changeFunction h hid ?_) fun _ _ _ _ _ => trivial
  intro f hf
  have hvalid := (h.sound.valid.objects id).function f hf
  exact ⟨⟨rfl, rfl, fun _ ho => ho⟩, ⟨hvalid.returns, hvalid.thisTypes, hvalid.parameters,
    hvalid.prototypeObject⟩, fun _ hp => .inl hp, .inl hchoice, fun name hn =>
      .inr (hhandler name hn)⟩

end Lawful

end Compartment

end FlowTypes
