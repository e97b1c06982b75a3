import FlowTypes.Compartment.Instance
import FlowTypes.Proofs.Actions.Prototype

/-!
# How the objects of the engine are made

A builtin object, the prototype object of a function and the object for what is constructed are made
on first request.  Each has a name of its own, so that what is found by its name later is the same
object, and what is remembered is never forgotten.

## Main results

* `moves_builtin`: the builtin is remembered afterwards, and its object is the answer.
* `moves_newObjectOf`, `moves_prototypeObjectOf`, `moves_initializerObject`.
-/

namespace FlowTypes

namespace Compartment

variable {L : Law} {c : Compartment}

/-! ## Builtins -/

/-- A builtin that is remembered is found. -/
theorem builtin?_append {b : Builtin} (hnone : c.builtin? b = none) (id : ObjectId) :
    ({ c with builtins := c.builtins ++ [(b, id)] } : Compartment).builtin? b = some id := by
  rw [builtin?, Option.map_eq_none_iff] at hnone
  simp [builtin?, List.find?_append, hnone]

theorem builtin?_some {b : Builtin} {id : ObjectId} (h : c.builtin? b = some id) :
    (b, id) ∈ c.builtins := by
  obtain ⟨a, ha, rfl⟩ := Option.map_eq_some_iff.mp h
  have hb : a.1 = b := by simpa using List.find?_some ha
  rw [← hb]
  exact List.mem_of_find?_eq_some ha

theorem in_of_builtin? (hc : c.Valid) {b : Builtin} {id : ObjectId}
    (h : c.builtin? b = some id) : id.In c.extent :=
  hc.builtins _ (builtin?_some h)

/-- What is remembered of a builtin function. -/
def markBuiltin (f : FunctionInfo) : FunctionInfo := { f with isBuiltin := true }

theorem retooled_markBuiltin {sc : Scope} (hc : c.Valid) (id : ObjectId) {f : FunctionInfo}
    (hf : (c.object id).function = some f) : c.Retooled sc id f (markBuiltin f) := by
  have hvalid := (hc.objects id).function f hf
  exact ⟨⟨rfl, rfl, fun _ ho => ho⟩, ⟨hvalid.returns, hvalid.thisTypes, hvalid.parameters,
    hvalid.prototypeObject⟩, fun _ hp => .inl hp, .inr ⟨rfl, rfl⟩, fun _ hh => .inl hh⟩

/-- The object of a builtin is remembered. -/
def rememberBuiltin (c : Compartment) (b : Builtin) (id : ObjectId) : Compartment :=
  { c with builtins := c.builtins ++ [(b, id)] }.changeFunction id markBuiltin

section Remember

variable {b : Builtin} {id : ObjectId} (hid : id.In c.extent)
include hid

theorem did_rememberBuiltin {sc : Scope} (hc : c.Sound) (hname : c.objectName id = b.name)
    (hkind : (c.object id).isFunction = b.isFunction) (hnone : c.builtin? b = none)
    (hdemanded : c.Demanded sc b) : Did sc c (c.rememberBuiltin b id) := by
  have hfirst : Did sc c { c with builtins := c.builtins ++ [(b, id)] } :=
    .single (.builtin hid hname hnone hdemanded hkind)
  exact hfirst.trans (.single (.retool hid fun f hf =>
    retooled_markBuiltin (hfirst.sound hc).valid id hf))

theorem object_rememberBuiltin (o : ObjectId) :
    ((c.rememberBuiltin b id).object o).properties = (c.object o).properties ∧
      ((c.rememberBuiltin b id).object o).proto = (c.object o).proto ∧
      ((c.rememberBuiltin b id).object o).isUnknown = (c.object o).isUnknown := by
  have hcalm := calm_changeFunction (c := { c with builtins := c.builtins ++ [(b, id)] }) hid
    markBuiltin
  exact ⟨hcalm.properties o, hcalm.proto o, hcalm.unknown o⟩

omit hid in
theorem builtin?_rememberBuiltin_of_ne {d : Builtin} (hd : d ≠ b) :
    (c.rememberBuiltin b id).builtin? d = c.builtin? d := by
  show ((c.builtins ++ [(b, id)]).find? (·.1 == d)).map (·.2) = _
  rw [List.find?_append]
  simp [builtin?, Ne.symm hd]

/-- Once a builtin has its prototype, if it is to have one, everything is tidy. -/
theorem tidied_of_rememberBuiltin {c' : Compartment} (hnone : c.builtin? b = none)
    (hgrows : (c.rememberBuiltin b id).Grows c') (h : (c.rememberBuiltin b id).Tidied c')
    (hset : b.prototype? ≠ none → (c'.object id).proto ≠ none) : c.Tidied c' where
  wired o p hp := by
    refine (h.wired o p hp).imp_left ?_
    rw [(object_rememberBuiltin hid o).1]
    exact fun hp => hp
  inherited o q ho p hp := by
    refine (h.inherited o q ho p hp).imp_left ?_
    rw [(object_rememberBuiltin hid o).1, (object_rememberBuiltin hid o).2.1]
    exact fun h => h
  forgotten o ho := by
    refine (h.forgotten o ho).imp_left ?_
    rw [(object_rememberBuiltin hid o).2.2]
    exact fun ho => ho
  spread o q ho hunknown := by
    refine (h.spread o q ho hunknown).imp_left ?_
    rw [(object_rememberBuiltin hid o).2.1, (object_rememberBuiltin hid q).2.2]
    exact fun h => h
  builtins d k hd hp := by
    by_cases hdb : d = b
    · subst hdb
      have hfound : (c.rememberBuiltin d id).builtin? d = some id := builtin?_append hnone id
      rw [hgrows.builtin? hfound] at hd
      cases hd
      exact .inr (hset hp)
    · refine (h.builtins d k hd hp).imp_left ?_
      rw [builtin?_rememberBuiltin_of_ne hdb]
      exact fun hd => hd

end Remember

/-! ## Builtins that are set up -/

/-- What a builtin is like once it has been set up. -/
structure SetUp (c : Compartment) (b : Builtin) (id : ObjectId) : Prop where
  proto : b ≠ .objectPrototype → (c.object id).proto ≠ none
  unknown : b.isUntracked = true → (c.object id).isUnknown = true
  loose : b = .unknownArray → (c.object id).isPacked = false ∧ (c.object id).isDense = false

/-- A prototype stays a prototype, and what is unknown stays so. -/
theorem SetUp.of_grows {c' : Compartment} {b : Builtin} {id : ObjectId} (hgrows : c.Grows c')
    (h : c.SetUp b id)
    (hloose : b = .unknownArray → (c'.object id).isPacked = false ∧ (c'.object id).isDense = false) :
    c'.SetUp b id where
  proto hb := hgrows.proto_ne_none (h.proto hb)
  unknown hb := hgrows.isUnknown (h.unknown hb)
  loose := hloose

theorem prototype?_ne_none {b : Builtin} (h : b ≠ .objectPrototype) : b.prototype? ≠ none := by
  cases b <;> first | decide | exact absurd rfl h

/-- The builtins that others have as their prototypes are no arrays, and not those themselves. -/
theorem of_prototype? {b p : Builtin} (h : b.prototype? = some p) : p ≠ b ∧ p ≠ .unknownArray := by
  cases b <;> cases h <;> decide

/-- The object is that of a builtin.  If it was made on the way, it has been set up, and the same
holds of its prototype. -/
structure SetUpSince (c c' : Compartment) (b : Builtin) (id : ObjectId) : Prop where
  found : c'.builtin? b = some id
  setUp : c.builtin? b = none → c'.SetUp b id
  proto : c.builtin? b = none → ∀ p, b.prototype? = some p →
    ∃ k, c'.builtin? p = some k ∧ (c.builtin? p = none → c'.SetUp p k)

section Lawful

variable (hL : L.Lawful)
include hL

/-- The second half of setting a builtin up: what is never tracked is unknown from the start. -/
theorem moves_tailorBuiltin (hroom : L.Roomy) (h : L.At c) {b : Builtin}
    {id : ObjectId} (hfound : c.builtin? b = some id)
    (hset : b ≠ .objectPrototype → (c.object id).proto ≠ none) :
    L.Moves (do
      if b.isUntracked then markUnknown L.pass id
      if b = .unknownArray then modify (·.markNotPacked id true)
      return id) c fun x c' => x = id ∧ c'.SetUp b id := by
  have hid := in_of_builtin? h.sound.valid hfound
  have hlast : ∀ c', L.At c' → id.In c'.extent →
      (b ≠ .objectPrototype → (c'.object id).proto ≠ none) →
      (b.isUntracked = true → (c'.object id).isUnknown = true) → L.Moves (do
        if b = .unknownArray then modify (·.markNotPacked id true)
        return id) c' fun x c'' => x = id ∧ c''.SetUp b id := by
    intro c' h' hid' hproto hunknown
    by_cases hb : b = .unknownArray
    · rw [if_pos hb]
      refine .bind hL.within h' (moves_markNotPacked h' hid' true) ?_
      rintro _ c'' h'' hgood rfl
      have hloose := isLoose_markNotPacked hid'
      rw [ObjectInfo.isLoose, Bool.and_eq_true, Bool.not_eq_true', Bool.not_eq_true'] at hloose
      have hgrows := hgood.grows h'.sound
      exact .pure h'' ⟨rfl, fun hb => hgrows.proto_ne_none (hproto hb),
        fun hb => hgrows.isUnknown (hunknown hb), fun _ => ⟨hloose.2, hloose.1⟩⟩
    · rw [if_neg hb]
      exact .pure h' ⟨rfl, hproto, hunknown, fun h => absurd h hb⟩
  dsimp only
  by_cases hb : b.isUntracked = true
  · rw [if_pos hb]
    refine .bind hL.within h (moves_markUnknown hL hroom h hid (.untracked hb hfound)) ?_
    intro _ c' h' hgood hunknown
    have hgrows := hgood.grows h.sound
    exact hlast c' h' (hid.mono hgrows.extent) (fun hb => hgrows.proto_ne_none (hset hb))
      fun _ => hunknown
  · rw [if_neg hb]
    exact hlast c h hid hset fun h => absurd h hb

/-- A builtin that is found with its prototype has been set up, like that, once it is tailored. -/
theorem moves_finishBuiltin (hroom : L.Roomy) (h : L.At c) {c₀ : Compartment} {b : Builtin}
    {id : ObjectId} (hfound : c.builtin? b = some id)
    (hset : b ≠ .objectPrototype → (c.object id).proto ≠ none)
    (hprotos : ∀ p, b.prototype? = some p →
      ∃ k, c.builtin? p = some k ∧ (c₀.builtin? p = none → c.SetUp p k)) :
    L.Moves (do
      if b.isUntracked then markUnknown L.pass id
      if b = .unknownArray then modify (·.markNotPacked id true)
      return id) c fun x c' => x = id ∧ c₀.SetUpSince c' b id := by
  refine .imp h (moves_tailorBuiltin hL hroom h hfound hset) ?_
  rintro x c' - hgood ⟨rfl, hsetUp⟩
  have hgrows := hgood.grows h.sound
  refine ⟨rfl, hgrows.builtin? hfound, fun _ => hsetUp, fun _ p hp => ?_⟩
  obtain ⟨k, hk, hsince⟩ := hprotos p hp
  exact ⟨k, hgrows.builtin? hk,
    fun hnew => (hsince hnew).of_grows hgrows fun h => absurd h (of_prototype? hp).2⟩

omit hL in
/-- To remember a builtin that is set up thereafter is a tidy step. -/
theorem outcome_rememberBuiltin (hwithin : L.scope.Within L.failing) (h : L.At c) {c₀ : Compartment}
    {b : Builtin} {id : ObjectId} (hid : id.In c.extent) (hnone : c.builtin? b = none)
    (hdid : Did L.scope c (c.rememberBuiltin b id)) (hnew : c₀.builtin? b = none)
    {a : Action ObjectId} (ha : L.Moves a (c.rememberBuiltin b id) fun x c' =>
      x = id ∧ c₀.SetUpSince c' b id) :
    Outcome a (c.rememberBuiltin b id)
      (fun x c' => L.Good c c' ∧ L.Rest c'.worklist ∧ c₀.SetUpSince c' b x)
      fun e c' => Did L.failing c c' ∧ L.Rest c'.worklist ∧ L.Fails e := by
  refine ha.tidying hwithin h.sound hdid ⟨[], rfl, fun _ => List.not_mem_nil⟩ ?_
  rintro x c' hgood ⟨rfl, hsince⟩
  refine ⟨fun ht => tidied_of_rememberBuiltin hid hnone (hgood.grows (hdid.sound h.sound)) ht ?_,
    hsince⟩
  exact fun hp => (hsince.setUp hnew).proto fun hb => hp (hb ▸ rfl)

/-- A builtin is found, or made and remembered. -/
theorem moves_setUpBuiltin (hrefuses : L.Refuses) (h : L.At c) {b : Builtin}
    (hfunction : b.isFunction = true → L.scope.choice) (hdemanded : c.Demanded L.scope b)
    {makeProto : Option (Action ObjectId)} (hnoproto : makeProto = none → b.prototype? = none)
    (hproto : ∀ make, makeProto = some make → ∃ p, b.prototype? = some p ∧
      ∀ c', L.At c' → c.Grows c' → L.Moves make c' fun id c'' => c'.SetUpSince c'' p id) :
    L.Moves (setUpBuiltin L.pass b makeProto) c fun id c' => c.SetUpSince c' b id := by
  refine .get ?_
  cases hfound : c.builtin? b with
  | some id =>
    refine .pure h ⟨hfound, fun hnone => ?_, fun hnone => ?_⟩ <;>
    · rw [hfound] at hnone
      cases hnone
  | none =>
    refine .bind hL.within h (moves_typeObject hL hrefuses h (.inr (.inl ⟨b, rfl⟩)) hfunction
      (fun p hp => by cases hp) fun p hp => by cases hp) ?_
    rintro id c₁ h₁ hgood₁ ⟨⟨hid₁, hname, hkind⟩, hbuiltins, -⟩
    have hgrows₁ := hgood₁.grows h.sound
    have hnone : c₁.builtin? b = none := by
      rw [builtin?, hbuiltins rfl]
      exact hfound
    have hdid : Did L.scope c₁ (c₁.rememberBuiltin b id) :=
      did_rememberBuiltin hid₁ h₁.sound hname hkind hnone (hdemanded.later hgrows₁)
    have hgrows₂ := hdid.grows h₁.sound
    have h₂ : L.At (c₁.rememberBuiltin b id) := h₁.did hdid h₁.rest
    have hfound₂ : (c₁.rememberBuiltin b id).builtin? b = some id := builtin?_append hnone id
    refine outcome_modify.mpr (outcome_rememberBuiltin hL.within h₁ hid₁ hnone hdid hfound ?_)
    cases makeProto with
    | none =>
      have hnoproto := hnoproto rfl
      refine moves_finishBuiltin hL hrefuses.roomy h₂ hfound₂
        (fun hb => absurd hnoproto (prototype?_ne_none hb)) fun p hp => ?_
      rw [hnoproto] at hp
      cases hp
    | some make =>
      obtain ⟨p, hp, hmake⟩ := hproto make rfl
      refine .bind hL.within h₂ (hmake _ h₂ (hgrows₁.trans hgrows₂)) ?_
      intro proto c₃ h₃ hgood₃ hsince₃
      have hgrows₃ := hgood₃.grows h₂.sound
      -- The prototype was made after the builtin was remembered, unless it was there before.
      have hprotos : ∀ c', c₃.Grows c' → ∀ q, b.prototype? = some q →
          ∃ k, c'.builtin? q = some k ∧ (c.builtin? q = none → c'.SetUp q k) := by
        intro c' hgrows q hq
        obtain rfl : p = q := Option.some.inj (hp.symm.trans hq)
        refine ⟨proto, hgrows.builtin? hsince₃.found, fun hnew => ?_⟩
        refine (hsince₃.setUp ?_).of_grows hgrows fun h => absurd h (of_prototype? hp).2
        rw [builtin?_rememberBuiltin_of_ne (of_prototype? hp).1, builtin?, hbuiltins rfl]
        exact hnew
      refine .get ?_
      split
      · have hid₃ := (hid₁.mono hgrows₂.extent).mono hgrows₃.extent
        refine .bind hL.within h₃ (moves_addPrototype hL hrefuses h₃ hid₃
          (in_of_builtin? h₃.sound.valid hsince₃.found)
          (.builtin hp (hgrows₃.builtin? hfound₂) hsince₃.found)) ?_
        intro _ c₄ h₄ hgood₄ hset
        have hgrows₄ := hgood₄.grows h₃.sound
        refine moves_finishBuiltin hL hrefuses.roomy h₄
          (hgrows₄.builtin? (hgrows₃.builtin? hfound₂)) (fun _ => ?_) (hprotos c₄ hgrows₄)
        rw [hset]
        exact Option.some_ne_none _
      · rename_i hset
        exact moves_finishBuiltin hL hrefuses.roomy h₃ (hgrows₃.builtin? hfound₂)
          (fun _ hnone => hset (by rw [hnone]; rfl)) (hprotos c₃ (.refl c₃))

/-- The prototypes of a builtin are made first to last, each after the one that it belongs to. -/
theorem moves_makeBuiltin (hrefuses : L.Refuses) (h : L.At c) {b : Builtin} {ps : List Builtin}
    (hps : ps = b.lineage) (hfunction : ∀ p ∈ b :: ps, p.isFunction = true → L.scope.choice)
    (hdemanded : ∀ p ∈ b :: ps, c.Demanded L.scope p) :
    L.Moves (makeBuiltin L.pass b ps) c fun id c' => c.SetUpSince c' b id := by
  induction ps generalizing c b with
  | nil =>
    refine moves_setUpBuiltin hL hrefuses h (hfunction b List.mem_cons_self)
      (hdemanded b List.mem_cons_self) (fun _ => ?_) nofun
    cases hp : b.prototype? with
    | none => rfl
    | some p => rw [Builtin.lineage_of_prototype hp] at hps; cases hps
  | cons p ps ih =>
    refine moves_setUpBuiltin hL hrefuses h (hfunction b List.mem_cons_self)
      (hdemanded b List.mem_cons_self) nofun ?_
    rintro _ ⟨⟩
    cases hp : b.prototype? with
    | none => rw [Builtin.lineage_of_no_prototype hp] at hps; cases hps
    | some q =>
      rw [Builtin.lineage_of_prototype hp] at hps
      cases hps
      exact ⟨p, rfl, fun c' h' hgrows => ih h' rfl
        (fun q hq => hfunction q (List.mem_cons_of_mem _ hq))
        fun q hq => (hdemanded q (List.mem_cons_of_mem _ hq)).later hgrows⟩

theorem moves_builtin (hrefuses : L.Refuses) (h : L.At c) {b : Builtin}
    (hfunction : L.scope.choice ∨ ∀ p ∈ b :: b.lineage, p.isFunction = false)
    (hdemanded : ∀ p ∈ b :: b.lineage, c.Demanded L.scope p) :
    L.Moves (builtin L.pass b) c fun id c' => c.SetUpSince c' b id := by
  refine moves_makeBuiltin hL hrefuses h rfl (fun p hp hp' => ?_) hdemanded
  refine hfunction.resolve_right fun hnone => ?_
  rw [hnone p hp] at hp'
  cases hp'

omit hL in
/-- The prototypes of a prototype are prototypes. -/
theorem prototype_of_mem_lineage {b p : Builtin} (hb : b.category = .prototype)
    (hp : p ∈ b :: b.lineage) : p.category = .prototype := by
  have hall : ∀ q ∈ b :: b.lineage, q.category = .prototype := by
    cases b <;> first | decide | cases hb
  exact hall p hp

omit hL in
/-- A host that may make objects, or a call, has any builtin made that is a prototype. -/
theorem Demanded.of_makes {sc : Scope} (h : sc.grant.Makes ∨ c.Calls) {b : Builtin}
    (hb : b.category = .prototype) : c.Demanded sc b :=
  h.elim (fun h => .given (h.2 b hb)) fun h => .called h hb

/-! ## Objects made for functions and for code -/

/-- The object for what is constructed is found, or made and remembered.  It inherits from the object
that it is for, unless its name was taken. -/
theorem moves_newObjectOf (hrefuses : L.Refuses) (h : L.At c)
    (hmakes : L.scope.grant.Makes ∨ c.Calls) {id : ObjectId} (hid : id.In c.extent)
    (hname : L.scope.choice ∨
      ∃ o f, (c.object o).function = some f ∧ f.prototypeObject = some id) :
    L.Moves (newObjectOf L.pass id) c fun new c' =>
      new.In c'.extent ∧ (c'.object id).newObject = some new ∧
        (c.objectNamed? (c.objectName id ++ ":new") = none → (c'.object new).proto = some id) := by
  refine .get ?_
  dsimp only
  cases hnew : (c.object id).newObject with
  | some new =>
    have hin := (h.sound.valid.objects id).newObject new hnew
    refine .pure h ⟨hin, hnew, fun hfresh => ?_⟩
    exact absurd (h.sound.names.newObject id new hnew) (objectNamed?_none hfresh hin)
  | none =>
    have hnameable : L.scope.choice ∨ c.Nameable ((c.object id).name ++ ":new") := by
      refine hname.imp_right ?_
      rintro ⟨o, f, hf, hp⟩
      exact .inr (.inr ⟨o, f, id, hf, hp, rfl⟩)
    refine .bind hL.within h (moves_typeObject hL hrefuses h hnameable (fun h => by cases h) ?_
      fun p _ => hmakes.imp_left fun h => h.1 _ p) ?_
    · rintro p ⟨⟩
      exact hid
    · rintro new c₁ h₁ hgood₁ ⟨⟨hnew₁, hname₁, -⟩, -, hproto₁⟩
      have hgrows₁ := hgood₁.grows h.sound
      have hid₁ := hid.mono hgrows₁.extent
      have hnamed : c₁.objectName new = c₁.objectName id ++ ":new" := by
        rw [hname₁, objectName, hgrows₁.name id hid]
        rfl
      -- What has been remembered in the meantime has the same name.
      have hkept : ∀ n, (c₁.object id).newObject = some n → n = new := by
        intro n hn
        refine h₁.sound.names.unique n new ((h₁.sound.valid.objects id).newObject n hn) hnew₁ ?_
        rw [h₁.sound.names.newObject id n hn, hnamed]
      have hmemo : L.Good c₁ (c₁.changeObject id fun o => { o with newObject := some new }) :=
        .of_calm (.memo hid₁ hnew₁ hnamed hkept)
          (calm_changeObject hid₁ (fun _ => rfl) (fun _ => rfl) fun _ => rfl)
      have hremember : L.Moves (modify (·.changeObject id fun o => { o with newObject := some new }))
          c₁ fun _ c' => (c'.object id).newObject = some new := by
        refine .modify hmemo h₁.rest ?_
        rw [object_changeObject hid₁, if_pos rfl]
      refine .bind hL.within h₁ hremember ?_
      intro _ c₂ h₂ hgood₂ hkept
      have hgrows₂ := hgood₂.grows h₁.sound
      exact .pure h₂ ⟨hnew₁.mono hgrows₂.extent, hkept,
        fun hfresh => (hgrows₂.object new).proto id (hproto₁ hfresh id rfl)⟩

/-- The prototype object of a function is made and remembered, once the object that it inherits from
is there.  If its name was taken, the object that has it is remembered as it is. -/
theorem moves_makePrototypeObject (hrefuses : L.Refuses) (h : L.At c)
    (hmakes : L.scope.grant.Makes ∨ c.Calls) {id : ObjectId} (hid : id.In c.extent)
    {f : FunctionInfo} (hf : (c.object id).function = some f) {objectProto : ObjectId}
    (hproto : objectProto.In c.extent) :
    L.Moves (do
      let proto ← typeObject L.pass none (c.objectName id ++ ":prototype") false (some objectProto)
      modify (·.changeFunction id fun f => { f with prototypeObject := some proto })
      return proto) c fun proto c' =>
        (∃ f, (c'.object id).function = some f ∧ f.prototypeObject = some proto) ∧
          (c.objectNamed? (c.objectName id ++ ":prototype") = none →
            (c'.object proto).proto = some objectProto) := by
  have hnameable : c.Nameable (scopedName none (c.objectName id ++ ":prototype")) :=
    .inr (.inl ⟨id, f, hf, rfl⟩)
  refine .bind hL.within h (moves_typeObject hL hrefuses h (.inr hnameable) (fun h => by cases h) ?_
    fun p _ => hmakes.imp_left fun h => h.1 _ p) ?_
  · rintro p ⟨⟩
    exact hproto
  · rintro proto c₁ h₁ hgood₁ ⟨⟨hproto₁, hname₁, -⟩, -, hset₁⟩
    have hgrows₁ := hgood₁.grows h.sound
    have hid₁ := hid.mono hgrows₁.extent
    have hnamed : c₁.objectName proto = c₁.objectName id ++ ":prototype" := by
      rw [hname₁, objectName, objectName, hgrows₁.name id hid]
      rfl
    obtain ⟨f₁, hf₁, -⟩ := (hgrows₁.object id).function f hf
    have hretool : ∀ g, (c₁.object id).function = some g →
        c₁.Retooled L.scope id g { g with prototypeObject := some proto } := by
      intro g hg
      have hvalid := (h₁.sound.valid.objects id).function g hg
      refine ⟨⟨rfl, rfl, ?_⟩, ⟨hvalid.returns, hvalid.thisTypes, hvalid.parameters, ?_⟩, ?_,
        .inr ⟨rfl, rfl⟩, fun _ hh => .inl hh⟩
      · intro n hn
        have hnamed' := h₁.sound.names.prototypeObject id g n hg hn
        exact congrArg some (h₁.sound.names.unique n proto (hvalid.prototypeObject n hn) hproto₁
          (hnamed'.trans hnamed.symm)).symm
      · rintro n ⟨⟩
        exact hproto₁
      · rintro n ⟨⟩
        exact .inr hnamed
    refine .bind hL.within h₁ (moves_changeFunction h₁ hid₁ hretool) ?_
    rintro _ c₂ h₂ hgood₂ rfl
    refine .pure h₂ ⟨⟨{ f₁ with prototypeObject := some proto }, ?_, rfl⟩, fun hfresh => ?_⟩
    · rw [changeFunction, object_changeObject hid₁, if_pos rfl]
      exact congrArg (Option.map _) hf₁
    · exact ((hgood₂.grows h₁.sound).object proto).proto objectProto (hset₁ hfresh objectProto rfl)

/-- The prototype object of a function is found, or made and remembered. -/
theorem moves_prototypeObjectOf (hrefuses : L.Refuses) (h : L.At c)
    (hmakes : L.scope.grant.Makes ∨ c.Calls) {id : ObjectId} (hid : id.In c.extent) :
    L.Moves (prototypeObjectOf L.pass id) c fun proto c' => ∃ f,
      (c'.object id).function = some f ∧ f.prototypeObject = some proto := by
  refine .bind hL.within h (moves_functionInfo hrefuses h id) ?_
  rintro f _ - - ⟨rfl, hf⟩
  cases hproto : f.prototypeObject with
  | some proto => exact .pure h ⟨f, hf, hproto⟩
  | none =>
    refine .bind hL.within h (moves_builtin hL hrefuses h (b := .objectPrototype) (.inr (by decide))
      fun p hp => .of_makes hmakes (prototype_of_mem_lineage rfl hp)) ?_
    rintro objectProto c₁ h₁ hgood₁ ⟨hfound⟩
    refine .get ?_
    have hgrows₁ := hgood₁.grows h.sound
    obtain ⟨f₁, hf₁, -⟩ := (hgrows₁.object id).function f hf
    refine .imp h₁ (moves_makePrototypeObject hL hrefuses h₁ (hmakes.imp_right (Calls.mono hgrows₁))
      (hid.mono hgrows₁.extent) hf₁ (in_of_builtin? h₁.sound.valid hfound)) ?_
    exact fun _ _ _ _ hmade => hmade.1

/-- The object of an initializer is made and remembered, once the object that it inherits from is
there.  If its name was taken, the object that has it is remembered as it is. -/
theorem moves_makeInitializer (hrefuses : L.Refuses) (h : L.At c) (hchoice : L.scope.choice)
    (hmakes : L.scope.grant.Makes) (code : Location) (isArray : Bool) {proto : ObjectId}
    (hproto : proto.In c.extent) :
    L.Moves (do
      let id ← typeObject L.pass (some code.script)
        (Location.offsetText code.offset ++ if isArray then ":Array" else ":Object") false (some proto)
      if isArray then modify (·.changeObject id fun o => { o with isPossiblyPacked := true })
      modify fun c => { c with initializers := ((code, isArray), id) :: c.initializers }
      return id) c fun id c' =>
        id.In c'.extent ∧ c'.objectName id = initializerName code isArray ∧
          (c.objectNamed? (initializerName code isArray) = none →
            (c'.object id).proto = some proto) := by
  refine .bind hL.within h (moves_typeObject hL hrefuses h (.inl hchoice) (fun _ => hchoice) ?_
    fun p _ => .inl (hmakes.1 _ p)) ?_
  · rintro p ⟨⟩
    exact hproto
  · rintro id c₁ h₁ hgood₁ ⟨⟨hid, hname, -⟩, -, hset⟩
    -- What is made is remembered last, and stays as it is.
    have hlast : ∀ c', L.At c' → c₁.Grows c' → L.Moves (do
        modify fun c => { c with initializers := ((code, isArray), id) :: c.initializers }
        return id) c' fun x c'' => x.In c''.extent ∧
          c''.objectName x = initializerName code isArray ∧
            (c.objectNamed? (initializerName code isArray) = none →
              (c''.object x).proto = some proto) := by
      intro c' h' hgrows
      have hid' := hid.mono hgrows.extent
      have hname' : c'.objectName id = initializerName code isArray :=
        (hgrows.name id hid).trans hname
      have haside : c'.Aside
          { c' with initializers := ((code, isArray), id) :: c'.initializers } := by
        refine ⟨rfl, rfl, rfl, rfl, rfl, rfl, fun _ h => h,
          ⟨[], rfl, fun _ h => absurd h List.not_mem_nil⟩, fun h => h, ?_, fun _ h => .inl h,
          Nat.le_refl _, fun _ h => .inl h, fun _ h => .inl h, fun h => h⟩
        intro i hi
        obtain rfl | hi := List.mem_cons.mp hi
        · exact .inr ⟨hid', hname'⟩
        · exact .inl hi
      have hcalm : c'.Calm { c' with initializers := ((code, isArray), id) :: c'.initializers } :=
        .of_objects rfl rfl ⟨[], rfl, fun _ => List.not_mem_nil⟩
      have hremember : L.Moves (modify fun c =>
          { c with initializers := ((code, isArray), id) :: c.initializers }) c'
            fun _ _ => True := .modify (.of_calm (.aside haside) hcalm) h'.rest trivial
      refine .bind hL.within h' hremember ?_
      intro _ c'' h'' hgood _
      have hgrows' := hgrows.trans (hgood.grows h'.sound)
      exact .pure h'' ⟨hid.mono hgrows'.extent, (hgrows'.name id hid).trans hname,
        fun hfresh => (hgrows'.object id).proto proto (hset hfresh proto rfl)⟩
    by_cases harray : isArray = true
    · rw [if_pos harray]
      have hcalm : c₁.Calm (c₁.changeObject id fun o => { o with isPossiblyPacked := true }) :=
        calm_changeObject hid (fun _ => rfl) (fun _ => rfl) fun _ => rfl
      have hmark : L.Moves (modify (·.changeObject id fun o => { o with isPossiblyPacked := true }))
          c₁ fun _ _ => True :=
        .modify (.of_calm (.possiblyPacked hchoice hid) hcalm) h₁.rest trivial
      refine .bind hL.within h₁ hmark ?_
      exact fun _ c₂ h₂ hgood₂ _ => hlast c₂ h₂ (hgood₂.grows h₁.sound)
    · rw [if_neg harray]
      exact hlast c₁ h₁ (.refl c₁)

/-- The objects of initializers are named for the place and the sort of the initializer. -/
def InitializersNamed (c : Compartment) : Prop :=
  ∀ i ∈ c.initializers, c.objectName i.2 = initializerName i.1.1 i.1.2

omit hL in
/-- An initializer whose object is remembered. -/
theorem mem_initializers {code : Location} {isArray : Bool} {id : ObjectId}
    (h : c.initializer? code isArray = some id) : ((code, isArray), id) ∈ c.initializers := by
  obtain ⟨⟨key, id⟩, hi, rfl⟩ := Option.map_eq_some_iff.mp h
  obtain rfl : key = (code, isArray) := by simpa using List.find?_some hi
  exact List.mem_of_find?_eq_some hi

/-- The object of an initializer is found, or made and remembered. -/
theorem moves_initializerObject (hrefuses : L.Refuses) (h : L.At c) (hchoice : L.scope.choice)
    (hmakes : L.scope.grant.Makes) (code : Location) (isArray : Bool) :
    L.Moves (initializerObject L.pass code isArray) c fun id c' => id.In c'.extent ∧
      (c.InitializersNamed → c'.objectName id = initializerName code isArray) := by
  refine .get ?_
  cases hfound : c.initializer? code isArray with
  | some id =>
    have hi := mem_initializers hfound
    exact .pure h ⟨h.sound.valid.initializers _ hi, fun hnamed => hnamed _ hi⟩
  | none =>
    refine .bind hL.within h (moves_builtin hL hrefuses h (.inl hchoice)
      fun p hp => .of_makes (.inl hmakes) (prototype_of_mem_lineage ?_ hp)) ?_
    · cases isArray <;> rfl
    rintro proto c₁ h₁ - ⟨hproto⟩
    refine .imp h₁ (moves_makeInitializer hL hrefuses h₁ hchoice hmakes code isArray
      (in_of_builtin? h₁.sound.valid hproto)) ?_
    exact fun _ _ _ _ hmade => ⟨hmade.1, fun _ => hmade.2.1⟩

end Lawful

end Compartment

end FlowTypes
