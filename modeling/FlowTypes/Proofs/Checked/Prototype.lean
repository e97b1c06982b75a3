import FlowTypes.Proofs.Actions.Instance
import FlowTypes.Proofs.Checked.Unknown

/-!
# Prototypes and new objects, checked

The checked actions that link objects to their prototypes, make objects, and remember the objects
that were made for others.

## Main results

* `tracks_link`, `tracks_addPrototype`: an array becomes dense and packed at once.
* `tracks_typeObject`: an object is made behind all others, so its prototype is another one.
* `tracks_builtin`, `tracks_newObjectOf`, `tracks_prototypeObjectOf`, `tracks_initializerObject`: what
  is remembered is in the table.
-/

namespace FlowTypes

namespace Checked

/-! ## Actions -/

def setProto (id proto : ObjectId) : Checked Unit := do
  changeObject proto fun o => { o with instances := o.instances ++ [id] }
  changeObject id fun o => { o with proto := some proto }
  discard <| objectName id
  discard <| objectName proto
  modify (·.record (.prototypeLinked id proto))

def classifyArray (id : ObjectId) : Checked Unit := do
  let o ← objectAt id
  if (← isArray id) && !o.isUnknown then
    changeObject id fun o => { o with isDense := true, isPacked := true }
  else pure ()

def functionInfo (id : ObjectId) : Checked FunctionInfo := do
  let o ← objectAt id
  match o.function with
  | some f => return f
  | none => throw (.notAFunction o.name)

def setFunctionScript (id : ObjectId) (script : ScriptId) (parameters : Nat) : Checked Unit := do
  discard <| functionInfo id
  if Compartment.parameterBound ≤ parameters then throw (.outOfMemory "argument list")
  let sets ← (List.range parameters).mapM fun _ => lift Compartment.newSet
  changeFunction id fun f => { f with script := some script, parameters := sets }

def setNativeHandler (id : ObjectId) (handler : Option String) (isGeneric : Bool) :
    Checked Unit := do
  discard <| functionInfo id
  changeFunction id fun f => { f with script := none, handler, isGeneric }

section Actions

variable (pass : Checked Unit)

def link (id proto : ObjectId) : Checked Unit := do
  setProto id proto
  let o ← objectAt proto
  if o.isUnknown then markUnknown pass id
  else
    let o ← objectAt id
    o.properties.forM fun p => do
      let inherited ← getProperty pass proto p.key false
      addSubset pass inherited p.types
    classifyArray id

def addPrototype (id proto : ObjectId) : Checked Unit := do
  let o ← objectAt id
  let above ← chain proto
  if o.proto.isSome then throw (.prototypeAlreadySet o.name)
  else if (proto :: above).contains id then
    throw (.prototypeCycle o.name (← objectName proto))
  else link pass id proto

def typeObject (script : Option ScriptId) (name : String) (isFunction : Bool)
    (proto : Option ObjectId) : Checked ObjectId := do
  let name := Compartment.scopedName script name
  match (← get).objectNamed? name with
  | some id =>
    let o ← objectAt id
    match isFunction, o.isFunction with
    | true, false => throw (.notAFunction name)
    | false, true => throw (.unexpectedFunction name)
    | _, _ => return id
  | none =>
    let function ←
      if isFunction then do
        let returns ← lift Compartment.newSet
        let thisTypes ← lift Compartment.newSet
        pure (some { returns, thisTypes })
      else pure none
    let id ← lift (Compartment.newObject name function)
    if let some proto := proto then
      link pass id proto
    return id

def setUpBuiltin (b : Builtin) (makeProto : Option (Checked ObjectId)) : Checked ObjectId := do
  match (← get).builtin? b with
  | some id => return id
  | none =>
    let id ← typeObject pass none b.name b.isFunction none
    modify fun c => { c with builtins := c.builtins ++ [(b, id)] }
    changeFunction id fun f => { f with isBuiltin := true }
    if let some makeProto := makeProto then
      let proto ← makeProto
      let o ← objectAt id
      if o.proto.isNone then
        addPrototype pass id proto
    if b.isUntracked then markUnknown pass id
    if b = .unknownArray then markNotPacked id true
    return id

def makeBuiltin (b : Builtin) : List Builtin → Checked ObjectId
  | [] => setUpBuiltin pass b none
  | p :: rest => setUpBuiltin pass b (some (makeBuiltin p rest))

def builtin (b : Builtin) : Checked ObjectId := makeBuiltin pass b b.lineage

def newObjectOf (id : ObjectId) : Checked ObjectId := do
  let o ← objectAt id
  match o.newObject with
  | some new => return new
  | none =>
    let new ← typeObject pass none (o.name ++ ":new") false (some id)
    changeObject id fun o => { o with newObject := some new }
    return new

def prototypeObjectOf (function : ObjectId) : Checked ObjectId := do
  let f ← functionInfo function
  match f.prototypeObject with
  | some proto => return proto
  | none =>
    let objectProto ← builtin pass .objectPrototype
    let name ← objectName function
    let proto ← typeObject pass none (name ++ ":prototype") false (some objectProto)
    changeFunction function fun f => { f with prototypeObject := some proto }
    return proto

def initializerObject (code : Location) (isArray : Bool) : Checked ObjectId := do
  match (← get).initializer? code isArray with
  | some id => return id
  | none =>
    let proto ← builtin pass (if isArray then .arrayPrototype else .objectPrototype)
    let name := Location.offsetText code.offset ++ (if isArray then ":Array" else ":Object")
    let id ← typeObject pass (some code.script) name false (some proto)
    if isArray then changeObject id fun o => { o with isPossiblyPacked := true }
    modify fun c => { c with initializers := ((code, isArray), id) :: c.initializers }
    return id

end Actions

end Checked

/-! ## Intact changes -/

namespace Compartment

variable {c : Compartment}

theorem later_setProto (id proto : ObjectId) : c.Later (c.setProto id proto) :=
  ((later_changeObject proto _).trans (later_changeObject id _)).trans (later_record _)

theorem Intact.setProto (hc : c.Intact) {id proto : ObjectId} (hid : id.In c.extent)
    (hproto : proto.In c.extent) (hne : id ≠ proto) : (c.setProto id proto).Intact := by
  refine hc.of_valid (hc.toValid.setProto hid hproto hne) fun o ho => .inr ?_
  have hflags : ((c.setProto id proto).object o).isDense = (c.object o).isDense ∧
      ((c.setProto id proto).object o).isPacked = (c.object o).isPacked := by
    rw [object_setProto hid hproto hne]
    exact ⟨rfl, rfl⟩
  rw [hflags.2] at ho
  exact ⟨hflags.1, ho⟩

theorem Intact.classify (hc : c.Intact) {id : ObjectId} (hid : id.In c.extent) :
    (c.classify id).Intact :=
  have ho := hc.objects id
  hc.changeObject hid (f := fun o => { o with isDense := true, isPacked := true })
    ⟨ho.properties, ho.proto, ho.instances, ho.newObject, ho.function⟩ fun _ => rfl

/-- A new object has no handles but those of its function, and is no array yet. -/
theorem Intact.newObject (hc : c.Intact) (name : String) {function : Option FunctionInfo}
    (hfunction : ∀ f ∈ function, f.Valid c.extent) : (c.pushObject name function).Intact := by
  have hvalid : ObjectInfo.Valid c.extent { name, function } :=
    ⟨fun _ h => absurd h List.not_mem_nil, fun _ h => (nomatch h), fun _ h => absurd h List.not_mem_nil,
      fun _ h => (nomatch h), hfunction⟩
  refine hc.of_valid ((hc.toValid.pushObject hvalid).record _) fun o ho => ?_
  rw [object_pushObject] at ho ⊢
  split at ho
  · cases ho
  · rename_i hne
    rw [if_neg hne]
    exact .inr ⟨rfl, ho⟩

/-- A later record of a function has handles that exist. -/
theorem Intact.changeFunction (hc : c.Intact) {id : ObjectId} (hid : id.In c.extent)
    {g : FunctionInfo → FunctionInfo}
    (hg : ∀ f, (c.object id).function = some f → (g f).Valid c.extent) :
    (c.changeFunction id g).Intact := by
  have ho := hc.objects id
  refine hc.changeObject hid ⟨ho.properties, ho.proto, ho.instances, ho.newObject, ?_⟩ (hc.dense id)
  intro f hf
  obtain ⟨f', hf', rfl⟩ := Option.map_eq_some_iff.mp hf
  exact hg f' hf'

/-- More objects are remembered, as those of builtins or of initializers. -/
theorem Intact.remember (hc : c.Intact) {builtins : List (Builtin × ObjectId)}
    {initializers : List ((Location × Bool) × ObjectId)}
    (hbuiltins : ∀ b ∈ builtins, b ∈ c.builtins ∨ b.2.In c.extent)
    (hinitializers : ∀ i ∈ initializers, i ∈ c.initializers ∨ i.2.In c.extent) :
    Intact { c with builtins, initializers } :=
  hc.of_objects (hc.toValid.extend ⟨.refl _, fun _ => .inl rfl, fun _ => .inl rfl,
    fun _ => .inl rfl, fun _ => .inl rfl, hbuiltins, hinitializers, fun _ h => .inl h,
    fun _ h => .inl h, fun _ h => .inl h, fun h => h, fun _ h => .inl h⟩) rfl

end Compartment

/-! ## Keeping up -/

namespace Checked

variable {c : Compartment}

theorem gives_setProto {id proto : ObjectId} (hid : id.In c.extent) (hproto : proto.In c.extent) :
    Gives (setProto id proto) c ⟨⟩ (c.setProto id proto) := by
  have hlater := Compartment.later_changeObject (c := c) proto
    fun o => { o with instances := o.instances ++ [id] }
  refine (gives_changeObject hproto _).bind ((gives_changeObject (hid.mono hlater.extent) _).bind ?_)
  refine Reads.gives (reads_objectName ?_).discard (Reads.gives (reads_objectName ?_).discard
    (.modify _))
  · rwa [Compartment.extent_changeObject, Compartment.extent_changeObject]
  · rwa [Compartment.extent_changeObject, Compartment.extent_changeObject]

theorem tracks_classifyArray (hc : c.Intact) {id : ObjectId} (hid : id.In c.extent) :
    Tracks c (fun _ _ => True) (classifyArray id c)
      ((modify (·.classifyArray id) : Action Unit) c) := by
  refine .step (reads_objectAt hid) (.step (reads_isArray hc.toValid hid) ?_)
  show Tracks c (fun _ _ => True) _ (.ok PUnit.unit, c.classifyArray id)
  rw [Compartment.classifyArray]
  by_cases harray : (c.isArray id && !(c.object id).isUnknown) = true
  · rw [if_pos harray, if_pos harray,
      gives_changeObject hid fun o => { o with isDense := true, isPacked := true }]
    exact .same (Compartment.later_changeObject id _) (hc.classify hid) fun _ _ => trivial
  · rw [if_neg harray, if_neg harray]
    exact .same (.refl c) hc fun _ _ => trivial

theorem tracks_newObject (hc : c.Intact) (name : String) {function : Option FunctionInfo}
    (hfunction : ∀ f ∈ function, f.Valid c.extent) :
    Tracks c (fun id c' => id.In c'.extent ∧ ¬ id.In c.extent)
      (lift (Compartment.newObject name function) c) (Compartment.newObject name function c) := by
  have hsize : (c.objects.push { name, function }).size = c.objects.size + 1 := Array.size_push _
  have hwithin : c.extent.Within (c.pushObject name function).extent :=
    (Compartment.grows_pushObject (c := c) { name, function }).extent
  refine .lift ⟨hwithin, rfl⟩ (hc.newObject name hfunction) ?_
  rintro _ ⟨⟩
  refine ⟨?_, Nat.lt_irrefl c.objects.size⟩
  show c.objects.size < (c.objects.push { name, function }).size
  omega

theorem tracks_functionInfo (hc : c.Intact) {id : ObjectId} (hid : id.In c.extent) :
    Tracks c (fun f c' => c' = c ∧ (c.object id).function = some f) (functionInfo id c)
      (Compartment.functionInfo id c) := by
  refine .step (reads_objectAt hid) (.get ?_)
  cases hf : (c.object id).function with
  | some f => exact .pure hc ⟨rfl, rfl⟩
  | none => exact .throw hc

theorem tracks_changeFunction (hc : c.Intact) {id : ObjectId} (hid : id.In c.extent)
    {g : FunctionInfo → FunctionInfo}
    (hg : ∀ f, (c.object id).function = some f → (g f).Valid c.extent) :
    Tracks c (fun _ _ => True) (changeFunction id g c)
      ((modify (·.changeFunction id g) : Action Unit) c) :=
  .change (gives_changeFunction hid g) (Compartment.later_changeObject id _)
    (hc.changeFunction hid hg) trivial

theorem tracks_setFunctionScript (hc : c.Intact) {id : ObjectId} (hid : id.In c.extent)
    (script : ScriptId) (parameters : Nat) :
    Tracks c (fun _ _ => True) (setFunctionScript id script parameters c)
      (Compartment.setFunctionScript id script parameters c) := by
  refine .bind ((tracks_functionInfo hc hid).imp fun _ _ _ _ _ => trivial).discard
    fun _ c₁ hc₁ hlater₁ _ => ?_
  by_cases hbound : Compartment.parameterBound ≤ parameters
  · rw [if_pos hbound, if_pos hbound]
    exact .throw hc₁
  · rw [if_neg hbound, if_neg hbound]
    refine .bind (.mapM hc₁ (R := fun s c' => s.In c'.extent)
      (fun _ _ _ hlater hs => hs.mono hlater.extent) fun _ _ _ hc' _ => tracks_newSet hc') ?_
    intro sets c₂ hc₂ hlater₂ hsets
    have hid₂ := (hid.mono hlater₁.extent).mono hlater₂.extent
    refine tracks_changeFunction hc₂ hid₂ fun f hf => ?_
    have hf := (hc₂.objects id).function f hf
    exact ⟨hf.returns, hf.thisTypes, hsets, hf.prototypeObject⟩

theorem tracks_setNativeHandler (hc : c.Intact) {id : ObjectId} (hid : id.In c.extent)
    (handler : Option String) (isGeneric : Bool) :
    Tracks c (fun _ _ => True) (setNativeHandler id handler isGeneric c)
      (Compartment.setNativeHandler id handler isGeneric c) := by
  refine .bind ((tracks_functionInfo hc hid).imp fun _ _ _ _ _ => trivial).discard
    fun _ c₁ hc₁ hlater₁ _ => ?_
  refine tracks_changeFunction hc₁ (hid.mono hlater₁.extent) fun f hf => ?_
  have hf := (hc₁.objects id).function f hf
  exact ⟨hf.returns, hf.thisTypes, hf.parameters, hf.prototypeObject⟩

section Passes

variable {pass' : Checked Unit} {pass : Action Unit} (hpass : Parallel pass' pass)
include hpass

theorem tracks_link (hc : c.Intact) {id proto : ObjectId} (hid : id.In c.extent)
    (hproto : proto.In c.extent) (hne : id ≠ proto) :
    Tracks c (fun _ _ => True) (link pass' id proto c) (Compartment.link pass id proto c) := by
  have hc₁ := hc.setProto hid hproto hne
  have hlater₁ := Compartment.later_setProto (c := c) id proto
  have hid₁ := hid.mono hlater₁.extent
  have hproto₁ := hproto.mono hlater₁.extent
  refine .step (gives_setProto hid hproto) (.step (reads_objectAt hproto₁) ?_)
  refine .modifies (.get (.after hlater₁ (.ite (fun _ => tracks_markUnknown hpass hc₁ hid₁) fun _ => ?_)))
  refine .step (reads_objectAt hid₁) (.bind (.forM hc₁ fun p hp c₂ hc₂ hlater₂ => ?_) ?_)
  · have hp := (hc₁.objects id).properties p hp
    refine .bind (tracks_getProperty hpass hc₂ (hproto₁.mono hlater₂.extent) p.key false) ?_
    intro inherited c₃ hc₃ hlater₃ hinherited
    exact tracks_addSubset hpass hc₃ hinherited (hp.types.mono (hlater₂.trans hlater₃).extent)
  · exact fun _ c₂ hc₂ hlater₂ _ => tracks_classifyArray hc₂ (hid₁.mono hlater₂.extent)

theorem tracks_addPrototype (hc : c.Intact) {id proto : ObjectId} (hid : id.In c.extent)
    (hproto : proto.In c.extent) :
    Tracks c (fun _ _ => True) (addPrototype pass' id proto c)
      (Compartment.addPrototype pass id proto c) := by
  refine .step (reads_objectAt hid) (.step (reads_chain hc.toValid hproto) (.get ?_))
  refine .ite (fun _ => .throw hc) fun _ => .ite (fun _ => ?_) fun hcycle => ?_
  · exact .step (reads_objectName hproto) (.throw hc)
  · refine tracks_link hpass hc hid hproto ?_
    rintro rfl
    exact hcycle (List.contains_iff_mem.mpr List.mem_cons_self)

theorem tracks_typeObject (hc : c.Intact) (script : Option ScriptId) (name : String)
    (isFunction : Bool) {proto : Option ObjectId} (hproto : ∀ p ∈ proto, p.In c.extent) :
    Tracks c (fun id c' => id.In c'.extent) (typeObject pass' script name isFunction proto c)
      (Compartment.typeObject pass script name isFunction proto c) := by
  -- What is done once the record of the function is there, if there is to be one.
  have hmake : ∀ (function : Option FunctionInfo) (c₁ : Compartment), c₁.Intact → c.Later c₁ →
      (∀ f ∈ function, f.Valid c₁.extent) → Tracks c₁ (fun id c' => id.In c'.extent)
        ((do
          let id ← lift (Compartment.newObject (Compartment.scopedName script name) function)
          if let some proto := proto then
            link pass' id proto
          return id : Checked ObjectId) c₁)
        ((do
          let id ← Compartment.newObject (Compartment.scopedName script name) function
          if let some proto := proto then
            Compartment.link pass id proto
          return id : Action ObjectId) c₁) := by
    intro function c₁ hc₁ hlater₁ hvalid
    refine .bind (tracks_newObject hc₁ _ hvalid) fun id c₂ hc₂ hlater₂ hid => ?_
    cases proto with
    | none => exact .pure hc₂ hid.1
    | some p =>
      have hp₁ := (hproto p rfl).mono hlater₁.extent
      refine .bind (tracks_link hpass hc₂ hid.1 (hp₁.mono hlater₂.extent) ?_) ?_
      · rintro rfl
        exact hid.2 hp₁
      · exact fun _ c₃ hc₃ hlater₃ _ => .pure hc₃ (hid.1.mono hlater₃.extent)
  refine .step .get (.get ?_)
  cases hfound : c.objectNamed? (Compartment.scopedName script name) with
  | some id =>
    have hid := (Compartment.objectNamed?_some hfound).1
    refine .step (reads_objectAt hid) ?_
    dsimp only
    cases isFunction <;> cases (c.object id).isFunction
    · exact .pure hc hid
    · exact .throw hc
    · exact .throw hc
    · exact .pure hc hid
  | none =>
    refine .ite (fun _ => ?_) fun _ => hmake none c hc (.refl c) fun _ h => (nomatch h)
    refine .bind (tracks_newSet hc) fun returns c₁ hc₁ hlater₁ hreturns => ?_
    refine .bind (tracks_newSet hc₁) fun thisTypes c₂ hc₂ hlater₂ hthis => ?_
    refine hmake (some { returns, thisTypes }) c₂ hc₂ (hlater₁.trans hlater₂) ?_
    rintro _ ⟨⟩
    exact ⟨hreturns.mono hlater₂.extent, hthis, fun _ h => absurd h List.not_mem_nil,
      fun _ h => (nomatch h)⟩

/-- The second half of setting a builtin up. -/
theorem tracks_tailorBuiltin (hc : c.Intact) (b : Builtin) {id : ObjectId} (hid : id.In c.extent) :
    Tracks c (fun id c' => id.In c'.extent)
      ((do
        if b.isUntracked then markUnknown pass' id
        if b = .unknownArray then markNotPacked id true
        return id : Checked ObjectId) c)
      ((do
        if b.isUntracked then Compartment.markUnknown pass id
        if b = .unknownArray then modify (·.markNotPacked id true)
        return id : Action ObjectId) c) := by
  have hlast : ∀ c₁ : Compartment, c₁.Intact → c.Later c₁ →
      Tracks c₁ (fun id c' => id.In c'.extent)
        ((do
          if b = .unknownArray then markNotPacked id true
          return id : Checked ObjectId) c₁)
        ((do
          if b = .unknownArray then modify (·.markNotPacked id true)
          return id : Action ObjectId) c₁) := by
    intro c₁ hc₁ hlater₁
    have hid₁ := hid.mono hlater₁.extent
    refine .ite (fun _ => ?_) fun _ => .pure hc₁ hid₁
    have hlater := Compartment.later_markNotPacked (c := c₁) id true
    refine .step (gives_markNotPacked hc₁ hid₁ true) (.modifies (.after hlater ?_))
    exact .pure (hc₁.markNotPacked hid₁ true) (hid₁.mono hlater.extent)
  refine .ite (fun _ => ?_) fun _ => hlast c hc (.refl c)
  exact .bind (tracks_markUnknown hpass hc hid) fun _ c₁ hc₁ hlater₁ _ => hlast c₁ hc₁ hlater₁

theorem tracks_setUpBuiltin (hc : c.Intact) (b : Builtin) {makeProto' : Option (Checked ObjectId)}
    {makeProto : Option (Action ObjectId)}
    (hproto : (makeProto' = none ∧ makeProto = none) ∨ ∃ make' make, makeProto' = some make' ∧
      makeProto = some make ∧ ∀ c' : Compartment, c'.Intact →
        Tracks c' (fun id c'' => id.In c''.extent) (make' c') (make c')) :
    Tracks c (fun id c' => id.In c'.extent) (setUpBuiltin pass' b makeProto' c)
      (Compartment.setUpBuiltin pass b makeProto c) := by
  refine .step .get (.get ?_)
  cases hfound : c.builtin? b with
  | some id => exact .pure hc (Compartment.in_of_builtin? hc.toValid hfound)
  | none =>
    refine .bind (tracks_typeObject hpass hc none b.name b.isFunction fun _ h => (nomatch h))
      fun id c₁ hc₁ hlater₁ hid => ?_
    let remembered : Compartment := { c₁ with builtins := c₁.builtins ++ [(b, id)] }
    have hremembered : remembered.Intact := by
      refine hc₁.remember (fun p hp => (List.mem_append.mp hp).imp_right fun hp => ?_) fun _ h => .inl h
      rw [List.mem_singleton.mp hp]
      exact hid
    have hid' : id.In remembered.extent := hid
    have hc₂ : (c₁.rememberBuiltin b id).Intact := by
      refine hremembered.changeFunction hid' (g := Compartment.markBuiltin) fun f hf => ?_
      have hf := (hremembered.objects id).function f hf
      exact ⟨hf.returns, hf.thisTypes, hf.parameters, hf.prototypeObject⟩
    have hlater₂ : c₁.Later (c₁.rememberBuiltin b id) :=
      (Compartment.Later.of_extent rfl rfl : c₁.Later remembered).trans
        (Compartment.later_changeObject id _)
    have hid₂ := hid.mono hlater₂.extent
    refine .step (.modify _) (.step (gives_changeFunction hid' _) (.modifies (.after hlater₂ ?_)))
    obtain ⟨rfl, rfl⟩ | ⟨make', make, rfl, rfl, hmake⟩ := hproto
    · exact tracks_tailorBuiltin hpass hc₂ b hid₂
    · refine .bind (hmake _ hc₂) fun proto c₃ hc₃ hlater₃ hproto => ?_
      have hid₃ := hid₂.mono hlater₃.extent
      refine .step (reads_objectAt hid₃) (.get (.ite (fun _ => ?_) fun _ => ?_))
      · exact .bind (tracks_addPrototype hpass hc₃ hid₃ hproto) fun _ c₄ hc₄ hlater₄ _ =>
          tracks_tailorBuiltin hpass hc₄ b (hid₃.mono hlater₄.extent)
      · exact tracks_tailorBuiltin hpass hc₃ b hid₃

theorem tracks_makeBuiltin (hc : c.Intact) (b : Builtin) (ps : List Builtin) :
    Tracks c (fun id c' => id.In c'.extent) (makeBuiltin pass' b ps c)
      (Compartment.makeBuiltin pass b ps c) := by
  induction ps generalizing c b with
  | nil => exact tracks_setUpBuiltin hpass hc b (.inl ⟨rfl, rfl⟩)
  | cons p ps ih =>
    exact tracks_setUpBuiltin hpass hc b (.inr ⟨_, _, rfl, rfl, fun _ hc' => ih hc' p⟩)

theorem tracks_builtin (hc : c.Intact) (b : Builtin) :
    Tracks c (fun id c' => id.In c'.extent) (builtin pass' b c) (Compartment.builtin pass b c) :=
  tracks_makeBuiltin hpass hc b b.lineage

theorem tracks_newObjectOf (hc : c.Intact) {id : ObjectId} (hid : id.In c.extent) :
    Tracks c (fun new c' => new.In c'.extent) (newObjectOf pass' id c)
      (Compartment.newObjectOf pass id c) := by
  refine .step (reads_objectAt hid) (.get ?_)
  cases hnew : (c.object id).newObject with
  | some new => exact .pure hc ((hc.objects id).newObject new hnew)
  | none =>
    refine .bind (tracks_typeObject hpass hc none _ false ?_) fun new c₁ hc₁ hlater₁ hnew => ?_
    · rintro _ ⟨⟩
      exact hid
    · have hid₁ := hid.mono hlater₁.extent
      have ho := hc₁.objects id
      have hc₂ := hc₁.changeObject hid₁ (f := fun o => { o with newObject := some new })
        ⟨ho.properties, ho.proto, ho.instances, fun _ hn => Option.some.inj hn ▸ hnew, ho.function⟩
        (hc₁.dense id)
      have hlater₂ := Compartment.later_changeObject (c := c₁) id
        fun o => { o with newObject := some new }
      refine .step (gives_changeObject hid₁ _) (.modifies (.after hlater₂ ?_))
      exact .pure hc₂ (hnew.mono hlater₂.extent)

theorem tracks_prototypeObjectOf (hc : c.Intact) {id : ObjectId} (hid : id.In c.extent) :
    Tracks c (fun proto c' => proto.In c'.extent) (prototypeObjectOf pass' id c)
      (Compartment.prototypeObjectOf pass id c) := by
  refine .bind (tracks_functionInfo hc hid) ?_
  rintro f _ - - ⟨rfl, hf⟩
  have hf := (hc.objects id).function f hf
  cases hproto : f.prototypeObject with
  | some proto => exact .pure hc (hf.prototypeObject proto hproto)
  | none =>
    refine .bind (tracks_builtin hpass hc .objectPrototype) fun objectProto c₁ hc₁ hlater₁ hbase => ?_
    have hid₁ := hid.mono hlater₁.extent
    refine .step (reads_objectName hid₁) (.get ?_)
    refine .bind (tracks_typeObject hpass hc₁ none _ false ?_) fun proto c₂ hc₂ hlater₂ hproto => ?_
    · rintro _ ⟨⟩
      exact hbase
    · have hid₂ := hid₁.mono hlater₂.extent
      refine .bind (tracks_changeFunction hc₂ hid₂ fun f hf => ?_) fun _ c₃ hc₃ hlater₃ _ =>
        .pure hc₃ (hproto.mono hlater₃.extent)
      have hf := (hc₂.objects id).function f hf
      exact ⟨hf.returns, hf.thisTypes, hf.parameters, fun _ hp => Option.some.inj hp ▸ hproto⟩

theorem tracks_initializerObject (hc : c.Intact) (code : Location) (isArray : Bool) :
    Tracks c (fun id c' => id.In c'.extent) (initializerObject pass' code isArray c)
      (Compartment.initializerObject pass code isArray c) := by
  refine .step .get (.get ?_)
  cases hfound : c.initializer? code isArray with
  | some id =>
    obtain ⟨i, hi, rfl⟩ := Option.map_eq_some_iff.mp hfound
    exact .pure hc (hc.initializers i (List.mem_of_find?_eq_some hi))
  | none =>
    refine .bind (tracks_builtin hpass hc _) fun proto c₁ hc₁ hlater₁ hproto => ?_
    refine .bind (tracks_typeObject hpass hc₁ (some code.script) _ false ?_)
      fun id c₂ hc₂ hlater₂ hid => ?_
    · rintro _ ⟨⟩
      exact hproto
    have hlast : ∀ c₃ : Compartment, c₃.Intact → id.In c₃.extent →
        Tracks c₃ (fun id c' => id.In c'.extent)
          ((do
            modify fun c => { c with initializers := ((code, isArray), id) :: c.initializers }
            return id : Checked ObjectId) c₃)
          ((do
            modify fun c => { c with initializers := ((code, isArray), id) :: c.initializers }
            return id : Action ObjectId) c₃) := by
      intro c₃ hc₃ hid₃
      let remembered : Compartment :=
        { c₃ with initializers := ((code, isArray), id) :: c₃.initializers }
      have hremembered : remembered.Intact := hc₃.remember (fun _ h => .inl h) fun i hi => by
        obtain rfl | hi := List.mem_cons.mp hi
        · exact .inr hid₃
        · exact .inl hi
      have hid' : id.In remembered.extent := hid₃
      have hlater : c₃.Later remembered := .of_extent rfl rfl
      exact .step (.modify _) (.modifies (.after hlater (.pure hremembered hid')))
    refine .ite (fun _ => ?_) fun _ => hlast c₂ hc₂ hid
    have ho := hc₂.objects id
    have hlater₃ := Compartment.later_changeObject (c := c₂) id
      fun o => { o with isPossiblyPacked := true }
    have hc₃ := hc₂.changeObject hid (f := fun o => { o with isPossiblyPacked := true })
      ⟨ho.properties, ho.proto, ho.instances, ho.newObject, ho.function⟩ (hc₂.dense id)
    refine .step (gives_changeObject hid _) (.modifies (.after hlater₃ ?_))
    exact hlast _ hc₃ (hid.mono hlater₃.extent)

end Passes

end Checked

end FlowTypes
