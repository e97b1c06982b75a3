import FlowTypes.Proofs.Lineage

/-!
# Requests that are turned down

A request that fails keeps what it did before it failed, so a host that goes on needs to know which
failures come before the first change.  Those of the requests for an object by its name, for a script
and for a handler all do.  A request for an object makes sets, an object and a link to a prototype,
and the link may even mark the object unknown; but the object has just been made, so it has neither
properties nor instances, and no step after the first change can fail.  It does not matter what a
pass is, so this holds in the middle of one as well.

A request for a prototype may fail halfway, in a pass or in a native function.  It has not begun if
the object has a prototype, or if the prototypes would go round in a circle.

## Main results

* `link_of_bare`, `typeObject_of_free`: an object whose name is free is made, whatever its prototype.
* `typeObject_error_iff`, `setFunctionScript_error_iff`, `setNativeHandler_error_iff`: when such a
  request fails, with what, and that it has changed nothing.
* `refused_unchanged`: these requests in every compartment that a run can leave behind.
-/

namespace FlowTypes

namespace Compartment

variable {c : Compartment} {id : ObjectId}

/-! ## How an action fails -/

/-- What fails in one way fails in no other one. -/
theorem eq_error_iff {α : Type} {a : Action α} {e e' : InferError} {c₁ c' : Compartment}
    (hrun : a c = (.error e', c₁)) : a c = (.error e, c') ↔ e = e' ∧ c' = c₁ := by
  rw [hrun]
  constructor
  · rintro ⟨⟩
    exact ⟨rfl, rfl⟩
  · rintro ⟨rfl, rfl⟩
    rfl

/-- What succeeds does not fail. -/
theorem ne_error_of_ok {α : Type} {a : Action α} {x : α} {e : InferError} {c₁ c' : Compartment}
    (hrun : a c = (.ok x, c₁)) : a c ≠ (.error e, c') := by
  rw [hrun]
  rintro ⟨⟩

/-! ## Objects that have just been made -/

/-- A change of an object changes no other one, and none at all if there is no such object. -/
theorem object_changeObject_cases (a : ObjectId) (f : ObjectInfo → ObjectInfo) (b : ObjectId) :
    (c.changeObject a f).object b = c.object b ∨
      a = b ∧ (c.changeObject a f).object b = f (c.object b) := by
  by_cases ha : a.In c.extent
  · rw [object_changeObject ha]
    by_cases hab : a = b
    · exact .inr ⟨hab, if_pos hab⟩
    · exact .inl (if_neg hab)
  · have hsize : ¬ a.index < c.objects.size := ha
    have hsame : c.objects.modify a.index f = c.objects := by
      apply Array.ext
      · exact Array.size_modify
      · intro i hi hi'
        have hne : ¬ a.index = i := fun heq => hsize (heq ▸ hi')
        rw [Array.getElem_modify, if_neg hne]
    exact .inl (by rw [changeObject, hsame])

/-- Nothing has been asked of the object yet, and no other one inherits from it. -/
structure Bare (c : Compartment) (id : ObjectId) : Prop where
  properties : (c.object id).properties = []
  instances : (c.object id).instances = []

theorem Bare.congr {c' : Compartment} (h : c.Bare id) (hobject : c'.object id = c.object id) :
    c'.Bare id :=
  ⟨hobject ▸ h.properties, hobject ▸ h.instances⟩

theorem Bare.changeObject (h : c.Bare id) (a : ObjectId) {f : ObjectInfo → ObjectInfo}
    (hf : a = id → (f (c.object id)).properties = (c.object id).properties ∧
      (f (c.object id)).instances = (c.object id).instances) :
    (c.changeObject a f).Bare id := by
  rcases object_changeObject_cases a f id with hsame | ⟨ha, hchanged⟩
  · exact h.congr hsame
  · have hkept := hf ha
    constructor
    · rw [hchanged, hkept.1, h.properties]
    · rw [hchanged, hkept.2, h.instances]

theorem Bare.notifyKind (h : c.Bare id) (a : ObjectId) : (c.notifyKind a).Bare id :=
  h.congr (by rw [object_notifyKind])

theorem Bare.markNotPacked (h : c.Bare id) (a : ObjectId) (notDense : Bool) :
    (c.markNotPacked a notDense).Bare id := by
  rcases c.markNotPacked_cases a notDense with hsame | hmarked
  · rw [hsame]
    exact h
  · have hrecord : (c.record (.markedNotPacked a notDense)).Bare id := h.congr rfl
    rw [hmarked]
    exact (hrecord.changeObject a fun _ => ⟨rfl, rfl⟩).notifyKind a

theorem Bare.forgetProperties (h : c.Bare id) (a : ObjectId) : (c.forgetProperties a).Bare id := by
  have hrecord : (c.record (.markedUnknown a)).Bare id := h.congr rfl
  exact ((hrecord.markNotPacked a true).changeObject a fun _ => ⟨rfl, rfl⟩).notifyKind a

/-- A prototype leaves the properties of every object as they are, and what is known of them. -/
theorem kept_setProto (id proto o : ObjectId) :
    ((c.setProto id proto).object o).properties = (c.object o).properties ∧
      ((c.setProto id proto).object o).isUnknown = (c.object o).isUnknown := by
  have hkept : ∀ (c : Compartment) (a : ObjectId) (f : ObjectInfo → ObjectInfo),
      (∀ o, (f o).properties = o.properties ∧ (f o).isUnknown = o.isUnknown) →
        ((c.changeObject a f).object o).properties = (c.object o).properties ∧
          ((c.changeObject a f).object o).isUnknown = (c.object o).isUnknown := by
    intro c a f hf
    rcases object_changeObject_cases (c := c) a f o with hsame | ⟨-, hchanged⟩
    · rw [hsame]
      exact ⟨rfl, rfl⟩
    · rw [hchanged]
      exact hf _
  have hlisted := hkept c proto (fun o => { o with instances := o.instances ++ [id] })
    fun _ => ⟨rfl, rfl⟩
  have hlinked := hkept (c.changeObject proto fun o => { o with instances := o.instances ++ [id] })
    id (fun o => { o with proto := some proto }) fun _ => ⟨rfl, rfl⟩
  exact ⟨hlinked.1.trans hlisted.1, hlinked.2.trans hlisted.2⟩

/-- An object without instances gets another object as its prototype. -/
theorem Bare.setProto (h : c.Bare id) {proto : ObjectId} (hne : proto ≠ id) :
    (c.setProto id proto).Bare id := by
  have hlisted := h.changeObject proto (f := fun o => { o with instances := o.instances ++ [id] })
    fun heq => absurd heq hne
  have hlinked := hlisted.changeObject id (f := fun o => { o with proto := some proto })
    fun _ => ⟨rfl, rfl⟩
  exact hlinked.congr rfl

variable (pass : Action Unit)

theorem forgetAll_nil (fuel : Nat) : forgetAll pass fuel [] c = (.ok (), c) := by
  cases fuel <;> rfl

/-- There is nothing to fail at while a bare object is marked unknown. -/
theorem markUnknown_of_bare (h : c.Bare id) : ∃ c', markUnknown pass id c = (.ok (), c') := by
  have hafter := h.forgetProperties id
  show ∃ c', forgetAll pass (c.objectBound + 1) [id] c = (.ok (), c')
  rw [forgetAll, run_get]
  split
  · exact ⟨c, forgetAll_nil pass _⟩
  · refine ⟨c.forgetProperties id, ?_⟩
    rw [run_modify, run_get, hafter.properties]
    refine (run_bind_ok (x := PUnit.unit) rfl).trans ?_
    rw [run_get, hafter.instances]
    exact forgetAll_nil pass _

/-- An object without properties and instances gets a prototype, whatever that is. -/
theorem link_of_bare (h : c.Bare id) (hknown : (c.object id).isUnknown = false)
    (proto : ObjectId) : ∃ c', link pass id proto c = (.ok (), c') := by
  unfold link
  rw [run_modify, run_get]
  split
  · rename_i hunknown
    have hne : proto ≠ id := by
      rintro rfl
      rw [(kept_setProto proto proto proto).2, hknown] at hunknown
      cases hunknown
    exact markUnknown_of_bare pass (h.setProto hne)
  · rw [(kept_setProto id proto id).1, h.properties]
    exact ⟨_, rfl⟩

/-! ## Objects by their names -/

/-- The failure of a request for an object whose name belongs to one of the other sort. -/
def otherSort (name : String) (isFunction : Bool) : InferError :=
  if isFunction then .notAFunction name else .unexpectedFunction name

variable (script : Option ScriptId) (name : String) (isFunction : Bool) (proto : Option ObjectId)

/-- An object whose name is free is made. -/
theorem typeObject_of_free (hfree : c.objectNamed? (scopedName script name) = none) :
    ∃ id c', typeObject pass script name isFunction proto c = (.ok id, c') := by
  -- A new object is bare, so whatever is done with a bare object goes well.
  have hmake : ∀ {rest : ObjectId → Action ObjectId}, (∀ (id : ObjectId) (b : Compartment),
      b.Bare id → (b.object id).isUnknown = false → ∃ c', rest id b = (.ok id, c')) →
      ∀ (b : Compartment) (function : Option FunctionInfo), ∃ id c',
        (newObject (scopedName script name) function >>= rest) b = (.ok id, c') := by
    intro rest hrest b function
    have hnew : (b.pushObject (scopedName script name) function).object ⟨b.objects.size⟩ =
        { name := scopedName script name, function } := by
      rw [object_pushObject, if_pos rfl]
    obtain ⟨c', hrun⟩ := hrest ⟨b.objects.size⟩ (b.pushObject (scopedName script name) function)
      ⟨by rw [hnew], by rw [hnew]⟩ (by rw [hnew])
    exact ⟨_, c', (run_bind_ok rfl).trans hrun⟩
  unfold typeObject
  rw [run_get]
  dsimp only
  rw [hfree]
  -- What a function gets first is two sets, which no object is changed by.
  let function : FunctionInfo := { returns := ⟨c.sets.size⟩, thisTypes := ⟨c.pushSet.sets.size⟩ }
  cases proto with
  | none =>
    have hplain : ∀ (id : ObjectId) (b : Compartment), b.Bare id → (b.object id).isUnknown = false →
        ∃ c', (pure id : Action ObjectId) b = (.ok id, c') := fun id b _ _ => ⟨b, rfl⟩
    cases isFunction with
    | false => exact hmake hplain c none
    | true =>
      obtain ⟨id, c', hrun⟩ := hmake hplain c.pushSet.pushSet (some function)
      exact ⟨id, c', (run_bind_ok rfl).trans ((run_bind_ok rfl).trans hrun)⟩
  | some proto =>
    have hlinked : ∀ (id : ObjectId) (b : Compartment), b.Bare id →
        (b.object id).isUnknown = false →
          ∃ c', (link pass id proto >>= fun _ => pure id) b = (.ok id, c') := by
      intro id b hbare hknown
      obtain ⟨c', hlink⟩ := link_of_bare pass hbare hknown proto
      exact ⟨c', (run_bind_ok hlink).trans rfl⟩
    cases isFunction with
    | false => exact hmake hlinked c none
    | true =>
      obtain ⟨id, c', hrun⟩ := hmake hlinked c.pushSet.pushSet (some function)
      exact ⟨id, c', (run_bind_ok rfl).trans ((run_bind_ok rfl).trans hrun)⟩

/-- The object of a name is answered as it is, if it is of the sort that is asked for. -/
theorem typeObject_of_named (hfound : c.objectNamed? (scopedName script name) = some id) :
    typeObject pass script name isFunction proto c =
      (if (c.object id).isFunction = isFunction then .ok id
        else .error (otherSort (scopedName script name) isFunction), c) := by
  unfold typeObject
  rw [run_get]
  dsimp only
  rw [hfound]
  cases isFunction <;> cases hkind : (c.object id).isFunction <;> simp only [hkind] <;> rfl

/-- A request for an object fails if there is one of the name and of the other sort, and only then;
and it has changed nothing. -/
theorem typeObject_error_iff (hc : c.Ordered) {e : InferError} {c' : Compartment} :
    typeObject pass script name isFunction proto c = (.error e, c') ↔
      (∃ o : ObjectId, o.In c.extent ∧ c.objectName o = scopedName script name ∧
        (c.object o).isFunction ≠ isFunction) ∧
      e = otherSort (scopedName script name) isFunction ∧ c' = c := by
  cases hfound : c.objectNamed? (scopedName script name) with
  | none =>
    constructor
    · intro hrun
      obtain ⟨id, c₁, hmade⟩ := typeObject_of_free pass script name isFunction proto hfound
      exact absurd hrun (ne_error_of_ok hmade)
    · rintro ⟨⟨o, ho, hname, -⟩, -⟩
      exact absurd hname (objectNamed?_none hfound ho)
  | some id =>
    rw [typeObject_of_named pass script name isFunction proto hfound]
    constructor
    · intro hrun
      obtain ⟨hid, hname⟩ := objectNamed?_some hfound
      split at hrun
      · cases hrun
      · rename_i hsort
        cases hrun
        exact ⟨⟨id, hid, hname, hsort⟩, rfl, rfl⟩
    · rintro ⟨⟨o, ho, hname, hsort⟩, rfl, rfl⟩
      have hsame : c'.objectNamed? (scopedName script name) = some o :=
        (hc.named _ o).mpr ⟨ho, hname⟩
      rw [hfound] at hsame
      cases hsame
      rw [if_neg hsort]

/-! ## Functions -/

section Records

theorem functionInfo_eq (id : ObjectId) (c : Compartment) : functionInfo id c =
    match (c.object id).function with
    | some f => (.ok f, c)
    | none => (.error (.notAFunction (c.objectName id)), c) := by
  unfold functionInfo
  rw [run_get]
  split <;> rename_i hfunction <;> rw [hfunction] <;> rfl

/-- The record of an object that is no function is asked for in vain, whatever is done with it. -/
theorem functionInfo_of_none {α : Type} (f : FunctionInfo → Action α)
    (hnone : (c.object id).isFunction = false) :
    (functionInfo id >>= f) c = (.error (.notAFunction (c.objectName id)), c) := by
  have hfunction : (c.object id).function = none := Option.not_isSome_iff_eq_none.mp (by
    rw [← ObjectInfo.isFunction, hnone]
    exact Bool.false_ne_true)
  exact run_bind_error (by rw [functionInfo_eq, hfunction])

theorem functionInfo_of_some (hsome : (c.object id).isFunction = true) :
    ∃ f, functionInfo id c = (.ok f, c) := by
  obtain ⟨f, hfunction⟩ := Option.isSome_iff_exists.mp hsome
  exact ⟨f, by rw [functionInfo_eq, hfunction]⟩

/-- Only an object that is a function has a record to change. -/
theorem function_changeFunction (id : ObjectId) (g : FunctionInfo → FunctionInfo) :
    ((c.changeFunction id g).object id).function = (c.object id).function.map g := by
  rw [changeFunction]
  by_cases hid : id.In c.extent
  · rw [object_changeObject hid, if_pos rfl]
  · rw [object_of_not_in hid, object_of_not_in (by rwa [extent_changeObject])]
    rfl

/-- There is always room for one more set. -/
theorem newSets_ok (xs : List Nat) (c : Compartment) :
    ∃ sets c', sets.length = xs.length ∧ (xs.mapM fun _ => newSet) c = (.ok sets, c') := by
  induction xs generalizing c with
  | nil => exact ⟨[], c, rfl, rfl⟩
  | cons x xs ih =>
    obtain ⟨sets, c', hlength, hrun⟩ := ih c.pushSet
    refine ⟨⟨c.sets.size⟩ :: sets, c', congrArg (· + 1) hlength, ?_⟩
    rw [List.mapM_cons]
    exact (run_bind_ok (x := (⟨c.sets.size⟩ : SetId)) rfl).trans ((run_bind_ok hrun).trans rfl)

theorem setFunctionScript_of_none (hnone : (c.object id).isFunction = false) (script : ScriptId)
    (parameters : Nat) : setFunctionScript id script parameters c =
      (.error (.notAFunction (c.objectName id)), c) :=
  run_bind_error (functionInfo_of_none _ hnone)

/-- A function is connected with its script, unless there are more parameters than there is room
for. -/
theorem setFunctionScript_of_some (hsome : (c.object id).isFunction = true) (script : ScriptId)
    (parameters : Nat) :
    (parameterBound ≤ parameters ∧
      setFunctionScript id script parameters c = (.error (.outOfMemory "argument list"), c)) ∨
    (parameters < parameterBound ∧ ∃ (sets : List SetId) (c' : Compartment),
      sets.length = parameters ∧
      setFunctionScript id script parameters c =
        (.ok (), c'.changeFunction id fun f =>
          { f with script := some script, parameters := sets })) := by
  obtain ⟨f, hinfo⟩ := functionInfo_of_some hsome
  have hread : (discard (functionInfo id) : Action PUnit) c = (.ok ⟨⟩, c) :=
    (run_bind_ok hinfo).trans rfl
  unfold setFunctionScript
  rw [run_bind_ok hread]
  rcases Nat.lt_or_ge parameters parameterBound with hroom | hroom
  · rw [if_neg (Nat.not_le.mpr hroom)]
    obtain ⟨sets, c', hlength, hsets⟩ := newSets_ok (List.range parameters) c
    rw [List.length_range] at hlength
    exact .inr ⟨hroom, sets, c', hlength, (run_bind_ok hsets).trans rfl⟩
  · rw [if_pos hroom]
    exact .inl ⟨hroom, rfl⟩

/-- A request for a script fails for an object that is no function and for more parameters than
there is room for, and only then; and it has changed nothing. -/
theorem setFunctionScript_error_iff (script : ScriptId) (parameters : Nat) {e : InferError}
    {c' : Compartment} :
    setFunctionScript id script parameters c = (.error e, c') ↔
      ((c.object id).isFunction = false ∧ e = .notAFunction (c.objectName id) ∨
        (c.object id).isFunction = true ∧ parameterBound ≤ parameters ∧
          e = .outOfMemory "argument list") ∧ c' = c := by
  cases hkind : (c.object id).isFunction with
  | false => simp [eq_error_iff (setFunctionScript_of_none hkind script parameters)]
  | true =>
    rcases setFunctionScript_of_some hkind script parameters with
      ⟨hroom, hrun⟩ | ⟨hroom, _, _, _, hrun⟩
    · simp [eq_error_iff hrun, hroom]
    · simp [ne_error_of_ok hrun, Nat.not_le.mpr hroom]

/-- A request for a handler fails for an object that is no function, and only then; and it has
changed nothing. -/
theorem setNativeHandler_error_iff (handler : Option String) (isGeneric : Bool) {e : InferError}
    {c' : Compartment} :
    setNativeHandler id handler isGeneric c = (.error e, c') ↔
      (c.object id).isFunction = false ∧ e = .notAFunction (c.objectName id) ∧ c' = c := by
  cases hkind : (c.object id).isFunction with
  | false =>
    have hrun : setNativeHandler id handler isGeneric c =
        (.error (.notAFunction (c.objectName id)), c) :=
      run_bind_error (functionInfo_of_none _ hkind)
    simp [eq_error_iff hrun]
  | true =>
    obtain ⟨f, hinfo⟩ := functionInfo_of_some hkind
    have hrun : setNativeHandler id handler isGeneric c = (.ok (), _) :=
      (run_bind_ok ((run_bind_ok hinfo).trans rfl)).trans rfl
    simp [ne_error_of_ok hrun]

end Records

/-! ## Every compartment that is reached -/

/-- An object that has a prototype keeps it. -/
theorem addPrototype_of_some (h : (c.object id).proto.isSome = true) (proto : ObjectId) :
    addPrototype pass id proto c = (.error (.prototypeAlreadySet (c.objectName id)), c) := by
  unfold addPrototype
  rw [run_get, if_pos h]
  rfl

/-- Whatever has been asked for before, and whatever a pass is: a request for an object by its name,
for a script or for a handler fails for the reasons given here, and then it has changed nothing.
Neither has a request for a prototype that is turned down, nor one for the default prototype of what
is no function. -/
theorem refused_unchanged {safe : Extent → String → Prop} {host : Host} {options : Options}
    {rs : List Request} (hrun : Request.Reaches safe host rs (fresh options) c)
    (pass : Action Unit) :
    (∀ script name isFunction proto e c',
      typeObject pass script name isFunction proto c = (.error e, c') ↔
        (∃ o : ObjectId, o.In c.extent ∧ c.objectName o = scopedName script name ∧
          (c.object o).isFunction ≠ isFunction) ∧
        e = otherSort (scopedName script name) isFunction ∧ c' = c) ∧
    (∀ f script parameters e c', setFunctionScript f script parameters c = (.error e, c') ↔
      ((c.object f).isFunction = false ∧ e = .notAFunction (c.objectName f) ∨
        (c.object f).isFunction = true ∧ 1 <<< 61 ≤ parameters ∧
          e = .outOfMemory "argument list") ∧ c' = c) ∧
    (∀ f handler isGeneric e c', setNativeHandler f handler isGeneric c = (.error e, c') ↔
      (c.object f).isFunction = false ∧ e = .notAFunction (c.objectName f) ∧ c' = c) ∧
    (∀ o p, (c.object o).proto.isSome = true →
      addPrototype pass o p c = (.error (.prototypeAlreadySet (c.objectName o)), c)) ∧
    (∀ o p, (c.object o).proto = none → o = p ∨ c.Inherits p o →
      addPrototype pass o p c =
        (.error (.prototypeCycle (c.objectName o) (c.objectName p)), c)) ∧
    ∀ f, (c.object f).isFunction = false →
      prototypeObjectOf pass f c = (.error (.notAFunction (c.objectName f)), c) := by
  have hsound := (hrun.resting rfl).sound
  refine ⟨?_, ?_, ?_, ?_, ?_, ?_⟩
  · exact fun script name isFunction proto e c' =>
      typeObject_error_iff pass script name isFunction proto (ordered_of_sound hsound)
  · exact fun f script parameters e c' => setFunctionScript_error_iff script parameters
  · exact fun f handler isGeneric e c' => setNativeHandler_error_iff handler isGeneric
  · exact fun o p hset => addPrototype_of_some pass hset p
  · exact fun o p hnone => addPrototype_of_cycle hnone hsound.valid hsound.forest pass
  · exact fun f hnone => functionInfo_of_none _ hnone

/-- A function, its prototype object, and an object of the same name that belongs to a script. -/
def strangersRun : List Request :=
  [.typeObject none "f" true none, .prototypeObjectOf ⟨1⟩, .typeObject (some ⟨7⟩) "f" false none,
    .setFunctionScript ⟨1⟩ ⟨7⟩ 2]

theorem refused_unchanged_strangers :
    let c := (Request.runAll .silent strangersRun (fresh {})).2
    typeObject (solve .silent) none "f" false (some ⟨2⟩) c =
        (.error (.unexpectedFunction "f"), c) ∧
      typeObject (solve .silent) (some ⟨7⟩) "f" true none c =
        (.error (.notAFunction "#7:f"), c) ∧
      setFunctionScript ⟨1⟩ ⟨7⟩ (1 <<< 61) c = (.error (.outOfMemory "argument list"), c) ∧
      setNativeHandler ⟨2⟩ (some "call") false c =
        (.error (.notAFunction "Object.prototype"), c) ∧
      addPrototype (solve .silent) ⟨2⟩ ⟨3⟩ c =
        (.error (.prototypeCycle "Object.prototype" "f:prototype"), c) := by
  intro c
  have hrun : Request.Reaches (fun _ _ => True) .silent strangersRun (fresh {}) c :=
    Request.reaches_silent (by decide +kernel) (by decide +kernel)
  obtain ⟨hobject, hscript, hhandler, -, hcycle, -⟩ := refused_unchanged hrun (solve .silent)
  have hproto : (c.object ⟨3⟩).proto = some ⟨2⟩ := by decide +kernel
  refine ⟨?_, ?_, ?_, ?_, ?_⟩
  · exact (hobject none "f" false _ _ _).mpr ⟨⟨⟨1⟩, by decide +kernel⟩, rfl, rfl⟩
  · exact (hobject (some ⟨7⟩) "f" true _ _ _).mpr ⟨⟨⟨4⟩, by decide +kernel⟩, by decide, rfl⟩
  · exact (hscript _ _ _ _ _).mpr ⟨.inr ⟨by decide +kernel, Nat.le_refl _, rfl⟩, rfl⟩
  · exact (hhandler _ _ _ _ _).mpr ⟨by decide +kernel, by decide +kernel, rfl⟩
  · have hturned := hcycle ⟨2⟩ ⟨3⟩ (by decide +kernel) (.inr (.proto hproto))
    have hnames : c.objectName ⟨2⟩ = "Object.prototype" ∧ c.objectName ⟨3⟩ = "f:prototype" := by
      decide +kernel
    rwa [hnames.1, hnames.2] at hturned

end Compartment

end FlowTypes
