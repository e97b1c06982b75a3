import FlowTypes.Proofs.Termination

/-!
# Builtins that are handed out

A builtin is remembered as soon as it has an object, before the object gets its prototype and before
its properties are given up.  Each of these steps may fail, when the host has given the name of a
builtin to an object of its own.  What is remembered then is answered from then on as it is.

So what is true of an answer depends on the request that its object comes from.  Any answer has the
name and the kind of the builtin, and there will be no other answer.  If the request succeeded, the
builtin is set up, and stays so, since none of it is ever taken back.  A handler may go on after a
request of its own that failed; so in a run with handlers it has to be a request for the builtin, or
for one that inherits from it.

## Main results

* `run_builtin`: a builtin that is remembered is answered, and nothing else happens.
* `setUp_of_asked`: a request for a builtin that succeeds sets up what it makes;
  `setUp_of_unhandled`: so does any other one, if no function has a handler.
* `builtin_set_up`: this for every compartment that a run leaves behind.
* `builtin_half_built`: an object that comes from a request that failed may lack its prototype.
-/

namespace FlowTypes

open Compartment

/-- Whatever is above the prototype of a builtin is the first of all prototypes. -/
theorem Builtin.eq_objectPrototype {b p q : Builtin} (hp : b.prototype? = some p)
    (hq : q ∈ p.lineage) : q = .objectPrototype := by
  have hall : ∀ q ∈ p.lineage, q = .objectPrototype := by
    cases b <;> cases hp <;> decide
  exact hall q hq

/-- What stands in for a primitive value is a prototype. -/
theorem Compartment.prototype_of_wrapper? {t : Ty} {b : Builtin} (h : wrapper? t = some b) :
    b.category = .prototype := by
  cases t <;> cases h <;> rfl

/-- The request is for a builtin, or for one that inherits from it. -/
def Request.AsksFor (f : Builtin) : Request → Prop
  | builtin g => f ∈ g :: g.lineage
  | _ => False

/-- What is allowed stays allowed to a host that has fewer builtins made, as long as they include
those that the request is for, and the prototypes. -/
theorem Request.Allowed.building {sc : Scope} {c : Compartment} {r : Request}
    {builds : Builtin → Prop} (hmakes : ∀ b : Builtin, b.category = .prototype → builds b)
    (hasked : ∀ b, r.AsksFor b → builds b) (h : r.Allowed sc c) :
    r.Allowed { sc with grant := { sc.grant with builds } } c := by
  cases r with
  | builtin => exact ⟨h.1, hasked⟩
  | newObjectOf | prototypeObjectOf | initializerObject => exact ⟨h.1, h.2.1, hmakes⟩
  | knownTag | knownKind | knownNonEmpty => exact ⟨h.1, h.2⟩
  | _ => exact h

namespace Compartment

variable {sc : Scope} {host : Host} {safe : Extent → String → Prop} {options : Options}
  {c c' : Compartment} {f g : Builtin} {id k : ObjectId} {rs : List Request} {r : Request}
  {x : Answer}

/-! ## Why a builtin is there -/

/-- A builtin is made because the host asks for it, or because it is a prototype. -/
theorem Demanded.builds (hmakes : ∀ b : Builtin, b.category = .prototype → sc.grant.builds b)
    (h : c.Demanded sc f) : sc.grant.builds f := by
  cases h with
  | given h => exact h
  | read _ ht hb | boxed _ ht hb =>
    exact hmakes f (prototype_of_mem_lineage (prototype_of_wrapper? ht) hb)
  | called _ hb => exact hmakes f hb

theorem Did.builds (hmakes : ∀ b : Builtin, b.category = .prototype → sc.grant.builds b)
    (hc : c.Sound) (h : Did sc c c') (hfound : c'.builtin? f = some id) :
    c.builtin? f = some id ∨ sc.grant.builds f := by
  refine h.change_induction
    (P := fun b => b.builtin? f = some id → c.builtin? f = some id ∨ sc.grant.builds f)
    hc ?_ (fun _ _ _ _ ih => ih) .inl hfound
  intro a b _ hchange ih hb
  rcases hchange.grounded.builtins f id hb with hold | ⟨-, -, -, hdemanded⟩
  · exact ih hold
  · exact .inr (hdemanded.builds hmakes)

/-- The object of a builtin is a function exactly if the builtin is. -/
theorem Did.isFunction_builtin (h : Did sc (fresh options) c) (hfound : c.builtin? f = some id) :
    (c.object id).isFunction = f.isFunction := by
  refine h.change_induction
    (P := fun b => b.builtin? f = some id → (b.object id).isFunction = f.isFunction)
    (sound_fresh options) ?_ ?_ (fun hnone => by cases hnone) hfound
  · intro a b ha hchange ih hb
    rcases hchange.grounded.builtins f id hb with hold | ⟨hin, -, hkind, -⟩
    · rw [(hchange.grows ha.valid).isFunction id (in_of_builtin? ha.valid hold)]
      exact ih hold
    · rw [(hchange.grows ha.valid).isFunction id hin]
      exact hkind
  · intro a o ha ho ih hb
    rw [(grows_classify ho).isFunction id (in_of_builtin? ha.valid hb)]
    exact ih hb

/-! ## Answers -/

/-- A builtin that is remembered is found, and nothing else happens. -/
theorem builtin_of_found {pass : Action Unit} (h : c.builtin? f = some id) :
    Compartment.builtin pass f c = (.ok id, c) := by
  have hsetUp : ∀ makeProto, setUpBuiltin pass f makeProto c = (.ok id, c) := by
    intro makeProto
    rw [setUpBuiltin, run_get]
    simp only [h]
    rfl
  unfold Compartment.builtin
  cases f.lineage with
  | nil => exact hsetUp none
  | cons d ds => exact hsetUp (some (makeBuiltin pass d ds))

theorem run_builtin (h : c.builtin? f = some id) :
    (Request.builtin f).run host c = (.ok (.object id), c) :=
  run_bind_ok (builtin_of_found h)

/-- The answer for a builtin is remembered. -/
theorem builtin?_of_run (hhost : host.Proper safe) (hat : (handled host safe).At c)
    (hrun : (Request.builtin f).run host c = (.ok x, c')) :
    ∃ id, x = .object id ∧ c.SetUpSince c' f id := by
  have hmoves : (handled host safe).Moves ((Request.builtin f).run host) c
      fun x c' => ∃ id, x = .object id ∧ c.SetUpSince c' f id := by
    refine .bind (lawful_handled hhost).within hat (moves_builtin (lawful_handled hhost)
      (Law.Free.refuses fun _ _ => trivial) hat (.inl trivial) fun _ _ => .given trivial) ?_
    exact fun id _ hat' _ hsince => .pure hat' ⟨id, rfl, hsince⟩
  exact (hmoves.of_run hrun).2.2

/-! ## What is set up -/

/-- There is nothing to set up about the first of all prototypes. -/
theorem setUp_objectPrototype (c : Compartment) (id : ObjectId) :
    c.SetUp .objectPrototype id where
  proto h := absurd rfl h
  unknown h := by cases h
  loose h := by cases h

/-- A builtin and its prototypes are set up by the request that makes them. -/
theorem SetUpSince.setUp_of_mem (h : c.SetUpSince c' g k) (hg : c.builtin? g = none)
    (hnone : c.builtin? f = none) (hfound : c'.builtin? f = some id) (hf : f ∈ g :: g.lineage) :
    c'.SetUp f id := by
  rcases List.mem_cons.mp hf with rfl | hf
  · obtain rfl : k = id := Option.some.inj (h.found.symm.trans hfound)
    exact h.setUp hnone
  · cases hp : g.prototype? with
    | none =>
      rw [Builtin.lineage_of_no_prototype hp] at hf
      exact absurd hf List.not_mem_nil
    | some p =>
      rw [Builtin.lineage_of_prototype hp] at hf
      rcases List.mem_cons.mp hf with rfl | hf
      · obtain ⟨k', hk', hsetUp⟩ := h.proto hg f hp
        obtain rfl : k' = id := Option.some.inj (hk'.symm.trans hfound)
        exact hsetUp hnone
      · rw [Builtin.eq_objectPrototype hp hf]
        exact setUp_objectPrototype c' id

/-- A request that succeeds sets up the builtins that it is for. -/
theorem setUp_of_asked (hhost : host.Proper safe) (hat : (handled host safe).At c)
    (hnone : c.builtin? f = none) (hrun : r.run host c = (.ok x, c'))
    (hfound : c'.builtin? f = some id) (hasked : r.AsksFor f) : c'.SetUp f id := by
  cases r with
  | builtin g =>
    obtain ⟨k, -, hsince⟩ := builtin?_of_run hhost hat hrun
    apply hsince.setUp_of_mem _ hnone hfound hasked
    -- If the other builtin had been there, nothing would have been made.
    by_contra hg
    obtain ⟨o, ho⟩ := Option.ne_none_iff_exists'.mp hg
    rw [run_builtin ho] at hrun
    cases hrun
    simp [hnone] at hfound
  | _ => exact hasked.elim

/-- A prototype is set up as soon as it has its own prototype. -/
theorem setUp_of_prototype (hf : f.category = .prototype)
    (hproto : f ≠ .objectPrototype → (c.object id).proto ≠ none) : c.SetUp f id where
  proto := hproto
  unknown h := by
    rw [Builtin.isUntracked, hf] at h
    cases h
  loose h := by
    rw [h] at hf
    cases hf

/-- What a host may bring about that has only those builtins made that a request is for, and
prototypes. -/
def Scope.building (r : Request) : Scope :=
  { Scope.unhandled with
      grant := { Grant.full with builds := fun b => b.category = .prototype ∨ r.AsksFor b } }

/-- If no function has a handler, a request that succeeds sets up what it makes: it makes no other
builtins than prototypes, unless it is for them. -/
theorem setUp_of_unhandled (hat : (unhandled host (.building r)).At c) (hvalid : r.Valid c.extent)
    (hnative : r.isNative = false) (hnone : c.builtin? f = none)
    (hrun : r.run host c = (.ok x, c')) (hfound : c'.builtin? f = some id)
    (hasked : ¬ r.AsksFor f) : c'.SetUp f id := by
  have hmakes : ∀ b : Builtin, b.category = .prototype → (Scope.building r).grant.builds b :=
    fun _ => .inl
  have hallowed : r.Allowed (.building r) c :=
    Request.Allowed.building hmakes (fun _ => .inr) (allowed_unhandled hnative)
  have hmoves : (unhandled host (.building r)).Moves (r.run host) c (r.Answered _ c) :=
    Request.moves (lawful_unhandled host trivial fun _ _ hnever => hnever) hat
      ((free_unhandled host (.building r)).supported r) hvalid hallowed
  obtain ⟨hgood, -⟩ := hmoves.of_run hrun
  have hnew : c.builtin? f ≠ some id := by simp [hnone]
  have hbuilds := (hgood.did.builds hmakes hat.sound hfound).resolve_left hnew
  have hcategory : f.category = .prototype := hbuilds.resolve_right hasked
  apply setUp_of_prototype hcategory
  intro hf
  exact ((hgood.tidied trivial).builtins f id hfound (prototype?_ne_none hf)).resolve_left hnew

/-- What is set up stays so. -/
theorem SetUp.later (hat : (handled host safe).At c) (hrun : Request.Reaches safe host rs c c')
    (h : c.SetUp f id) : c'.SetUp f id := by
  obtain ⟨-, hdid⟩ := hrun.moves hat
  apply h.of_grows (hdid.grows hat.sound)
  intro hf
  have hproto := h.proto (by simp [hf])
  have hlost := hdid.notReclassified (fun hnever => hnever) hat.sound hproto
  simpa [h.loose hf] using hlost

/-! ## Runs -/

/-- In every compartment that a run leaves behind, whatever failed in it and whatever names the host
has given away, the answer for a builtin has its name and its kind, and is the answer from then on.

If the request that the builtin gets its object from succeeds, then the builtin is set up, and it is
answered at any later time as one that is.  This is so if the request is for the builtin or for one
that inherits from it; and for every request, if no function has been given a handler. -/
theorem builtin_set_up (hrun : Request.Reaches safe host rs (fresh options) c) (f : Builtin) :
    (∀ id c', (Request.builtin f).run host c = (.ok (.object id), c') →
      c'.objectName id = f.name ∧ (c'.object id).isFunction = f.isFunction ∧
        ∀ rs' d, Request.Reaches safe host rs' c' d →
          (Request.builtin f).run host d = (.ok (.object id), d)) ∧
    ∀ r x c' id, r.Valid c.extent → r.Safe safe c → c.builtin? f = none →
      r.run host c = (.ok x, c') → c'.builtin? f = some id →
        (r.AsksFor f ∨ ∀ r' ∈ r :: rs, r'.isNative = false) →
          ∀ rs' d, Request.Reaches safe host rs' c' d →
            (Request.builtin f).run host d = (.ok (.object id), d) ∧ d.SetUp f id := by
  have hat := hrun.resting rfl
  constructor
  · intro id c' hr
    obtain ⟨hat', hdid⟩ := Request.at_outcome (r := .builtin f) hrun.handlers hat trivial trivial hr
    obtain ⟨k, hk, hsince⟩ := builtin?_of_run hrun.handlers hat hr
    obtain rfl : id = k := by simpa using hk
    refine ⟨hat'.sound.names.builtins _ (builtin?_some hsince.found),
      ((hrun.did rfl).trans hdid).isFunction_builtin hsince.found, ?_⟩
    intro rs' d hlater
    exact run_builtin (((hlater.moves hat').2.grows hat'.sound).builtin? hsince.found)
  · intro r x c' id hvalid hsafe hnone hr hfound hwhen rs' d hlater
    obtain ⟨hat', -⟩ := Request.at_outcome hrun.handlers hat hvalid hsafe hr
    have hsetUp : c'.SetUp f id := by
      by_cases hasked : r.AsksFor f
      · exact setUp_of_asked hrun.handlers hat hnone hr hfound hasked
      · have hnative := hwhen.resolve_left hasked
        have hrest : ∀ r' ∈ rs, r'.isNative = false :=
          fun r' hr' => hnative r' (List.mem_cons_of_mem _ hr')
        have hending := at_ending hrun.run (hrun.along.imp fun _ _ h => h.1) hrest
        have hatc : (unhandled host (.building r)).At c :=
          ⟨⟨hending.sound, hending.handled, trivial⟩, hending.rest⟩
        exact setUp_of_unhandled hatc hvalid (hnative r List.mem_cons_self) hnone hr hfound hasked
    exact ⟨run_builtin (((hlater.moves hat').2.grows hat'.sound).builtin? hfound),
      hsetUp.later hat' hlater⟩

/-- The host names an object like the array that stands for unknown ones. -/
def unknownArrayRun : List Request := [.typeObject none "UnknownArray" false none]

/-- The object is taken for the builtin and set up; it stays so when it gets an element. -/
theorem builtin_set_up_array :
    let c := (Request.runAll .silent unknownArrayRun (fresh {})).2
    let c' := ((Request.builtin .unknownArray).run .silent c).2
    let d := (Request.runAll .silent [.property ⟨1⟩ .index true] c').2
    c'.objectName ⟨1⟩ = "UnknownArray" ∧ (c'.object ⟨1⟩).isFunction = false ∧
      (Request.builtin .unknownArray).run .silent d = (.ok (.object ⟨1⟩), d) ∧
        d.SetUp .unknownArray ⟨1⟩ := by
  intro c c' d
  have hrun : Request.Reaches (fun _ _ => True) .silent unknownArrayRun (fresh {}) c :=
    Request.reaches_silent (by decide +kernel) (by decide +kernel)
  have hlater : Request.Reaches (fun _ _ => True) .silent _ c' d :=
    Request.reaches_silent (by decide +kernel) (by decide +kernel)
  have hr : (Request.builtin .unknownArray).run .silent c = (.ok (.object ⟨1⟩), c') :=
    Prod.ext (by decide +kernel) rfl
  obtain ⟨hanswer, hsetUp⟩ := builtin_set_up hrun .unknownArray
  obtain ⟨hname, hkind, -⟩ := hanswer _ _ hr
  have hthere : c'.builtin? .unknownArray = some ⟨1⟩ := by decide +kernel
  exact ⟨hname, hkind, hsetUp (.builtin .unknownArray) _ _ _ trivial trivial (by decide +kernel) hr
    hthere (.inl List.mem_cons_self) _ _ hlater⟩

/-- The host gives the name of the prototype of functions to an object that is no function.  Then it
asks for `Array`, and is turned down. -/
def halfBuiltRun : List Request :=
  [.typeObject none "Function.prototype" false none, .builtin .array]

/-- When it asks again, it gets an object without a prototype. -/
theorem builtin_half_built :
    let c := (Request.runAll .silent halfBuiltRun (fresh {})).2
    Request.Reaches (fun _ _ => True) .silent halfBuiltRun (fresh {}) c ∧
      (Request.runAll .silent halfBuiltRun (fresh {})).1 =
        [.ok (.object ⟨1⟩), .error (.notAFunction "Function.prototype")] ∧
      (Request.builtin .array).run .silent c = (.ok (.object ⟨2⟩), c) ∧
        ¬ c.SetUp .array ⟨2⟩ := by
  intro c
  have hrun : Request.Reaches (fun _ _ => True) .silent halfBuiltRun (fresh {}) c :=
    Request.reaches_silent (by decide +kernel) (by decide +kernel)
  refine ⟨hrun, by decide +kernel, run_builtin (by decide +kernel), fun hsetUp => ?_⟩
  have hnone : (c.object ⟨2⟩).proto = none := by decide +kernel
  exact hsetUp.proto (by decide) hnone

end Compartment

end FlowTypes
