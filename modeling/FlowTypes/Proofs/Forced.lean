import FlowTypes.Proofs.Invocations

/-!
# Sets that a call site is made to have

A call site gets a set for its results, or for its `this` values, when a host first asks for one.
A callee that the call constraint hears of from then on is bound to the set, for good: each type that
the function ever returns arrives there.  Nothing is bound again for the callees that the constraint
has heard of before, so what they return never arrives, unless they are delivered once more.

Whether a callee is heard of early or late depends on two things, the moment at which it is added to
the callees and the moment at which the call is asked for.  If one of them is late, the callee is
heard of late.

## Main results

* `HeardSince`: every type that came late, and every type of a set that a constraint was put on late,
  is pending or was heard of late; `Did.heardSince`.
* `forced_sets_bound`: what is bound to a set that a site was made to have.
* `forced_late_unbound`: a function that is heard of before the site gets its set is not bound to it.
-/

namespace FlowTypes

namespace Compartment

variable {host : Host} {b c c' : Compartment}

/-! ## What is heard of from a moment on -/

/-- A constraint heard of a type after this moment. -/
def FiredSince (b c : Compartment) (w : Work) : Prop :=
  ∃ after before, c.journal = after ++ .fired w :: before ∧ b.journal.length ≤ before.length

theorem FiredSince.extend {w : Work} (h : b.FiredSince c w) {es : List Event}
    (hjournal : c'.journal = es ++ c.journal) : b.FiredSince c' w := by
  obtain ⟨after, before, hsplit, hlength⟩ := h
  exact ⟨es ++ after, before, by rw [hjournal, hsplit, List.append_assoc], hlength⟩

/-- From a moment on, a constraint hears of every type that is new, and of all types of a set that it
is put on. -/
structure HeardSince (b c : Compartment) : Prop where
  journal : b.journal.length ≤ c.journal.length
  heard : ∀ s id t, c.Hears s id → t ∈ (c.set s).types →
    ¬ (b.Hears s id ∧ t ∈ (b.set s).types) →
      ⟨id, s, t⟩ ∈ c.worklist.pending ∨ b.FiredSince c ⟨id, s, t⟩

theorem heardSince_refl (b : Compartment) : b.HeardSince b where
  journal := Nat.le_refl _
  heard _ _ _ hhears ht hold := absurd ⟨hhears, ht⟩ hold

theorem HeardSince.still (h : b.HeardSince c) (hstill : c.Still c') : b.HeardSince c' := by
  obtain ⟨es, hes, hdelivery⟩ := hstill.journal
  constructor
  · rw [hes, List.length_append]
    have := h.journal
    omega
  · intro s id t hhears ht hold
    rw [hstill.types] at ht
    have hbefore : c.Hears s id := by
      rw [Hears, hes, List.mem_append] at hhears
      rcases hhears with hnew | hbefore
      · have := hdelivery _ hnew
        cases this
      · exact hbefore
    rw [hstill.pending]
    exact (h.heard s id t hbefore ht hold).imp_right fun hfired => hfired.extend hes

theorem HeardSince.register (h : b.HeardSince c) {source : SetId} (hsource : source.In c.extent)
    (k : Constraint) (callExisting : Bool) : b.HeardSince (c.register source k callExisting) := by
  have hjournal : (c.register source k callExisting).journal =
      .constraintAdded source ⟨c.constraints.size⟩ callExisting :: c.journal :=
    journal_register k callExisting
  have hjournal' : (c.register source k callExisting).journal = [_] ++ c.journal := hjournal
  constructor
  · rw [hjournal, List.length_cons]
    exact Nat.le_succ_of_le h.journal
  · intro s id t hhears ht hold
    rw [types_register hsource] at ht
    rw [pending_register, List.mem_append]
    rw [Hears, hjournal, List.mem_cons] at hhears
    rcases hhears with hnew | hbefore
    · -- The new constraint hears of the types that are there already.
      cases hnew
      exact .inl (.inr (List.mem_map.mpr ⟨t, ht, rfl⟩))
    · exact (h.heard s id t hbefore ht hold).imp .inl fun hfired =>
        hfired.extend hjournal'

theorem HeardSince.insertType (h : b.HeardSince c) (hattended : c.Attended) {target : SetId}
    (htarget : target.In c.extent) {t : Ty} (hnew : (c.set target).has t = false) :
    b.HeardSince (c.insertType target t) := by
  have hjournal : (c.insertType target t).journal = .typeAdded target t :: c.journal :=
    journal_insertType t
  have hjournal' : (c.insertType target t).journal = [_] ++ c.journal := hjournal
  constructor
  · rw [hjournal, List.length_cons]
    exact Nat.le_succ_of_le h.journal
  · intro s id u hhears hu hold
    have hbefore : c.Hears s id := by
      rw [Hears, hjournal, List.mem_cons] at hhears
      exact hhears.resolve_left fun heq => by cases heq
    rw [pending_insertType, List.mem_append]
    rw [types_insertType htarget t hnew] at hu
    have hthere : u ∈ (c.set s).types → (⟨id, s, u⟩ ∈ c.worklist.pending ∨
        (⟨id, s, u⟩ : Work) ∈ (c.set target).constraints.map fun id => ⟨id, target, t⟩) ∨
          b.FiredSince (c.insertType target t) ⟨id, s, u⟩ := by
      intro hu
      exact (h.heard s id u hbefore hu hold).imp .inl fun hfired => hfired.extend hjournal'
    split at hu
    · rename_i hsame
      subst hsame
      rcases List.mem_append.mp hu with hu | hu
      · exact hthere hu
      · -- Every listener of the set has the new type pending.
        rw [List.mem_singleton.mp hu]
        exact .inl (.inr (List.mem_map.mpr ⟨id, hattended.listens target id true hbefore, rfl⟩))
    · exact hthere hu

theorem HeardSince.pop (h : b.HeardSince c) {work : Work} {rest : Worklist}
    (hnext : c.worklist.next? = some (work, rest)) : b.HeardSince (c.pop work rest) := by
  have hjournal : (c.pop work rest).journal = .fired work :: c.journal := rfl
  have hjournal' : (c.pop work rest).journal = [_] ++ c.journal := hjournal
  constructor
  · rw [hjournal, List.length_cons]
    exact Nat.le_succ_of_le h.journal
  · intro s id t hhears ht hold
    have hbefore : c.Hears s id := by
      rw [Hears, hjournal, List.mem_cons] at hhears
      exact hhears.resolve_left fun heq => by cases heq
    rcases h.heard s id t hbefore ht hold with hpending | hfired
    · rw [Worklist.pending_of_next? hnext, List.mem_cons] at hpending
      rcases hpending with rfl | hrest
      · exact .inr ⟨[], c.journal, rfl, h.journal⟩
      · exact .inl hrest
    · exact .inr (hfired.extend hjournal')

/-- Every sequence of changes in which no pass is given up lets the constraints hear of what is new. -/
theorem Did.heardSince {sc : Scope} (haborts : ¬ sc.aborts) (hb : b.Sound) (hattended : b.Attended)
    (hdid : Did sc b c) : b.HeardSince c := by
  refine (hdid.delivery_induction (P := fun c => c.Attended ∧ b.HeardSince c) hb ?_ ?_ ?_ ?_ ?_ ?_
    ⟨hattended, heardSince_refl b⟩).2
  · rintro a a' hstill ⟨ha, h⟩
    exact ⟨ha.still hstill, h.still hstill⟩
  · rintro a target t htarget hnew ⟨ha, h⟩
    exact ⟨ha.insertType htarget hnew, h.insertType ha htarget hnew⟩
  · rintro a source k callExisting - hsource ⟨ha, h⟩
    exact ⟨ha.register hsource k callExisting, h.register hsource k callExisting⟩
  · rintro a work rest - - hnext ⟨ha, h⟩
    exact ⟨ha.pop hnext, h.pop hnext⟩
  · rintro a work - ⟨ha, h⟩
    -- What is delivered once more is pending once more.
    have hpending : (a.enqueue [work]).worklist.pending = a.worklist.pending ++ [work] :=
      Worklist.pending_enqueue _ _
    refine ⟨⟨ha.listens, fun s id t hhears ht => ?_⟩, h.journal, fun s id t hhears ht hold => ?_⟩
    · rw [hpending, List.mem_append]
      exact (ha.heard s id t hhears ht).imp_left .inl
    · rw [hpending, List.mem_append]
      exact (h.heard s id t hhears ht hold).imp_left .inl
  · exact fun _ _ haborts' => absurd haborts' haborts

/-! ## Sets of a site -/

/-- What a call site gets a set for when it is asked for. -/
inductive SitePart
  | thisTypes
  | result
  deriving DecidableEq, Repr

namespace SitePart

/-- The set that a site has for this part. -/
def types? : SitePart → CallSite → Option SetId
  | thisTypes, site => site.thisTypes
  | result, site => site.result

/-- The request for the set. -/
def request : SitePart → SiteId → Request
  | thisTypes, id => .forceThisTypes id
  | result, id => .forceResult id

/-- The types that a function gets from the set, or gives to it, are all there. -/
def Bound (c : Compartment) (types : SetId) (f : FunctionInfo) : SitePart → Prop
  | thisTypes => c.Includes f.thisTypes types
  | result => c.Includes types f.returns

variable {part : SitePart} {id : SiteId} {types : SetId}

/-- A site that has the set answers it, and nothing changes. -/
theorem run_request (h : part.types? (c.site id) = some types) :
    (part.request id).run host c = (.ok (.set types), c) := by
  cases part with
  | thisTypes =>
    have hforce : forceThisTypes id c = (.ok types, c) := by
      unfold forceThisTypes
      rw [run_get, show (c.site id).thisTypes = some types from h]
      rfl
    exact (run_bind_ok hforce).trans rfl
  | result =>
    have hforce : forceResult id c = (.ok types, c) := by
      unfold forceResult
      rw [run_get, show (c.site id).result = some types from h]
      rfl
    exact (run_bind_ok hforce).trans rfl

/-- A site without the set gets a new one. -/
theorem run_request_of_none (h : part.types? (c.site id) = none) : ∃ c',
    (part.request id).run host c = (.ok (.set ⟨c.sets.size⟩), c') ∧
      c'.sets.size = c.sets.size + 1 := by
  cases part with
  | thisTypes =>
    have hforce : forceThisTypes id c = (.ok ⟨c.sets.size⟩,
        c.pushSet.changeSite id fun s => { s with thisTypes := some ⟨c.sets.size⟩ }) := by
      unfold forceThisTypes
      rw [run_get, show (c.site id).thisTypes = none from h]
      rfl
    exact ⟨_, (run_bind_ok hforce).trans rfl, Array.size_push _⟩
  | result =>
    have hforce : forceResult id c = (.ok ⟨c.sets.size⟩,
        c.pushSet.changeSite id fun s => { s with result := some ⟨c.sets.size⟩ }) := by
      unfold forceResult
      rw [run_get, show (c.site id).result = none from h]
      rfl
    exact ⟨_, (run_bind_ok hforce).trans rfl, Array.size_push _⟩

/-- A site that answers a set and does not change has had the set before. -/
theorem types?_of_run (h : (part.request id).run host c = (.ok (.set types), c)) :
    part.types? (c.site id) = some types := by
  cases hset : part.types? (c.site id) with
  | some types' =>
    rw [run_request hset] at h
    cases h
    rfl
  | none =>
    obtain ⟨c', hrun, hsize⟩ : ∃ c', (part.request id).run host c =
        (.ok (.set ⟨c.sets.size⟩), c') ∧ c'.sets.size = c.sets.size + 1 := run_request_of_none hset
    obtain rfl : c' = c := congrArg Prod.snd (hrun.symm.trans h)
    omega

theorem types?_of_grows {s s' : CallSite} (hgrows : s.Grows s') (h : part.types? s = some types) :
    part.types? s' = some types := by
  cases part with
  | thisTypes => exact hgrows.thisTypes types h
  | result => exact hgrows.result types h

/-- Only a site that was entered has sets. -/
theorem in_of_types? (h : part.types? (c.site id) = some types) : id.In c.extent := by
  by_contra hout
  have hsize : ¬ id.index < c.sites.size := hout
  have hsite : c.site id = default := by simp [site, Array.getD, hsize]
  rw [hsite] at h
  cases part <;> cases h

/-- A call that holds binds the function to the sets that the site has. -/
theorem bound_of_callHolds {site : CallSite} {callee : ObjectId} {f f' : FunctionInfo}
    (hholds : c.CallHolds host site callee f) (hnew : site.isNew = false)
    (hset : part.types? site = some types) (hgrows : f.Grows f') : part.Bound c types f' := by
  cases part with
  | thisTypes =>
    show c.Includes f'.thisTypes types
    rw [hgrows.thisTypes]
    exact hholds.thisTypes hnew types hset
  | result =>
    show c.Includes types f'.returns
    rw [hgrows.returns]
    exact hholds.result hnew types hset

end SitePart

/-! ## Calls that are heard of late -/

/-- A call that is asked for puts a new constraint on the callees. -/
theorem registered_of_addCall {L : Law} (hL : L.Lawful) (h : L.At c) {callees : SetId} {id : SiteId}
    (hcallees : callees.In c.extent) (hid : id.In c.extent)
    (hasked : L.scope.grant.asks callees (.call id)) {x : Answer}
    (hrun : (Request.addCall callees id).perform L.pass c = (.ok x, c')) :
    ConstraintId.In ⟨c.constraints.size⟩ c'.extent ∧ c'.Hears callees ⟨c.constraints.size⟩ ∧
      c'.constraint ⟨c.constraints.size⟩ = .call id := by
  have hregular : (true = true ∧ (Constraint.call id).isWired = false ∨
      (Constraint.call id).isFreeze = true) ∨ L.scope.direct ⟨c.constraints.size⟩ :=
    .inl (.inl ⟨rfl, rfl⟩)
  have hadd := moves_addConstraint hL h hasked hcallees hid hregular
  have houtcome : Outcome ((Request.addCall callees id).perform L.pass) c
      (fun _ c' => ConstraintId.In ⟨c.constraints.size⟩ c'.extent ∧
        c'.Hears callees ⟨c.constraints.size⟩ ∧
          (c'.constraint ⟨c.constraints.size⟩).bare = (Constraint.call id).bare)
      fun _ _ => True := by
    refine outcome_bind.mpr (outcome_discard.mpr (Outcome.imp hadd ?_ fun _ _ _ => trivial))
    rintro k c₁ ⟨-, -, rfl, hin, hhears, hbare⟩
    exact outcome_pure.mpr ⟨hin, hhears, hbare⟩
  obtain ⟨hin, hhears, hbare⟩ := houtcome.of_run hrun
  exact ⟨hin, hhears, Constraint.eq_of_bare_eq hbare rfl⟩

section Parts

variable {all : List (Except InferError Answer)} {before after : List Request} {callees : SetId}
  {id : SiteId}

/-- A call that is asked for in a part of a run has a constraint that was not there before. -/
theorem call_of_late (hpart : Request.Part host all after b c)
    (hb : (unhandled host (Request.scopeOf all True)).At b) (hattended : b.Attended)
    (hcall : .addCall callees id ∈ after) :
    ∃ k, c.Hears callees k ∧ c.constraint k = .call id ∧ ¬ b.Hears callees k := by
  obtain ⟨first, rest, rfl⟩ := List.append_of_mem hcall
  obtain ⟨hfirst, hrest⟩ := hpart.split
  rw [← List.singleton_append] at hrest
  obtain ⟨hrequest, hlast⟩ := hrest.split
  generalize (Request.runAll host first b).2 = a at *
  rcases hrun : (Request.addCall callees id).run host a with ⟨o, a'⟩
  have hone : Request.runAll host [.addCall callees id] a = ([o], a') := by
    simp only [Request.runAll, hrun]
  rw [hone] at hrequest hlast
  obtain ⟨ha, hgood₁, -⟩ := hfirst.good (fun _ _ _ => trivial) hb
  obtain ⟨ha', hgood₂, -⟩ := hrequest.good (fun _ _ _ => trivial) ha
  obtain ⟨hc, hgood₃, -⟩ := hlast.good (fun _ _ _ => trivial) ha'
  obtain ⟨hcallees, hid⟩ : callees.In a.extent ∧ id.In a.extent := hrequest.valid.1
  have hmem : o ∈ all := hrequest.outcomes (by rw [hone]; exact List.mem_singleton_self o)
  cases o with
  | error e => cases hpart.ok _ hmem
  | ok x =>
    have hL : (unhandled host (Request.scopeOf all True)).Lawful :=
      lawful_unhandled host trivial fun _ _ h => h
    obtain ⟨hk', hhears, hk⟩ := registered_of_addCall hL ha hcallees hid trivial hrun
    have hgrows := hgood₃.grows ha'.sound
    refine ⟨⟨a.constraints.size⟩, hhears.mono hgrows, ?_, ?_⟩
    · have hbare := (hgrows.constraint _ hk').bare
      rw [hk] at hbare
      exact Constraint.eq_of_bare_eq hbare rfl
    · intro hearlier
      have hin := (hb.sound.valid.sets callees).constraints _
        (hattended.listens callees _ true hearlier)
      have hsize : b.constraints.size ≤ a.constraints.size :=
        (hgood₁.grows hb.sound).extent.constraints
      exact Nat.lt_irrefl _ (Nat.lt_of_lt_of_le hin hsize)

/-- A call that was asked for hears of each callee; of one that is new, or if the call is, it hears
late. -/
theorem fired_since (hresolved : b.Resolved) (hb : (unhandled host (Request.scopeOf all True)).At b)
    (hpart : Request.Part host all after b c)
    (hcall : c.Asked callees (.call id)) {t : Ty} (ht : t ∈ (c.set callees).types)
    (hlate : .addCall callees id ∈ after ∨ t ∉ (b.set callees).types) :
    ∃ k, c.constraint k = .call id ∧ b.FiredSince c ⟨k, callees, t⟩ := by
  obtain ⟨hc, hgood, -⟩ := hpart.good (fun _ _ _ => trivial) hb
  have hsince := hgood.did.heardSince (fun h => h) hb.sound hresolved.attended
  have hnone : c.worklist.pending = [] := hc.rest.1
  obtain ⟨k, hhears, hk, hnew⟩ : ∃ k, c.Hears callees k ∧ c.constraint k = .call id ∧
      ¬ (b.Hears callees k ∧ t ∈ (b.set callees).types) := by
    rcases hlate with hlate | hlate
    · obtain ⟨k, hhears, hk, hnew⟩ := call_of_late hpart hb hresolved.attended hlate
      exact ⟨k, hhears, hk, fun hold => hnew hold.1⟩
    · obtain ⟨k, -, hhears, hbare⟩ := hcall
      exact ⟨k, hhears, Constraint.eq_of_bare_eq hbare rfl, fun hold => hlate hold.2⟩
  refine ⟨k, hk, (hsince.heard callees k t hhears ht hnew).resolve_left ?_⟩
  rw [hnone]
  exact List.not_mem_nil

end Parts

/-- Between two requests, every callee that a call constraint has heard of since the site has the set
is bound to it.  A callee is heard of late if it was added to the callees late, or if the call was
asked for late. -/
theorem forced_sets_bound {host : Host} {options : Options} {before after : List Request}
    {outcomes : List (Except InferError Answer)} {b c : Compartment}
    (hbefore : (Request.runAll host before (fresh options)).2 = b)
    (hrun : Request.runAll host (before ++ after) (fresh options) = (outcomes, c))
    (hvalid : Request.ValidAlong host (before ++ after) (fresh options))
    (hok : ∀ o ∈ outcomes, o.isOk = true) (hnative : ∀ r ∈ before ++ after, r.isNative = false)
    {part : SitePart} {id : SiteId} {types : SetId}
    (hforced : (part.request id).run host b = (.ok (.set types), b))
    (hnew : (c.site id).isNew = false) {callees : SetId}
    (hcall : .addCall callees id ∈ before ++ after) {t : Ty} (ht : t ∈ (c.set callees).types)
    (hlate : .addCall callees id ∈ after ∨ t ∉ (b.set callees).types) :
    (part.request id).run host c = (.ok (.set types), c) ∧
      (t = .unknown → part = .result → (c.set types).isUnknown = true) ∧
      ∀ f info, t = .object f → (c.object f).function = some info → part.Bound c types info := by
  subst hbefore
  have hall := Request.Part.of_run hrun hvalid hok hnative
  obtain ⟨hfirst, hlast⟩ := hall.split
  generalize (Request.runAll host before (fresh options)).2 = b at *
  obtain ⟨hb, hgood, -⟩ := hfirst.good (fun _ _ _ => trivial) (at_fresh options _ trivial _ _)
  obtain ⟨hc, hgood', -⟩ := hlast.good (fun _ _ _ => trivial) hb
  obtain ⟨-, -, hdone⟩ := hall.good (fun _ _ _ => trivial) (at_fresh options _ trivial _ _)
  have hresolved := resolved_of_good (fun h => h) hb hgood
  have hresolved' := hresolved.after (fun h => h) hc hgood'
  have hset := part.types?_of_run hforced
  have hid := part.in_of_types? hset
  have hset' := part.types?_of_grows ((hgood'.grows hb.sound).site id hid) hset
  refine ⟨part.run_request hset', ?_⟩
  obtain ⟨k, hk, late, early, hjournal, hlength⟩ :=
    fired_since hresolved hb hlast (hdone _ hcall) ht hlate
  -- The moment at which the constraint heard of the callee; the site had the set by then.
  obtain ⟨m, c₁, hmoment⟩ := hgood'.delivered late early _ hjournal hlength
  obtain ⟨hm, hgrows, hsettled⟩ := hmoment.kept hb.sound hc.sound
  rw [hk] at hsettled
  have hupTo := hmoment.upTo.grows hb.sound
  have hset'' := part.types?_of_grows (hupTo.site id hid) hset
  have hbound : BoundSince host m c ⟨k, callees, t⟩ late id := hresolved'.boundSince hgrows
    hmoment.valid (by rw [hmoment.journal, hjournal]) hmoment.journal hsettled
  constructor
  · rintro rfl rfl
    exact (hbound.unknown rfl).2 types hset''
  · rintro f info rfl hinfo
    obtain ⟨f₀, hf₀, -, hholds⟩ := hbound.function f rfl (by rw [ObjectInfo.isFunction, hinfo]; rfl)
    obtain ⟨info', hinfo', hkept⟩ := (hgrows.object f).function f₀ hf₀
    rw [hinfo] at hinfo'
    cases hinfo'
    have hplain : (m.site id).isNew = false :=
      (hgrows.site id (hid.mono hupTo.extent)).isNew.symm.trans hnew
    exact part.bound_of_callHolds hholds hplain hset'' hkept

/-- A call, a set for its results, and then the function that is called and what it returns. -/
def forcedRun : List Request :=
  [.typeObject none "f" true none, .newSet, .newCallSite { code := ⟨⟨0⟩, 3⟩ }, .addCall ⟨3⟩ ⟨0⟩,
    .forceResult ⟨0⟩, .addType ⟨3⟩ (.object ⟨1⟩), .addType ⟨1⟩ .int32]

theorem forced_sets_bound_early :
    let c := (Request.runAll .silent forcedRun (fresh {})).2
    c.Includes ⟨4⟩ ⟨1⟩ ∧ .int32 ∈ (c.set ⟨1⟩).types := by
  intro c
  have hrun : Request.runAll .silent (forcedRun.take 5 ++ forcedRun.drop 5) (fresh {}) =
      ((Request.runAll .silent forcedRun (fresh {})).1, c) := rfl
  have hforced : (SitePart.result.request ⟨0⟩).run .silent
      (Request.runAll .silent (forcedRun.take 5) (fresh {})).2 =
        (.ok (.set ⟨4⟩), (Request.runAll .silent (forcedRun.take 5) (fresh {})).2) :=
    SitePart.run_request (by decide +kernel)
  have hcall : .addCall ⟨3⟩ ⟨0⟩ ∈ forcedRun.take 5 ++ forcedRun.drop 5 := by decide +kernel
  have ht : .object ⟨1⟩ ∈ (c.set ⟨3⟩).types := by decide +kernel
  have hinfo : (c.object ⟨1⟩).function = some { returns := ⟨1⟩, thisTypes := ⟨2⟩ } := by
    decide +kernel
  obtain ⟨-, -, hfunction⟩ := forced_sets_bound rfl hrun (by decide +kernel) (by decide +kernel)
    (by decide +kernel) hforced (by decide +kernel) hcall ht (.inr (by decide +kernel))
  exact ⟨hfunction ⟨1⟩ _ rfl hinfo, by decide +kernel⟩

/-- The same call, with the set for its results at the end. -/
def forcedLateRun : List Request :=
  [.typeObject none "f" true none, .newSet, .newCallSite { code := ⟨⟨0⟩, 3⟩ }, .addCall ⟨3⟩ ⟨0⟩,
    .addType ⟨3⟩ (.object ⟨1⟩), .forceResult ⟨0⟩, .addType ⟨1⟩ .int32]

/-- What a function returns does not arrive in a set that its call site is made to have later. -/
theorem forced_late_unbound :
    let c := (Request.runAll .silent forcedLateRun (fresh {})).2
    (∀ o ∈ (Request.runAll .silent forcedLateRun (fresh {})).1, o.isOk = true) ∧
      (c.site ⟨0⟩).isNew = false ∧ (c.site ⟨0⟩).result = some ⟨4⟩ ∧
      (c.set ⟨3⟩).types = [.object ⟨1⟩] ∧ ((c.object ⟨1⟩).function.map (·.returns)) = some ⟨1⟩ ∧
      (c.set ⟨1⟩).types = [.int32] ∧ (c.set ⟨4⟩).types = [] := by
  decide +kernel

end Compartment

end FlowTypes
