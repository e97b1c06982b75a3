import FlowTypes.Proofs.Deliveries

/-!
# The solver reaches a solution

Between two requests every constraint of the program holds for every type of its set, as the host
sees it: what a request for a property answers is what was read from it, and what was written to it
is among its types.

The argument has three parts.  Every type that a constraint has to hear of was delivered to it, since
nothing is pending.  What was delivered is settled, and stays so.  And the types that flow along a
subset edge, which is all that settling a read or a write asks for, have arrived, because the edge
is a constraint too.

## Main results

* `Resolved`: what holds of a compartment between two requests.
* `Resolved.solved`: every constraint that heard of a type holds for it.
* `solution_reached`: the same for every run in which each request succeeds.
-/

namespace FlowTypes

namespace Compartment

variable {host : Host} {c : Compartment}

/-! ## Constraints that hold -/

/-- The types that a request for a property answers are in the target. -/
def ReadHolds (host : Host) (c : Compartment) (o : ObjectId) (key : Key) (target : SetId) : Prop :=
  ∃ types, getProperty (solve host) o key false c = (.ok types, c) ∧
    ∀ t ∈ (c.set types).types, (c.set target).has t = true

/-- The types of a set are own types of the property and types of it, unless the object is
unknown. -/
def WriteHolds (host : Host) (c : Compartment) (o : ObjectId) (key : Key) (values : SetId) : Prop :=
  (c.object o).isUnknown = true ∨
    ∃ own types, getProperty (solve host) o key true c = (.ok own, c) ∧
      getProperty (solve host) o key false c = (.ok types, c) ∧
      ∀ t ∈ (c.set values).types, (c.set own).has t = true ∧ (c.set types).has t = true

/-- A property access holds for a type of the objects. -/
def AccessHolds (host : Host) (c : Compartment) (code : Option Location) (key : Key)
    (target : SetId) : Access → Ty → Prop
  | .read, .unknown => (c.set target).has .unknown = true
  | .write, .unknown => c.Monitors code
  | .read, .object o => c.ReadHolds host o key target
  | .write, .object o => c.WriteHolds host o key target
  | .read, t => ∀ b, wrapper? t = some b →
    ∃ o, c.builtin? b = some o ∧ c.ReadHolds host o key target
  | .write, _ => True

/-- An element access holds for the type of an index. -/
def ElementHolds (host : Host) (c : Compartment) (code : Option Location)
    (objects target : SetId) (access : Access) (t : Ty) : Prop :=
  if isIndexType t then
    ∀ u ∈ (c.set objects).types, c.AccessHolds host code .index target access u
  else match access with
    | .read => (c.set target).has .unknown = true
    | .write => c.Monitors code

/-- A constraint holds for a type of its set. -/
def Holds (host : Host) (c : Compartment) (t : Ty) : Constraint → Prop
  | .subset target => (c.set target).has t = true
  | .property code key target access => c.AccessHolds host code key target access t
  | .element code objects target access _ => c.ElementHolds host code objects target access t
  | .boxThis target => c.Boxed target t
  | .filter target mode => mode.passes t = true → (c.set target).has t = true
  | .monitorRead code target => c.Forwarded code target t
  | _ => True

/-! ## Compartments between two requests -/

/-- The moment at which a constraint heard of a type, seen from later on: the compartment has grown
since then, and what was settled is still settled. -/
theorem SettledAfter.kept {sc : Scope} {c' b c₁ : Compartment} {w : Work} {before : List Event}
    (hc : c.Sound) (hc' : c'.Sound) (h : SettledAfter sc c c' w before b c₁) :
    b.Sound ∧ b.Grows c' ∧ Settled b c' w (c'.constraint w.constraint) := by
  have hsound := h.upTo.sound hc
  have hsound₁ := h.during.sound hsound
  have hgrows := h.since.grows hsound₁
  have hw := h.valid.constraint.mono (h.during.grows hsound).extent
  exact ⟨hsound, (h.during.grows hsound).trans hgrows, h.settled.mono hgrows hsound₁.valid hc'.valid
    (hgrows.constraint w.constraint hw)⟩

/-- A constraint that was settled for a type right after it heard of it is settled later on. -/
theorem SettledAfter.later {sc : Scope} {c' b c₁ : Compartment} {w : Work} {before : List Event}
    (hc : c.Sound) (hc' : c'.Sound) (h : SettledAfter sc c c' w before b c₁) :
    w.constraint.In c'.extent ∧ ∃ b, Settled b c' w (c'.constraint w.constraint) := by
  obtain ⟨-, hgrows, hsettled⟩ := h.kept hc hc'
  exact ⟨h.valid.constraint.mono hgrows.extent, b, hsettled⟩

/-- Of two types that were delivered, the one that came last was delivered when the other one was
there. -/
theorem last_sees {P : Compartment → Prop} (hmoment : ∀ after before w,
      c.journal = after ++ .fired w :: before → ∃ m, m.journal = .fired w :: before ∧ m.Genuine ∧
        P m ∧ Settled m c w (c.constraint w.constraint)) {w w' : Work}
    (hw : .fired w ∈ c.journal) (hw' : .fired w' ∈ c.journal) :
    (∃ m, P m ∧ Settled m c w (c.constraint w.constraint) ∧ w'.type ∈ (m.set w'.source).types) ∨
      ∃ m, P m ∧ Settled m c w' (c.constraint w'.constraint) ∧ w.type ∈ (m.set w.source).types := by
  obtain ⟨after, before, hjournal⟩ := List.append_of_mem hw
  rw [hjournal] at hw'
  obtain hlater | hearlier := List.mem_append.mp hw'
  · right
    obtain ⟨after', between, rfl⟩ := List.append_of_mem hlater
    rw [List.append_assoc, List.cons_append] at hjournal
    obtain ⟨m, hm, hgenuine, hP, hsettled⟩ := hmoment _ _ _ hjournal
    refine ⟨m, hP, hsettled, (hgenuine w (.inr ?_)).2⟩
    rw [hm]
    exact List.mem_cons_of_mem _ (List.mem_append_right _ List.mem_cons_self)
  · left
    obtain ⟨m, hm, hgenuine, hP, hsettled⟩ := hmoment _ _ _ hjournal
    exact ⟨m, hP, hsettled, (hgenuine w' (.inr (hm ▸ hearlier))).2⟩

/-- If nothing is pending and what was heard of is settled, what flows has arrived. -/
theorem arrived_of_flows (hc : c.Valid) (hattended : c.Attended) (hedges : c.EdgesHeard)
    (hpending : c.worklist.pending = [])
    (hsettled : ∀ w, .fired w ∈ c.journal → ∃ b, Settled b c w (c.constraint w.constraint))
    {source target : SetId} (hflows : c.Flows source target) {t : Ty}
    (ht : (c.set source).has t = true) : (c.set target).has t = true := by
  obtain rfl | hedge := hflows
  · exact ht
  · obtain ⟨id, hhears, hid⟩ := hedges source target hedge
    have harrived : ∀ u ∈ (c.set source).types, (c.set target).has u = true := by
      intro u hu
      obtain hwork | hfired := hattended.heard source id u hhears hu
      · rw [hpending] at hwork
        exact absurd hwork List.not_mem_nil
      · obtain ⟨b, hsettled⟩ := hsettled ⟨id, source, u⟩ hfired
        rw [hid] at hsettled
        exact hsettled
    obtain ht | hunknown := ((hc.sets source).coherent.has_iff t).mp ht
    · exact harrived t ht
    · exact (hc.sets target).coherent.has_of_has_unknown (harrived .unknown hunknown) t

/-- Nothing is pending, what was heard of is settled, and properties are wired. -/
structure Resolved (c : Compartment) : Prop where
  sound : c.Sound
  attended : c.Attended
  edges : c.EdgesHeard
  pending : c.worklist.pending = []
  fired : ∀ w, .fired w ∈ c.journal → w.constraint.In c.extent
  settled : ∀ w, .fired w ∈ c.journal → ∃ b, Settled b c w (c.constraint w.constraint)
  wired : ∀ o, ∀ p ∈ (c.object o).properties, c.Flows p.ownTypes p.types
  inherited : ∀ o proto, (c.object o).proto = some proto → ∀ p ∈ (c.object o).properties,
    c.Inherited o proto p
  forgotten : ∀ o, (c.object o).isUnknown = true → ∀ p ∈ (c.object o).properties,
    (c.set p.types).has .unknown = true ∧ (c.set p.ownTypes).has .unknown = true
  spread : ∀ o proto, (c.object o).proto = some proto → (c.object proto).isUnknown = true →
    (c.object o).isUnknown = true
  builtins : ∀ b id, c.builtin? b = some id → b.prototype? ≠ none → (c.object id).proto ≠ none

namespace Resolved

variable (h : c.Resolved)
include h

/-- A constraint that hears of all types of its set has settled each of them. -/
theorem settled_of_hears {s : SetId} {id : ConstraintId} {t : Ty} (hhears : c.Hears s id)
    (ht : t ∈ (c.set s).types) : ∃ b, Settled b c ⟨id, s, t⟩ (c.constraint id) := by
  obtain hpending | hfired := h.attended.heard s id t hhears ht
  · rw [h.pending] at hpending
    exact absurd hpending List.not_mem_nil
  · exact h.settled ⟨id, s, t⟩ hfired

/-- What flows has arrived. -/
theorem has_of_flows {source target : SetId} (hflows : c.Flows source target) {t : Ty}
    (ht : (c.set source).has t = true) : (c.set target).has t = true :=
  arrived_of_flows h.sound.valid h.attended h.edges h.pending h.settled hflows ht

theorem has_of_mem_flows {source target : SetId} (hflows : c.Flows source target) {t : Ty}
    (ht : t ∈ (c.set source).types) : (c.set target).has t = true :=
  h.has_of_flows hflows ((h.sound.valid.sets source).coherent.has_of_mem ht)

/-- The set that stands for every type has the unknown type. -/
theorem has_universal {options : Options} (hgrows : (fresh options).Grows c) (t : Ty) :
    (c.set universal).has t = true := by
  have hvalid := valid_fresh options
  refine hgrows.has hvalid h.sound.valid ((hvalid.sets universal).coherent.has_of_has_unknown ?_ t)
  exact (hvalid.sets universal).coherent.has_of_mem (mem_types_fresh.mpr ⟨rfl, rfl⟩)

omit h in
/-- A request for a property of an unknown object answers the set that stands for every type. -/
theorem getProperty_of_unknown {o : ObjectId} (hunknown : (c.object o).isUnknown = true) (key : Key)
    (own : Bool) : getProperty (solve host) o key own c = (.ok universal, c) := by
  have hrun : getProperty (solve host) o key own c =
      (if (c.object o).isUnknown then pure universal else _ : Action SetId) c := rfl
  rw [hrun, if_pos hunknown]
  rfl

omit h in
/-- A request for a property that is there changes nothing. -/
theorem getProperty_of_found {o : ObjectId} (hknown : ¬ (c.object o).isUnknown = true) {key : Key}
    {p : Property} (hp : (c.object o).property? key = some p) (own : Bool) :
    getProperty (solve host) o key own c = (.ok (if own then p.ownTypes else p.types), c) := by
  unfold getProperty
  rw [run_get]
  dsimp only
  rw [if_neg hknown, hp]
  rfl

/-- What is read of a property has arrived. -/
theorem readHolds {o : ObjectId} {key : Key} {target : SetId} (hreads : c.Reads o key target) :
    c.ReadHolds host o key target := by
  by_cases hunknown : (c.object o).isUnknown = true
  · refine ⟨universal, getProperty_of_unknown hunknown key false, fun t ht => ?_⟩
    obtain ⟨-, hflows⟩ | ⟨p, hp, hflows⟩ := hreads
    · exact h.has_of_mem_flows hflows ht
    · -- The property was read before the object became unknown, so it has the unknown type by now.
      have hforgotten := (h.forgotten o hunknown p (List.mem_of_find?_eq_some hp)).1
      exact (h.sound.valid.sets target).coherent.has_of_has_unknown
        (h.has_of_flows hflows hforgotten) t
  · obtain ⟨hunknown', -⟩ | ⟨p, hp, hflows⟩ := hreads
    · exact absurd hunknown' hunknown
    · exact ⟨p.types, getProperty_of_found hunknown hp false,
        fun t ht => h.has_of_mem_flows hflows ht⟩

/-- What is written to a property has arrived. -/
theorem writeHolds {o : ObjectId} {key : Key} {values : SetId}
    (hwrites : c.Writes o key values) : c.WriteHolds host o key values := by
  by_cases hunknown : (c.object o).isUnknown = true
  · exact .inl hunknown
  · obtain hunknown' | ⟨p, hp, hflows⟩ := hwrites
    · exact .inl hunknown'
    · refine .inr ⟨p.ownTypes, p.types, getProperty_of_found hunknown hp true,
        getProperty_of_found hunknown hp false, fun t ht => ?_⟩
      have hown := h.has_of_mem_flows hflows ht
      exact ⟨hown, h.has_of_flows (h.wired o p (List.mem_of_find?_eq_some hp)) hown⟩

/-- A property access that is settled holds. -/
theorem accessHolds {code : Option Location} {key : Key} {target : SetId} {access : Access}
    {t : Ty} (hsettled : c.Accessed code key target access t) :
    c.AccessHolds host code key target access t := by
  have hwrapped : (∀ b, wrapper? t = some b → ∃ o, c.builtin? b = some o ∧ c.Reads o key target) →
      ∀ b, wrapper? t = some b → ∃ o, c.builtin? b = some o ∧ c.ReadHolds host o key target := by
    intro hall b hb
    obtain ⟨o, ho, hreads⟩ := hall b hb
    exact ⟨o, ho, h.readHolds hreads⟩
  cases access with
  | read =>
    cases t with
    | unknown => exact hsettled
    | object o => exact h.readHolds hsettled
    | _ => exact hwrapped hsettled
  | write =>
    cases t with
    | unknown => exact hsettled
    | object o => exact h.writeHolds hsettled
    | _ => trivial

/-- A constraint that is settled for a type holds for it.  An element access that is wired holds
because its property access does. -/
theorem holds {b : Compartment} {w : Work} {k : Constraint}
    (helement : ∀ code objects target access, k = .element code objects target access true →
      ∃ id, c.Hears objects id ∧ c.constraint id = .property code .index target access)
    (hsettled : Settled b c w k) : c.Holds host w.type k := by
  cases k with
  | subset | boxThis | filter | monitorRead => exact hsettled
  | property => exact h.accessHolds hsettled
  | element code objects target access wired =>
    have hindexed : c.Indexed code target access wired w.type := hsettled
    show c.ElementHolds host code objects target access w.type
    unfold Indexed at hindexed
    unfold ElementHolds
    by_cases hindex : isIndexType w.type = true
    · rw [if_pos hindex] at hindexed
      rw [if_pos hindex]
      obtain ⟨id, hhears, hid⟩ := helement code objects target access (by rw [hindexed])
      intro u hu
      obtain ⟨b', hsettled'⟩ := h.settled_of_hears hhears hu
      rw [hid] at hsettled'
      exact h.accessHolds hsettled'
    · rw [if_neg hindex] at hindexed
      rw [if_neg hindex]
      exact hindexed
  | _ => trivial

end Resolved

theorem resolved_fresh (options : Options) : (fresh options).Resolved := by
  have hnone : ∀ o, ((fresh options).object o).properties = [] ∧
      ((fresh options).object o).proto = none ∧
        ((fresh options).object o).isUnknown = false := by
    rintro ⟨i⟩
    cases i <;> exact ⟨rfl, rfl, rfl⟩
  constructor
  · exact sound_fresh options
  · exact attended_fresh options
  · exact edgesHeard_fresh options
  · rfl
  · intro w hfired
    cases hfired
  · intro w hfired
    cases hfired
  · intro o p hp
    rw [(hnone o).1] at hp
    cases hp
  · intro o proto ho
    rw [(hnone o).2.1] at ho
    cases ho
  · intro o ho
    rw [(hnone o).2.2] at ho
    cases ho
  · intro o proto ho
    rw [(hnone o).2.1] at ho
    cases ho
  · intro b id hb
    cases hb

section Between

variable {scope : Scope} {invariant : scope.Invariant} {fails : InferError → Prop}
  {b : Compartment} (haborts : ¬ scope.aborts)
  (hat : (between host scope invariant fails).At c)
include haborts hat

/-- A run that obeys the law between passes leaves a resolved compartment resolved. -/
theorem Resolved.after (h : b.Resolved) (hgood : (between host scope invariant fails).Good b c) :
    c.Resolved := by
  have hgrows := hgood.grows h.sound
  obtain ⟨hattended, hedges⟩ := hgood.did.attended haborts h.sound h.attended h.edges
  have htidied := hgood.tidied trivial
  have hheard : ∀ w, .fired w ∈ c.journal → w.constraint.In c.extent ∧
      ∃ b', Settled b' c w (c.constraint w.constraint) := by
    intro w hfired
    obtain ⟨after, before, hjournal⟩ := List.append_of_mem hfired
    by_cases hlate : b.journal.length ≤ before.length
    · obtain ⟨b', c₁, hsettled⟩ := hgood.delivered after before w hjournal hlate
      exact hsettled.later h.sound hat.sound
    · -- The constraint heard of the type earlier, and what is settled stays so.
      obtain ⟨es, hes⟩ := hgrows.journal
      rw [← hes] at hjournal
      obtain ⟨after', hearlier⟩ := journal_split hjournal (by omega)
      have hfired' : .fired w ∈ b.journal := hearlier ▸ List.mem_append_right _ List.mem_cons_self
      obtain ⟨b', hsettled⟩ := h.settled w hfired'
      exact ⟨(h.fired w hfired').mono hgrows.extent, b', hsettled.mono hgrows h.sound.valid
        hat.sound.valid (hgrows.constraint w.constraint (h.fired w hfired'))⟩
  constructor
  · exact hat.sound
  · exact hattended
  · exact hedges
  · exact hat.rest.1
  · exact fun w hfired => (hheard w hfired).1
  · exact fun w hfired => (hheard w hfired).2
  · intro o p hp
    exact (htidied.wired o p hp).elim (fun hold => hgrows.flows (h.wired o p hold)) id
  · intro o proto ho p hp
    refine (htidied.inherited o proto ho p hp).elim (fun hold => ?_) id
    exact (h.inherited o proto hold.1 p hold.2).mono hgrows
  · intro o ho
    refine (htidied.forgotten o ho).elim (fun hold p hp => ?_) id
    rw [((hgrows.object o).unknown hold).2] at hp
    obtain ⟨htypes, hown⟩ := h.forgotten o hold p hp
    exact ⟨hgrows.has h.sound.valid hat.sound.valid htypes,
      hgrows.has h.sound.valid hat.sound.valid hown⟩
  · intro o proto ho hunknown
    refine (htidied.spread o proto ho hunknown).elim (fun hold => ?_) id
    exact hgrows.isUnknown (h.spread o proto hold.1 hold.2)
  · intro d id hd hp
    refine (htidied.builtins d id hd hp).elim (fun hold => ?_) fun hset => hset
    exact hgrows.proto_ne_none (h.builtins d id hold hp)

/-- A run that obeys the law between passes, from a fresh compartment on, leaves one that is
resolved. -/
theorem resolved_of_good {options : Options}
    (hgood : (between host scope invariant fails).Good (fresh options) c) : c.Resolved :=
  (resolved_fresh options).after haborts hat hgood

end Between

/-- Between two requests, every constraint that a request of the program registered, or that the
solver registered, holds for every type of its set. -/
theorem solution_reached {host : Host} {options : Options} {rs : List Request}
    {outcomes : List (Except InferError Answer)} {c : Compartment}
    (hrun : Request.runAll host rs (fresh options) = (outcomes, c))
    (hvalid : Request.ValidAlong host rs (fresh options)) (hok : ∀ o ∈ outcomes, o.isOk = true)
    (hnative : ∀ r ∈ rs, r.isNative = false) {s : SetId} {id : ConstraintId}
    (hlistens : id ∈ (c.set s).constraints) (hdirect : .ok (.constraint id) ∉ outcomes) {t : Ty}
    (ht : t ∈ (c.set s).types) : c.Holds host t (c.constraint id) := by
  have hredelivery : ∀ r ∈ rs, r.isRedelivery = true → True := fun _ _ _ => trivial
  obtain ⟨hat, hgood, -⟩ := Request.runAll_unhandled hrun hvalid hok hnative hredelivery
  have hresolved := resolved_of_good (fun h => h) hat hgood
  have hsound := sound_fresh options
  have hfresh : ((fresh options).set s).constraints = [] := by
    obtain ⟨i⟩ := s
    cases i <;> rfl
  by_cases hfreeze : (c.constraint id).isFreeze = true
  · -- The answers that are frozen are no constraints of the program.
    cases hk : c.constraint id <;> rw [hk] at hfreeze <;> trivial
  · obtain hold | hhears | hfreeze' | hhost := hgood.did.listed hsound hlistens
    · rw [hfresh] at hold
      cases hold
    · obtain ⟨b, hsettled⟩ := hresolved.settled_of_hears hhears ht
      refine hresolved.holds (w := ⟨id, s, t⟩) ?_ hsettled
      intro code objects target access hk
      obtain hwired | hhost | hproperty := hgood.did.wired (fun h => h) hsound
        (attended_fresh options) hk
      · cases hwired
      · exact absurd hhost hdirect
      · exact hproperty
    · exact absurd hfreeze' hfreeze
    · exact absurd hhost hdirect

/-- A property is assigned, and read into a set by way of the set of its object. -/
def readingRun : List Request :=
  [.newSet, .newSet, .typeObject none "o" false none,
    .observeAssignment ⟨1⟩ (.named "x") (.int32 0),
    .readProperty ⟨1⟩ none ⟨2⟩ (.named "x"), .addType ⟨1⟩ (.object ⟨1⟩)]

theorem solution_reached_read :
    (Request.runAll .silent readingRun (fresh {})).2.Holds .silent (.object ⟨1⟩)
      (.property none (.named "x") ⟨2⟩ .read) := by
  have hrun : Request.runAll .silent readingRun (fresh {}) =
      ((Request.runAll .silent readingRun (fresh {})).1,
        (Request.runAll .silent readingRun (fresh {})).2) := rfl
  have hk : (Request.runAll .silent readingRun (fresh {})).2.constraint ⟨1⟩ =
      .property none (.named "x") ⟨2⟩ .read := by decide +kernel
  have hlistens : ⟨1⟩ ∈ ((Request.runAll .silent readingRun (fresh {})).2.set ⟨1⟩).constraints := by
    decide +kernel
  have ht : .object ⟨1⟩ ∈ ((Request.runAll .silent readingRun (fresh {})).2.set ⟨1⟩).types := by
    decide +kernel
  rw [← hk]
  exact solution_reached hrun (by decide +kernel) (by decide +kernel) (by decide +kernel) hlistens
    (by decide +kernel) ht

end Compartment

end FlowTypes
