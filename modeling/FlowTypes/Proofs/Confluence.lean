import FlowTypes.Proofs.Saturation

/-!
# The order of requests does not matter

A host makes sets and objects first, and then asks for types to flow between them and through their
properties.  The engine delivers the types as they come, and which property sets are wired to which,
and what an operation sees of its other operand, depends on what has been delivered.  Nevertheless
the order of the requests leaves no trace in the types: each of two runs holds what the other one
holds, since each is the least typing that solves what the host asked for.

That is so as long as the unknown type does not come up.  If it does not in one order, it does in
none.

## Main results

* `Request.isFixture`, `Request.isFlowing`: what is there first, and what is asked for then.
* `furnishing_of_fixtures`, `flowed_of_run`: what the two parts of a run lead to.
* `flow_confluent`: two orders of the same requests end in the same types.
-/

namespace FlowTypes

open Compartment

/-! ## Requests -/

namespace Request

/-- The request makes a set or an object, or gives an object its prototype. -/
def isFixture : Request → Bool
  | newSet | typeObject .. | addPrototype .. => true
  | _ => false

/-- The request makes types flow: to sets, between sets, or through properties and elements. -/
def isFlowing : Request → Bool
  | addType .. | addSubset .. | addFilter .. | addArith .. | readProperty .. | writeProperty ..
  | readElement .. | writeElement .. => true
  | observeAssignment _ key _ => !key.isNamed "__proto__"
  | _ => false

/-- The request puts a constraint on a set. -/
def Puts (s : SetId) (k : Constraint) : Request → Prop
  | readProperty objects code target key => s = objects ∧ k = .property code key target .read
  | writeProperty objects code values key => s = objects ∧ k = .property code key values .write
  | readElement objects indexes code target =>
    s = indexes ∧ k = .element code objects target .read false
  | writeElement objects indexes code values =>
    s = indexes ∧ k = .element code objects values .write false
  | addFilter source target mode => s = source ∧ k = .filter target mode
  | addArith lhs rhs target op => (s = lhs ∧ k = .arith op target rhs) ∨
    ∃ r ∈ rhs, s = r ∧ k = .arith op target (some lhs)
  | _ => False

/-- The handles of a request stay in the tables. -/
theorem Valid.mono {e e' : Extent} (h : e.Within e') {r : Request} (hr : r.Valid e) : r.Valid e' := by
  cases r with
  | addType | observeType => exact ⟨hr.1.mono h, hr.2.mono h⟩
  | addSubset | boxThis | addFilter | monitorRead | readProperty | writeProperty | addPrototype
  | addCall | setInnerStack | mergeStacks => exact ⟨hr.1.mono h, hr.2.mono h⟩
  | readElement | writeElement => exact ⟨hr.1.mono h, hr.2.1.mono h, hr.2.2.mono h⟩
  | addArith => exact ⟨hr.1.mono h, fun s hs => (hr.2.1 s hs).mono h, hr.2.2.mono h⟩
  | addConstraint => exact ⟨hr.1.mono h, hr.2.mono h⟩
  | deliver => exact Work.Valid.mono h hr
  | typeObject | newStackNode => exact fun p hp => (hr p hp).mono h
  | setFunctionScript | setNativeHandler | property | storeToInstances | markUnknown | markNotPacked
  | newObjectOf | prototypeObjectOf => exact ObjectId.In.mono h hr
  | initializerObject | forceThisTypes | forceResult => exact SiteId.In.mono h hr
  | observeAssignment => exact ⟨hr.1.mono h, fun t ht => (hr.2 t ht).mono h⟩
  | knownTag | knownKind | knownNonEmpty => exact SetId.In.mono h hr
  | observePush => exact Ty.In.mono h hr
  | newCallSite => exact CallSite.Valid.mono h hr
  | setSlotFlags => exact StackId.In.mono h hr
  | _ => trivial

end Request

namespace Compartment

variable {host : Host} {options : Options} {rs : List Request} {b c : Compartment}

/-! ## Sets, objects and prototypes -/

/-- What a host may bring about that makes sets and objects only. -/
def Scope.fixtures : Scope :=
  .granting { Grant.none with links := fun _ _ => True } (fun _ => False) False fun _ _ => False

theorem blank_fresh (options : Options) : (fresh options).Blank where
  universal := List.prefix_rfl
  constraints := rfl
  properties := by
    rintro ⟨i⟩
    cases i <;> rfl
  builtins _ := rfl
  known := by
    rintro ⟨i⟩
    cases i <;> rfl
  pending := rfl
  unheard _ := List.not_mem_nil

section Blank

variable (h : b.Blank)
include h

theorem Blank.not_hearing {w : Work} {k : Constraint} : ¬ b.Hearing w k :=
  fun hw => h.unheard w hw.1

theorem Blank.not_calls : ¬ b.Calls := by
  rintro ⟨id, -, hid, -⟩
  have hid : id.index < b.constraints.size := hid
  rw [h.constraints] at hid
  exact absurd hid (Nat.not_lt_zero _)

theorem Blank.not_keyed {key : Key} : ¬ b.Keyed key := by
  rintro (⟨o, p, hp, -⟩ | ⟨id, code, target, access, hk⟩)
  · rw [h.properties] at hp
    exact absurd hp List.not_mem_nil
  · have hnone : ¬ id.In b.extent := by
      show ¬ id.index < b.constraints.size
      rw [h.constraints]
      exact Nat.not_lt_zero _
    rw [constraint_of_not_in hnone] at hk
    cases hk

/-- Nothing flows. -/
theorem Blank.not_traffic : ¬ b.Traffic .fixtures c := by
  intro htraffic
  cases htraffic with
  | insert _ _ _ hwarrant =>
    cases hwarrant with
    | given h => exact h
    | assigned h => exact h
    | forgotten ho =>
      rw [h.known] at ho
      cases ho
    | emitted hw => exact h.not_hearing hw
    | called hcalls => exact h.not_calls hcalls
  | register hasked => exact hasked.elim id fun hcalls => h.not_calls hcalls.2
  | edge _ _ _ _ hdrawn =>
    cases hdrawn with
    | given h => exact h
    | own hp | inherited _ hp =>
      rw [h.properties] at hp
      exact absurd hp List.not_mem_nil
    | read hw | write hw => exact h.not_hearing hw
    | called hcalls => exact h.not_calls hcalls
  | wire _ _ hindex =>
    obtain ⟨w, hw, -⟩ := hindex
    exact h.unheard w hw
  | pop _ hnext =>
    rw [Worklist.next?_eq_none_iff.mpr h.pending] at hnext
    cases hnext
  | deliver h => exact h
  | abandon h => exact h

theorem Blank.change (hb : b.Sound) (hchange : b.Change .fixtures c) : c.Blank := by
  have hgrounded := hchange.grounded
  have hstill : (∀ o, (c.object o).properties = []) ∧ b.Quiet c := by
    obtain hbarren | ⟨-, rfl⟩ | ⟨name, function, -, -, rfl⟩ | ⟨_, _, -, -, -, hkey, -⟩ | htraffic :=
      hchange.barren_or
    · exact ⟨fun o => (hbarren.properties o).trans (h.properties o), hbarren.quiet⟩
    · exact ⟨h.properties, quiet_pushSet⟩
    · refine ⟨fun o => ?_, ?_⟩
      · rw [object_pushObject_eq]
        exact h.properties o
      · exact .of_eq rfl rfl rfl ⟨[_], rfl, fun e he => by rw [List.mem_singleton.mp he]; rfl⟩
    · exact absurd hkey (not_or.mpr ⟨id, h.not_keyed⟩)
    · exact absurd htraffic h.not_traffic
  obtain ⟨hproperties, hquiet⟩ := hstill
  constructor
  · exact h.universal.trans ((hchange.grows hb.valid).set _).types
  · exact hquiet.count.trans h.constraints
  · exact hproperties
  · intro d
    cases hd : c.builtin? d with
    | none => rfl
    | some id =>
      obtain hold | ⟨-, -, -, hdemanded⟩ := hgrounded.builtins d id hd
      · rw [h.builtins] at hold
        cases hold
      · cases hdemanded with
        | given h => exact h.elim
        | read hw | boxed hw => exact absurd hw h.not_hearing
        | called hcalls => exact absurd hcalls h.not_calls
  · intro o
    by_contra hunknown
    obtain hold | hforsaken := hgrounded.unknown o (by simpa using hunknown)
    · rw [h.known] at hold
      cases hold
    · cases hforsaken with
      | given h => exact h
      | inherited _ hp =>
        rw [h.known] at hp
        cases hp
      | untracked _ hid =>
        rw [h.builtins] at hid
        cases hid
  · exact hquiet.pending.trans h.pending
  · intro w hw
    obtain ⟨es, hes, hnone⟩ := hquiet.not_fired
    rw [hes] at hw
    exact (List.mem_append.mp hw).elim (hnone w) (h.unheard w)

end Blank

/-- Requests for sets and objects leave a compartment where nothing flows. -/
theorem Did.blank (hb : b.Sound) (hdid : Did .fixtures b c) (h : b.Blank) : c.Blank := by
  refine hdid.change_induction hb (fun a a' ha hchange h => h.change ha hchange) ?_ h
  intro a id _ hid h
  have hbarren := barren_classify hid
  obtain ⟨es, hes, hnone⟩ := hbarren.quiet.not_fired
  exact ⟨h.universal, h.constraints, fun o => (hbarren.properties o).trans (h.properties o),
    h.builtins, fun o => ((calm_classify hid).unknown o).trans (h.known o), h.pending, h.unheard⟩

/-! ## Flows -/

/-- What a host asks for that makes these requests. -/
def Grant.flow (rs : List Request) : Grant :=
  { Grant.none with
    keys := fun _ => True
    adds := fun s t => .addType s t ∈ rs
    joins := fun source target => .addSubset source target ∈ rs
    asks := fun s k => ∃ r ∈ rs, r.Puts s k
    assigns := History.Assigns rs }

/-- A request puts constraints on sets that belong to the compartment that the request belongs to. -/
theorem valid_of_puts {e : Extent} {r : Request} (hr : r.Valid e) {s : SetId} {k : Constraint}
    (hputs : r.Puts s k) : k.isFlow = true ∧ k.bare = k ∧ s.In e ∧ k.Valid e := by
  cases r with
  | readProperty | writeProperty | addFilter =>
    obtain ⟨rfl, rfl⟩ := hputs
    exact ⟨rfl, rfl, hr.1, hr.2⟩
  | readElement | writeElement =>
    obtain ⟨rfl, rfl⟩ := hputs
    exact ⟨rfl, rfl, hr.2.1, hr.1, hr.2.2⟩
  | addArith lhs rhs target op =>
    obtain ⟨hlhs, hrhs, htarget⟩ := hr
    obtain ⟨rfl, rfl⟩ | ⟨r, hr, rfl, rfl⟩ := hputs
    · exact ⟨rfl, rfl, hlhs, htarget, hrhs⟩
    · refine ⟨rfl, rfl, hrhs _ hr, htarget, ?_⟩
      rintro s ⟨⟩
      exact hlhs
  | _ => exact hputs.elim

theorem fluent_flow {e : Extent} (hvalid : ∀ r ∈ rs, r.Valid e) : (Grant.flow rs).Fluent e where
  adds h := hvalid _ h
  joins h := hvalid _ h
  asks h := by
    obtain ⟨r, hr, hputs⟩ := h
    exact valid_of_puts (hvalid r hr) hputs
  subsets s target h := by
    obtain ⟨r, -, hputs⟩ := h
    cases r with
    | addArith =>
      obtain ⟨-, hk⟩ | ⟨_, -, -, hk⟩ := hputs
      · cases hk
      · cases hk
    | readProperty | writeProperty | addFilter | readElement | writeElement => cases hputs.2
    | _ => exact hputs.elim
  operands h := by
    obtain ⟨r, hr, hputs⟩ := h
    refine ⟨r, hr, ?_⟩
    cases r with
    | addArith lhs rhs target op =>
      obtain ⟨rfl, hk⟩ | ⟨x, hx, rfl, hk⟩ := hputs
      · cases hk
        exact .inr ⟨_, rfl, rfl, rfl⟩
      · cases hk
        exact .inl ⟨rfl, congrArg _ hx.symm⟩
    | readProperty | writeProperty | addFilter | readElement | writeElement => cases hputs.2
    | _ => exact hputs.elim
  assigns h := by
    obtain ⟨value, hr, ht⟩ := h
    obtain ⟨ho, hvalue⟩ := hvalid _ hr
    exact ⟨ho, hvalue _ ht⟩
  marks _ := id
  links _ _ := id
  builds _ := id

theorem fulfilled_flow (hdone : ∀ r ∈ rs, r.Done c) : (Grant.flow rs).Fulfilled c where
  adds h := hdone _ h
  joins h := hdone _ h
  asks h := by
    obtain ⟨r, hr, hputs⟩ := h
    have hdone := hdone r hr
    cases r with
    | addArith lhs rhs target op =>
      obtain ⟨rfl, rfl⟩ | ⟨x, hx, rfl, rfl⟩ := hputs
      · exact hdone.1
      · exact hdone.2 _ hx
    | readProperty | writeProperty | addFilter | readElement | writeElement =>
      obtain ⟨rfl, rfl⟩ := hputs
      exact hdone
    | _ => exact hputs.elim
  assigns h := by
    obtain ⟨value, hr, ht⟩ := h
    exact (hdone _ hr).imp_right fun hall => hall.2 _ ht

/-- What the host asks for is what its requests are for. -/
theorem allowed_flow {r : Request} (hr : r ∈ rs) (hflow : r.isFlowing = true) :
    r.Allowed (.fluent (.flow rs)) c := by
  cases r with
  | addType | addSubset => exact hr
  | readProperty | writeProperty | addFilter | readElement | writeElement =>
    exact ⟨_, hr, rfl, rfl⟩
  | addArith => exact ⟨⟨_, hr, .inl ⟨rfl, rfl⟩⟩, fun x hx => ⟨_, hr, .inr ⟨x, hx, rfl, rfl⟩⟩⟩
  | observeAssignment o key value =>
    have hkey : ¬ key.isNamed "__proto__" = true := by
      have hkey : (!key.isNamed "__proto__") = true := hflow
      simpa using hkey
    show Grant.Assigns _ o key value
    unfold Grant.Assigns
    rw [if_neg hkey]
    exact ⟨trivial, fun t ht => ⟨value, hr, ht⟩⟩
  | _ => cases hflow

/-! ## Runs -/

/-- What the bound of a pass relies on, and that the handles of a compartment stay. -/
def furthering (sc : Scope) (b : Compartment) : sc.Invariant where
  Holds c := c.Listed ∧ c.SetsApart ∧ b.extent.Within c.extent
  kept _ _ hc hdid h :=
    ⟨hdid.listedOnce hc h.1, hdid.setsApart hc h.2.1, h.2.2.trans (hdid.grows hc).extent⟩

/-- The law of a host that asks for flows in a compartment, in which no pass gets to its bound. -/
def flowing (host : Host) (g : Grant) (b : Compartment) : Law :=
  between host (.fluent g) (furthering _ b) fun e => e ≠ .outOfMemory "worklist"

theorem lawful_flowing (host : Host) (g : Grant) (b : Compartment) : (flowing host g b).Lawful :=
  lawful_between trivial (fun _ _ => id) (Law.Free.refuses fun _ he => he).lenient
    (.inr fun _ _ _ hb (hkept : (furthering _ b).Holds _) hran =>
      hran.le_deliveryBound hb hkept.1 hkept.2.1)

theorem free_flowing (host : Host) (g : Grant) (b : Compartment) : (flowing host g b).Free :=
  fun _ he => he

/-- A compartment with sets, objects and prototypes, and nothing else. -/
structure Furnishing (host : Host) (b : Compartment) : Prop where
  blank : b.Blank
  resolved : b.Resolved
  standing : ∀ g, (flowing host g b).At b

/-- Requests for sets, objects and prototypes lead to such a compartment. -/
theorem furnishing_of_fixtures {outcomes : List (Except InferError Answer)}
    (hrun : Request.runAll host rs (fresh options) = (outcomes, b))
    (hvalid : Request.ValidAlong host rs (fresh options)) (hok : ∀ o ∈ outcomes, o.isOk = true)
    (hfixture : ∀ r ∈ rs, r.isFixture = true) : Furnishing host b := by
  have hsound := sound_fresh options
  have hallowed : ∀ r ∈ rs, ∀ c, r.Allowed .fixtures c := by
    intro r hr c
    have hfixture := hfixture r hr
    cases r with
    | newSet | addPrototype => trivial
    | typeObject => exact ⟨trivial, fun _ _ => trivial⟩
    | _ => cases hfixture
  obtain ⟨hat, hgood, -⟩ : (unhandled host .fixtures).At b ∧
      (unhandled host .fixtures).Good (fresh options) b ∧ ∀ r ∈ rs, r.Done b :=
    Request.runAll_allowed trivial (fun _ _ => id) hrun hvalid hok
      (fun r hr b _ _ _ _ => hallowed r hr b) (at_fresh options _ trivial _ _)
  refine ⟨hgood.did.blank hsound (blank_fresh options), resolved_of_good id hat hgood, fun g => ?_⟩
  refine ⟨⟨hat.sound, hat.handled.mono fun _ _ h => h, ?_, ?_, .refl _⟩, hat.rest⟩
  · exact hgood.did.listedOnce hsound (listed_fresh options)
  · exact hgood.did.setsApart hsound (setsApart_fresh options)

/-- A run of requests for flows, in any order, does all of them. -/
theorem flowed_of_run (hb : Furnishing host b) {rs' : List Request}
    (hsame : ∀ r, r ∈ rs' ↔ r ∈ rs) (hvalid : ∀ r ∈ rs, r.Valid b.extent)
    (hflow : ∀ r ∈ rs, r.isFlowing = true) {outcomes : List (Except InferError Answer)}
    (hrun : Request.runAll host rs' b = (outcomes, c)) (hok : ∀ o ∈ outcomes, o.isOk = true) :
    (flowing host (.flow rs) b).At c ∧ (flowing host (.flow rs) b).Good b c ∧
      Flowed (.flow rs) b c := by
  have hat := hb.standing (.flow rs)
  have halong : ∀ (rs : List Request) (c : Compartment), Request.Along host (fun _ _ => True) rs c := by
    intro rs
    induction rs with
    | nil => exact fun _ => trivial
    | cons r rs ih => exact fun c => ⟨trivial, ih _⟩
  obtain ⟨hat', hgood, hdone⟩ := Request.runAll_good (L := flowing host (.flow rs) b) hrun
    (halong rs' b) hok (fun r hr a x a' _ _ _ ha => by
      have hr := (hsame r).mp hr
      have hkept : (furthering _ b).Holds a := ha.kept
      have hmoves := Request.moves (lawful_flowing host _ b) ha ((free_flowing host _ b).supported r)
        ((hvalid r hr).mono hkept.2.2) (allowed_flow hr (hflow r hr))
      exact hmoves.imp ha fun _ _ _ _ hanswered => hanswered.done) hat
  refine ⟨hat', hgood, fluent_flow hvalid, hb.blank, hb.resolved, hgood.did, hgood.delivered,
    hb.resolved.after id hat' hgood, fulfilled_flow fun r hr => hdone r ((hsame r).mpr hr)⟩

/-- A request for a property is answered, and the run goes on as one of flows. -/
theorem flowed_of_property (hat : (flowing host (.flow rs) b).At c)
    (hgood : (flowing host (.flow rs) b).Good b c) (h : Flowed (.flow rs) b c) {o : ObjectId}
    (ho : o.In b.extent) (key : Key) (own : Bool) : ∃ s d,
      (Request.property o key own).run host c = (.ok (.set s), d) ∧ d.Answers o key own s ∧
        Flowed (.flow rs) b d := by
  have ho' := ho.mono h.traced.grows.extent
  have hlooks : Looks (getProperty (solve host) o key own) c :=
    h.resolved.looks_getProperty ho' key own
  have hmoves : (flowing host (.flow rs) b).Moves (getProperty (solve host) o key own) c
      fun s c' => c'.Answers o key own s :=
    moves_getProperty (lawful_flowing host _ b) (free_flowing host _ b).refuses.roomy hat ho' (.inl trivial) own
  cases hrun : (getProperty (solve host) o key own c).1 with
  | error e => exact absurd (hlooks.error hrun) (hmoves.error hrun).2.2
  | ok s =>
    obtain ⟨hgood', hrest, hanswers⟩ := hmoves.ok hrun
    have hlast := hgood.trans h.base.sound hgood'
    have hat' := hgood'.at hat hrest
    refine ⟨s, _, run_bind_ok (Prod.ext hrun rfl), hanswers, h.fluent, h.blank, h.base, hlast.did,
      hlast.delivered, h.base.after id hat' hlast, ?_⟩
    exact h.fulfilled.mono (hgood'.grows hat.sound) hat.sound.valid hat'.sound.valid

/-- A host makes sets, objects and prototypes, and then the same requests for flows in two orders,
all of which succeed.  If the unknown type has come up nowhere after the first order, apart from the
set that stands for every type, then it has not after the second one; the sets of the host stand for
the same types; and so do the answers for every property of its objects. -/
theorem flow_confluent {host : Host} {options : Options} {fixtures rs rs' : List Request}
    {made outcomes outcomes' : List (Except InferError Answer)} {b c c' : Compartment}
    (hmade : Request.runAll host fixtures (fresh options) = (made, b))
    (hvalid : Request.ValidAlong host fixtures (fresh options)) (hmadeOk : ∀ o ∈ made, o.isOk = true)
    (hfixture : ∀ r ∈ fixtures, r.isFixture = true)
    (hflow : ∀ r ∈ rs, r.isFlowing = true ∧ r.Valid b.extent) (hperm : rs.Perm rs')
    (hrun : Request.runAll host rs b = (outcomes, c)) (hok : ∀ o ∈ outcomes, o.isOk = true)
    (hrun' : Request.runAll host rs' b = (outcomes', c')) (hok' : ∀ o ∈ outcomes', o.isOk = true)
    (hdefinite : c.Definite) :
    c'.Definite ∧ (∀ s t, s.In b.extent → (c'.set s).has t = (c.set s).has t) ∧
      ∀ o key own, o.In b.extent → ∃ s d s' d',
        (Request.property o key own).run host c = (.ok (.set s), d) ∧
        (Request.property o key own).run host c' = (.ok (.set s'), d') ∧
        ∀ t, t ∈ (d'.set s').types ↔ t ∈ (d.set s).types := by
  have hb := furnishing_of_fixtures hmade hvalid hmadeOk hfixture
  have hvalid := fun r hr => (hflow r hr).2
  have hflow := fun r hr => (hflow r hr).1
  obtain ⟨hat, hgood, h⟩ := flowed_of_run hb (fun _ => Iff.rfl) hvalid hflow hrun hok
  obtain ⟨hat', hgood', h'⟩ := flowed_of_run hb (fun _ => hperm.symm.mem_iff) hvalid hflow hrun' hok'
  have hdefinite' := h.definite_of hdefinite h'
  refine ⟨hdefinite', fun s t hs => ?_, fun o key own ho => ?_⟩
  · have hle : ∀ {a a' : Compartment}, Flowed (.flow rs) b a → a.Definite →
        Flowed (.flow rs) b a' → (a'.set s).has t = true → (a.set s).has t = true := by
      intro a a' ha hdefinite ha' ht
      refine ((ha.valid.sets s).coherent.has_iff t).mpr ?_
      exact (((ha'.valid.sets s).coherent.has_iff t).mp ht).imp (ha.mem_of_mem hdefinite ha' hs)
        (ha.mem_of_mem hdefinite ha' hs)
    exact Bool.eq_iff_iff.mpr ⟨hle h hdefinite h', hle h' hdefinite' h⟩
  · obtain ⟨s, d, hanswer, hs, hd⟩ := flowed_of_property hat hgood h ho key own
    obtain ⟨s', d', hanswer', hs', hd'⟩ := flowed_of_property hat' hgood' h' ho key own
    have hlater := h.definite_of hdefinite hd
    have hlater' := h'.definite_of hdefinite' hd'
    exact ⟨s, d, s', d', hanswer, hanswer', fun t =>
      ⟨hd.mem_of_answers hlater hd' ho hs hs', hd'.mem_of_answers hlater' hd ho hs' hs⟩⟩

/-- Three sets, and an object that inherits from another one. -/
def mixedFixtures : List Request :=
  [.newSet, .newSet, .newSet, .typeObject none "above" false none,
    .typeObject none "below" false (some ⟨1⟩)]

/-- A property is assigned above, read below, and added to itself. -/
def mixedFlows : List Request :=
  [.addType ⟨1⟩ (.object ⟨2⟩), .observeAssignment ⟨1⟩ (.named "x") (.int32 0),
    .readProperty ⟨1⟩ none ⟨2⟩ (.named "x"), .addArith ⟨2⟩ (some ⟨2⟩) ⟨3⟩ .add,
    .writeProperty ⟨1⟩ none ⟨3⟩ (.named "y"), .addType ⟨2⟩ .double]

theorem flow_confluent_mixed :
    (Request.runAll .silent mixedFlows.reverse
      (Request.runAll .silent mixedFixtures (fresh {})).2).2.Definite ∧
    ∃ s d s' d',
      (Request.property ⟨2⟩ (.named "y") false).run .silent (Request.runAll .silent mixedFlows
        (Request.runAll .silent mixedFixtures (fresh {})).2).2 = (.ok (.set s), d) ∧
      (Request.property ⟨2⟩ (.named "y") false).run .silent (Request.runAll .silent mixedFlows.reverse
        (Request.runAll .silent mixedFixtures (fresh {})).2).2 = (.ok (.set s'), d') ∧
      ∀ t, t ∈ (d'.set s').types ↔ t ∈ (d.set s).types := by
  have hrun : ∀ rs c, Request.runAll .silent rs c =
      ((Request.runAll .silent rs c).1, (Request.runAll .silent rs c).2) :=
    fun rs c => (Prod.eta _).symm
  obtain ⟨hdefinite, -, hanswers⟩ := flow_confluent (hrun mixedFixtures (fresh {}))
    (by decide +kernel) (by decide +kernel) (by decide) (by decide +kernel)
    (List.reverse_perm _).symm (hrun mixedFlows _) (by decide +kernel) (hrun mixedFlows.reverse _)
    (by decide +kernel) (by decide +kernel)
  exact ⟨hdefinite, hanswers ⟨2⟩ (.named "y") false (by decide +kernel)⟩

end Compartment

end FlowTypes
