import FlowTypes.Proofs.Runs

/-!
# The order of deliveries

A constraint hears of the types of its set in the order in which they came, and of each of them
once.  The journal tells what it has heard of, and what it has not heard of yet is pending, in the
same order: `InOrder` says that the two together are the types of the set, or those that came after
the constraint if it was not to hear of the others.

A constraint gets the types that are there and those that come later by two different ways.  They
do not get in each other's way, because a new constraint has nothing pending, and because it listens
at one set only, and there only once.

## Main results

* `heard`, `added`: what the journal tells of a constraint and of a set.
* `Did.types`: the types of a set are those that the journal tells of.
* `Listed`, `Did.listedOnce`: a constraint listens at one set only.
* `Did.inOrder`: every sequence of changes keeps the order.
* `delivered_in_order`: what holds of this for every run.
-/

namespace FlowTypes

/-! ## What the journal tells -/

/-- The types that an event adds to a set. -/
def Event.addedTo (s : SetId) : Event → List Ty
  | .typeAdded target t => if target = s then [t] else []
  | _ => []

/-- The types that a constraint hears of by an event. -/
def Event.heardBy (id : ConstraintId) : Event → List Ty
  | .fired w => if w.constraint = id then [w.type] else []
  | _ => []

/-- The types that were added to a set, in their order. -/
def added (s : SetId) (journal : List Event) : List Ty := journal.reverse.flatMap (Event.addedTo s)

/-- The types that a constraint has heard of, in their order. -/
def heard (id : ConstraintId) (journal : List Event) : List Ty :=
  journal.reverse.flatMap (Event.heardBy id)

theorem added_append (s : SetId) (es js : List Event) :
    added s (es ++ js) = added s js ++ added s es := by
  rw [added, List.reverse_append, List.flatMap_append]
  rfl

theorem heard_append (id : ConstraintId) (es js : List Event) :
    heard id (es ++ js) = heard id js ++ heard id es := by
  rw [heard, List.reverse_append, List.flatMap_append]
  rfl

theorem added_cons (s : SetId) (e : Event) (js : List Event) :
    added s (e :: js) = added s js ++ e.addedTo s := by
  rw [← List.singleton_append, added_append]
  simp [added]

theorem heard_cons (id : ConstraintId) (e : Event) (js : List Event) :
    heard id (e :: js) = heard id js ++ e.heardBy id := by
  rw [← List.singleton_append, heard_append]
  simp [heard]

theorem added_of_quiet (s : SetId) {es : List Event} (h : ∀ e ∈ es, e.isDelivery = false) :
    added s es = [] := by
  refine List.flatMap_eq_nil_iff.mpr fun e he => ?_
  have hquiet := h e (List.mem_reverse.mp he)
  cases e <;> first | rfl | cases hquiet

theorem heard_of_quiet (id : ConstraintId) {es : List Event}
    (h : ∀ e ∈ es, e.isDelivery = false) : heard id es = [] := by
  refine List.flatMap_eq_nil_iff.mpr fun e he => ?_
  have hquiet := h e (List.mem_reverse.mp he)
  cases e <;> first | rfl | cases hquiet

theorem mem_added {s : SetId} {t : Ty} {journal : List Event} :
    t ∈ added s journal ↔ .typeAdded s t ∈ journal := by
  rw [added, List.mem_flatMap]
  constructor
  · rintro ⟨e, he, ht⟩
    cases e with
    | typeAdded target u =>
      simp only [Event.addedTo, List.mem_ite_nil_right, List.mem_singleton] at ht
      obtain ⟨rfl, rfl⟩ := ht
      exact List.mem_reverse.mp he
    | _ => cases ht
  · exact fun h => ⟨_, List.mem_reverse.mpr h, by simp [Event.addedTo]⟩

theorem mem_heard {id : ConstraintId} {t : Ty} {journal : List Event} :
    t ∈ heard id journal ↔ ∃ s, .fired ⟨id, s, t⟩ ∈ journal := by
  rw [heard, List.mem_flatMap]
  constructor
  · rintro ⟨e, he, ht⟩
    cases e with
    | fired w =>
      simp only [Event.heardBy, List.mem_ite_nil_right, List.mem_singleton] at ht
      obtain ⟨rfl, rfl⟩ := ht
      exact ⟨w.source, List.mem_reverse.mp he⟩
    | _ => cases ht
  · exact fun ⟨s, h⟩ => ⟨_, List.mem_reverse.mpr h, by simp [Event.heardBy]⟩

/-- An event that is not among the latest ones is among the others. -/
theorem older_of_not_mem {es js after before : List Event} {e : Event}
    (h : es ++ js = after ++ e :: before) (he : e ∉ es) :
    ∃ after', after = es ++ after' ∧ js = after' ++ e :: before := by
  obtain ⟨mid, hafter, hmid⟩ | ⟨mid, hes, hmid⟩ := List.append_eq_append_iff.mp h
  · exact ⟨mid, hafter, hmid⟩
  · cases mid with
    | nil => exact ⟨[], by rw [hes, List.append_nil, List.append_nil], hmid.symm⟩
    | cons x mid =>
      obtain ⟨rfl, -⟩ := List.cons.inj hmid
      exact absurd (hes ▸ List.mem_append_right _ List.mem_cons_self) he

namespace Compartment

variable {sc : Scope} {c c' : Compartment}

/-! ## The types of a set -/

/-- A set has the types that it had and those that were added since. -/
theorem Did.types (hc : c.Sound) (h : Did sc c c') : ∃ es, c'.journal = es ++ c.journal ∧
    ∀ s, (c'.set s).types = (c.set s).types ++ added s es := by
  have hquiet : ∀ {a b : Compartment} (es' : List Event), b.journal = es' ++ a.journal →
      (∀ s, added s es' = []) → (∀ s, (b.set s).types = (a.set s).types) →
      (∃ es, a.journal = es ++ c.journal ∧
        ∀ s, (a.set s).types = (c.set s).types ++ added s es) →
      ∃ es, b.journal = es ++ c.journal ∧
        ∀ s, (b.set s).types = (c.set s).types ++ added s es := by
    rintro a b es' hes' hnone htypes ⟨es, hes, hall⟩
    refine ⟨es' ++ es, by rw [hes', hes, List.append_assoc], fun s => ?_⟩
    rw [added_append, hnone, List.append_nil, htypes, hall]
  refine h.delivery_induction (P := fun b => ∃ es, b.journal = es ++ c.journal ∧
    ∀ s, (b.set s).types = (c.set s).types ++ added s es) hc ?_ ?_ ?_ ?_ ?_ ?_
    ⟨[], rfl, fun s => (List.append_nil _).symm⟩
  · intro a b hstill ha
    obtain ⟨es', hes', hdelivery⟩ := hstill.journal
    exact hquiet es' hes' (fun s => added_of_quiet s hdelivery) hstill.types ha
  · rintro a target t htarget hnew ⟨es, hes, hall⟩
    refine ⟨.typeAdded target t :: es, by rw [journal_insertType, hes]; rfl, fun s => ?_⟩
    rw [types_insertType htarget t hnew, added_cons, Event.addedTo, hall]
    split
    · rw [List.append_assoc]
    · rw [List.append_nil]
  · exact fun a source k callExisting _ hsource ha =>
      hquiet [_] (journal_register k callExisting) (fun _ => rfl)
        (types_register hsource k callExisting) ha
  · exact fun a _ _ _ _ _ ha => hquiet [_] rfl (fun _ => rfl) (fun _ => rfl) ha
  · exact fun a _ _ ha => hquiet [] rfl (fun _ => rfl) (fun _ => rfl) ha
  · exact fun a _ _ ha => hquiet [_] rfl (fun _ => rfl) (fun _ => rfl) ha

/-! ## Where constraints listen -/

/-- A constraint listens at one set only, and there once. -/
structure Listed (c : Compartment) : Prop where
  listens : ∀ s id callExisting, .constraintAdded s id callExisting ∈ c.journal →
    id ∈ (c.set s).constraints
  registered : ∀ s id, id ∈ (c.set s).constraints →
    ∃ callExisting, .constraintAdded s id callExisting ∈ c.journal
  only : ∀ s u id, id ∈ (c.set s).constraints → id ∈ (c.set u).constraints → u = s
  nodup : ∀ s, (c.set s).constraints.Nodup

theorem listed_fresh (options : Options) : (fresh options).Listed := by
  have hnone : ∀ s, ((fresh options).set s).constraints = [] := by
    rintro ⟨i⟩
    cases i <;> rfl
  constructor
  · intro s id callExisting h
    cases h
  · intro s id h
    rw [hnone] at h
    cases h
  · intro s u id h
    rw [hnone] at h
    cases h
  · intro s
    rw [hnone]
    exact List.nodup_nil

/-- The listeners and the journal's registrations are all that matters. -/
theorem Listed.congr (h : c.Listed)
    (hlisteners : ∀ s, (c'.set s).constraints = (c.set s).constraints)
    (hjournal : ∀ s id callExisting, .constraintAdded s id callExisting ∈ c'.journal ↔
      .constraintAdded s id callExisting ∈ c.journal) : c'.Listed where
  listens s id callExisting hadded := by
    rw [hlisteners]
    exact h.listens s id callExisting ((hjournal s id callExisting).mp hadded)
  registered s id hid := by
    rw [hlisteners] at hid
    exact (h.registered s id hid).imp fun callExisting => (hjournal s id callExisting).mpr
  only s u id hs hu := by
    rw [hlisteners] at hs hu
    exact h.only s u id hs hu
  nodup s := by
    rw [hlisteners]
    exact h.nodup s

theorem Listed.register (h : c.Listed) (hc : c.Valid) {source : SetId}
    (hsource : source.In c.extent) (k : Constraint) (callExisting : Bool) :
    (c.register source k callExisting).Listed := by
  have hnew : ∀ s, ⟨c.constraints.size⟩ ∉ (c.set s).constraints :=
    fun s hmem => Nat.lt_irrefl _ ((hc.sets s).constraints _ hmem)
  constructor
  · intro s id ce hadded
    rw [journal_register, List.mem_cons] at hadded
    rw [mem_listeners_register hsource]
    obtain hadded | hadded := hadded
    · cases hadded
      exact .inr ⟨rfl, rfl⟩
    · exact .inl (h.listens s id ce hadded)
  · intro s id hid
    rw [mem_listeners_register hsource] at hid
    rw [journal_register]
    obtain hid | ⟨rfl, rfl⟩ := hid
    · exact (h.registered s id hid).imp fun ce => List.mem_cons_of_mem _
    · exact ⟨callExisting, List.mem_cons_self⟩
  · intro s u id hs hu
    rw [mem_listeners_register hsource] at hs hu
    obtain hs | ⟨rfl, rfl⟩ := hs
    · obtain hu | ⟨-, rfl⟩ := hu
      · exact h.only s u id hs hu
      · exact absurd hs (hnew s)
    · obtain hu | ⟨hu, -⟩ := hu
      · exact absurd hu (hnew u)
      · exact hu.symm
  · intro s
    rw [set_register hsource]
    split
    · rw [TypeSet.constraints_listen]
      refine List.nodup_append.mpr ⟨h.nodup s, List.nodup_singleton _, ?_⟩
      rintro id hid _ hlast rfl
      rw [List.mem_singleton.mp hlast] at hid
      exact hnew s hid
    · exact h.nodup s

theorem Listed.still (h : c.Listed) (hstill : c.Still c') : c'.Listed := by
  obtain ⟨es, hes, hquiet⟩ := hstill.journal
  refine h.congr hstill.listeners fun s id callExisting => ?_
  rw [hes, List.mem_append]
  exact or_iff_right fun hmem => by cases hquiet _ hmem

theorem Listed.insertType (h : c.Listed) {target : SetId} (htarget : target.In c.extent) (t : Ty) :
    (c.insertType target t).Listed := by
  refine h.congr (constraints_insertType htarget t) fun s id callExisting => ?_
  rw [journal_insertType, List.mem_cons]
  exact or_iff_right nofun

/-- An event that registers nothing changes nothing. -/
theorem Listed.record (h : c.Listed) {e : Event} (hjournal : c'.journal = e :: c.journal)
    (he : ∀ s id callExisting, e ≠ .constraintAdded s id callExisting)
    (hlisteners : ∀ s, (c'.set s).constraints = (c.set s).constraints) : c'.Listed := by
  refine h.congr hlisteners fun s id callExisting => ?_
  rw [hjournal, List.mem_cons]
  exact or_iff_right fun heq => he s id callExisting heq.symm

/-- Every sequence of changes keeps the constraints at one set each. -/
theorem Did.listedOnce (hc : c.Sound) (h : Did sc c c') (hlisted : c.Listed) : c'.Listed := by
  refine h.delivery_induction hc ?_ ?_ ?_ ?_ ?_ ?_ hlisted
  · exact fun a b hstill ha => ha.still hstill
  · exact fun a target t htarget _ ha => ha.insertType htarget t
  · exact fun a source k callExisting hvalid hsource ha => ha.register hvalid hsource k callExisting
  · exact fun a work rest _ _ _ ha => ha.record rfl nofun fun _ => rfl
  · exact fun a work _ ha => ha.congr (fun _ => rfl) fun _ _ _ => .rfl
  · exact fun a e _ ha => ha.record rfl nofun fun _ => rfl

/-! ## What is pending -/

/-- The types that a constraint has yet to hear of, in their order. -/
def pendingFor (c : Compartment) (id : ConstraintId) : List Ty :=
  (c.worklist.pending.filter (·.constraint = id)).map (·.type)

theorem pendingFor_of_eq (h : c'.worklist.pending = c.worklist.pending) (id : ConstraintId) :
    c'.pendingFor id = c.pendingFor id := by
  rw [pendingFor, h, pendingFor]

/-- Nothing is pending for a constraint that is not there yet. -/
theorem pendingFor_of_not_in (hc : c.Valid) {id : ConstraintId} (hid : ¬ id.In c.extent) :
    c.pendingFor id = [] := by
  rw [pendingFor, List.map_eq_nil_iff, List.filter_eq_nil_iff]
  intro w hw
  rw [decide_eq_true_eq]
  rintro rfl
  exact hid (hc.pending w hw).constraint

/-- A new type becomes pending once for each listener. -/
theorem pendingFor_insertType (h : c.Listed) {target : SetId} (t : Ty) {s : SetId}
    {id : ConstraintId} (hid : id ∈ (c.set s).constraints) :
    (c.insertType target t).pendingFor id =
      c.pendingFor id ++ if target = s then [t] else [] := by
  have honce : ∀ ids : List ConstraintId, ids.Nodup →
      ((ids.map fun k => (⟨k, target, t⟩ : Work)).filter (·.constraint = id)).map (·.type) =
        if id ∈ ids then [t] else [] := by
    intro ids hids
    induction ids with
    | nil => rfl
    | cons k ids ih =>
      obtain ⟨hk, hids⟩ := List.nodup_cons.mp hids
      have ih := ih hids
      by_cases hkid : k = id
      · subst hkid
        rw [if_neg hk] at ih
        simp [ih]
      · simp [hkid, Ne.symm hkid, ih]
  rw [pendingFor, pending_insertType, List.filter_append, List.map_append,
    honce _ (h.nodup target)]
  congr 1
  by_cases htarget : target = s
  · rw [if_pos (htarget ▸ hid), if_pos htarget]
  · rw [if_neg fun hmem => htarget (h.only s target id hid hmem), if_neg htarget]

theorem pendingFor_register_of_ne {id : ConstraintId} (hid : id ≠ ⟨c.constraints.size⟩)
    (source : SetId) (k : Constraint) (callExisting : Bool) :
    (c.register source k callExisting).pendingFor id = c.pendingFor id := by
  rw [pendingFor, pending_register, List.filter_append, List.map_append, pendingFor]
  have hnone : ∀ ts : List Ty, (ts.map fun t => (⟨⟨c.constraints.size⟩, source, t⟩ : Work)).filter
      (·.constraint = id) = [] := by
    intro ts
    rw [List.filter_eq_nil_iff]
    intro w hw
    obtain ⟨t, -, rfl⟩ := List.mem_map.mp hw
    simpa using hid.symm
  split
  · rw [hnone, List.map_nil, List.append_nil]
  · rw [List.filter_nil, List.map_nil, List.append_nil]

/-- For a new constraint the types of its set are pending, if it is to hear of them. -/
theorem pendingFor_register_self (hc : c.Valid) (source : SetId) (k : Constraint)
    (callExisting : Bool) : (c.register source k callExisting).pendingFor ⟨c.constraints.size⟩ =
      if callExisting then (c.set source).types else [] := by
  have hnone : c.pendingFor ⟨c.constraints.size⟩ = [] := pendingFor_of_not_in hc (Nat.lt_irrefl _)
  have hall : ∀ ts : List Ty, ((ts.map fun t => (⟨⟨c.constraints.size⟩, source, t⟩ : Work)).filter
      (·.constraint = ⟨c.constraints.size⟩)).map (·.type) = ts := by
    intro ts
    induction ts with
    | nil => rfl
    | cons t ts ih => simpa using ih
  rw [pendingFor] at hnone
  rw [pendingFor, pending_register, List.filter_append, List.map_append, hnone, List.nil_append]
  split
  · exact hall _
  · rfl

/-- What is pending or has been heard of is a type of the set where the constraint listens. -/
def Genuine (c : Compartment) : Prop :=
  ∀ w, w ∈ c.worklist.pending ∨ .fired w ∈ c.journal →
    w.constraint ∈ (c.set w.source).constraints ∧ w.type ∈ (c.set w.source).types

theorem genuine_fresh (options : Options) : (fresh options).Genuine := by
  rintro w (hw | hw) <;> cases hw

/-- Work that is genuine stays so while compartments grow. -/
theorem Genuine.of_grows (h : c.Genuine) (hgrows : c.Grows c')
    (hnew : ∀ w, w ∈ c'.worklist.pending ∨ .fired w ∈ c'.journal →
      (w ∈ c.worklist.pending ∨ .fired w ∈ c.journal) ∨
        w.constraint ∈ (c'.set w.source).constraints ∧ w.type ∈ (c'.set w.source).types) :
    c'.Genuine := by
  intro w hw
  obtain hold | hnew := hnew w hw
  · obtain ⟨hlistens, ht⟩ := h w hold
    exact ⟨(hgrows.set _).constraints.subset hlistens, (hgrows.set _).types.subset ht⟩
  · exact hnew

/-- Every sequence of changes keeps what is pending genuine, unless types are delivered once more. -/
theorem Did.genuine (hredelivery : ¬ sc.redelivery) (hc : c.Sound) (h : Did sc c c')
    (hgenuine : c.Genuine) : c'.Genuine := by
  refine h.delivery_induction hc ?_ ?_ ?_ ?_ ?_ ?_ hgenuine
  · intro a b hstill ha w hw
    obtain ⟨es, hes, hquiet⟩ := hstill.journal
    rw [hstill.listeners, hstill.types]
    refine ha w (hw.imp (fun hw => hstill.pending ▸ hw) fun hw => ?_)
    rw [hes, List.mem_append] at hw
    exact hw.resolve_left fun hmem => by cases hquiet _ hmem
  · intro a target t htarget hnew ha
    refine ha.of_grows (grows_insertType htarget t) fun w hw => ?_
    rw [pending_insertType, List.mem_append, journal_insertType, List.mem_cons] at hw
    obtain (hw | hw) | hw := hw
    · exact .inl (.inl hw)
    · right
      obtain ⟨id, hid, rfl⟩ := List.mem_map.mp hw
      rw [constraints_insertType htarget, types_insertType htarget t hnew, if_pos rfl]
      exact ⟨hid, List.mem_append_right _ List.mem_cons_self⟩
    · exact .inl (.inr (hw.resolve_left nofun))
  · intro a source k callExisting _ hsource ha
    refine ha.of_grows (grows_register hsource k callExisting) fun w hw => ?_
    rw [pending_register, List.mem_append, journal_register, List.mem_cons] at hw
    obtain (hw | hw) | hw := hw
    · exact .inl (.inl hw)
    · right
      split at hw
      · obtain ⟨t, ht, rfl⟩ := List.mem_map.mp hw
        rw [mem_listeners_register hsource, types_register hsource]
        exact ⟨.inr ⟨rfl, rfl⟩, ht⟩
      · cases hw
    · exact .inl (.inr (hw.resolve_left nofun))
  · intro a work rest _ _ hnext ha w hw
    refine ha w ?_
    rw [Worklist.pending_of_next? hnext]
    obtain hw | hw := hw
    · exact .inl (List.mem_cons_of_mem _ hw)
    · obtain hw | hw := List.mem_cons.mp hw
      · cases hw
        exact .inl List.mem_cons_self
      · exact .inr hw
  · exact fun a work hre => absurd hre hredelivery
  · intro a e _ ha w hw
    refine ha w (.inr ?_)
    obtain hw | hw := hw
    · cases hw
    · exact (List.mem_cons.mp hw).resolve_left nofun

/-! ## Deliveries in order -/

/-- What a constraint has to hear of: all types of its set, or those that came after it. -/
def due (c : Compartment) (s : SetId) (callExisting : Bool) (after : List Event) : List Ty :=
  if callExisting then (c.set s).types else added s after

/-- Every constraint has heard of what it has to hear of, in order, and the rest is pending. -/
structure InOrder (c : Compartment) : Prop where
  listed : c.Listed
  known : ∀ w, .fired w ∈ c.journal → w.constraint.In c.extent
  early : ∀ s id callExisting after before,
    c.journal = after ++ .constraintAdded s id callExisting :: before → heard id before = []
  order : ∀ s id callExisting after before,
    c.journal = after ++ .constraintAdded s id callExisting :: before →
      heard id after ++ c.pendingFor id = c.due s callExisting after

theorem inOrder_fresh (options : Options) : (fresh options).InOrder where
  listed := listed_fresh options
  known w h := by cases h
  early s id callExisting after before h := by
    have hmem : .constraintAdded s id callExisting ∈ (fresh options).journal :=
      h ▸ List.mem_append_right _ List.mem_cons_self
    cases hmem
  order s id callExisting after before h := by
    have hmem : .constraintAdded s id callExisting ∈ (fresh options).journal :=
      h ▸ List.mem_append_right _ List.mem_cons_self
    cases hmem

/-- Where no types come in, the order is kept. -/
theorem InOrder.still (h : c.InOrder) (hstill : c.Still c') : c'.InOrder := by
  have hlisted := h.listed.still hstill
  obtain ⟨htypes, hlisteners, hcount, hpending, es, hes, hquiet⟩ := hstill
  have hold : ∀ s id callExisting, .constraintAdded s id callExisting ∉ es :=
    fun s id callExisting hmem => by cases hquiet _ hmem
  refine ⟨hlisted, ?_, ?_, ?_⟩
  · intro w hw
    rw [hes, List.mem_append] at hw
    have hin := h.known w (hw.resolve_left fun hmem => by cases hquiet _ hmem)
    show w.constraint.index < c'.constraints.size
    rw [hcount]
    exact hin
  · intro s id callExisting after before hsplit
    obtain ⟨after', -, hsplit'⟩ := older_of_not_mem (hes.symm.trans hsplit) (hold s id callExisting)
    exact h.early s id callExisting after' before hsplit'
  · intro s id callExisting after before hsplit
    obtain ⟨after', rfl, hsplit'⟩ := older_of_not_mem (hes.symm.trans hsplit) (hold s id callExisting)
    rw [heard_append, heard_of_quiet id hquiet, List.append_nil, pendingFor_of_eq hpending,
      h.order s id callExisting after' before hsplit', due, due, htypes, added_append,
      added_of_quiet s hquiet, List.append_nil]

theorem InOrder.register (h : c.InOrder) (hc : c.Valid) {source : SetId}
    (hsource : source.In c.extent) (k : Constraint) (callExisting : Bool) :
    (c.register source k callExisting).InOrder := by
  refine ⟨h.listed.register hc hsource k callExisting, ?_, ?_, ?_⟩
  · intro w hw
    rw [journal_register, List.mem_cons] at hw
    have hin : w.constraint.index < c.constraints.size := h.known w (hw.resolve_left nofun)
    show w.constraint.index < (c.register source k callExisting).constraints.size
    rw [size_register]
    omega
  · intro s id ce after before hsplit
    rw [journal_register] at hsplit
    cases after with
    | nil =>
      cases hsplit
      refine List.eq_nil_iff_forall_not_mem.mpr fun t ht => ?_
      obtain ⟨u, hfired⟩ := mem_heard.mp ht
      exact Nat.lt_irrefl _ (h.known _ hfired)
    | cons x after => exact h.early s id ce after before (List.cons.inj hsplit).2
  intro s id ce after before hsplit
  rw [journal_register] at hsplit
  cases after with
  | nil =>
    -- The new constraint has heard of nothing yet.
    cases hsplit
    rw [pendingFor_register_self hc, due, types_register hsource]
    rfl
  | cons x after =>
    obtain rfl : .constraintAdded source _ callExisting = x := (List.cons.inj hsplit).1
    replace hsplit : c.journal = after ++ .constraintAdded s id ce :: before :=
      (List.cons.inj hsplit).2
    have hlistens : id ∈ (c.set s).constraints := by
      refine h.listed.listens s id ce ?_
      rw [hsplit]
      exact List.mem_append_right _ List.mem_cons_self
    have hne := ne_next_constraint ((hc.sets s).constraints _ hlistens)
    have hheard : heard id (.constraintAdded source ⟨c.constraints.size⟩ callExisting :: after) =
        heard id after := (heard_cons _ _ _).trans (List.append_nil _)
    have hadded : added s (.constraintAdded source ⟨c.constraints.size⟩ callExisting :: after) =
        added s after := (added_cons _ _ _).trans (List.append_nil _)
    rw [hheard, pendingFor_register_of_ne hne, h.order s id ce after before hsplit, due, due,
      types_register hsource, hadded]

theorem InOrder.insertType (h : c.InOrder) {target : SetId} (htarget : target.In c.extent) {t : Ty}
    (hnew : (c.set target).has t = false) : (c.insertType target t).InOrder := by
  refine ⟨h.listed.insertType htarget t, ?_, ?_, ?_⟩
  · intro w hw
    rw [journal_insertType, List.mem_cons] at hw
    exact h.known w (hw.resolve_left nofun)
  · intro s id ce after before hsplit
    rw [journal_insertType] at hsplit
    cases after with
    | nil => cases hsplit
    | cons x after => exact h.early s id ce after before (List.cons.inj hsplit).2
  · intro s id ce after before hsplit
    rw [journal_insertType] at hsplit
    cases after with
    | nil => cases hsplit
    | cons x after =>
      obtain rfl : .typeAdded target t = x := (List.cons.inj hsplit).1
      replace hsplit : c.journal = after ++ .constraintAdded s id ce :: before :=
        (List.cons.inj hsplit).2
      have hlistens : id ∈ (c.set s).constraints := by
        refine h.listed.listens s id ce ?_
        rw [hsplit]
        exact List.mem_append_right _ List.mem_cons_self
      have hheard : heard id (.typeAdded target t :: after) = heard id after :=
        (heard_cons _ _ _).trans (List.append_nil _)
      rw [hheard, pendingFor_insertType h.listed t hlistens, ← List.append_assoc,
        h.order s id ce after before hsplit, due, due, types_insertType htarget t hnew, added_cons,
        Event.addedTo]
      cases ce with
      | false => rfl
      | true =>
        rw [if_pos rfl, if_pos rfl]
        split
        · rfl
        · rw [List.append_nil]

theorem InOrder.pop (h : c.InOrder) (hc : c.Valid) {work : Work} {rest : Worklist}
    (hnext : c.worklist.next? = some (work, rest)) : (c.pop work rest).InOrder := by
  refine ⟨h.listed.record rfl nofun fun _ => rfl, ?_, ?_, ?_⟩
  · intro w hw
    obtain hw | hw := List.mem_cons.mp hw
    · cases hw
      refine (hc.pending work ?_).constraint
      rw [Worklist.pending_of_next? hnext]
      exact List.mem_cons_self
    · exact h.known w hw
  · intro s id ce after before hsplit
    cases after with
    | nil => cases hsplit
    | cons x after => exact h.early s id ce after before (List.cons.inj hsplit).2
  · intro s id ce after before hsplit
    cases after with
    | nil => cases hsplit
    | cons x after =>
      obtain rfl : .fired work = x := (List.cons.inj hsplit).1
      replace hsplit : c.journal = after ++ .constraintAdded s id ce :: before :=
        (List.cons.inj hsplit).2
      have hpending : c.pendingFor id =
          (Event.fired work).heardBy id ++ (c.pop work rest).pendingFor id := by
        rw [pendingFor, Worklist.pending_of_next? hnext, pendingFor, Event.heardBy]
        by_cases hwork : work.constraint = id <;> simp [hwork, Compartment.pop, record]
      have hdue : (c.pop work rest).due s ce (.fired work :: after) = c.due s ce after := by
        rw [due, due, added_cons, show (Event.fired work).addedTo s = [] from rfl,
          List.append_nil]
        rfl
      rw [heard_cons, List.append_assoc, ← hpending, h.order s id ce after before hsplit, hdue]

/-- Every sequence of changes keeps the order, unless types are delivered once more or passes are
given up. -/
theorem Did.inOrder (hredelivery : ¬ sc.redelivery) (haborts : ¬ sc.aborts) (hc : c.Sound)
    (h : Did sc c c') (horder : c.InOrder) : c'.InOrder := by
  refine h.delivery_induction hc ?_ ?_ ?_ ?_ ?_ ?_ horder
  · exact fun a b hstill ha => ha.still hstill
  · exact fun a target t htarget hnew ha => ha.insertType htarget hnew
  · exact fun a source k callExisting ha hsource hin =>
      hin.register ha hsource k callExisting
  · exact fun a work rest _ ha hnext hin => hin.pop ha hnext
  · exact fun a work hre => absurd hre hredelivery
  · exact fun a e h => absurd h haborts

/-! ## Sets that one edge fills -/

/-- Every type that the journal tells was added to the target was added right after the constraint
heard of it. -/
def addedOnlyBy (id : ConstraintId) (source target : SetId) : List Event → Bool
  | [] => true
  | .typeAdded u t :: js =>
    (u != target || js.head? == some (.fired ⟨id, source, t⟩)) && addedOnlyBy id source target js
  | _ :: js => addedOnlyBy id source target js

theorem addedOnlyBy_split {id : ConstraintId} {source target : SetId} {before : List Event} {t : Ty} :
    ∀ after, addedOnlyBy id source target (after ++ .typeAdded target t :: before) = true →
      ∃ before', before = .fired ⟨id, source, t⟩ :: before'
  | [], h => by
    have hhead := (Bool.and_eq_true_iff.mp h).1
    rw [bne_self_eq_false, Bool.false_or, beq_iff_eq] at hhead
    exact List.head?_eq_some_iff.mp hhead
  | e :: after, h => by
    have hrest : addedOnlyBy id source target (after ++ .typeAdded target t :: before) = true := by
      cases e with
      | typeAdded => exact (Bool.and_eq_true_iff.mp h).2
      | _ => exact h
    exact addedOnlyBy_split after hrest

/-- Whatever is in the target was added when the constraint heard of it. -/
structure FilledBy (c : Compartment) (id : ConstraintId) (source target : SetId) : Prop where
  types : (c.set target).types = added target c.journal
  only : addedOnlyBy id source target c.journal = true

instance (c : Compartment) (id : ConstraintId) (source target : SetId) :
    Decidable (c.FilledBy id source target) :=
  decidable_of_iff ((c.set target).types = added target c.journal ∧
    addedOnlyBy id source target c.journal = true) ⟨fun h => ⟨h.1, h.2⟩, fun h => ⟨h.1, h.2⟩⟩

theorem FilledBy.fired {id : ConstraintId} {source target : SetId} (h : c.FilledBy id source target)
    (after before : List Event) (t : Ty)
    (hsplit : c.journal = after ++ .typeAdded target t :: before) :
    ∃ before', before = .fired ⟨id, source, t⟩ :: before' :=
  addedOnlyBy_split after (hsplit ▸ h.only)

/-- What a constraint adds comes in the order in which it heard of it. -/
theorem added_sublist_heard {id : ConstraintId} {source target : SetId} : ∀ (n : Nat) (js : List Event),
    js.length = n → (∀ after before t, js = after ++ .typeAdded target t :: before →
      ∃ before', before = .fired ⟨id, source, t⟩ :: before') →
    (added target js).Sublist (heard id js) := by
  intro n
  induction n using Nat.strongRecOn with
  | ind n ih =>
    rintro js rfl h
    have hlater : ∀ es js', js = es ++ js' → js'.length < js.length →
        (added target js').Sublist (heard id js') := by
      rintro es js' rfl hlength
      refine ih _ hlength js' rfl fun after before t hsplit => ?_
      exact h (es ++ after) before t (by rw [hsplit, List.append_assoc])
    cases js with
    | nil => exact .slnil
    | cons e js =>
      by_cases hadded : e.addedTo target = []
      · rw [added_cons, hadded, List.append_nil, heard_cons]
        exact (hlater [e] js rfl (Nat.lt_succ_self _)).trans (List.sublist_append_left _ _)
      · -- The type was added right after the constraint heard of it.
        obtain ⟨t, rfl⟩ : ∃ t, e = .typeAdded target t := by
          cases e with
          | typeAdded u t =>
            by_cases hu : u = target
            · exact ⟨t, by rw [hu]⟩
            · exact absurd (if_neg hu) hadded
          | _ => exact absurd rfl hadded
        obtain ⟨js, rfl⟩ := h [] js t rfl
        have hrest := hlater [_, _] js rfl (by simp only [List.length_cons]; omega)
        rw [added_cons, added_cons, heard_cons, heard_cons]
        simpa [Event.addedTo, Event.heardBy] using hrest

end Compartment

/-- Nothing comes after the unknown type. -/
theorem TypeSet.Coherent.unknown_not_mem {s : TypeSet} (h : s.Coherent) {before after : List Ty}
    {t : Ty} (hsplit : s.types = before ++ t :: after) : Ty.unknown ∉ before := by
  have hlatest : s.latest = after.reverse ++ t :: before.reverse := by
    have hreverse := congrArg List.reverse hsplit
    rwa [TypeSet.types, List.reverse_reverse, List.reverse_append, List.reverse_cons,
      List.append_assoc] at hreverse
  intro hmem
  apply h.unknownLast
  rw [hlatest]
  cases after.reverse with
  | nil => exact List.mem_reverse.mpr hmem
  | cons u us =>
    exact List.mem_append_right _ (List.mem_cons_of_mem _ (List.mem_reverse.mpr hmem))

namespace Compartment

variable {sc : Scope} {c c' : Compartment} {options : Options}

/-- Since a fresh compartment, the journal tells of every type but those that were there. -/
theorem Did.types_fresh (h : Did sc (fresh options) c) (s : SetId) :
    (c.set s).types = ((fresh options).set s).types ++ added s c.journal := by
  obtain ⟨es, hes, hall⟩ := h.types (sound_fresh options)
  rw [hall, hes, show (fresh options).journal = [] from rfl, List.append_nil]

/-- A set that is filled by an edge has the types of its source, in their order. -/
theorem FilledBy.types_eq (hdid : Did sc (fresh options) c)
    (hdelivered : Delivered sc (fresh options) c) {id : ConstraintId} {source target : SetId}
    (h : c.FilledBy id source target) (hk : c.constraint id = .subset target)
    (hheard : heard id c.journal = (c.set source).types) :
    (c.set target).types = (c.set source).types := by
  have hfresh := sound_fresh options
  have hsound := hdid.sound hfresh
  have hempty : ((fresh options).set target).types = [] := by
    have htypes := hdid.types_fresh target
    rw [h.types] at htypes
    exact List.append_left_eq_self.mp htypes.symm
  have hsublist : (c.set target).types.Sublist (c.set source).types := by
    rw [h.types, ← hheard]
    exact added_sublist_heard _ _ rfl h.fired
  refine hsublist.eq_of_length_le ?_
  refine (List.Nodup.subperm (hsound.valid.sets source).coherent.nodup_types ?_).length_le
  intro t ht
  rw [← hheard, mem_heard] at ht
  obtain ⟨u, hfired⟩ := ht
  obtain ⟨after, before, hsplit⟩ := List.append_of_mem hfired
  obtain ⟨b, c₁, hsettled⟩ := hdelivered after before _ hsplit (Nat.zero_le _)
  have hdid₁ := hsettled.upTo.trans hsettled.during
  have hsound₁ := hdid₁.sound hfresh
  have hgrows₁ := hsettled.since.grows hsound₁
  have hk₁ : c₁.constraint id = .subset target := by
    have hid₁ : id.In c₁.extent := hsettled.valid.constraint.mono
      (hsettled.during.grows (hsettled.upTo.sound hfresh)).extent
    have hbare := (hgrows₁.constraint id hid₁).bare
    rw [hk] at hbare
    exact Constraint.eq_of_bare_eq hbare.symm rfl
  have hhas : (c₁.set target).has t = true := by
    have hhas := hsettled.settled
    rwa [hk₁] at hhas
  have htypes₁ : (c₁.set target).types = added target c₁.journal := by
    rw [hdid₁.types_fresh, hempty, List.nil_append]
  suffices hmem : t ∈ (c₁.set target).types from (hgrows₁.set target).types.subset hmem
  obtain hmem | hunknown := ((hsound₁.valid.sets target).coherent.has_iff t).mp hhas
  · exact hmem
  · -- The unknown type would have been heard of earlier, but it is the last one of the source.
    rw [htypes₁, mem_added] at hunknown
    obtain ⟨es, hes⟩ := hgrows₁.journal
    obtain ⟨late, early, hlate⟩ := List.append_of_mem hunknown
    obtain ⟨early', rfl⟩ := h.fired (es ++ late) early .unknown (by
      rw [← hes, hlate, List.append_assoc])
    obtain ⟨mid, hmid, hquiet⟩ := hsettled.quiet
    have hearlier : .fired ⟨id, source, .unknown⟩ ∈ (.fired ⟨id, u, t⟩ :: before : List Event) := by
      have hmem : .fired ⟨id, source, .unknown⟩ ∈ c₁.journal := by
        rw [hlate]
        exact List.mem_append_right _ (List.mem_cons_of_mem _ List.mem_cons_self)
      rw [hmid, hsettled.journal] at hmem
      exact (List.mem_append.mp hmem).resolve_left (hquiet _)
    obtain heq | hbefore := List.mem_cons.mp hearlier
    · cases heq
      rw [htypes₁, mem_added]
      exact hunknown
    · have hsource : (c.set source).types = heard id before ++ t :: heard id after := by
        rw [← hheard, hsplit, heard_append, heard_cons]
        simp [Event.heardBy]
      exact absurd (mem_heard.mpr ⟨source, hbefore⟩)
        ((hsound.valid.sets source).coherent.unknown_not_mem hsource)

/-! ## Runs -/

/-- Between two requests every constraint has heard of the types of its set, in the order in which
they came and of each of them once; or of those that came after it, if it was not to hear of the
others.  So a set that a subset edge alone fills has the types of its source, in their order. -/
theorem delivered_in_order {host : Host} {rs : List Request}
    {outcomes : List (Except InferError Answer)}
    (hrun : Request.runAll host rs (fresh options) = (outcomes, c))
    (hvalid : Request.ValidAlong host rs (fresh options)) (hok : ∀ o ∈ outcomes, o.isOk = true)
    (hnative : ∀ r ∈ rs, r.isNative = false) (hpending : ∀ r ∈ rs, r.isRedelivery = false)
    {s : SetId} {id : ConstraintId} {callExisting : Bool} {after before : List Event}
    (hregistered : c.journal = after ++ .constraintAdded s id callExisting :: before) :
    heard id before = [] ∧
      (heard id after = if callExisting then (c.set s).types else added s after) ∧
      (c.set s).types = ((fresh options).set s).types ++ added s before ++ added s after ∧
      (c.set s).types.Nodup ∧
      ∀ target, c.constraint id = .subset target → callExisting = true →
        c.FilledBy id s target → (c.set target).types = (c.set s).types := by
  have hredelivery : ∀ r ∈ rs, r.isRedelivery = true → False := by
    intro r hr hre
    rw [hpending r hr] at hre
    cases hre
  obtain ⟨hat, hgood, -⟩ := Request.runAll_unhandled hrun hvalid hok hnative hredelivery
  have hfresh := sound_fresh options
  have horder := hgood.did.inOrder (fun h => h) (fun h => h) hfresh (inOrder_fresh options)
  have hbefore := horder.early s id callExisting after before hregistered
  have hnone : c.pendingFor id = [] := by
    rw [pendingFor, show c.worklist.pending = [] from hat.rest.1]
    rfl
  have hafter := horder.order s id callExisting after before hregistered
  rw [hnone, List.append_nil] at hafter
  refine ⟨hbefore, hafter, ?_, (hat.sound.valid.sets s).coherent.nodup_types, ?_⟩
  · rw [hgood.did.types_fresh, hregistered, added_append, added_cons, List.append_assoc]
    simp [Event.addedTo]
  · rintro target hk rfl hfilled
    have hheard : heard id c.journal = (c.set s).types := by
      rw [hregistered, heard_append, heard_cons, hbefore, hafter]
      rfl
    exact hfilled.types_eq hgood.did hgood.delivered hk hheard

/-- An edge between two additions to its source. -/
def lateEdgeRun : List Request :=
  [.newSet, .newSet, .addType ⟨1⟩ .int32, .addSubset ⟨1⟩ ⟨2⟩, .addType ⟨1⟩ .string]

theorem delivered_in_order_late :
    heard ⟨0⟩ (Request.runAll .silent lateEdgeRun (fresh {})).2.journal = [.int32, .string] ∧
      ((Request.runAll .silent lateEdgeRun (fresh {})).2.set ⟨2⟩).types =
        ((Request.runAll .silent lateEdgeRun (fresh {})).2.set ⟨1⟩).types := by
  have hrun : Request.runAll .silent lateEdgeRun (fresh {}) =
      ((Request.runAll .silent lateEdgeRun (fresh {})).1,
        (Request.runAll .silent lateEdgeRun (fresh {})).2) := (Prod.eta _).symm
  have hregistered : (Request.runAll .silent lateEdgeRun (fresh {})).2.journal =
      (Request.runAll .silent lateEdgeRun (fresh {})).2.journal.take 5 ++
        .constraintAdded ⟨1⟩ ⟨0⟩ true ::
          (Request.runAll .silent lateEdgeRun (fresh {})).2.journal.drop 6 := by
    decide +kernel
  obtain ⟨hbefore, hafter, -, -, hfilled⟩ := delivered_in_order hrun (by decide +kernel)
    (by decide +kernel) (by decide +kernel) (by decide +kernel) hregistered
  refine ⟨?_, hfilled ⟨2⟩ (by decide +kernel) rfl (by decide +kernel)⟩
  rw [hregistered, heard_append, heard_cons, hbefore, hafter]
  decide +kernel

end Compartment

end FlowTypes
