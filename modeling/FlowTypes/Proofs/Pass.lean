import FlowTypes.Proofs.Actions.Reaction

/-!
# What a pass does

A pass takes the pending types off the worklist one after the other.  Each is delivered under the
law within a pass, and at the end nothing is pending and every constraint is settled for what it
heard of.  So the requests between passes obey a law of their own, in which a request for a pass
runs one.

## Main results

* `Ran`: what a number of deliveries does to a compartment.
* `outcome_drain`: what a pass leaves behind, whether it ends or is given up.
* `outer`: the law between passes; `lawful_outer`, `lawful_solve`.
* `Did.not_fired`: nothing is delivered unless a pass takes it up.
-/

namespace FlowTypes

namespace Compartment

variable {L : Law} {c c' c'' : Compartment}

/-! ## Deliveries are the business of passes -/

/-- Without a pass nothing is fired. -/
theorem Did.not_fired {sc : Scope} (hpasses : ¬ sc.passes) (hc : c.Sound) (h : Did sc c c') :
    ∃ es, c'.journal = es ++ c.journal ∧ ∀ w, .fired w ∉ es := by
  have hsingle : ∀ {e : Event}, (∀ w, e ≠ .fired w) → ∀ w, .fired w ∉ [e] := by
    intro e he w hw
    exact he w (List.mem_singleton.mp hw).symm
  refine h.delivery_induction
    (P := fun b => ∃ es, b.journal = es ++ c.journal ∧ ∀ w, .fired w ∉ es) hc ?_ ?_ ?_ ?_ ?_ ?_
    ⟨[], rfl, fun _ => List.not_mem_nil⟩
  · intro a b hstill ha
    obtain ⟨es', hes', hnone'⟩ := hstill.journal
    exact not_fired_trans ha ⟨es', hes', fun w hw => by cases hnone' _ hw⟩
  · exact fun a target t _ _ ha => not_fired_trans ha ⟨[_], rfl, hsingle nofun⟩
  · exact fun a source k _ _ _ ha =>
      not_fired_trans ha ⟨[_], journal_register _ _, hsingle nofun⟩
  · exact fun a _ _ hpop => absurd hpop hpasses
  · exact fun a _ _ ha => ha
  · exact fun a _ _ ha => not_fired_trans ha ⟨[_], rfl, hsingle nofun⟩

/-- The youngest delivery of a journal is found in one way only. -/
theorem youngest_fired {es js after before : List Event} {w v : Work}
    (h : es ++ .fired w :: js = after ++ .fired v :: before) (hnone : ∀ u, .fired u ∉ es)
    (hlength : js.length ≤ before.length) : v = w ∧ before = js := by
  obtain ⟨mid, hafter, hmid⟩ | ⟨mid, hes, hmid⟩ := List.append_eq_append_iff.mp h
  · cases mid with
    | nil =>
      cases hmid
      exact ⟨rfl, rfl⟩
    | cons x mid =>
      have hjs : js = mid ++ .fired v :: before := (List.cons.inj hmid).2
      rw [hjs, List.length_append, List.length_cons] at hlength
      omega
  · cases mid with
    | nil =>
      cases hmid
      exact ⟨rfl, rfl⟩
    | cons x mid =>
      obtain ⟨rfl, -⟩ := List.cons.inj hmid
      exact absurd (hes ▸ List.mem_append_right _ List.mem_cons_self) (hnone v)

/-! ## One delivery -/

/-- The scope within a pass allows what the engine does, and the scope outside of it allows passes
that call the same handlers. -/
structure Scope.Inside (sci sco : Scope) : Prop where
  within : sci.Within sco
  passes : sco.passes
  nested : ¬ sci.passes
  handler : ∀ e h, sco.handler e h → sci.handler e h

theorem HandledBy.mono {sc sc' : Scope} (hsc : ∀ e h, sc.handler e h → sc'.handler e h)
    (h : c.HandledBy sc) : c.HandledBy sc' := by
  intro o f name hf hname
  obtain ⟨e, he, hallowed⟩ := h o f name hf hname
  exact ⟨e, he, hsc e name hallowed⟩

/-- What is kept in a scope is kept in a narrower one. -/
def Scope.Invariant.within {sc sc' : Scope} (i : sc'.Invariant) (hsc : sc.Within sc') :
    sc.Invariant :=
  ⟨i.Holds, fun c c' hc hdid => i.kept c c' hc (hdid.mono hsc)⟩

/-- As long as there is any constraint but those that carry types on as they are, actions may be
turned down. -/
def Law.Lenient (L : Law) : Prop :=
  ∀ c, L.Standing c → ∀ id : ConstraintId, id.In c.extent →
    (c.constraint id).isCarrier = false → L.Refuses

theorem Law.Refuses.lenient {L : Law} (h : L.Refuses) : L.Lenient := fun _ _ _ _ _ => h

variable {host : Host}

/-- A pending type is delivered and settled. -/
theorem outcome_fire (hL : L.Lawful) (hlenient : L.Lenient) (hidle : L.pass = idle)
    (hrest : ∀ w, L.Rest w ↔ w.resolving = true) {work : Work} {rest : Worklist}
    (h : L.At (c.pop work rest)) (hhost : L.Obeyed host (c.pop work rest))
    (hwork : work.Valid c.extent) :
    Outcome (fire host work) { c with worklist := rest }
      (fun _ c' => (∃ c₁, L.Good (c.pop work rest) c₁ ∧
          (c' = c₁ ∨ c₁.Filtered work.constraint c')) ∧
        L.Rest c'.worklist ∧ Settled (c.pop work rest) c' work (c'.constraint work.constraint))
      fun e c' => Did L.failing (c.pop work rest) c' ∧ L.Rest c'.worklist ∧ L.Fails e := by
  have hrun : fire host work { c with worklist := rest } =
      react host work ((c.pop work rest).constraint work.constraint) (c.pop work rest) := rfl
  refine (outcome_congr hrun).mpr (reacts_react hL hidle hrest h List.mem_cons_self hwork rfl ?_
    hhost)
  exact hlenient _ h.toStanding work.constraint hwork.constraint

/-- The law between passes. -/
def outer (pass : Action Unit) (scope : Scope) (invariant : scope.Invariant) (tidy : Prop)
    (fails : InferError → Prop) : Law where
  pass := pass
  scope := scope
  invariant := invariant
  failing := { scope with aborts := True }
  tidy := tidy
  Rest w := w.pending = [] ∧ w.resolving = false
  Ready w := w.resolving = false
  Fails := fails

theorem Scope.within_aborts (sc : Scope) : sc.Within { sc with aborts := True } :=
  ⟨id, .refl _, id, fun _ => id, id, fun _ _ => id, fun _ => trivial, id, id⟩

/-- A filter makes no property, and nothing hears of a type on the way. -/
theorem calm_filtered {id : ConstraintId} (h : c.Filtered id c') : c.Calm c' := by
  obtain ⟨-, source, target, -, -, haside⟩ := h
  exact (calm_register source (.filter target .primitives) true).trans haside.calm

/-- A number of deliveries, one after the other, in a scope. -/
inductive Ran (sc : Scope) (c : Compartment) : Nat → Compartment → Prop
  | start : Ran sc c 0 c
  | delivery {n : Nat} {b c₁ c' : Compartment} {work : Work} {rest : Worklist} (h : Ran sc c n b)
      (hnext : b.worklist.next? = some (work, rest)) (hdid : Did sc (b.pop work rest) c₁)
      (hlast : c' = c₁ ∨ c₁.Filtered work.constraint c') : Ran sc c (n + 1) c'

section Pass

variable {sci sco : Scope} (hsc : sci.Inside sco) {invariant : sco.Invariant} {tidy : Prop}
  {fails : InferError → Prop}
include hsc

/-- A filter that the engine puts on a callee is the business of the pass. -/
theorem did_filtered {id : ConstraintId} (h : c.Filtered id c') : Did sco c c' := by
  obtain ⟨hcall, source, target, hsource, htarget, haside⟩ := h
  refine .step (.single (.traffic ?_)) (.aside haside)
  exact .register (.inr ⟨hsc.passes, hcall.calls⟩) hsource htarget (.inl (.inl ⟨rfl, rfl⟩))

/-- One delivery is a good move of a pass. -/
theorem good_delivery {pass : Action Unit} (hc : c.Sound) {work : Work} {rest : Worklist}
    (hnext : c.worklist.next? = some (work, rest)) {c₁ : Compartment}
    (hgood : (inner sci (invariant.within hsc.within) tidy fails).Good (c.pop work rest) c₁)
    (hlast : c' = c₁ ∨ c₁.Filtered work.constraint c')
    (hsettled : Settled (c.pop work rest) c' work (c'.constraint work.constraint)) :
    (outer pass sco invariant tidy fails).Good c c' := by
  have hpop : Did sco c (c.pop work rest) := .single (.traffic (.pop hsc.passes hnext))
  have hsound := hpop.sound hc
  have hsound₁ := hgood.sound hsound
  obtain ⟨hdid₁, hcalm₁⟩ : Did sco c₁ c' ∧ c₁.Calm c' := by
    obtain rfl | hfiltered := hlast
    · exact ⟨.refl _, .refl _⟩
    · exact ⟨did_filtered hsc hfiltered, calm_filtered hfiltered⟩
  have hdid : Did sco (c.pop work rest) c' := (hgood.did.mono hsc.within).trans hdid₁
  refine ⟨hpop.trans hdid, fun ht => ?_, ?_⟩
  · have htidied : c.Tidied (c.pop work rest) :=
      ⟨fun _ _ => .inl, fun _ _ ho _ hp => .inl ⟨ho, hp⟩, fun _ => .inl,
        fun _ _ ho hp => .inl ⟨ho, hp⟩, fun _ _ hb _ => .inl hb⟩
    exact htidied.trans hsound (hdid.sound hsound) (hdid.grows hsound)
      ((hgood.tidied ht).trans hsound₁ (hdid₁.sound hsound₁) (hdid₁.grows hsound₁) hcalm₁.tidied)
  · intro after before w hjournal hlength
    obtain ⟨es, hes, hnone⟩ := hgood.did.not_fired hsc.nested hsound
    obtain ⟨es', hes', hnone'⟩ := hcalm₁.journal
    have hjournal' : c'.journal = (es' ++ es) ++ .fired work :: c.journal := by
      rw [hes', hes, List.append_assoc]
      rfl
    have hnone'' : ∀ u, .fired u ∉ es' ++ es := by
      intro u hu
      obtain hu | hu := List.mem_append.mp hu
      · exact hnone' u hu
      · exact hnone u hu
    obtain ⟨rfl, rfl⟩ := youngest_fired (hjournal'.symm.trans hjournal) hnone'' hlength
    have hwork : w.Valid c.extent := hc.valid.pending w (by
      rw [Worklist.pending_of_next? hnext]
      exact List.mem_cons_self)
    exact ⟨c.pop w rest, c', {
      journal := rfl
      quiet := ⟨es' ++ es, hjournal', hnone''⟩
      valid := hwork
      upTo := hpop
      during := hdid
      since := .refl c'
      settled := hsettled }⟩

omit hsc in
/-- A pass may be given up. -/
theorem did_abandon (e : InferError) : Did { sco with aborts := True } c (c.abandon e) :=
  .single (.traffic (.abandon trivial))

variable (hlenient : (inner sci (invariant.within hsc.within) tidy fails).Lenient)
  (hhost : ∀ c, (inner sci (invariant.within hsc.within) tidy fails).At c →
    (inner sci (invariant.within hsc.within) tidy fails).Obeyed host c)
include hlenient hhost

/-- A pass leaves nothing pending, and what was heard of is settled.  It ends if no more deliveries
can come up than are allowed. -/
theorem outcome_drain (pass : Action Unit) {b c : Compartment} {n : Nat} (hran : Ran sci b n c)
    (fuel : Nat) (hends : fails (.outOfMemory "worklist") ∨
      ∀ m c', Ran sci b m c' → m < n + fuel)
    (h : (outer pass sco invariant tidy fails).Standing c)
    (hresolving : c.worklist.resolving = true) :
    (outer pass sco invariant tidy fails).Moves (drain host fuel) c fun _ _ => True := by
  have hL := lawful_inner sci (invariant.within hsc.within) tidy fails
  induction fuel generalizing c n with
  | zero =>
    have hfails := hends.resolve_right fun hends => Nat.lt_irrefl n (hends n c hran)
    exact outcome_of_error rfl ⟨did_abandon _, abandon_worklist _ _, hfails⟩
  | succ fuel ih =>
    cases hnext : c.worklist.next? with
    | none =>
      have hempty := Worklist.next?_eq_none_iff.mp hnext
      have haside : c.Aside (c.changeWorklist Worklist.stop) := aside_changeWorklist rfl
      refine outcome_of_ok (drain_of_empty fuel hnext) ⟨?_, ⟨hempty, rfl⟩, trivial⟩
      exact .of_calm (.aside haside) haside.calm
    | some next =>
      obtain ⟨work, rest⟩ := next
      have hpop : Did sco c (c.pop work rest) := .single (.traffic (.pop hsc.passes hnext))
      have hwork : work.Valid c.extent := h.sound.valid.pending work (by
        rw [Worklist.pending_of_next? hnext]
        exact List.mem_cons_self)
      have hat : (inner sci (invariant.within hsc.within) tidy fails).At (c.pop work rest) :=
        ⟨⟨hpop.sound h.sound, h.handled.mono hsc.handler, (h.did hpop).kept⟩,
          (Worklist.resolving_of_next? hnext).1.trans hresolving⟩
      have hfire := outcome_fire hL hlenient rfl (fun _ => .rfl) hat (hhost _ hat) hwork
      cases hrun : fire host work { c with worklist := rest } with
      | mk r c' =>
        cases r with
        | ok =>
          obtain ⟨⟨c₁, hgood, hlast⟩, hrest, hsettled⟩ := hfire.of_run hrun
          have hgood' : (outer pass sco invariant tidy fails).Good c c' :=
            good_delivery hsc h.sound hnext hgood hlast hsettled
          refine (outcome_congr (drain_of_delivered fuel hnext hrun)).mpr ?_
          refine Law.Moves.after sco.within_aborts h.sound hgood'
            (ih (.delivery hran hnext hgood.did hlast) ?_ (h.did hgood'.did) hrest)
          exact hends.imp_right fun hends m c' hm => by have := hends m c' hm; omega
        | error e =>
          obtain ⟨hdid, -, he⟩ := hfire.of_failure hrun
          refine outcome_of_error (drain_of_failed fuel hnext hrun)
            ⟨?_, abandon_worklist _ _, he⟩
          exact ((hpop.trans (hdid.mono hsc.within)).mono sco.within_aborts).trans (did_abandon e)

/-- A pass that begins between two requests obeys the law between them. -/
theorem moves_solve (hends : fails (.outOfMemory "worklist") ∨
      ∀ b n c, b.Sound → invariant.Holds b → Ran sci b n c → n ≤ b.deliveryBound)
    (pass : Action Unit) (h : (outer pass sco invariant tidy fails).Standing c) :
    (outer pass sco invariant tidy fails).Moves (solve host) c fun _ _ => True := by
  have haside : c.Aside (c.changeWorklist Worklist.start) := aside_changeWorklist rfl
  have hgood : (outer pass sco invariant tidy fails).Good c (c.changeWorklist Worklist.start) :=
    .of_calm (.aside haside) haside.calm
  have hrun : solve host c =
      drain host (c.deliveryBound + 1) (c.changeWorklist Worklist.start) := rfl
  refine (outcome_congr hrun).mpr ?_
  refine Law.Moves.after sco.within_aborts h.sound hgood
    (outcome_drain hsc hlenient hhost pass .start _ ?_ (h.did hgood.did) rfl)
  refine hends.imp_right fun hends m c' hm => ?_
  have hle := hends _ m c' (hgood.sound h.sound) (h.did hgood.did).kept hm
  have hbound : (c.changeWorklist Worklist.start).deliveryBound = c.deliveryBound := rfl
  omega

end Pass

/-! ## The law between passes -/

/-- A law between passes is lawful if its pass obeys it. -/
theorem lawful_outer {pass : Action Unit} {scope : Scope} {invariant : scope.Invariant}
    {tidy : Prop} {fails : InferError → Prop}
    (hpass : ∀ c : Compartment, (outer pass scope invariant tidy fails).Standing c →
      c.worklist.resolving = false →
      (outer pass scope invariant tidy fails).Moves pass c fun _ _ => True) :
    (outer pass scope invariant tidy fails).Lawful where
  within := scope.within_aborts
  ready _ _ h := h.2
  requestPass c h hready := by
    have henter : c.Aside (c.changeWorklist Worklist.enter) := aside_changeWorklist rfl
    have hgood : (outer pass scope invariant tidy fails).Good c
        (c.changeWorklist Worklist.enter) := .of_calm (.aside henter) henter.calm
    have hrun := requestPass_of_not_resolving pass hready
    have houtcome := Law.Moves.after scope.within_aborts h.sound hgood
      (hpass _ (h.did hgood.did) hready)
    have hleave : ∀ b : Compartment, b.Aside (b.changeWorklist Worklist.leave) :=
      fun _ => aside_changeWorklist rfl
    cases hresult : pass (c.changeWorklist Worklist.enter) with
    | mk r c' =>
      rw [hresult] at hrun
      cases r with
      | ok =>
        obtain ⟨hgood', hrest, -⟩ := houtcome.of_run hresult
        refine outcome_of_ok hrun ⟨?_, hrest, trivial⟩
        exact hgood'.trans h.sound (.of_calm (.aside (hleave c')) (hleave c').calm)
      | error e =>
        obtain ⟨hdid, hrest, he⟩ := houtcome.of_failure hresult
        exact outcome_of_error hrun ⟨.step hdid (.aside (hleave c')), hrest, he⟩

/-- Requests that run passes obey the law between passes. -/
theorem lawful_solve {host : Host} {sci sco : Scope} (hsc : sci.Inside sco)
    {invariant : sco.Invariant} {tidy : Prop} {fails : InferError → Prop}
    (hlenient : (inner sci (invariant.within hsc.within) tidy fails).Lenient)
    (hhost : ∀ c, (inner sci (invariant.within hsc.within) tidy fails).At c →
      (inner sci (invariant.within hsc.within) tidy fails).Obeyed host c)
    (hends : fails (.outOfMemory "worklist") ∨
      ∀ b n c, b.Sound → invariant.Holds b → Ran sci b n c → n ≤ b.deliveryBound) :
    (outer (solve host) sco invariant tidy fails).Lawful :=
  lawful_outer fun _ h _ => moves_solve hsc hlenient hhost hends _ h

/-- Without native functions there is nothing that a handler could break. -/
theorem obeyed_of_not_handled (hnone : ∀ e h, ¬ L.scope.handler e h) (host : Host)
    (h : L.At c) : L.Obeyed host c := by
  intro o f name site hf hname _
  obtain ⟨e, -, hallowed⟩ := h.handled o f name hf hname
  exact absurd hallowed (hnone e name)

end Compartment

end FlowTypes
