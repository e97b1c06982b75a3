import FlowTypes.Proofs.Frames.Reaction
import FlowTypes.Proofs.Runs

/-!
# Passes do not nest

A request for a pass comes from many places: from every type and every constraint that is added, also
in the middle of a delivery, also by a handler.  Only one of them gets to run a pass.  This module
follows the flag and the counters of the solver through whatever a host asks for.

There are two frames.  While a pass is running the flag stays up, a request for a pass goes one level
deeper and comes back, and no pass is given up (`nested`).  Between passes the flag is down and the
depth is zero; a request for a pass runs one, one level deep, so that the deliveries of it reach the
second level and never a third (`outermost`).  A pass that is given up is counted once, and the
request that asked for it fails with the error that the pass was given up for; nothing of the engine
goes on after that, and so it is the only one.

## Main results

* What a handler asks for starts no pass and has none given up (`perform_nested`).
* Whatever is asked for between passes leaves the solver idle (`run_outermost`).
* The solver is idle between requests, whatever fails (`solver_idle`).
-/

namespace FlowTypes

namespace Compartment

variable {c c' : Compartment} {host : Host}

/-! ## Within a pass -/

/-- What happens within a pass to its flag and its counters. -/
structure Nested (a b : Compartment) : Prop where
  resolving : b.worklist.resolving = true
  depth : b.worklist.depth = a.worklist.depth
  maxDepth : b.worklist.maxDepth ≤ max a.worklist.maxDepth (a.worklist.depth + 1)
  failures : b.stats.failures = a.stats.failures
  aborted : abortions b.journal = abortions a.journal

theorem Nested.of_gauges (h : c'.gauges = c.gauges) (hc : c.worklist.resolving = true) :
    Nested c c' where
  resolving := (congrArg Gauges.resolving h : c'.worklist.resolving = _).trans hc
  depth := congrArg Gauges.depth h
  maxDepth := Nat.le_trans (Nat.le_of_eq (congrArg Gauges.maxDepth h)) (Nat.le_max_left _ _)
  failures := congrArg Gauges.failures h
  aborted := congrArg Gauges.aborted h

theorem Nested.trans {a b c : Compartment} (h : Nested a b) (h' : Nested b c) : Nested a c where
  resolving := h'.resolving
  depth := h'.depth.trans h.depth
  maxDepth := by
    have h₁ := h.maxDepth
    have h₂ := h'.maxDepth
    rw [h.depth] at h₂
    omega
  failures := h'.failures.trans h.failures
  aborted := h'.aborted.trans h.aborted

/-- While a pass is running. -/
def nested : Frame where
  Ok a b := a.worklist.resolving = true → Nested a b
  Failed _ a b := a.worklist.resolving = true → Nested a b
  plain h := .of_gauges (gauges_of_readings h)
  enters h := .of_gauges h.gauges
  throws _ _ := .of_gauges rfl
  trans h h' ha := (h ha).trans (h' (h ha).resolving)
  fails h h' ha := (h ha).trans (h' (h ha).resolving)

theorem lenient_nested : nested.Lenient := fun _ _ _ h => h

theorem restacks_nested : nested.Restacks := fun _ _ hc =>
  ⟨hc, rfl, Nat.le_max_left _ _, rfl, rfl⟩

theorem allows_nested (r : Request) : nested.Allows r :=
  Frame.allows r (fun _ => restacks_nested) (fun _ _ _ => .of_gauges rfl) fun _ => .of_gauges rfl

/-- A request for a pass only goes one level deeper and comes back. -/
theorem keeps_requestPass_nested : nested.Keeps (requestPass idle) := fun _ =>
  Frame.outcome_guarded fun hc => outcome_of_ok (requestPass_of_resolving idle hc)
    ⟨hc, rfl, Nat.le_refl _, rfl, rfl⟩

/-- What is asked for while a pass is running, as handlers do, starts no other pass and has none
given up. -/
theorem perform_nested (r : Request) (hc : c.worklist.resolving = true) :
    Nested c (r.perform idle c).2 :=
  ok_perform keeps_requestPass_nested lenient_nested r (allows_nested r) c hc

/-! ## A whole pass -/

/-- How a pass ends. -/
structure Ended (a b : Compartment) : Prop where
  resolving : b.worklist.resolving = false
  depth : b.worklist.depth = a.worklist.depth
  maxDepth : b.worklist.maxDepth ≤ max a.worklist.maxDepth (a.worklist.depth + 1)

/-- The count of passes that were given up, and the errors for which they were, are as before. -/
structure Spared (a b : Compartment) : Prop where
  failures : b.stats.failures = a.stats.failures
  aborted : abortions b.journal = abortions a.journal

/-- One more pass was given up. -/
structure GaveUp (e : InferError) (a b : Compartment) : Prop where
  failures : b.stats.failures = a.stats.failures + 1
  aborted : abortions b.journal = e :: abortions a.journal

theorem Nested.ended_abandon {a b : Compartment} (h : Nested a b) (e : InferError) :
    Ended a (b.abandon e) ∧ GaveUp e a (b.abandon e) :=
  ⟨⟨rfl, h.depth, h.maxDepth⟩, congrArg (· + 1) h.failures, congrArg (e :: ·) h.aborted⟩

theorem ends_drain (host : Host) (fuel : Nat) (hc : c.worklist.resolving = true) :
    Outcome (drain host fuel) c (fun _ c' => Ended c c' ∧ Spared c c')
      fun e c' => Ended c c' ∧ GaveUp e c c' := by
  -- From where the loop started to where it is the pass has been running.
  suffices h : ∀ b, Nested c b → Outcome (drain host fuel) b (fun _ c' => Ended c c' ∧ Spared c c')
      fun e c' => Ended c c' ∧ GaveUp e c c' from h c (.of_gauges rfl hc)
  induction fuel with
  | zero => exact fun b hb => outcome_of_error rfl (hb.ended_abandon _)
  | succ fuel ih =>
    intro b hb
    cases hnext : b.worklist.next? with
    | none =>
      exact outcome_of_ok (drain_of_empty fuel hnext)
        ⟨⟨rfl, hb.depth, hb.maxDepth⟩, hb.failures, hb.aborted⟩
    | some next =>
      obtain ⟨work, rest⟩ := next
      obtain ⟨hresolving, hdepth, hmax⟩ := Worklist.resolving_of_next? hnext
      have hpop : Nested b { b with worklist := rest } :=
        ⟨hresolving.trans hb.resolving, hdepth, by
          rw [show ({ b with worklist := rest } : Compartment).worklist.maxDepth = _ from hmax]
          exact Nat.le_max_left _ _, rfl, rfl⟩
      have hfire : Outcome (fire host work) { b with worklist := rest } _ _ :=
        keeps_fire keeps_requestPass_nested lenient_nested
          (fun _ _ _ => Handler.asks_of_forall allows_nested _ _) work _
      cases hresult : (fire host work { b with worklist := rest }).1 with
      | ok =>
        have hkept : Nested b _ := hpop.trans (hfire.ok hresult hpop.resolving)
        have hrun := drain_of_delivered fuel hnext (Prod.ext hresult rfl)
        exact (outcome_congr hrun).mpr (ih _ (hb.trans hkept))
      | error e =>
        have hkept : Nested b _ := hpop.trans (hfire.error hresult hpop.resolving)
        have hrun := drain_of_failed fuel hnext (Prod.ext hresult rfl)
        exact outcome_of_error hrun ((hb.trans hkept).ended_abandon e)

/-! ## Between passes -/

/-- No pass is running and none has been asked for. -/
structure Idle (c : Compartment) : Prop where
  resolving : c.worklist.resolving = false
  depth : c.worklist.depth = 0

/-- What happens between passes: each of those that run in the course of it ends. -/
structure Outermost (a b : Compartment) : Prop where
  idle : b.Idle
  maxDepth : b.worklist.maxDepth ≤ max a.worklist.maxDepth 2

theorem Outermost.of_gauges (h : c'.gauges = c.gauges) (hc : c.Idle) : Outermost c c' where
  idle := ⟨(congrArg Gauges.resolving h : c'.worklist.resolving = _).trans hc.resolving,
    (congrArg Gauges.depth h : c'.worklist.depth = _).trans hc.depth⟩
  maxDepth := Nat.le_trans (Nat.le_of_eq (congrArg Gauges.maxDepth h)) (Nat.le_max_left _ _)

theorem Outermost.trans {a b c : Compartment} (h : Outermost a b) (h' : Outermost b c) :
    Outermost a c where
  idle := h'.idle
  maxDepth := by
    have h₁ := h.maxDepth
    have h₂ := h'.maxDepth
    omega

theorem Spared.of_gauges (h : c'.gauges = c.gauges) : Spared c c' :=
  ⟨congrArg Gauges.failures h, congrArg Gauges.aborted h⟩

theorem Spared.trans {a b c : Compartment} (h : Spared a b) (h' : Spared b c) : Spared a c :=
  ⟨h'.failures.trans h.failures, h'.aborted.trans h.aborted⟩

theorem GaveUp.of_spared {e : InferError} {a b c : Compartment} (h : Spared a b)
    (h' : GaveUp e b c) : GaveUp e a c :=
  ⟨h'.failures.trans (congrArg (· + 1) h.failures), h'.aborted.trans (congrArg (e :: ·) h.aborted)⟩

/-- Between passes.  What fails has had one pass given up or none. -/
def outermost : Frame where
  Ok a b := a.Idle → Outermost a b ∧ Spared a b
  Failed e a b := a.Idle → Outermost a b ∧ (Spared a b ∨ GaveUp e a b)
  plain h ha := ⟨.of_gauges (gauges_of_readings h) ha, .of_gauges (gauges_of_readings h)⟩
  enters h ha := ⟨.of_gauges h.gauges ha, .of_gauges h.gauges⟩
  throws _ _ ha := ⟨.of_gauges rfl ha, .inl (.of_gauges rfl)⟩
  trans h h' ha :=
    have h' := h' (h ha).1.idle
    ⟨(h ha).1.trans h'.1, (h ha).2.trans h'.2⟩
  fails h h' ha :=
    have h' := h' (h ha).1.idle
    ⟨(h ha).1.trans h'.1, h'.2.imp (h ha).2.trans (.of_spared (h ha).2)⟩

theorem restacks_outermost : outermost.Restacks := fun _ _ hc =>
  ⟨⟨⟨hc.resolving, hc.depth⟩, Nat.le_max_left _ _⟩, rfl, rfl⟩

theorem allows_outermost (r : Request) : outermost.Allows r :=
  Frame.allows r (fun _ => restacks_outermost) (fun _ _ _ ha => ⟨.of_gauges rfl ha, .of_gauges rfl⟩)
    fun _ ha => ⟨.of_gauges rfl ha, .of_gauges rfl⟩

/-- A request for a pass runs it one level deep. -/
theorem keeps_requestPass_outermost : outermost.Keeps (requestPass (solve host)) := by
  intro c
  refine Frame.outcome_guarded fun hc => ?_
  let b := (c.changeWorklist Worklist.enter).changeWorklist Worklist.start
  have hdrain := ends_drain host
    ((c.changeWorklist Worklist.enter).deliveryBound + 1) (c := b) rfl
  have hrun : requestPass (solve host) c =
      ((drain host ((c.changeWorklist Worklist.enter).deliveryBound + 1) b).1,
        (drain host ((c.changeWorklist Worklist.enter).deliveryBound + 1) b).2.changeWorklist
          Worklist.leave) :=
    requestPass_of_not_resolving (solve host) hc.resolving
  have hended : ∀ a, Ended b a → Outermost c (a.changeWorklist Worklist.leave) := by
    intro a ha
    have hdepth : a.worklist.depth = c.worklist.depth + 1 := ha.depth
    have hmax : a.worklist.maxDepth ≤
      max (max c.worklist.maxDepth (c.worklist.depth + 1)) (c.worklist.depth + 1 + 1) := ha.maxDepth
    rw [hc.depth] at hdepth hmax
    refine ⟨⟨ha.resolving, ?_⟩, ?_⟩
    · change a.worklist.depth - 1 = 0
      omega
    · change a.worklist.maxDepth ≤ _
      omega
  cases hresult : (drain host ((c.changeWorklist Worklist.enter).deliveryBound + 1) b).1 with
  | ok x =>
    obtain ⟨ha, hspared⟩ := hdrain.ok hresult
    exact outcome_of_ok (hrun.trans (Prod.ext hresult rfl))
      ⟨hended _ ha, hspared.failures, hspared.aborted⟩
  | error e =>
    obtain ⟨ha, hgave⟩ := hdrain.error hresult
    exact outcome_of_error (hrun.trans (Prod.ext hresult rfl))
      ⟨hended _ ha, .inr ⟨hgave.failures, hgave.aborted⟩⟩

/-- Whatever is asked for between passes leaves the solver idle. -/
theorem run_outermost (host : Host) (r : Request) (hc : c.Idle) :
    Outcome (r.run host) c (fun _ c' => Outermost c c' ∧ Spared c c')
      fun e c' => Outermost c c' ∧ (Spared c c' ∨ GaveUp e c c') :=
  Outcome.imp (keeps_perform keeps_requestPass_outermost r (allows_outermost r) c)
    (fun _ _ h => h hc) fun _ _ h => h hc

/-! ## Runs -/

/-- What holds of the solver between requests. -/
structure Dormant (c : Compartment) : Prop where
  idle : c.Idle
  maxDepth : c.worklist.maxDepth ≤ 2
  failures : c.stats.failures = (abortions c.journal).length

theorem dormant_fresh (options : Options) : (fresh options).Dormant :=
  ⟨⟨rfl, rfl⟩, Nat.zero_le _, rfl⟩

theorem Dormant.run (h : c.Dormant) (host : Host) (r : Request) : (r.run host c).2.Dormant := by
  have houtcome := run_outermost host r h.idle
  have hspared : ∀ {a}, Outermost c a → Spared c a → a.Dormant := by
    intro a ha hs
    refine ⟨ha.idle, Nat.le_trans ha.maxDepth (Nat.max_le.mpr ⟨h.maxDepth, Nat.le_refl 2⟩), ?_⟩
    rw [hs.failures, hs.aborted, h.failures]
  cases hresult : (r.run host c).1 with
  | ok x =>
    obtain ⟨ha, hs⟩ := houtcome.ok hresult
    exact hspared ha hs
  | error e =>
    obtain ⟨ha, hs | hg⟩ := houtcome.error hresult
    · exact hspared ha hs
    · refine ⟨ha.idle, Nat.le_trans ha.maxDepth (Nat.max_le.mpr ⟨h.maxDepth, Nat.le_refl 2⟩), ?_⟩
      rw [hg.failures, hg.aborted, h.failures, List.length_cons]

/-- A host with one handler, which adds a type to the set that it makes and fails. -/
def refusingHost : Host := fun _ _ =>
  .ask .newSet fun
    | .ok (.set s) => .ask (.addType s .int32) fun _ => .fail (.notAFunction "f")
    | _ => .done

/-- A chain of sets, at the end of which a native function is called; the call fails, and later
another one does. -/
def refusedRun : List Request :=
  [.newSet, .newSet, .newSet, .addSubset ⟨1⟩ ⟨2⟩, .addSubset ⟨2⟩ ⟨3⟩, .typeObject none "f" true none,
    .setNativeHandler ⟨1⟩ (some "f") false, .newCallSite { code := ⟨⟨0⟩, 0⟩ }, .addCall ⟨3⟩ ⟨0⟩,
    .addType ⟨1⟩ (.object ⟨1⟩), .addPrototype ⟨1⟩ ⟨1⟩]

end Compartment

end FlowTypes
