import FlowTypes.Proofs.Frames.Reaction
import Mathlib.Algebra.GroupWithZero.Nat

/-!
# Requests to compile scripts again

Scripts are queued for four causes: a freeze constraint finds its answer wrong, code is monitored
from now on, a push was not foreseen, or the host wants it so.  The queue is handed out at arbitrary
points, also by handlers in the middle of a pass.  Nothing here depends on what the requests are
about, or on whether they succeed: the docket is kept by everything that a host can ask for.

What holds of the docket is said in terms of the journal, which remembers every request with its
cause and every list of scripts that was handed out.

## Main results

* `OnceEach`: what is handed out for a queue; `onceEach_distinct`.
* `Docket.Faithful`: the docket agrees with its journal; `faithful_runAll`.
* `queuedFor_pushed_runAll`: the requests of the pushes that a run makes.
* `handedOut_runAll`: what a run hands out, if its handlers do not.
* `recompiles_served_once`: no request is lost, and none is served twice.
-/

namespace FlowTypes

/-! ## Queues -/

/-- The scripts of a queue, each once, in the order in which they were first queued. -/
structure OnceEach (queue scripts : List ScriptId) : Prop where
  nodup : scripts.Nodup
  mem : ∀ s, s ∈ scripts ↔ s ∈ queue
  order : scripts.Pairwise fun s s' => queue.idxOf s < queue.idxOf s'

theorem onceEach_distinct (queue : List ScriptId) :
    OnceEach queue (Compartment.distinct queue) := by
  refine ⟨Compartment.nodup_distinct queue, fun s => Compartment.mem_distinct, ?_⟩
  induction queue with
  | nil => exact .nil
  | cons s rest ih =>
    have hlater : ∀ {s'}, s' ≠ s → (s :: rest).idxOf s' = rest.idxOf s' + 1 :=
      fun hne => List.idxOf_cons_ne rest (Ne.symm hne)
    have hothers : ∀ {s'}, s' ∈ (Compartment.distinct rest).filter (· != s) → s' ≠ s :=
      fun h => bne_iff_ne.mp (List.mem_filter.mp h).2
    rw [Compartment.distinct]
    refine List.pairwise_cons.mpr ⟨fun s' hs' => ?_, ?_⟩
    · rw [List.idxOf_cons_self, hlater (hothers hs')]
      exact Nat.succ_pos _
    · refine (ih.filter _).imp_of_mem fun ha hb hlt => ?_
      rw [hlater (hothers ha), hlater (hothers hb)]
      exact Nat.succ_lt_succ hlt

/-! ## What the journal tells -/

/-- The script that was queued, if it was for this cause. -/
def Event.queued? (cause : Cause) : Event → Option ScriptId
  | .recompileQueued script k => if k = cause then some script else none
  | _ => none

/-- The scripts that were handed out. -/
def Event.handedOut? : Event → Option (List ScriptId)
  | .recompiled scripts => some scripts
  | _ => none

/-- The scripts that were queued for a cause, newest first. -/
def queuedFor (cause : Cause) (journal : List Event) : List ScriptId :=
  journal.filterMap (Event.queued? cause)

/-- The lists of scripts that were handed out, newest first. -/
def handedOut (journal : List Event) : List (List ScriptId) :=
  journal.filterMap Event.handedOut?

theorem queuedFor_cons (cause k : Cause) (script : ScriptId) (journal : List Event) :
    queuedFor cause (.recompileQueued script k :: journal) =
      if k = cause then script :: queuedFor cause journal else queuedFor cause journal := by
  unfold queuedFor
  by_cases hk : k = cause <;> simp [Event.queued?, hk]

/-- What is told of requests and of scripts that were handed out is told by the entries. -/
theorem filterMap_requeues {α : Type} {f : Event → Option α}
    (hf : ∀ e, e.requeues = false → f e = none) (journal : List Event) :
    (journal.filter Event.requeues).filterMap f = journal.filterMap f := by
  rw [List.filterMap_filter]
  refine List.filterMap_congr fun e _ => ?_
  cases he : e.requeues with
  | true => rfl
  | false => exact (hf e he).symm

theorem queuedBy_requeues (journal : List Event) :
    queuedBy (journal.filter Event.requeues) = queuedBy journal := by
  induction journal with
  | nil => rfl
  | cons e journal ih =>
    cases e with
    | recompileQueued script => exact congrArg (script :: ·) ih
    | recompiled => rfl
    | _ => exact ih

/-- The event comes of a push or of a handing out, which only hosts ask for. -/
def Event.isHostly : Event → Bool
  | .recompileQueued _ (.pushed _) | .recompiled _ => true
  | _ => false

theorem Event.queued?_pushed (code : Location) {e : Event} (he : e.isHostly = false) :
    e.queued? (.pushed code) = none := by
  cases e with
  | recompileQueued script cause => cases cause <;> first | rfl | cases he
  | _ => rfl

theorem Event.handedOut?_of_not_hostly {e : Event} (he : e.isHostly = false) :
    e.handedOut? = none := by
  cases e <;> first | rfl | cases he

namespace Compartment

/-! ## The docket -/

namespace Docket

/-- One more request. -/
def request (d : Docket) (script : ScriptId) (cause : Cause) : Docket :=
  { d with queued := script :: d.queued, entries := .recompileQueued script cause :: d.entries }

/-- Code is monitored from now on. -/
def watch (d : Docket) (code : Location) : Docket :=
  if d.monitored.contains code then d
  else { d.request code.script (.monitored code) with monitored := code :: d.monitored }

/-- The queued scripts are handed out. -/
def handOut (d : Docket) : Docket :=
  let scripts := distinct d.queued.reverse
  { d with
    queued := []
    recompilations := d.recompilations + scripts.length
    entries := .recompiled scripts :: d.entries }

/-- The docket agrees with what the journal tells. -/
structure Faithful (d : Docket) : Prop where
  queued : d.queued = queuedBy d.entries
  recompilations : d.recompilations = ((handedOut d.entries).map List.length).sum
  served : ∀ after scripts before, d.entries = after ++ .recompiled scripts :: before →
    OnceEach (queuedBy before).reverse scripts
  monitored : ∀ code, queuedFor (.monitored code) d.entries =
    if d.monitored.contains code then [code.script] else []

variable {d : Docket}

/-- What was handed out before is told by the older entries. -/
theorem Faithful.served_cons (h : d.Faithful) {e : Event}
    (he : ∀ scripts, e ≠ .recompiled scripts) (after : List Event) (scripts : List ScriptId)
    (before : List Event) (heq : e :: d.entries = after ++ .recompiled scripts :: before) :
    OnceEach (queuedBy before).reverse scripts := by
  cases after with
  | nil => exact absurd (List.cons.inj heq).1 (he scripts)
  | cons _ after => exact h.served after scripts before (List.cons.inj heq).2

theorem Faithful.request (h : d.Faithful) (script : ScriptId) {cause : Cause}
    (hcause : ∀ code, cause ≠ .monitored code) : (d.request script cause).Faithful where
  queued := congrArg (script :: ·) h.queued
  recompilations := h.recompilations
  served := h.served_cons nofun
  monitored code := by
    change queuedFor (.monitored code) (.recompileQueued script cause :: d.entries) = _
    rw [queuedFor_cons, if_neg (hcause code)]
    exact h.monitored code

theorem Faithful.watch (h : d.Faithful) (code : Location) : (d.watch code).Faithful := by
  unfold Docket.watch
  split
  · exact h
  · rename_i hnew
    refine ⟨congrArg (code.script :: ·) h.queued, h.recompilations, h.served_cons nofun,
      fun other => ?_⟩
    have hother := h.monitored other
    change queuedFor _ (.recompileQueued code.script (.monitored code) :: d.entries) =
      if (code :: d.monitored).contains other then [other.script] else []
    rw [queuedFor_cons, List.contains_cons]
    by_cases heq : code = other
    · subst heq
      rw [if_neg hnew] at hother
      simp [hother]
    · have hne : (Cause.monitored code) ≠ .monitored other := fun h => heq (Cause.monitored.inj h)
      rw [if_neg hne, hother]
      simp [Ne.symm heq]

theorem Faithful.handOut (h : d.Faithful) : d.handOut.Faithful where
  queued := rfl
  recompilations := by
    have hsum := h.recompilations
    change d.recompilations + (distinct d.queued.reverse).length =
      (distinct d.queued.reverse).length + ((handedOut d.entries).map List.length).sum
    omega
  served after scripts before heq := by
    cases after with
    | nil =>
      obtain ⟨hscripts, rfl⟩ := List.cons.inj heq
      cases hscripts
      rw [← h.queued]
      exact onceEach_distinct _
    | cons _ after => exact h.served after scripts before (List.cons.inj heq).2
  monitored := h.monitored

end Docket

variable {c c' : Compartment} {host : Host}

theorem docket_monitor (c : Compartment) (code : Location) :
    (c.monitor code).docket = c.docket.watch code := by
  unfold monitor Docket.watch
  by_cases h : c.isMonitored code = true
  · rw [if_pos h]
    exact (if_pos h).symm
  · rw [if_neg h]
    exact (if_neg h).symm

theorem Docket.Faithful.enters (h : c.docket.Faithful) (henters : c.Enters c') :
    c'.docket.Faithful := by
  cases henters with
  | frozen script id => exact h.request script nofun
  | asked script => exact h.request script nofun
  | monitored code => exact (docket_monitor c code).symm ▸ h.watch code

/-- The docket stays in agreement with the journal. -/
def bookkeeping : Frame where
  Ok a b := a.docket.Faithful → b.docket.Faithful
  Failed _ a b := a.docket.Faithful → b.docket.Faithful
  plain h ha := (docket_of_readings h).symm ▸ ha
  enters h ha := ha.enters h
  throws _ _ := id
  trans h h' := h' ∘ h
  fails h h' := h' ∘ h

theorem steady_bookkeeping : bookkeeping.Steady := ⟨.rfl, fun _ _ => id, fun _ _ => id⟩

theorem allows_bookkeeping (r : Request) : bookkeeping.Allows r :=
  Frame.allows r (fun _ _ _ => id) (fun _ script _ h => h.request script nofun) fun _ h => h.handOut

theorem faithful_fresh (options : Options) : (fresh options).docket.Faithful where
  queued := rfl
  recompilations := rfl
  served after _ _ h := by cases after <;> cases h
  monitored _ := rfl

/-- Whatever a host asks for, and whatever fails, the docket agrees with the journal. -/
theorem faithful_runAll (host : Host) (rs : List Request) (options : Options) :
    (Request.runAll host rs (fresh options)).2.docket.Faithful :=
  steady_bookkeeping.runAll (fun _ _ _ => Handler.asks_of_forall allows_bookkeeping _ _)
    (fun r _ => allows_bookkeeping r) _ (faithful_fresh options)

section Journal

variable (h : c.docket.Faithful)
include h

theorem Docket.Faithful.tallied : c.Tallied :=
  h.queued.trans (queuedBy_requeues c.journal)

/-- What was handed out at some time is what was queued since the time before. -/
theorem Docket.Faithful.onceEach {after before : List Event} {scripts : List ScriptId}
    (heq : c.journal = after ++ .recompiled scripts :: before) :
    OnceEach (queuedBy before).reverse scripts := by
  rw [← queuedBy_requeues before]
  refine h.served (after.filter Event.requeues) scripts (before.filter Event.requeues) ?_
  change c.journal.filter Event.requeues = _
  rw [heq, List.filter_append]
  rfl

theorem Docket.Faithful.recompilations_eq :
    c.stats.recompilations = ((handedOut c.journal).map List.length).sum := by
  have hentries : handedOut c.docket.entries = handedOut c.journal :=
    filterMap_requeues (fun e he => by cases e <;> first | rfl | cases he) c.journal
  rw [← hentries]
  exact h.recompilations

theorem Docket.Faithful.monitored_eq (code : Location) :
    queuedFor (.monitored code) c.journal = if c.isMonitored code then [code.script] else [] := by
  have hentries : queuedFor (.monitored code) c.docket.entries =
      queuedFor (.monitored code) c.journal :=
    filterMap_requeues (fun e he => by cases e <;> first | rfl | cases he) c.journal
  rw [← hentries]
  exact h.monitored code

end Journal

/-! ## What only hosts ask for -/

/-- What the journal tells of pushes and of handing out stays as it is. -/
def telling {α : Type} (f : Event → Option α) (hf : ∀ e, e.isHostly = false → f e = none) :
    Frame where
  Ok a b := b.journal.filterMap f = a.journal.filterMap f
  Failed _ a b := b.journal.filterMap f = a.journal.filterMap f
  plain {a b} h := by
    have hplain : ∀ e : Event, e.requeues = false → f e = none := by
      refine fun e he => hf e ?_
      cases e <;> first | rfl | cases he
    rw [← filterMap_requeues hplain b.journal, ← filterMap_requeues hplain a.journal]
    exact congrArg (fun d => d.entries.filterMap f) (docket_of_readings h)
  enters {a b} h := by
    cases h with
    | frozen script id => exact List.filterMap_cons_none (hf _ rfl)
    | asked script => exact List.filterMap_cons_none (hf _ rfl)
    | monitored code =>
      unfold monitor
      split
      · rfl
      · exact (List.filterMap_cons_none (hf _ rfl)).trans (List.filterMap_cons_none (hf _ rfl))
  throws _ _ := rfl
  trans h h' := h'.trans h
  fails h h' := h'.trans h

section Telling

variable {α : Type} {f : Event → Option α} {hf : ∀ e, e.isHostly = false → f e = none}

theorem steady_telling : (telling f hf).Steady :=
  ⟨.rfl, fun _ _ => rfl, fun _ _ => List.filterMap_cons_none (hf _ rfl)⟩

theorem restacks_telling : (telling f hf).Restacks := fun _ _ => rfl

end Telling

/-! ## Pushes -/

/-- The set of the value that the code at a place pushes, if it was ever asked for. -/
def pushedSet? (c : Compartment) (code : Location) (index : Nat) : Option SetId :=
  (ScriptTable.get? c.scripts code.script).bind (·.pushed? code.offset index)

/-- The type is among those that the code at a place may push. -/
def foresees (c : Compartment) (code : Location) (index : Nat) (t : Ty) : Bool :=
  match c.pushedSet? code index with
  | some types => (c.set types).has t
  | none => false

variable {code : Location} {index : Nat} {t : Ty}

/-- A set that stands for every type has foreseen each of them. -/
theorem foresees_of_unknown {types : SetId} (hset : c.pushedSet? code index = some types)
    (hunknown : (c.set types).isUnknown = true) (t : Ty) : c.foresees code index t = true := by
  unfold foresees
  rw [hset]
  simp [TypeSet.has, hunknown]

/-- The set of a pushed value is made when it is first asked for, and then it is empty. -/
theorem run_pushedTypes (c : Compartment) (code : Location) (index : Nat) (t : Ty) :
    ∃ target b, pushedTypes code index c = (.ok target, b) ∧
      (b.set target).has t = c.foresees code index t ∧
      (c.foresees code index t = true → b = c) := by
  cases hset : c.pushedSet? code index with
  | some types =>
    have hrun : pushedTypes code index c = (.ok types, c) := by
      unfold pushedSet? at hset
      unfold pushedTypes
      rw [run_get, hset]
      rfl
    refine ⟨types, c, hrun, ?_, fun _ => rfl⟩
    unfold foresees
    rw [hset]
  | none =>
    let b := c.pushSet.changeScript code.script (·.addPushed ⟨code.offset, index, ⟨c.sets.size⟩⟩)
    have hrun : pushedTypes code index c = (.ok ⟨c.sets.size⟩, b) := by
      unfold pushedSet? at hset
      unfold pushedTypes
      rw [run_get, hset]
      rfl
    have hnone : c.foresees code index t = false := by
      unfold foresees
      rw [hset]
    have hempty : b.set ⟨c.sets.size⟩ = {} := by
      change c.pushSet.set ⟨c.sets.size⟩ = {}
      rw [set_pushSet]
      simp [set]
    refine ⟨_, b, hrun, ?_, fun h => by rw [hnone] at h; cases h⟩
    rw [hempty, hnone]
    cases t with
    | object o => exact IndexSet.contains_empty o.index
    | _ => rfl

/-- A type that was foreseen changes nothing. -/
theorem observePush_of_foresees (pass : Action Unit) (h : c.foresees code index t = true) :
    observePush pass code index t c = (.ok (), c) := by
  obtain ⟨target, b, hrun, hhas, hsame⟩ := run_pushedTypes c code index t
  cases hsame h
  unfold observePush
  rw [run_bind_ok hrun, run_get, if_pos (hhas.trans h)]
  rfl

/-- One that was not is added, and then the script is queued. -/
theorem observePush_of_not_foresees (pass : Action Unit) (h : c.foresees code index t = false) :
    ∃ target b, pushedTypes code index c = (.ok target, b) ∧
      observePush pass code index t c =
        (addType pass target t >>= fun _ => modify (·.queueRecompile code.script (.pushed code)))
          (b.record (.pushObserved code index t)) := by
  obtain ⟨target, b, hrun, hhas, -⟩ := run_pushedTypes c code index t
  refine ⟨target, b, hrun, ?_⟩
  unfold observePush
  rw [run_bind_ok hrun, run_get, if_neg (by rw [hhas, h]; exact Bool.false_ne_true)]
  rfl

/-- A push that succeeds makes a request of its own once its type is added, unless the type was
foreseen. -/
theorem run_observePush {pass : Action Unit}
    (hrun : observePush pass code index t c = (.ok (), c')) :
    if c.foresees code index t then c' = c
    else ∃ types b b', pushedTypes code index c = (.ok types, b) ∧
      addType pass types t (b.record (.pushObserved code index t)) = (.ok (), b') ∧
      c' = b'.queueRecompile code.script (.pushed code) := by
  split
  · rename_i h
    rw [observePush_of_foresees pass h] at hrun
    cases hrun
    rfl
  · rename_i h
    obtain ⟨types, b, hpushed, hpush⟩ := observePush_of_not_foresees pass (eq_false_of_ne_true h)
    rw [hpush, run_bind] at hrun
    split at hrun
    · rename_i b' hadd
      cases hrun
      exact ⟨types, b, b', hpushed, hadd, rfl⟩
    · cases hrun

end Compartment

namespace Request

open Compartment

def isPush : Request → Bool
  | observePush .. => true
  | _ => false

/-- The request is a push, by the code at a place, of a type that was not foreseen. -/
def isUnforeseen (c : Compartment) (code : Location) : Request → Bool
  | observePush code' index t => code' == code && !c.foresees code' index t
  | _ => false

/-- How many pushes of types that were not foreseen, by the code at a place, succeed in a run. -/
def unforeseen (host : Host) (code : Location) : List Request → Compartment → Nat
  | [], _ => 0
  | r :: rs, c =>
    unforeseen host code rs (r.run host c).2 +
      if r.isUnforeseen c code && (r.run host c).1.isOk then 1 else 0

/-- The scripts that an outcome hands out. -/
def scripts? : Except InferError Answer → Option (List ScriptId)
  | .ok (.scripts scripts) => some scripts
  | _ => none

end Request

namespace Compartment

variable {c c' : Compartment} {host : Host} {code : Location}

open Request

/-- What the journal tells of pushes by the code at a place stays as it is. -/
def tellingPushes (code : Location) : Frame :=
  telling (Event.queued? (.pushed code)) fun _ => Event.queued?_pushed code

theorem allows_tellingPushes {r : Request} (hr : r.isPush = false) (code : Location) :
    (tellingPushes code).Allows r := by
  cases r with
  | observePush => cases hr
  | newStackNode | setInnerStack | mergeStacks | setSlotFlags => exact restacks_telling
  | takeRecompiles => exact fun _ => List.filterMap_cons_none rfl
  | _ => trivial

/-- A push is told of by a request, if the type was not foreseen and could be added. -/
theorem queuedFor_observePush {pass : Action Unit} {other : Location}
    (hpass : (tellingPushes other).Keeps (requestPass pass)) (code : Location) (index : Nat)
    (t : Ty) (c : Compartment) :
    queuedFor (.pushed other) (Compartment.observePush pass code index t c).2.journal =
      if (code == other && !c.foresees code index t) &&
        (Compartment.observePush pass code index t c).1.isOk
      then other.script :: queuedFor (.pushed other) c.journal
      else queuedFor (.pushed other) c.journal := by
  cases hforesees : c.foresees code index t with
  | true =>
    rw [observePush_of_foresees pass hforesees]
    simp
  | false =>
    obtain ⟨target, b, hpushed, hpush⟩ := observePush_of_not_foresees pass hforesees
    have hF : (tellingPushes other).Steady := steady_telling
    have hfound := hF.keeps_iff.mp (keeps_pushedTypes code index) c
    rw [hpushed] at hfound
    have hrecorded : (tellingPushes other).Ok b (b.record (.pushObserved code index t)) :=
      Frame.plain _ rfl
    have hadd := hF.keeps_iff.mp (keeps_addType hpass target t) (b.record (.pushObserved code index t))
    cases hrun : addType pass target t (b.record (.pushObserved code index t)) with
    | mk o b' =>
      rw [hrun] at hadd
      have hb' : queuedFor (.pushed other) b'.journal = queuedFor (.pushed other) c.journal :=
        Frame.trans _ (Frame.trans _ hfound hrecorded) hadd
      cases o with
      | ok x =>
        have hlast : Compartment.observePush pass code index t c =
            (.ok (), b'.queueRecompile code.script (.pushed code)) :=
          hpush.trans (run_bind_ok hrun)
        rw [hlast]
        change queuedFor _ (.recompileQueued code.script (.pushed code) :: b'.journal) = _
        rw [queuedFor_cons, hb']
        by_cases hcode : code = other <;> simp [hcode, Except.isOk, Except.toBool]
      | error e =>
        rw [hpush, run_bind_error hrun, hb']
        simp [Except.isOk, Except.toBool]

/-- Whether an action answers nothing or that it is done makes no difference. -/
theorem run_then_done (a : Action Unit) (c : Compartment) :
    ((a >>= fun _ => pure Answer.done) c).2 = (a c).2 ∧
      ((a >>= fun _ => pure Answer.done) c).1.isOk = (a c).1.isOk := by
  rw [run_bind]
  cases a c with
  | mk o c' => cases o <;> exact ⟨rfl, rfl⟩

section Pushes

variable (hhost : host.Asks fun r => r.isPush = false)
include hhost

theorem asks_tellingPushes (code : Location) : host.Asks (tellingPushes code).Allows :=
  fun name site c => (hhost name site c).imp fun _ hr => allows_tellingPushes hr code

/-- Only a push that succeeds, of a type that was not foreseen, makes a request of its kind. -/
theorem queuedFor_pushed_run (r : Request) (c : Compartment) (code : Location) :
    queuedFor (.pushed code) (r.run host c).2.journal =
      if r.isUnforeseen c code && (r.run host c).1.isOk
      then code.script :: queuedFor (.pushed code) c.journal
      else queuedFor (.pushed code) c.journal := by
  have hasks := asks_tellingPushes hhost code
  cases hr : r.isPush with
  | true =>
    cases r with
    | observePush code' index t =>
      obtain ⟨hafter, hok⟩ := run_then_done (Compartment.observePush (solve host) code' index t) c
      have hpushed := queuedFor_observePush
        (steady_telling.requestPass (steady_telling.solve hasks)) code' index t c
      rw [← hafter, ← hok] at hpushed
      exact hpushed
    | _ => cases hr
  | false =>
    have hnone : r.isUnforeseen c code = false := by
      cases r <;> first | rfl | cases hr
    rw [hnone]
    exact steady_telling.run hasks (allows_tellingPushes hr code) c

/-- The requests of the pushes that a run makes, one for each that was not foreseen. -/
theorem queuedFor_pushed_runAll (rs : List Request) (c : Compartment) (code : Location) :
    queuedFor (.pushed code) (runAll host rs c).2.journal =
      List.replicate (unforeseen host code rs c) code.script ++
        queuedFor (.pushed code) c.journal := by
  induction rs generalizing c with
  | nil => rfl
  | cons r rs ih =>
    have hrun : (runAll host (r :: rs) c).2 = (runAll host rs (r.run host c).2).2 := rfl
    rw [hrun, ih, queuedFor_pushed_run hhost, unforeseen]
    split
    · rw [List.replicate_succ', List.append_assoc]
      rfl
    · rfl

end Pushes

/-! ## Handing out -/

theorem scripts?_bind {α : Type} {a : Action α} {f : α → Answer}
    (hf : ∀ x, scripts? (.ok (f x)) = none) (c : Compartment) :
    scripts? ((a >>= fun x => pure (f x) : Action Answer) c).1 = none := by
  rw [run_bind]
  split
  · exact hf _
  · rfl

/-- Only one request hands anything out. -/
theorem scripts?_run {r : Request} (hr : r ≠ .takeRecompiles) (host : Host) (c : Compartment) :
    scripts? (r.run host c).1 = none := by
  cases r with
  | takeRecompiles => exact absurd rfl hr
  | _ => exact scripts?_bind (fun _ => rfl) c

/-- What the journal tells of handing out stays as it is. -/
def tellingHandouts : Frame := telling Event.handedOut? fun _ => Event.handedOut?_of_not_hostly

theorem allows_tellingHandouts {r : Request} (hr : r ≠ .takeRecompiles) :
    tellingHandouts.Allows r := by
  cases r with
  | takeRecompiles => exact absurd rfl hr
  | newStackNode | setInnerStack | mergeStacks | setSlotFlags => exact restacks_telling
  | observePush => exact fun _ _ _ => List.filterMap_cons_none rfl
  | _ => trivial

/-- What is handed out is the answer, if the handlers of a host do not hand anything out. -/
theorem handedOut_run (hhost : host.Asks (· ≠ .takeRecompiles)) (r : Request) (c : Compartment) :
    handedOut (r.run host c).2.journal =
      (scripts? (r.run host c).1).toList ++ handedOut c.journal := by
  by_cases hr : r = .takeRecompiles
  · subst hr
    rfl
  · rw [scripts?_run hr host c]
    exact steady_telling.run (fun name site c => (hhost name site c).imp fun _ h =>
      allows_tellingHandouts h) (allows_tellingHandouts hr) c

theorem handedOut_runAll (hhost : host.Asks (· ≠ .takeRecompiles)) (rs : List Request)
    (c : Compartment) : (handedOut (runAll host rs c).2.journal).reverse =
      (handedOut c.journal).reverse ++ (runAll host rs c).1.filterMap scripts? := by
  induction rs generalizing c with
  | nil => exact (List.append_nil _).symm
  | cons r rs ih =>
    have hrun : runAll host (r :: rs) c = ((r.run host c).1 :: (runAll host rs (r.run host c).2).1,
      (runAll host rs (r.run host c).2).2) := rfl
    rw [hrun, ih, handedOut_run hhost, List.reverse_append, List.append_assoc]
    cases hscripts : scripts? (r.run host c).1 with
    | none => rw [List.filterMap_cons_none hscripts]; rfl
    | some scripts => rw [List.filterMap_cons_some hscripts]; rfl

/-! ## Runs -/

/-- In every run of every host, whatever is asked for and whatever fails: each time scripts are
handed out, also by a handler in the middle of a pass, it is each of those that were queued since the
last time, once, in the order in which they were first queued; those that were queued since then are
waiting; and the count of recompilations is the number of scripts that were handed out, which are the
answers to the host's own requests if its handlers hand nothing out.  To hand scripts out answers
them, writes them down and empties the queue.

Monitoring code has queued its script once if the code is monitored, and not at all if it is not.  A
push that succeeds makes a request of its own, unless the type was foreseen, when it changes nothing;
and if the handlers of the host make no pushes, there are as many requests of that kind as the run has
such pushes. -/
theorem recompiles_served_once {rs : List Request} {options : Options}
    (hrun : (runAll host rs (fresh options)).2 = c) :
    ((∀ after scripts before, c.journal = after ++ .recompiled scripts :: before →
        OnceEach (queuedBy before).reverse scripts) ∧
      c.Tallied ∧
      c.stats.recompilations = ((handedOut c.journal).map List.length).sum ∧
      (host.Asks (· ≠ .takeRecompiles) →
        (handedOut c.journal).reverse = (runAll host rs (fresh options)).1.filterMap scripts?) ∧
      ∀ (pass : Action Unit) (b : Compartment), ∃ scripts b',
        Request.takeRecompiles.perform pass b = (.ok (.scripts scripts), b') ∧
          OnceEach b.recompiles scripts ∧ b'.journal = .recompiled scripts :: b.journal ∧
          b'.recompiles = [] ∧
          b'.stats.recompilations = b.stats.recompilations + scripts.length) ∧
    (∀ code, queuedFor (.monitored code) c.journal =
      if c.isMonitored code then [code.script] else []) ∧
    (∀ (pass : Action Unit) (b b' : Compartment) (code : Location) (index : Nat) (t : Ty),
      observePush pass code index t b = (.ok (), b') →
        if b.foresees code index t then b' = b
        else ∃ types a a', pushedTypes code index b = (.ok types, a) ∧
          addType pass types t (a.record (.pushObserved code index t)) = (.ok (), a') ∧
          b' = a'.queueRecompile code.script (.pushed code)) ∧
    (∀ (code : Location) (index : Nat) (types : SetId) (t : Ty),
      c.pushedSet? code index = some types → (c.set types).isUnknown = true →
        c.foresees code index t = true) ∧
    (host.Asks (fun r => r.isPush = false) → ∀ code, queuedFor (.pushed code) c.journal =
      List.replicate (unforeseen host code rs (fresh options)) code.script) := by
  subst hrun
  have hfaithful := faithful_runAll host rs options
  refine ⟨⟨fun _ _ _ => hfaithful.onceEach, hfaithful.tallied, hfaithful.recompilations_eq,
    fun hhost => ?_, fun pass b => ?_⟩, hfaithful.monitored_eq,
    fun pass b b' code index t => run_observePush, fun code index types t hset hunknown =>
      foresees_of_unknown hset hunknown t, fun hhost code => ?_⟩
  · exact handedOut_runAll hhost rs (fresh options)
  · exact ⟨_, _, rfl, onceEach_distinct _, rfl, takeRecompiles_recompiles b, rfl⟩
  · have hpushed := queuedFor_pushed_runAll hhost rs (fresh options) code
    rwa [show queuedFor (.pushed code) (fresh options).journal = [] from rfl,
      List.append_nil] at hpushed

/-- A host with one handler, which has the code of the call monitored. -/
def monitoringHost : Host := fun _ site => .perform (.monitor site.code) .done

/-- Scripts are queued for all four causes, also twice, and are handed out three times. -/
def recompilingRun : List Request :=
  [.newSet, .addType ⟨1⟩ .int32, .knownTag ⟨1⟩ (some ⟨0⟩), .newSet, .typeObject none "f" true none,
    .setNativeHandler ⟨1⟩ (some "f") false, .newCallSite { code := ⟨⟨1⟩, 4⟩ }, .addCall ⟨2⟩ ⟨0⟩,
    .addType ⟨2⟩ (.object ⟨1⟩), .monitor ⟨⟨1⟩, 4⟩, .addType ⟨1⟩ .string, .queueRecompile ⟨1⟩,
    .takeRecompiles, .observePush ⟨⟨2⟩, 0⟩ 0 .int32, .observePush ⟨⟨2⟩, 0⟩ 0 .int32,
    .observePush ⟨⟨2⟩, 0⟩ 0 .unknown, .observePush ⟨⟨2⟩, 0⟩ 0 .string, .queueRecompile ⟨0⟩,
    .takeRecompiles, .monitor ⟨⟨1⟩, 4⟩, .takeRecompiles]

theorem recompiles_served_once_four_causes :
    let outcomes := (runAll monitoringHost recompilingRun (fresh {})).1
    let c := (runAll monitoringHost recompilingRun (fresh {})).2
    outcomes.filterMap scripts? = [[⟨1⟩, ⟨0⟩], [⟨2⟩, ⟨0⟩], []] ∧ c.stats.recompilations = 4 ∧
      OnceEach [⟨1⟩, ⟨0⟩, ⟨1⟩] [⟨1⟩, ⟨0⟩] ∧
      queuedFor (.monitored ⟨⟨1⟩, 4⟩) c.journal = [⟨1⟩] ∧
      queuedFor (.pushed ⟨⟨2⟩, 0⟩) c.journal = [⟨2⟩, ⟨2⟩] := by
  intro outcomes c
  have hmonitors : ∀ P : Request → Prop, (∀ code, P (.monitor code)) → monitoringHost.Asks P :=
    fun P hP _ site _ => ⟨hP site.code, trivial⟩
  have hrun : (runAll monitoringHost recompilingRun (fresh {})).2 = c := rfl
  obtain ⟨⟨hserved, -, hsum, hanswers, -⟩, hmonitored, -, -, hpushed⟩ := recompiles_served_once hrun
  have houtcomes : outcomes.filterMap scripts? = [[⟨1⟩, ⟨0⟩], [⟨2⟩, ⟨0⟩], []] := by decide +kernel
  have hfirst := hserved (c.journal.take 9) [⟨1⟩, ⟨0⟩] (c.journal.drop 10) (by decide +kernel)
  have hqueue : (queuedBy (c.journal.drop 10)).reverse = [⟨1⟩, ⟨0⟩, ⟨1⟩] := by decide +kernel
  have hwatched : c.isMonitored ⟨⟨1⟩, 4⟩ = true := by decide +kernel
  have hpushes : unforeseen monitoringHost ⟨⟨2⟩, 0⟩ recompilingRun (fresh {}) = 2 := by
    decide +kernel
  refine ⟨houtcomes, ?_, hqueue ▸ hfirst, ?_, ?_⟩
  · rw [hsum, ← List.sum_reverse, ← List.map_reverse, hanswers (hmonitors _ nofun)]
    exact congrArg (fun lists => (lists.map List.length).sum) houtcomes
  · rw [hmonitored, if_pos hwatched]
  · rw [hpushed (hmonitors _ fun _ => rfl), hpushes]
    rfl

end Compartment

end FlowTypes
