import FlowTypes.Proofs.Moves
import FlowTypes.Solver

/-!
# What most actions leave alone

The stack table, the flag and the counters of solver passes and the count of passes that were given
up are the `gauges` of a compartment.  Hardly anything touches them: a request for a pass does, the
end of a pass does, and so do the requests that are about the stack.  The `docket` of a compartment
is what it knows about recompilation: which scripts are queued, which code is monitored, how many
scripts were handed out, and what the journal tells of it.  A few changes write into the docket, and
these leave the gauges alone.  All other changes, however many of them an action makes, leave both as
they are.

A `Frame` says what an action may make of gauges and docket, if it succeeds and if it fails.
Whatever leaves them alone is in every frame, and so is what freeze constraints, monitored code and
the host write into the docket; an action stays in a frame if the requests for a pass that it makes
do.  A push that was not foreseen and the handing out of scripts, which only a host asks for, are in
the frames that allow for them.  This module shows how actions in a frame are put together; it needs
nothing to be known about the compartment.

## Main results

* `Frame`; `Frame.Allows`: which requests a frame has room for.
* `Frame.Keeps`; `Keeps.bind`, `Keeps.pure`, `Keeps.throw`, `Keeps.modify`, `Keeps.forM`,
  `Keeps.mapM`: sequencing.
-/

namespace FlowTypes

namespace Compartment

/-- The errors for which passes were given up, the latest first. -/
def abortions (journal : List Event) : List InferError :=
  journal.filterMap fun
    | .passAborted e => some e
    | _ => none

/-- What is not touched outside of passes, but by requests that are about the stack. -/
structure Gauges where
  stack : StackTable
  resolving : Bool
  depth : Nat
  maxDepth : Nat
  failures : Nat
  aborted : List InferError

def gauges (c : Compartment) : Gauges where
  stack := c.stack
  resolving := c.worklist.resolving
  depth := c.worklist.depth
  maxDepth := c.worklist.maxDepth
  failures := c.stats.failures
  aborted := abortions c.journal

/-- What is known about recompilation. -/
structure Docket where
  queued : List ScriptId
  monitored : List Location
  recompilations : Nat
  /-- What the journal tells of requests and of scripts that were handed out. -/
  entries : List Event

def docket (c : Compartment) : Docket where
  queued := c.queued
  monitored := c.monitored
  recompilations := c.stats.recompilations
  entries := c.journal.filter Event.requeues

/-- All that an action may be asked to leave alone. -/
def readings (c : Compartment) : Gauges × Docket := (c.gauges, c.docket)

theorem gauges_of_readings {a b : Compartment} (h : b.readings = a.readings) :
    b.gauges = a.gauges :=
  congrArg Prod.fst h

theorem docket_of_readings {a b : Compartment} (h : b.readings = a.readings) :
    b.docket = a.docket :=
  congrArg Prod.snd h

/-- What may be written into the docket at any time. -/
inductive Enters (c : Compartment) : Compartment → Prop
  | frozen (script : ScriptId) (id : ConstraintId) :
    Enters c (c.queueRecompile script (.frozen id))
  | asked (script : ScriptId) : Enters c (c.queueRecompile script .host)
  | monitored (code : Location) : Enters c (c.monitor code)

theorem gauges_monitor (c : Compartment) (code : Location) :
    (c.monitor code).gauges = c.gauges := by
  unfold monitor
  split <;> rfl

theorem Enters.gauges {a b : Compartment} (h : a.Enters b) : b.gauges = a.gauges := by
  cases h with
  | frozen | asked => rfl
  | monitored code => exact gauges_monitor a code

/-- What an action may make of gauges and docket if it succeeds, and if it fails. -/
structure Frame where
  Ok : Compartment → Compartment → Prop
  Failed : InferError → Compartment → Compartment → Prop
  plain : ∀ {a b}, b.readings = a.readings → Ok a b
  enters : ∀ {a b}, a.Enters b → Ok a b
  throws : ∀ e a, Failed e a a
  trans : ∀ {a b c}, Ok a b → Ok b c → Ok a c
  fails : ∀ {e a b c}, Ok a b → Failed e b c → Failed e a c

namespace Frame

/-- Changes of the stack are in the frame. -/
def Restacks (F : Frame) : Prop := ∀ (c : Compartment) (stack : StackTable), F.Ok c { c with stack }

/-- Requests to compile a script again after a push are in the frame. -/
def Pushes (F : Frame) : Prop :=
  ∀ (c : Compartment) (script : ScriptId) (code : Location),
    F.Ok c (c.queueRecompile script (.pushed code))

/-- The handing out of scripts is in the frame. -/
def HandsOut (F : Frame) : Prop := ∀ c : Compartment, F.Ok c c.takeRecompiles.2

/-- What is asked for is in the frame, apart from the passes that it starts. -/
def Allows (F : Frame) : Request → Prop
  | .newStackNode .. | .setInnerStack .. | .mergeStacks .. | .setSlotFlags .. => F.Restacks
  | .observePush .. => F.Pushes
  | .takeRecompiles => F.HandsOut
  | _ => True

/-- An action that failed can be followed by others. -/
def Lenient (F : Frame) : Prop := ∀ e a b, F.Failed e a b → F.Ok a b

variable {F : Frame} {α β : Type}

theorem refl (c : Compartment) : F.Ok c c := F.plain rfl

/-- An action that stays in a frame, from wherever it starts. -/
def Keeps (F : Frame) (a : Action α) : Prop :=
  ∀ c, Outcome a c (fun _ c' => F.Ok c c') fun e c' => F.Failed e c c'

theorem Keeps.bind {a : Action α} {f : α → Action β} (ha : F.Keeps a) (hf : ∀ x, F.Keeps (f x)) :
    F.Keeps (a >>= f) := by
  intro c
  refine outcome_bind.mpr (Outcome.imp (ha c) ?_ fun _ _ h => h)
  exact fun x b hb => Outcome.imp (hf x b) (fun _ _ h => F.trans hb h) fun _ _ h => F.fails hb h

theorem Keeps.pure (x : α) : F.Keeps (pure x) := fun c => outcome_pure.mpr (F.refl c)

theorem Keeps.throw (e : InferError) : F.Keeps (throw e : Action α) :=
  fun c => outcome_of_error rfl (F.throws e c)

theorem Keeps.get : F.Keeps (get : Action Compartment) := fun c => outcome_of_ok rfl (F.refl c)

/-- What an action makes of a compartment of a certain kind. -/
theorem outcome_guarded {a : Action α} {c : Compartment} {P : Prop} {ok : α → Compartment → Prop}
    {failed : InferError → Compartment → Prop} (h : P → Outcome a c ok failed) :
    Outcome a c (fun x c' => P → ok x c') fun e c' => P → failed e c' := by
  cases hrun : (a c).1 with
  | ok x => exact outcome_of_ok (Prod.ext hrun rfl) fun hp => (h hp).ok hrun
  | error e => exact outcome_of_error (Prod.ext hrun rfl) fun hp => (h hp).error hrun

/-- An action that always succeeds. -/
theorem Keeps.of_ok {a : Action α} {x : Compartment → α} {g : Compartment → Compartment}
    (hrun : ∀ c, a c = (.ok (x c), g c)) (hg : ∀ c, F.Ok c (g c)) : F.Keeps a :=
  fun c => outcome_of_ok (hrun c) (hg c)

theorem Keeps.change {g : Compartment → Compartment} (hg : ∀ c, F.Ok c (g c)) :
    F.Keeps (modify g) :=
  .of_ok (x := fun _ => PUnit.unit) (g := g) (fun _ => rfl) hg

/-- A change that leaves gauges and docket alone. -/
theorem Keeps.modify {g : Compartment → Compartment} (hg : ∀ c, (g c).readings = c.readings) :
    F.Keeps (modify g) :=
  .change fun c => F.plain (hg c)

theorem Keeps.map {a : Action α} (ha : F.Keeps a) (f : α → β) : F.Keeps (f <$> a) := by
  intro c
  exact outcome_map.mpr (ha c)

theorem Keeps.discard {a : Action α} (ha : F.Keeps a) : F.Keeps (discard a) :=
  ha.map fun _ => PUnit.unit

theorem Keeps.forM {xs : List α} {f : α → Action PUnit} (hf : ∀ x, F.Keeps (f x)) :
    F.Keeps (xs.forM f) := by
  induction xs with
  | nil => exact .pure _
  | cons x xs ih => exact (hf x).bind fun _ => ih

theorem Keeps.forM_option {x : Option α} {f : α → Action PUnit} (hf : ∀ x, F.Keeps (f x)) :
    F.Keeps (x.forM f) := by
  cases x with
  | none => exact .pure _
  | some x => exact hf x

theorem Keeps.mapM {xs : List α} {f : α → Action β} (hf : ∀ x, F.Keeps (f x)) :
    F.Keeps (xs.mapM f) := by
  induction xs with
  | nil => exact .pure _
  | cons x xs ih =>
    rw [List.mapM_cons]
    exact (hf x).bind fun _ => ih.bind fun _ => .pure _

end Frame

end Compartment

end FlowTypes
