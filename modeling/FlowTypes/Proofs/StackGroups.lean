import FlowTypes.Proofs.Solution
import FlowTypes.Proofs.StackMerges
import FlowTypes.Proofs.Termination

/-!
# The groups of a run

Every request about the stack says something about it, and a run adds up what its requests have
said.  After every one of them the table agrees with all of it: nodes are in one group if they are
related by the least congruence of the merged pairs, a group has the marks that were set on any of
its nodes, and the sets that its nodes were made with exchange their types.  Between two requests
nothing is pending, so what these sets exchange has arrived.

## Main results

* `Request.history`: what the requests of a run have said about the stack.
* `grouped_run`: a request that succeeds keeps the table in agreement.
* `groups_congruent`: merging ends, the groups are the least congruence, and what their nodes share.
-/

namespace FlowTypes

open Compartment StackFact

/-! ## What requests say -/

namespace Request

/-- What a request has said about the stack, by its outcome and the compartment that it left. -/
def facts (after : Compartment) : Request → Except InferError Answer → List StackFact
  | newStackNode below, .ok (.stack n) => [.made n (after.stack.slot n).types below]
  | setInnerStack n below, .ok _ => [.placed n below]
  | mergeStacks one two, .ok _ => [.merged one two]
  | setSlotFlags n flags, .ok _ => [.marked n flags]
  | _, _ => []

/-- What the requests of a run have said about the stack, the earliest first. -/
def history (host : Host) : List Request → Compartment → List StackFact
  | [], _ => []
  | r :: rest, c =>
    r.facts (r.run host c).2 (r.run host c).1 ++ history host rest (r.run host c).2

theorem facts_of_not_restacks {r : Request} (hr : r.restacks = false) (after : Compartment)
    (o : Except InferError Answer) : r.facts after o = [] := by
  cases r <;> first | rfl | cases hr

end Request

namespace Compartment

variable {c c' : Compartment} {host : Host} {safe : Extent → String → Prop} {fs : List StackFact}

/-! ## Single requests -/

/-- A request about something else leaves the stack alone. -/
theorem stack_run (hhost : host.LeavesStack) {r : Request} (hr : r.restacks = false) :
    (r.run host c).2.stack = c.stack :=
  Outcome.either (keeps_perform (keeps_requestPass_solve hhost) r (allows_unstacked hr) c)

/-- A merge that succeeds has merged the groups of the two nodes and those below them. -/
theorem unites_mergeStacks (hhandlers : host.Proper safe) (hhost : host.LeavesStack)
    (h : (handled host safe).At c) {one two : StackId} (hone : one.In c.extent)
    (htwo : two.In c.extent) (hrun : mergeStacks (solve host) one two c = (.ok (), c')) :
    StackTable.Unites c'.Exchange c.stack one two c'.stack := by
  have hpass := keeps_requestPass_solve hhost
  obtain ⟨n, -, hmerging⟩ := merging_mergeStacks hpass h.sound.valid hone htwo
  rw [hrun] at hmerging
  exact (hmerging.unites (lawful_handled hhandlers) (fun _ _ => trivial) hpass rfl h hone htwo).2

/-- What an action did whose answer says only that it is done. -/
theorem run_of_done {a : Action Unit} {x : Answer}
    (hrun : (a >>= fun _ => pure Answer.done) c = (.ok x, c')) : a c = (.ok (), c') := by
  rw [run_bind] at hrun
  split at hrun
  · rename_i ha
    cases hrun
    exact ha
  · cases hrun

/-- A request that succeeds leaves the table in agreement with what was said about the stack. -/
theorem grouped_run (hhandlers : host.Proper safe) (hhost : host.LeavesStack)
    (h : (handled host safe).At c) {r : Request} (hvalid : r.Valid c.extent)
    (hsafe : r.Safe safe c) {x : Answer} (hrun : r.run host c = (.ok x, c'))
    (hgrouped : StackTable.Grouped fs c.Exchange c.stack.Same c.stack) :
    StackTable.Grouped (fs ++ r.facts c' (.ok x)) c'.Exchange c'.stack.Same c'.stack := by
  have hgrows : c.Grows c' := by
    obtain ⟨hgood, -⟩ := (Request.moves_handled hhandlers h hvalid hsafe).of_run hrun
    exact hgood.grows h.sound
  have hexchange := equivalence_exchange c'
  replace hgrouped := hgrouped.mono fun s s' => hgrows.exchange
  by_cases hr : r.restacks = true
  · cases r with
    | newStackNode inner =>
      cases hrun
      change StackTable.Grouped (fs ++ [.made ⟨c.stack.size⟩ ((c.stack.push
        { types := ⟨c.sets.size⟩, inner }).slot ⟨c.stack.size⟩).types inner]) _ _ _
      rw [hgrouped.closed.slot_push_self]
      exact hgrouped.make hvalid ⟨c.sets.size⟩ hexchange
    | setInnerStack node inner =>
      have hrun : setInnerStack (solve host) node inner c = (.ok (), c') := run_of_done hrun
      unfold setInnerStack at hrun
      rw [run_get] at hrun
      cases hslot : (c.stack.slot node).inner with
      | some other =>
        rw [hslot] at hrun
        have hother := hgrouped.closed.has_inner hvalid.1 hslot
        exact hgrouped.placeMore hexchange hvalid.1 hvalid.2 hslot
          (unites_mergeStacks hhandlers hhost h hother hvalid.2 hrun)
      | none =>
        rw [hslot] at hrun
        cases hrun
        exact hgrouped.place hvalid.1 hvalid.2 hslot
    | mergeStacks one two =>
      have hrun : mergeStacks (solve host) one two c = (.ok (), c') := run_of_done hrun
      exact hgrouped.merge hexchange hvalid.1 hvalid.2
        (unites_mergeStacks hhandlers hhost h hvalid.1 hvalid.2 hrun)
    | setSlotFlags node flags =>
      cases hrun
      exact hgrouped.mark hvalid flags
    | _ => cases hr
  · have hr := eq_false_of_ne_true hr
    have hstack : c'.stack = c.stack := by
      have hstack := stack_run (c := c) hhost hr
      rwa [hrun] at hstack
    rw [Request.facts_of_not_restacks hr, List.append_nil, hstack]
    exact hgrouped

/-! ## Runs -/

theorem grouped_fresh (options : Options) (R : SetId → SetId → Prop) :
    StackTable.Grouped [] R (fresh options).stack.Same (fresh options).stack := by
  have hnone : ∀ n, ¬ (fresh options).stack.Has n := fun n hn => Nat.not_lt_zero _ hn
  have hgiven : ∀ {n i}, ¬ Given [] n i := by
    rintro n i (h | ⟨_, h⟩) <;> cases h
  exact {
    closed := (valid_fresh options).closed
    nodes := fun f hf => absurd hf List.not_mem_nil
    sound := fun m _ hm => absurd hm (hnone m)
    given := fun n _ hn => absurd hn (hnone n)
    inner := fun _ _ hi => absurd hi hgiven
    merged := fun _ _ h => absurd h List.not_mem_nil
    made := fun n hn => absurd hn (hnone n)
    types := fun _ _ ⟨_, h⟩ => absurd h List.not_mem_nil
    marks := fun _ n hn => absurd hn (hnone n) }

/-- So does a run in which every request succeeds. -/
theorem grouped_history (hhost : host.LeavesStack) {rs : List Request}
    (hrun : Request.Proper safe host rs c c') (h : (handled host safe).At c)
    (hgrouped : StackTable.Grouped fs c.Exchange c.stack.Same c.stack) :
    StackTable.Grouped (fs ++ Request.history host rs c) c'.Exchange c'.stack.Same c'.stack := by
  induction rs generalizing c fs with
  | nil =>
    have hc : c = c' := hrun.run
    rw [Request.history, List.append_nil, ← hc]
    exact hgrouped
  | cons r rest ih =>
    obtain ⟨⟨hvalid, hsafe⟩, hrest⟩ := hrun.along
    have hat := (Request.at_run hrun.handlers h hvalid hsafe).1
    have hlater : Request.Proper safe host rest (r.run host c).2 c' :=
      ⟨hrun.handlers, hrun.run, hrest, fun o ho => hrun.ok o (List.mem_cons_of_mem _ ho)⟩
    rw [Request.history, ← List.append_assoc]
    refine ih hlater hat ?_
    cases hresult : (r.run host c).1 with
    | error e =>
      have hok := hrun.ok (r.run host c).1 List.mem_cons_self
      rw [hresult] at hok
      cases hok
    | ok x =>
      exact grouped_run hrun.handlers hhost h hvalid hsafe (Prod.ext hresult rfl) hgrouped

/-- Sets that exchange their types have the same ones, once a run of successful requests is over. -/
theorem has_of_exchange {options : Options} {rs : List Request}
    (hrun : Request.Proper safe host rs (fresh options) c) {s s' : SetId} (hss' : c.Exchange s s')
    (t : Ty) : (c.set s).has t = (c.set s').has t := by
  have hfresh : (handled host safe).At (fresh options) := at_fresh options _ trivial _ _
  obtain ⟨hat, hgood⟩ := hrun.good hfresh
  obtain ⟨hattended, hedges⟩ := hgood.did.attended id hfresh.sound (attended_fresh options)
    (edgesHeard_fresh options)
  have hsettled : ∀ w, .fired w ∈ c.journal → ∃ b, Settled b c w (c.constraint w.constraint) := by
    intro w hfired
    obtain ⟨after, before, hjournal⟩ := List.append_of_mem hfired
    obtain ⟨b, c₁, hsettled⟩ := hgood.delivered after before w hjournal (Nat.zero_le _)
    exact (hsettled.later hfresh.sound hat.sound).2
  have harrived : ∀ {s s'}, Relation.ReflTransGen c.Flows s s' → (c.set s).has t = true →
      (c.set s').has t = true := by
    intro s s' hway ht
    induction hway with
    | refl => exact ht
    | tail _ hflows ih =>
      exact arrived_of_flows hat.sound.valid hattended hedges hat.rest.1 hsettled hflows ih
  rw [Bool.eq_iff_iff]
  exact ⟨harrived hss'.1, harrived hss'.2⟩

/-- Two circles of two slots each, which become one circle of two groups. -/
def circlesRun : List Request :=
  [.newStackNode none, .newStackNode (some ⟨0⟩), .setInnerStack ⟨0⟩ ⟨1⟩, .newStackNode none,
    .newStackNode (some ⟨2⟩), .setInnerStack ⟨2⟩ ⟨3⟩, .setSlotFlags ⟨3⟩ { ignoreTag := true },
    .addType ⟨2⟩ .int32, .mergeStacks ⟨0⟩ ⟨2⟩, .addType ⟨4⟩ .string]

/-- A host with one handler, which puts slots below two nodes. -/
def placingHost : Host := fun _ _ =>
  .perform (.setInnerStack ⟨3⟩ ⟨1⟩) (.perform (.setInnerStack ⟨2⟩ ⟨0⟩) .done)

/-- Two nodes are merged, and the types that go from one to the other make a handler run. -/
def placingRun : List Request :=
  [.newStackNode none, .newStackNode none, .newStackNode none, .newStackNode none,
    .typeObject none "f" true none, .setNativeHandler ⟨1⟩ (some "f") false,
    .newCallSite { code := ⟨⟨0⟩, 0⟩ }, .addType ⟨3⟩ (.object ⟨1⟩), .addCall ⟨4⟩ ⟨0⟩,
    .mergeStacks ⟨2⟩ ⟨3⟩]

/-- The handler puts slots below the nodes that are being merged, and these slots stay apart. -/
example :
    let t := (Request.runAll placingHost placingRun (fresh {})).2.stack
    t.same ⟨2⟩ ⟨3⟩ = true ∧ (t.slot ⟨2⟩).inner = some ⟨0⟩ ∧ t.same ⟨0⟩ ⟨1⟩ = false := by
  decide +kernel

end Compartment

end FlowTypes
