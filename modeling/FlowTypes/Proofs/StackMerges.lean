import FlowTypes.Proofs.Frames.Reaction
import FlowTypes.Proofs.Runs
import FlowTypes.Proofs.StackFacts
import Mathlib.Logic.Relation

/-!
# Merging stack slots

Merging two slots is a loop that goes down two chains of slots.  In every round the types of two
slots are made to flow both ways, which starts passes, and then the slots become one group.  The
passes do not touch the stack, unless a handler asks for it in the middle of one.  A handler that did
could give a slot to a node whose record the loop has read already, and the loop would not come to
see it; so everything here is about passes that leave the stack alone.

The loop is bounded, but it never gets to its bound: a round leaves one group fewer.  So it is the
loop without a bound, of which this module says what it makes of the table.

## Main results

* `Merging`: the loop without a bound; `merging_mergeStacks`.
* `Merging.unites`: a loop that ends well has merged the groups, all the way down.
* `keeps_requestPass_solve`: the passes of a host whose handlers leave the stack alone.
-/

namespace FlowTypes

namespace Compartment

open Relation

variable {c c' : Compartment} {pass : Action Unit} {host : Host}

/-! ## Passes leave the stack alone -/

/-- The stack stays as it is. -/
def unstacked : Frame where
  Ok a b := b.stack = a.stack
  Failed _ a b := b.stack = a.stack
  plain h := congrArg Gauges.stack (gauges_of_readings h)
  enters h := congrArg Gauges.stack h.gauges
  throws _ _ := rfl
  trans h h' := h'.trans h
  fails h h' := h'.trans h

theorem steady_unstacked : unstacked.Steady := ⟨.rfl, fun _ _ => rfl, fun _ _ => rfl⟩

/-- A request about something else is in the frame. -/
theorem allows_unstacked {r : Request} (hr : r.restacks = false) : unstacked.Allows r :=
  Frame.allows r (fun h => by cases h.symm.trans hr) (fun _ _ _ => rfl) fun _ => rfl

/-- A pass leaves the stack alone if the handlers do. -/
theorem keeps_requestPass_solve (hhost : host.LeavesStack) :
    unstacked.Keeps (requestPass (solve host)) := by
  refine steady_unstacked.requestPass (steady_unstacked.solve fun name site c => ?_)
  exact ((hhost name site).asks c).imp fun _ => allows_unstacked

/-! ## Sets that exchange their types -/

/-- There are ways for types from each of two sets to the other. -/
def Exchange (c : Compartment) (s s' : SetId) : Prop :=
  ReflTransGen c.Flows s s' ∧ ReflTransGen c.Flows s' s

theorem equivalence_exchange (c : Compartment) : Equivalence c.Exchange where
  refl _ := ⟨.refl, .refl⟩
  symm h := ⟨h.2, h.1⟩
  trans h h' := ⟨h.1.trans h'.1, h'.2.trans h.2⟩

theorem Grows.exchange (h : c.Grows c') {s s' : SetId} (hs : c.Exchange s s') : c'.Exchange s s' :=
  ⟨hs.1.lift id fun _ _ => h.flows, hs.2.lift id fun _ _ => h.flows⟩

/-- Makes the types of two sets flow both ways. -/
def connect (pass : Action Unit) (s s' : SetId) : Action Unit := do
  unless s = s' do
    addSubset pass s s'
    addSubset pass s' s

theorem keeps_connect (hpass : unstacked.Keeps (requestPass pass)) (s s' : SetId) :
    unstacked.Keeps (connect pass s s') := by
  unfold connect
  split
  · exact .pure _
  · exact (keeps_addSubset hpass _ _).bind fun _ => keeps_addSubset hpass _ _

theorem moves_connect {L : Law} (hL : L.Lawful) (hjoins : ∀ a b, L.scope.grant.joins a b)
    (h : L.At c) {s s' : SetId} (hs : s.In c.extent) (hs' : s'.In c.extent) :
    L.Moves (connect L.pass s s') c fun _ c' => c'.Exchange s s' := by
  unfold connect
  split
  · rename_i heq
    subst heq
    exact .pure h ((equivalence_exchange c).refl s)
  · refine .bind hL.within h (moves_addSubset hL h hs hs' (.given (hjoins _ _))) ?_
    intro _ c₁ h₁ hgood₁ hflows
    have hgrows := (hgood₁.grows h.sound).extent
    refine .imp h₁ (moves_addSubset hL h₁ (hs'.mono hgrows) (hs.mono hgrows)
      (.given (hjoins _ _))) fun _ c₂ h₂ hgood₂ hflows' => ?_
    exact ⟨.single ((hgood₂.grows h₁.sound).flows hflows), .single hflows'⟩

/-! ## The loop -/

/-- One round of the loop, and the rounds after it. -/
theorem mergeDown_succ (pass : Action Unit) (fuel : Nat) (one two : StackId) :
    mergeDown pass (fuel + 1) one two c =
      if c.stack.same one two = true then (.ok (), c)
      else (connect pass (c.stack.slot one).types (c.stack.slot two).types >>= fun _ => do
        modify (·.changeStacks (·.merge one two))
        match (c.stack.slot one).inner, (c.stack.slot two).inner with
        | some i, some j => mergeDown pass fuel i j
        | _, _ => pure ()) c := by
  have hrun : mergeDown pass (fuel + 1) one two c = (if c.stack.same one two = true then pure ()
      else if (c.stack.slot one).types = (c.stack.slot two).types then (do
        modify (·.changeStacks (·.merge one two))
        match (c.stack.slot one).inner, (c.stack.slot two).inner with
        | some i, some j => mergeDown pass fuel i j
        | _, _ => pure ())
      else (do
        addSubset pass (c.stack.slot one).types (c.stack.slot two).types
        addSubset pass (c.stack.slot two).types (c.stack.slot one).types
        modify (·.changeStacks (·.merge one two))
        match (c.stack.slot one).inner, (c.stack.slot two).inner with
        | some i, some j => mergeDown pass fuel i j
        | _, _ => pure ()) : Action Unit) c := rfl
  rw [hrun]
  unfold connect
  split
  · rfl
  · split
    · rw [pure_bind]
    · rw [bind_assoc]

/-- Two slots are merged and, pair by pair, those below them, with so many merges, until two are in
one group, one of them has none below it, or a pass fails. -/
inductive Merging (pass : Action Unit) :
    StackId → StackId → Compartment → Nat → Except InferError Unit → Compartment → Prop
  | already {one two : StackId} {c : Compartment} (h : c.stack.Same one two) :
    Merging pass one two c 0 (.ok ()) c
  | failed {one two : StackId} {c c' : Compartment} {e : InferError} (h : ¬ c.stack.Same one two)
      (hconnect : connect pass (c.stack.slot one).types (c.stack.slot two).types c = (.error e, c')) :
    Merging pass one two c 0 (.error e) c'
  | last {one two : StackId} {c c' : Compartment} (h : ¬ c.stack.Same one two)
      (hconnect : connect pass (c.stack.slot one).types (c.stack.slot two).types c = (.ok (), c'))
      (hends : ∀ i j, (c.stack.slot one).inner = some i → (c.stack.slot two).inner ≠ some j) :
    Merging pass one two c 1 (.ok ()) (c'.changeStacks (·.merge one two))
  | next {one two i j : StackId} {c c' c'' : Compartment} {n : Nat} {o : Except InferError Unit}
      (h : ¬ c.stack.Same one two)
      (hconnect : connect pass (c.stack.slot one).types (c.stack.slot two).types c = (.ok (), c'))
      (hi : (c.stack.slot one).inner = some i) (hj : (c.stack.slot two).inner = some j)
      (hrest : Merging pass i j (c'.changeStacks (·.merge one two)) n o c'') :
    Merging pass one two c (n + 1) o c''

/-- The groups of the table are joined until there is one left at most, so the loop is the one
without a bound. -/
theorem merging_mergeDown (hpass : unstacked.Keeps (requestPass pass)) {fuel : Nat}
    (hfuel : c.stack.groups.card < fuel) (hclosed : c.stack.Closed) {one two : StackId}
    (hone : c.stack.Has one) (htwo : c.stack.Has two) : ∃ n, n ≤ c.stack.groups.card ∧
      Merging pass one two c n (mergeDown pass fuel one two c).1 (mergeDown pass fuel one two c).2 := by
  induction fuel generalizing c one two with
  | zero => exact absurd hfuel (Nat.not_lt_zero _)
  | succ fuel ih =>
    rw [mergeDown_succ]
    by_cases hsame : c.stack.same one two = true
    · rw [if_pos hsame]
      exact ⟨0, Nat.zero_le _, .already (StackTable.same_iff.mp hsame)⟩
    · rw [if_neg hsame]
      have hne := mt StackTable.same_iff.mpr hsame
      have hfewer := StackTable.groups_merge_lt hone htwo hne
      have hstack := keeps_connect hpass (c.stack.slot one).types (c.stack.slot two).types c
      cases hconnect : connect pass (c.stack.slot one).types (c.stack.slot two).types c with
      | mk outcome c₁ =>
        cases outcome with
        | error e =>
          rw [run_bind_error hconnect]
          exact ⟨0, Nat.zero_le _, .failed hne hconnect⟩
        | ok =>
          rw [run_bind_ok hconnect, run_modify]
          have hkept : c₁.stack = c.stack := by
            have hkept := hstack.ok (x := ()) (by rw [hconnect])
            rwa [hconnect] at hkept
          have hmerged : (c₁.changeStacks (·.merge one two)).stack = c.stack.merge one two := by
            rw [changeStacks, hkept]
          have hlast : (∀ i j, (c.stack.slot one).inner = some i →
              (c.stack.slot two).inner ≠ some j) → ∃ n, n ≤ c.stack.groups.card ∧
                Merging pass one two c n (.ok ()) (c₁.changeStacks (·.merge one two)) :=
            fun hends => ⟨1, by omega, .last hne hconnect hends⟩
          cases hi : (c.stack.slot one).inner with
          | none => exact hlast fun i j hi' _ => by cases hi.symm.trans hi'
          | some i =>
            cases hj : (c.stack.slot two).inner with
            | none => exact hlast fun i j _ hj' => by cases hj.symm.trans hj'
            | some j =>
              have hin : ∀ {k}, c.stack.Has k → (c₁.changeStacks (·.merge one two)).stack.Has k := by
                intro k hk
                rw [hmerged, StackTable.Has, StackTable.size_merge]
                exact hk
              obtain ⟨n, hn, hmerging⟩ := ih (c := c₁.changeStacks (·.merge one two))
                (by rw [hmerged]; omega) (hmerged ▸ hclosed.merge hone htwo)
                (hin (hclosed.has_inner hone hi)) (hin (hclosed.has_inner htwo hj))
              rw [hmerged] at hn
              exact ⟨n + 1, by omega, .next hne hconnect hi hj hmerging⟩

theorem Valid.closed (h : c.Valid) : c.stack.Closed where
  representatives := h.representatives
  slots := h.slotCount
  inner s hs i hi := (h.slots s hs).inner i hi

/-- Merging two slots ends after at most as many merges as there are nodes. -/
theorem merging_mergeStacks (hpass : unstacked.Keeps (requestPass pass)) (hc : c.Valid)
    {one two : StackId} (hone : one.In c.extent) (htwo : two.In c.extent) :
    ∃ n, n ≤ c.stack.size ∧
      Merging pass one two c n (mergeStacks pass one two c).1 (mergeStacks pass one two c).2 := by
  have hgroups := c.stack.card_groups_le
  obtain ⟨n, hn, hmerging⟩ :=
    merging_mergeDown hpass (Nat.lt_succ_of_le hgroups) hc.closed hone htwo
  exact ⟨n, hn.trans hgroups, hmerging⟩

/-! ## What the loop leaves behind -/

/-- A loop that ends well has merged the groups of the two nodes and those below them. -/
theorem Merging.unites {L : Law} (hL : L.Lawful) (hjoins : ∀ a b, L.scope.grant.joins a b)
    (hpass : unstacked.Keeps (requestPass L.pass)) {one two : StackId} {n : Nat}
    {o : Except InferError Unit} (hmerging : Merging L.pass one two c n o c') (ho : o = .ok ())
    (h : L.At c) (hone : one.In c.extent) (htwo : two.In c.extent) :
    c.Grows c' ∧ StackTable.Unites c'.Exchange c.stack one two c'.stack := by
  -- What the two sets of a round are connected by stays, and the stack is as before.
  have hround : ∀ {c c₁ : Compartment} {one two : StackId}, L.At c → one.In c.extent →
      two.In c.extent →
      connect L.pass (c.stack.slot one).types (c.stack.slot two).types c = (.ok (), c₁) →
        L.At (c₁.changeStacks (·.merge one two)) ∧ c.Grows (c₁.changeStacks (·.merge one two)) ∧
          (c₁.changeStacks (·.merge one two)).stack = c.stack.merge one two ∧
          (c₁.changeStacks (·.merge one two)).Exchange (c.stack.slot one).types
            (c.stack.slot two).types := by
    intro c c₁ one two h hone htwo hconnect
    have hmoves := moves_connect hL hjoins h (valid_slot h.sound.valid hone).types
      (valid_slot h.sound.valid htwo).types
    have hkept := keeps_connect hpass (c.stack.slot one).types (c.stack.slot two).types c
    obtain ⟨hgood, hrest, hexchange⟩ := hmoves.ok (x := ()) (by rw [hconnect])
    have hstack := hkept.ok (x := ()) (by rw [hconnect])
    rw [hconnect] at hgood hrest hexchange hstack
    have h₁ := hgood.at h hrest
    have hgrows := hgood.grows h.sound
    have haside := aside_merge h₁.sound.valid (hone.mono hgrows.extent) (htwo.mono hgrows.extent)
    have hgood₁ : L.Good c₁ (c₁.changeStacks (·.merge one two)) := .of_calm (.aside haside) haside.calm
    have hgrows₁ := hgood₁.grows h₁.sound
    refine ⟨hgood₁.at h₁ h₁.rest, hgrows.trans hgrows₁, ?_, hgrows₁.exchange hexchange⟩
    rw [changeStacks, hstack]
  induction hmerging with
  | already hsame => exact ⟨Grows.refl _, .already hsame⟩
  | failed => cases ho
  | last hne hconnect hends =>
    obtain ⟨-, hgrows, hstack, hexchange⟩ := hround h hone htwo hconnect
    rw [hstack]
    exact ⟨hgrows, .last hne hexchange hends⟩
  | next hne hconnect hi hj _ ih =>
    obtain ⟨hat, hgrows, hstack, hexchange⟩ := hround h hone htwo hconnect
    have hone' := (valid_slot h.sound.valid hone).inner _ hi
    have htwo' := (valid_slot h.sound.valid htwo).inner _ hj
    obtain ⟨hgrows', hunites⟩ := ih ho hat (hone'.mono hgrows.extent) (htwo'.mono hgrows.extent)
    rw [hstack] at hunites
    exact ⟨hgrows.trans hgrows', .next hne (hgrows'.exchange hexchange) hi hj hunites⟩

end Compartment

end FlowTypes
