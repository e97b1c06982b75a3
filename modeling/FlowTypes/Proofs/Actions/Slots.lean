import FlowTypes.Compartment.Slots
import FlowTypes.Proofs.Actions.Prototype

/-!
# How stack slots are merged

Every node has a representative in the table, and every record of a slot speaks of sets and nodes
that exist.  Merging two slots lets their types flow both ways and then makes one group of the two.

## Main results

* `moves_newStackNode`, `moves_mergeStacks`, `moves_setInnerStack`, `moves_setSlotFlags`.
-/

namespace FlowTypes

namespace StackTable

variable {t : StackTable}

theorem mem_slots_update {n : StackId} {s s' : Slot} (h : s' ∈ (t.update n s).slots) :
    s' ∈ t.slots ∨ s' = s :=
  Array.mem_or_eq_of_mem_setIfInBounds h

theorem mem_slots_merge {a b : StackId} {s : Slot} (h : s ∈ (t.merge a b).slots) :
    s ∈ t.slots ∨ s = (t.slot a).combine (t.slot b) := by
  unfold merge at h
  split at h
  · exact .inl h
  · exact Array.mem_or_eq_of_mem_setIfInBounds h

theorem mem_representatives_merge {a b r : StackId} (h : r ∈ (t.merge a b).representatives) :
    r ∈ t.representatives ∨ r = t.find a := by
  unfold merge at h
  split at h
  · exact .inl h
  · obtain ⟨r', hr', rfl⟩ := Array.mem_map.mp h
    split
    · exact .inr rfl
    · exact .inl hr'

theorem slots_size_update (n : StackId) (s : Slot) :
    (t.update n s).slots.size = t.slots.size :=
  Array.size_setIfInBounds

theorem size_merge (a b : StackId) : (t.merge a b).size = t.size := by
  unfold merge
  split
  · rfl
  · exact Array.size_map

theorem slots_size_merge (a b : StackId) : (t.merge a b).slots.size = t.slots.size := by
  unfold merge
  split
  · rfl
  · exact Array.size_setIfInBounds

end StackTable

namespace Compartment

variable {L : Law} {c : Compartment}

/-- The representative of a node exists. -/
theorem in_find (hc : c.Valid) {n : StackId} (hn : n.In c.extent) :
    (c.stack.find n).In c.extent := by
  have hn' : n.index < c.stack.representatives.size := hn
  have hmem : c.stack.find n ∈ c.stack.representatives := by
    simp [StackTable.find, Array.getD, hn']
  exact hc.representatives _ hmem

/-- The record of a node is in the table. -/
theorem valid_slot (hc : c.Valid) {n : StackId} (hn : n.In c.extent) :
    (c.stack.slot n).Valid c.extent := by
  have hfind : (c.stack.find n).index < c.stack.slots.size := by
    rw [hc.slotCount]
    exact in_find hc hn
  have hmem : c.stack.slot n ∈ c.stack.slots := by
    simp [StackTable.slot, Array.getD, hfind]
  exact hc.slots _ hmem

/-! ## Changes of the stack table -/

theorem aside_update {n : StackId} {s : Slot} (hs : s.Valid c.extent) :
    c.Aside (c.changeStacks (·.update n s)) := by
  refine ⟨rfl, rfl, rfl, rfl, rfl, rfl, fun _ h => h,
    ⟨[], rfl, fun _ h => absurd h List.not_mem_nil⟩, fun h => h, fun _ h => .inl h, fun _ h => .inl h,
    Nat.le_refl _, fun _ h => .inl h, ?_, fun h => (StackTable.slots_size_update n s).trans h⟩
  intro s' hs'
  refine (StackTable.mem_slots_update hs').imp_right ?_
  rintro rfl
  exact hs

theorem aside_merge (hc : c.Valid) {a b : StackId} (ha : a.In c.extent) (hb : b.In c.extent) :
    c.Aside (c.changeStacks (·.merge a b)) := by
  have hsize := StackTable.size_merge (t := c.stack) a b
  have hextent : (c.changeStacks (·.merge a b)).extent = c.extent := by
    simp only [extent, changeStacks, hsize]
  refine ⟨rfl, rfl, rfl, rfl, rfl, rfl, fun _ h => h,
    ⟨[], rfl, fun _ h => absurd h List.not_mem_nil⟩, fun h => h, fun _ h => .inl h, fun _ h => .inl h,
    Nat.le_of_eq hsize.symm, ?_, ?_, ?_⟩
  · intro r hr
    rw [hextent]
    refine (StackTable.mem_representatives_merge hr).imp_right ?_
    rintro rfl
    exact in_find hc ha
  · intro s hs
    rw [hextent]
    refine (StackTable.mem_slots_merge hs).imp_right ?_
    rintro rfl
    have ha' := valid_slot hc ha
    have hb' := valid_slot hc hb
    refine ⟨ha'.types, ?_⟩
    intro n hn
    have hn : ((c.stack.slot a).inner <|> (c.stack.slot b).inner) = some n := hn
    cases hinner : (c.stack.slot a).inner with
    | some m =>
      rw [hinner] at hn
      exact ha'.inner n (hinner.trans hn)
    | none =>
      rw [hinner] at hn
      exact hb'.inner n hn
  · intro h
    show (c.stack.merge a b).slots.size = (c.stack.merge a b).size
    rw [StackTable.slots_size_merge, hsize, h]

theorem aside_push {s : Slot} (hs : s.Valid c.extent) : c.Aside (c.changeStacks (·.push s)) := by
  have hsize : (c.stack.push s).size = c.stack.size + 1 := Array.size_push _
  have hwithin : c.extent.Within (c.changeStacks (·.push s)).extent := by
    refine ⟨Nat.le_refl _, Nat.le_refl _, Nat.le_refl _, Nat.le_refl _, ?_⟩
    show c.stack.size ≤ (c.stack.push s).size
    omega
  refine ⟨rfl, rfl, rfl, rfl, rfl, rfl, fun _ h => h,
    ⟨[], rfl, fun _ h => absurd h List.not_mem_nil⟩, fun h => h, fun _ h => .inl h, fun _ h => .inl h,
    hwithin.slots, ?_, ?_, ?_⟩
  · intro r hr
    refine (Array.mem_push.mp hr).imp_right ?_
    rintro rfl
    show c.stack.size < (c.stack.push s).size
    omega
  · intro s' hs'
    refine (Array.mem_push.mp hs').imp_right ?_
    rintro rfl
    exact hs.mono hwithin
  · intro h
    show (c.stack.slots.push s).size = (c.stack.push s).size
    rw [Array.size_push, hsize, h]

/-! ## Requests -/

section Lawful

variable (hL : L.Lawful)
include hL

/-- A new node has a set of its own. -/
theorem moves_newStackNode (h : L.At c) (hchoice : L.scope.choice) {inner : Option StackId}
    (hinner : ∀ n ∈ inner, n.In c.extent) :
    L.Moves (newStackNode inner) c fun node c' => node.In c'.extent := by
  refine .bind hL.within h (moves_newSet h hchoice) ?_
  rintro types c₁ h₁ hgood₁ ⟨htypes, -⟩
  refine .get ?_
  dsimp only
  have hs : Slot.Valid c₁.extent { types, inner } :=
    ⟨htypes, fun n hn => (hinner n hn).mono (hgood₁.grows h.sound).extent⟩
  refine .bind hL.within h₁ (Law.Moves.aside h₁ (aside_push hs) rfl) ?_
  rintro _ c₂ h₂ - rfl
  refine .pure h₂ ?_
  show c₁.stack.size < (c₁.stack.push _).size
  rw [show (c₁.stack.push { types, inner }).size = c₁.stack.size + 1 from Array.size_push _]
  omega

theorem moves_mergeDown (hfree : L.Free) (hjoins : ∀ a b, L.scope.grant.joins a b) (h : L.At c)
    (fuel : Nat) {one two : StackId} (hone : one.In c.extent) (htwo : two.In c.extent) :
    L.Moves (mergeDown L.pass fuel one two) c fun _ _ => True := by
  induction fuel generalizing c one two with
  | zero => exact .throw h (hfree _ (by decide))
  | succ fuel ih =>
    refine .get ?_
    dsimp only
    by_cases hsame : c.stack.same one two = true
    · rw [if_pos hsame]
      exact .pure h trivial
    · rw [if_neg hsame]
      have hone' := valid_slot h.sound.valid hone
      have htwo' := valid_slot h.sound.valid htwo
      -- The types of two slots that are merged flow into each other.
      have hmerge : ∀ {below : Action Unit},
          (∀ c', L.At c' → c.Grows c' → L.Moves below c' fun _ _ => True) →
          L.Moves (do
            unless (c.stack.slot one).types = (c.stack.slot two).types do
              addSubset L.pass (c.stack.slot one).types (c.stack.slot two).types
              addSubset L.pass (c.stack.slot two).types (c.stack.slot one).types
            modify (·.changeStacks (·.merge one two))
            below) c fun _ _ => True := by
        intro below hbelow
        have hlast : ∀ c', L.At c' → c.Grows c' → L.Moves (do
            modify (·.changeStacks (·.merge one two))
            below) c' fun _ _ => True := by
          intro c' h' hgrows
          have haside := aside_merge h'.sound.valid (hone.mono hgrows.extent)
            (htwo.mono hgrows.extent)
          refine .bind hL.within h' (Law.Moves.aside h' haside rfl) ?_
          rintro _ c'' h'' hgood rfl
          exact hbelow _ h'' (hgrows.trans (hgood.grows h'.sound))
        by_cases htypes : (c.stack.slot one).types = (c.stack.slot two).types
        · rw [if_pos htypes]
          exact hlast c h (Grows.refl c)
        · rw [if_neg htypes]
          refine .bind hL.within h (moves_addSubset hL h hone'.types htwo'.types
            (.given (hjoins _ _))) ?_
          intro _ c₁ h₁ hgood₁ _
          have hgrows₁ := hgood₁.grows h.sound
          refine .bind hL.within h₁ (moves_addSubset hL h₁ (htwo'.types.mono hgrows₁.extent)
            (hone'.types.mono hgrows₁.extent) (.given (hjoins _ _))) ?_
          exact fun _ c₂ h₂ hgood₂ _ => hlast c₂ h₂ (hgrows₁.trans (hgood₂.grows h₁.sound))
      refine hmerge fun c' h' hgrows => ?_
      split
      · rename_i i j hi hj
        exact ih h' ((hone'.inner i hi).mono hgrows.extent) ((htwo'.inner j hj).mono hgrows.extent)
      · exact .pure h' trivial

theorem moves_mergeStacks (hfree : L.Free) (hjoins : ∀ a b, L.scope.grant.joins a b) (h : L.At c)
    {one two : StackId} (hone : one.In c.extent) (htwo : two.In c.extent) :
    L.Moves (mergeStacks L.pass one two) c fun _ _ => True :=
  .get (moves_mergeDown hL hfree hjoins h _ hone htwo)

theorem moves_setInnerStack (hfree : L.Free) (hjoins : ∀ a b, L.scope.grant.joins a b) (h : L.At c)
    {node inner : StackId} (hnode : node.In c.extent) (hinner : inner.In c.extent) :
    L.Moves (setInnerStack L.pass node inner) c fun _ _ => True := by
  refine .get ?_
  dsimp only
  have hslot := valid_slot h.sound.valid hnode
  cases hother : (c.stack.slot node).inner with
  | some other => exact moves_mergeStacks hL hfree hjoins h (hslot.inner other hother) hinner
  | none =>
    refine .imp h (Law.Moves.aside h (aside_update ⟨hslot.types, ?_⟩) rfl)
      fun _ _ _ _ _ => trivial
    rintro n ⟨⟩
    exact hinner

omit hL in
theorem moves_setSlotFlags (h : L.At c) {node : StackId} (hnode : node.In c.extent)
    (flags : SlotFlags) : L.Moves (modify (·.setSlotFlags node flags)) c fun _ _ => True := by
  have hslot := valid_slot h.sound.valid hnode
  exact .imp h (Law.Moves.aside h (aside_update ⟨hslot.types, hslot.inner⟩) rfl)
    fun _ _ _ _ _ => trivial

end Lawful

end Compartment

end FlowTypes
