import FlowTypes.Proofs.Actions.Slots
import Mathlib.Data.Finset.Card
import Mathlib.Data.Finset.Dedup

/-!
# Tables of stack nodes

Two nodes are in one group if they have one representative.  This module says what pushing, updating
and merging make of the groups and of their records, for a table whose entries are all in it.

Merging the groups of two nodes goes on with the slots below them, if there is one below each.  A
chain of slots may run in a circle, so that there is no last one; but every merge leaves one
representative fewer, and that is what ends the descent.

## Main results

* `same_push`, `same_merge`: the groups after a change.
* `slot_push`, `slot_update`, `slot_merge`: the records after a change.
* `groups_merge_lt`: a merge leaves fewer groups.
* `Unites`: merging two groups and, pair by pair, those below them.
-/

namespace FlowTypes

/-- The node below a combined record is the one below the first, or the one below the second if there
is none below the first. -/
theorem Slot.inner_combine {a b : Slot} {i : StackId} (h : (a.combine b).inner = some i) :
    a.inner = some i ∨ a.inner = none ∧ b.inner = some i := by
  cases ha : a.inner with
  | some j => exact .inl (by simpa [combine, ha] using h)
  | none => exact .inr ⟨rfl, by simpa [combine, ha] using h⟩

namespace StackTable

/-- The node is in the table. -/
def Has (t : StackTable) (n : StackId) : Prop := n.index < t.size

/-- The nodes are in one group. -/
def Same (t : StackTable) (a b : StackId) : Prop := t.find a = t.find b

instance (t : StackTable) (a b : StackId) : Decidable (t.Same a b) :=
  inferInstanceAs (Decidable (t.find a = t.find b))

/-- Representatives, records and slots below are all in the table. -/
structure Closed (t : StackTable) : Prop where
  representatives : ∀ r ∈ t.representatives, t.Has r
  slots : t.slots.size = t.size
  inner : ∀ s ∈ t.slots, ∀ i ∈ s.inner, t.Has i

variable {t t' : StackTable} {a b m n : StackId} {s : Slot}

theorem same_iff : t.same a b = true ↔ t.Same a b := beq_iff_eq

theorem equivalence_same (t : StackTable) : Equivalence t.Same where
  refl _ := rfl
  symm h := h.symm
  trans h h' := h.trans h'

theorem Same.slot_eq (h : t.Same a b) : t.slot a = t.slot b := by rw [slot, slot, h]

/-! ## Places in the table -/

theorem find_mem (hn : t.Has n) : t.find n ∈ t.representatives := by
  have hn' : n.index < t.representatives.size := hn
  simp [find, Array.getD, hn']

theorem find_of_not_has (hn : ¬ t.Has n) : t.find n = n := by
  have hn' : ¬ n.index < t.representatives.size := hn
  simp [find, Array.getD, hn']

theorem Closed.has_find (h : t.Closed) (hn : t.Has n) : t.Has (t.find n) :=
  h.representatives _ (find_mem hn)

theorem Closed.find_lt (h : t.Closed) (hn : t.Has n) : (t.find n).index < t.slots.size := by
  rw [h.slots]
  exact h.has_find hn

theorem Closed.slot_mem (h : t.Closed) (hn : t.Has n) : t.slot n ∈ t.slots := by
  simp [slot, Array.getD, h.find_lt hn]

theorem Closed.has_inner (h : t.Closed) (hn : t.Has n) {i : StackId}
    (hi : (t.slot n).inner = some i) : t.Has i :=
  h.inner _ (h.slot_mem hn) i hi

/-! ## A new node -/

theorem has_push : (t.push s).Has n ↔ t.Has n ∨ n = ⟨t.size⟩ := by
  obtain ⟨i⟩ := n
  have hsize : (t.push s).size = t.size + 1 := Array.size_push _
  simp only [Has, hsize, StackId.mk.injEq]
  omega

theorem has_push_old (hn : t.Has n) : (t.push s).Has n := has_push.mpr (.inl hn)

theorem find_push (hn : t.Has n) : (t.push s).find n = t.find n := by
  have hn' : n.index < t.representatives.size := hn
  simp [find, push, Array.getD_eq_getD_getElem?, Array.getElem?_push, Nat.ne_of_lt hn']

theorem find_push_self : (t.push s).find ⟨t.size⟩ = ⟨t.size⟩ := by
  simp [find, push, size, Array.getD_eq_getD_getElem?]

/-- A new node is in a group of its own. -/
theorem Closed.same_push (h : t.Closed) (ha : (t.push s).Has a) (hb : (t.push s).Has b) :
    (t.push s).Same a b ↔ a = b ∨ t.Has a ∧ t.Has b ∧ t.Same a b := by
  have hnew : ∀ {n : StackId}, t.Has n → t.find n ≠ ⟨t.size⟩ := by
    intro n hn heq
    have hfind := h.has_find hn
    rw [heq] at hfind
    exact Nat.lt_irrefl _ hfind
  have hout : ¬ t.Has ⟨t.size⟩ := Nat.lt_irrefl _
  unfold Same
  obtain ha | rfl := has_push.mp ha <;> obtain hb | rfl := has_push.mp hb
  · rw [find_push ha, find_push hb]
    constructor
    · exact fun heq => .inr ⟨ha, hb, heq⟩
    · rintro (rfl | ⟨-, -, heq⟩)
      · rfl
      · exact heq
  · rw [find_push ha, find_push_self]
    simp only [hnew ha, hout, false_and, and_false, or_false, false_iff]
    rintro rfl
    exact hout ha
  · rw [find_push hb, find_push_self]
    simp only [(hnew hb).symm, hout, false_and, or_false, false_iff]
    rintro rfl
    exact hout hb
  · simp

theorem Closed.slot_push (h : t.Closed) (hn : t.Has n) : (t.push s).slot n = t.slot n := by
  rw [slot, find_push hn, slot]
  simp [push, Array.getD_eq_getD_getElem?, Array.getElem?_push, Nat.ne_of_lt (h.find_lt hn)]

theorem Closed.slot_push_self (h : t.Closed) : (t.push s).slot ⟨t.size⟩ = s := by
  rw [slot, find_push_self]
  simp [push, Array.getD_eq_getD_getElem?, ← h.slots]

theorem Closed.push (h : t.Closed) (hs : ∀ i ∈ s.inner, t.Has i) : (t.push s).Closed where
  representatives r hr := by
    obtain hr | rfl := Array.mem_push.mp hr
    · exact has_push.mpr (.inl (h.representatives r hr))
    · exact has_push.mpr (.inr rfl)
  slots := by
    have hsize : (t.push s).size = t.size + 1 := Array.size_push _
    rw [hsize, ← h.slots]
    exact Array.size_push _
  inner s' hs' i hi := by
    refine has_push.mpr (.inl ?_)
    obtain hs' | rfl := Array.mem_push.mp hs'
    · exact h.inner s' hs' i hi
    · exact hs i hi

/-! ## A new record -/

theorem slot_update (h : t.Closed) (hn : t.Has n) :
    (t.update n s).slot m = if t.find m = t.find n then s else t.slot m := by
  have hset : (t.update n s).slot m =
      (t.slots.setIfInBounds (t.find n).index s).getD (t.find m).index default := rfl
  have hindex : (t.find n).index = (t.find m).index ↔ t.find m = t.find n :=
    ⟨fun heq => congrArg StackId.mk heq.symm, fun heq => by rw [heq]⟩
  rw [hset, Array.getD_eq_getD_getElem?, Array.getElem?_setIfInBounds]
  by_cases heq : t.find m = t.find n
  · simp [hindex.mpr heq, heq, heq ▸ h.find_lt hn]
  · rw [if_neg (fun hidx => heq (hindex.mp hidx)), if_neg heq, slot, Array.getD_eq_getD_getElem?]

/-- A change of its record that a node gets, all nodes of its group get. -/
theorem slot_change (h : t.Closed) (hn : t.Has n) (f : Slot → Slot) :
    (t.update n (f (t.slot n))).slot m = if t.find m = t.find n then f (t.slot m) else t.slot m := by
  rw [slot_update h hn]
  split
  · rename_i hm
    rw [Same.slot_eq (t := t) (a := m) (b := n) hm]
  · rfl

theorem Closed.update (h : t.Closed) (hs : ∀ i ∈ s.inner, t.Has i) : (t.update n s).Closed where
  representatives := h.representatives
  slots := (slots_size_update n s).trans h.slots
  inner s' hs' i hi := by
    obtain hs' | rfl := mem_slots_update hs'
    · exact h.inner s' hs' i hi
    · exact hs i hi

/-! ## Two groups that become one -/

/-- The nodes of the second group go over to the first representative, whatever the node. -/
theorem Closed.find_merge (h : t.Closed) (hb : t.Has b) (n : StackId) :
    (t.merge a b).find n = if t.find n = t.find b then t.find a else t.find n := by
  by_cases hn : t.Has n
  · exact StackTable.find_merge hn
  · have hn' : ¬ (t.merge a b).Has n := by rwa [Has, size_merge]
    rw [find_of_not_has hn, find_of_not_has hn', if_neg]
    rintro rfl
    exact hn (h.has_find hb)

theorem Closed.same_merge (h : t.Closed) (hb : t.Has b) (hne : ¬ t.Same a b) :
    (t.merge a b).Same m n ↔
      t.Same m n ∨ t.Same m a ∧ t.Same n b ∨ t.Same m b ∧ t.Same n a := by
  unfold Same at *
  rw [h.find_merge hb, h.find_merge hb]
  split <;> split <;> grind

/-- The nodes of both groups have the combined record. -/
theorem Closed.slot_merge (h : t.Closed) (ha : t.Has a) (hb : t.Has b) (hne : ¬ t.Same a b) :
    (t.merge a b).slot n =
      if t.Same n a ∨ t.Same n b then (t.slot a).combine (t.slot b) else t.slot n := by
  have hslots : (t.merge a b).slots =
      t.slots.setIfInBounds (t.find a).index ((t.slot a).combine (t.slot b)) := by
    rw [StackTable.merge, if_neg (mt same_iff.mp hne)]
  have hread : ∀ r : StackId, (t.slots.setIfInBounds (t.find a).index
      ((t.slot a).combine (t.slot b))).getD r.index default =
        if r = t.find a then (t.slot a).combine (t.slot b) else t.slots.getD r.index default := by
    intro r
    rw [Array.getD_eq_getD_getElem?, Array.getElem?_setIfInBounds, Array.getD_eq_getD_getElem?]
    by_cases hr : r = t.find a
    · simp [hr, h.find_lt ha]
    · rw [if_neg fun hindex => hr (congrArg StackId.mk hindex.symm), if_neg hr]
  rw [slot, hslots, h.find_merge hb, hread]
  by_cases hnb : t.find n = t.find b
  · rw [if_pos hnb, if_pos rfl, if_pos (.inr hnb)]
  · rw [if_neg hnb]
    by_cases hna : t.find n = t.find a
    · rw [if_pos hna, if_pos (.inl hna)]
    · have hneither : ¬ (t.Same n a ∨ t.Same n b) := not_or.mpr ⟨hna, hnb⟩
      rw [if_neg hna, if_neg hneither, slot]

/-- A node is in the joined group, in the first half or in the second one, or the merge does not touch
its record. -/
theorem Closed.merge_cases (h : t.Closed) (ha : t.Has a) (hb : t.Has b) (hne : ¬ t.Same a b)
    (n : StackId) :
    (t.Same n a ∨ t.Same n b) ∧ (t.slot n = t.slot a ∨ t.slot n = t.slot b) ∧
        (t.merge a b).slot n = (t.slot a).combine (t.slot b) ∨
      ¬ (t.Same n a ∨ t.Same n b) ∧ (t.merge a b).slot n = t.slot n := by
  rw [h.slot_merge ha hb hne]
  by_cases hn : t.Same n a ∨ t.Same n b
  · rw [if_pos hn]
    exact .inl ⟨hn, hn.imp Same.slot_eq Same.slot_eq, rfl⟩
  · rw [if_neg hn]
    exact .inr ⟨hn, rfl⟩

/-- The joined group has the nodes of both halves. -/
theorem Closed.same_merge_joined (h : t.Closed) (hb : t.Has b) (hne : ¬ t.Same a b)
    (hn : t.Same n a ∨ t.Same n b) : (t.merge a b).Same n m ↔ t.Same a m ∨ t.Same b m := by
  rw [h.same_merge hb hne]
  unfold Same at *
  grind

/-- The other groups stay as they are. -/
theorem Closed.same_merge_apart (h : t.Closed) (hb : t.Has b) (hne : ¬ t.Same a b)
    (hn : ¬ (t.Same n a ∨ t.Same n b)) : (t.merge a b).Same n m ↔ t.Same n m := by
  rw [h.same_merge hb hne]
  unfold Same at *
  grind

theorem Closed.merge (h : t.Closed) (ha : t.Has a) (hb : t.Has b) : (t.merge a b).Closed := by
  have hsize : (t.merge a b).size = t.size := size_merge a b
  refine ⟨fun r hr => ?_, by rw [slots_size_merge, hsize, h.slots], fun s hs i hi => ?_⟩
  · rw [Has, hsize]
    obtain hr | rfl := mem_representatives_merge hr
    · exact h.representatives r hr
    · exact h.has_find ha
  · rw [Has, hsize]
    obtain hs | rfl := mem_slots_merge hs
    · exact h.inner s hs i hi
    · rcases Slot.inner_combine hi with hj | ⟨-, hj⟩
      · exact h.has_inner ha hj
      · exact h.has_inner hb hj

/-! ## The descent -/

/-- The representatives that are in use. -/
def groups (t : StackTable) : Finset StackId := t.representatives.toList.toFinset

theorem mem_groups {r : StackId} : r ∈ t.groups ↔ r ∈ t.representatives := by
  rw [groups, List.mem_toFinset, Array.mem_toList_iff]

theorem card_groups_le (t : StackTable) : t.groups.card ≤ t.size :=
  (List.toFinset_card_le _).trans (Nat.le_of_eq Array.length_toList)

/-- A merge leaves one representative fewer, because the second one goes out of use. -/
theorem groups_merge_lt (ha : t.Has a) (hb : t.Has b) (hne : ¬ t.Same a b) :
    (t.merge a b).groups.card < t.groups.card := by
  refine Finset.card_lt_card (Finset.ssubset_iff_of_subset ?_ |>.mpr
    ⟨t.find b, mem_groups.mpr (find_mem hb), fun hmem => ?_⟩)
  · intro r hr
    obtain hr | rfl := mem_representatives_merge (mem_groups.mp hr)
    · exact mem_groups.mpr hr
    · exact mem_groups.mpr (find_mem ha)
  · have hmem := mem_groups.mp hmem
    rw [StackTable.merge, if_neg (mt same_iff.mp hne)] at hmem
    obtain ⟨r, -, hr⟩ := Array.mem_map.mp hmem
    split at hr
    · exact hne hr
    · exact absurd hr ‹_›

/-- Merging the groups of two nodes and, pair by pair, those below them.  The types of two groups
that become one are related. -/
inductive Unites (R : SetId → SetId → Prop) : StackTable → StackId → StackId → StackTable → Prop
  | already {t : StackTable} {a b : StackId} (h : t.Same a b) : Unites R t a b t
  | last {t : StackTable} {a b : StackId} (hne : ¬ t.Same a b)
      (htypes : R (t.slot a).types (t.slot b).types)
      (hends : ∀ i j, (t.slot a).inner = some i → (t.slot b).inner ≠ some j) :
      Unites R t a b (t.merge a b)
  | next {t t' : StackTable} {a b i j : StackId} (hne : ¬ t.Same a b)
      (htypes : R (t.slot a).types (t.slot b).types) (hi : (t.slot a).inner = some i)
      (hj : (t.slot b).inner = some j) (hrest : Unites R (t.merge a b) i j t') : Unites R t a b t'

end StackTable

end FlowTypes
