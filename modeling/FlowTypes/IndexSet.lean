/-!
# Sets of table places

A set of places in a table, as a word with one bit for each place, so that looking a place up does
not walk over the others.

## Main results

Only the place that was added is new (`contains_insert`), and a place that is there already changes
nothing (`insert_of_contains`).  The size of a set is the number of its places (`size_eq_length`).
-/

namespace FlowTypes

/-- A set of places, each of which is a bit of the word. -/
structure IndexSet where
  bits : Nat := 0
  deriving DecidableEq, Repr, Inhabited

namespace IndexSet

/-- The set with no places. -/
def empty : IndexSet := {}

def contains (s : IndexSet) (n : Nat) : Bool := s.bits.testBit n

/-- How many places the set has. -/
def size (s : IndexSet) : Nat := (List.range (s.bits.log2 + 1)).countP s.contains

/-- The set with one more place. -/
def insert (s : IndexSet) (n : Nat) : IndexSet := ⟨s.bits ||| 1 <<< n⟩

@[simp] theorem contains_empty (n : Nat) : empty.contains n = false := by
  simp [contains, empty]

@[simp] theorem contains_insert (s : IndexSet) (m n : Nat) :
    (s.insert m).contains n = (s.contains n || n == m) := by
  rw [contains, insert, Nat.testBit_or, Nat.one_shiftLeft, Nat.testBit_two_pow, contains]
  by_cases h : m = n
  · simp [h]
  · simp [h, Ne.symm h]

/-- Two sets with the same places are the same set. -/
theorem ext_contains {s t : IndexSet} (h : ∀ n, s.contains n = t.contains n) : s = t := by
  cases s
  cases t
  exact congrArg IndexSet.mk (Nat.eq_of_testBit_eq h)

theorem insert_of_contains {s : IndexSet} {n : Nat} (h : s.contains n = true) :
    s.insert n = s := by
  refine ext_contains fun m => ?_
  rw [contains_insert]
  by_cases hm : m = n
  · simp [hm, h]
  · simp [hm]

/-- The size of a set is the number of its places, listed without repetition. -/
theorem size_eq_length {s : IndexSet} {places : List Nat} (hnodup : places.Nodup)
    (hplaces : ∀ n, s.contains n = true ↔ n ∈ places) : s.size = places.length := by
  rw [size, List.countP_eq_length_filter]
  refine ((List.perm_ext_iff_of_nodup (List.nodup_range.filter _) hnodup).mpr fun n => ?_).length_eq
  rw [List.mem_filter, hplaces, and_iff_right_iff_imp, List.mem_range, ← hplaces]
  -- A bit that is set is not above the highest one.
  intro h
  have hle : 2 ^ n ≤ s.bits := Nat.ge_two_pow_of_testBit h
  have hne : s.bits ≠ 0 := Nat.ne_of_gt (Nat.lt_of_lt_of_le (Nat.two_pow_pos n) hle)
  exact Nat.lt_succ_of_le ((Nat.le_log2 hne).mpr hle)

end IndexSet

end FlowTypes
