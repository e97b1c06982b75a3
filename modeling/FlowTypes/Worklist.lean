import FlowTypes.Event

/-!
# Worklists

The types that constraints have to hear of, and whether a solver pass is delivering them.  What
comes in first goes out first: types come in at the head of one list and go out at the head of
another, and the first is turned round into the second when that has run out, so that each type is
moved at most once on its way.

## Main results

`pending` is the order in which the types go out; types that come in go to its end
(`pending_enqueue`), and its head goes out next (`pending_of_next?`).
-/

namespace FlowTypes

/-- The types that constraints have to hear of, and whether a solver pass is running. -/
structure Worklist where
  /-- The types that go out first, oldest first. -/
  front : List Work := []
  /-- The types that came in last, newest first. -/
  back : List Work := []
  /-- A pass is delivering the pending types. -/
  resolving : Bool := false
  /-- How many requests for a pass have not returned. -/
  depth : Nat := 0
  maxDepth : Nat := 0
  deriving DecidableEq, Repr, Inhabited

namespace Worklist

/-- What constraints have to hear of, oldest first. -/
def pending (w : Worklist) : List Work := w.front ++ w.back.reverse

/-- The number of pending types. -/
def size (w : Worklist) : Nat := w.front.length + w.back.length

/-- Types come in. -/
def enqueue (w : Worklist) (works : List Work) : Worklist :=
  { w with back := works.reverse ++ w.back }

/-- The type that goes out next, and the worklist without it. -/
def next? (w : Worklist) : Option (Work × Worklist) :=
  match w.front with
  | work :: rest => some (work, { w with front := rest })
  | [] =>
    match w.back.reverse with
    | work :: rest => some (work, { w with front := rest, back := [] })
    | [] => none

/-- The worklist without pending types. -/
def clear (w : Worklist) : Worklist := { w with front := [], back := [] }

/-! ## Passes -/

/-- A request for a pass begins. -/
def enter (w : Worklist) : Worklist :=
  { w with depth := w.depth + 1, maxDepth := max w.maxDepth (w.depth + 1) }

/-- A request for a pass returns. -/
def leave (w : Worklist) : Worklist := { w with depth := w.depth - 1 }

/-- A pass begins to deliver. -/
def start (w : Worklist) : Worklist := { w with resolving := true }

/-- A pass has ended. -/
def stop (w : Worklist) : Worklist := { w with resolving := false }

/-! ## Laws -/

@[simp] theorem length_pending (w : Worklist) : w.pending.length = w.size := by
  simp [pending, size]

/-- Types that come in go behind all others. -/
@[simp] theorem pending_enqueue (w : Worklist) (works : List Work) :
    (w.enqueue works).pending = w.pending ++ works := by
  simp [pending, enqueue]

@[simp] theorem pending_clear (w : Worklist) : w.clear.pending = [] := rfl

@[simp] theorem pending_enter (w : Worklist) : w.enter.pending = w.pending := rfl

@[simp] theorem pending_leave (w : Worklist) : w.leave.pending = w.pending := rfl

@[simp] theorem pending_start (w : Worklist) : w.start.pending = w.pending := rfl

@[simp] theorem pending_stop (w : Worklist) : w.stop.pending = w.pending := rfl

/-- The oldest pending type goes out, and the others stay in their order. -/
theorem pending_of_next? {w rest : Worklist} {work : Work} (h : w.next? = some (work, rest)) :
    w.pending = work :: rest.pending := by
  unfold next? at h
  split at h
  · rename_i hf
    simp only [Option.some.injEq, Prod.mk.injEq] at h
    obtain ⟨rfl, rfl⟩ := h
    simp [pending, hf]
  · rename_i hf
    split at h
    · rename_i hb
      simp only [Option.some.injEq, Prod.mk.injEq] at h
      obtain ⟨rfl, rfl⟩ := h
      simp [pending, hf, hb]
    · simp at h

/-- Nothing goes out exactly if nothing is pending. -/
theorem next?_eq_none_iff {w : Worklist} : w.next? = none ↔ w.pending = [] := by
  unfold next? pending
  split
  · rename_i hf
    simp [hf]
  · rename_i hf
    split
    · rename_i hb
      simp [hf, hb]
    · rename_i hb
      simp [hf, hb]

/-- Taking a type out leaves the counters of passes alone. -/
theorem resolving_of_next? {w rest : Worklist} {work : Work} (h : w.next? = some (work, rest)) :
    rest.resolving = w.resolving ∧ rest.depth = w.depth ∧ rest.maxDepth = w.maxDepth := by
  unfold next? at h
  split at h
  · simp only [Option.some.injEq, Prod.mk.injEq] at h
    obtain ⟨-, rfl⟩ := h
    exact ⟨rfl, rfl, rfl⟩
  · split at h
    · simp only [Option.some.injEq, Prod.mk.injEq] at h
      obtain ⟨-, rfl⟩ := h
      exact ⟨rfl, rfl, rfl⟩
    · simp at h

end Worklist

end FlowTypes
