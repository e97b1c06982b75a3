import FlowTypes.Handle

/-!
# Scripts

The type sets that belong to a script: one for each variable, and one for each value that its code
pushes on the stack.

## Main results

Both are tables that look a key up where it was put (`pushed?_addPushed`, `typesOf?_addVariable`).
-/

namespace FlowTypes

/-- A value pushed on the stack, by the offset of the code and the place on the stack. -/
structure Pushed where
  offset : Nat
  index : Nat
  types : SetId
  deriving DecidableEq, Repr, Inhabited

/-- The type sets of a script. -/
structure ScriptTypes where
  /-- The variables, in the order they were first asked for. -/
  named : List (String × SetId) := []
  /-- The pushed values, by offset and then by their place on the stack. -/
  pushed : List Pushed := []
  deriving DecidableEq, Repr, Inhabited

namespace ScriptTypes

def typesOf? (s : ScriptTypes) (name : String) : Option SetId :=
  (s.named.find? (·.1 == name)).map (·.2)

def addVariable (s : ScriptTypes) (name : String) (types : SetId) : ScriptTypes :=
  { s with named := s.named ++ [(name, types)] }

/-- The order of the places where values are pushed. -/
def pushedBefore (a b : Pushed) : Bool :=
  a.offset < b.offset || (a.offset == b.offset && a.index < b.index)

/-- Puts a pushed value in its place among the others. -/
def insertPushed (p : Pushed) : List Pushed → List Pushed
  | [] => [p]
  | q :: qs => if pushedBefore p q then p :: q :: qs else q :: insertPushed p qs

def pushed? (s : ScriptTypes) (offset index : Nat) : Option SetId :=
  (s.pushed.find? fun p => p.offset == offset && p.index == index).map (·.types)

def addPushed (s : ScriptTypes) (p : Pushed) : ScriptTypes :=
  { s with pushed := insertPushed p s.pushed }

theorem typesOf?_addVariable {s : ScriptTypes} {name : String} {types : SetId}
    (h : s.typesOf? name = none) : (s.addVariable name types).typesOf? name = some types := by
  simp only [typesOf?, addVariable, Option.map_eq_none_iff, List.find?_append] at *
  simp [h]

theorem find?_insertPushed {p : Pushed} {ps : List Pushed}
    (h : ps.find? (fun q => q.offset == p.offset && q.index == p.index) = none) :
    (insertPushed p ps).find? (fun q => q.offset == p.offset && q.index == p.index) = some p := by
  induction ps with
  | nil => simp [insertPushed]
  | cons q qs ih =>
    rw [List.find?_cons] at h
    rw [insertPushed]
    split
    · simp
    · rw [List.find?_cons]
      split at h
      · simp at h
      · exact ih h

theorem pushed?_addPushed {s : ScriptTypes} {p : Pushed} (h : s.pushed? p.offset p.index = none) :
    (s.addPushed p).pushed? p.offset p.index = some p.types := by
  simp only [pushed?, addPushed, Option.map_eq_none_iff] at *
  rw [find?_insertPushed h]
  rfl

end ScriptTypes

/-! ## The table of the scripts -/

/-- The scripts that have type sets, by their numbers. -/
abbrev ScriptTable := List (ScriptId × ScriptTypes)

namespace ScriptTable

def get? (t : ScriptTable) (id : ScriptId) : Option ScriptTypes :=
  (t.find? (·.1 == id)).map (·.2)

/-- Changes the record of a script, which is made first if there is none. -/
def alter (id : ScriptId) (f : ScriptTypes → ScriptTypes) : ScriptTable → ScriptTable
  | [] => [(id, f {})]
  | (i, s) :: t =>
    if i = id then (i, f s) :: t
    else if id.number < i.number then (id, f {}) :: (i, s) :: t
    else (i, s) :: alter id f t

end ScriptTable

end FlowTypes
