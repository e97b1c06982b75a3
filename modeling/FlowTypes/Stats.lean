/-!
# Statistics

What a compartment counts while it works, and how large the sets of pushed values came out.
-/

namespace FlowTypes

/-- Counts of what a compartment did. -/
structure Stats where
  /-- How many scripts were handed out for recompilation. -/
  recompilations : Nat := 0
  /-- How many sets of pushed values have none, one, two and three types. -/
  typeCounts : List Nat := [0, 0, 0, 0]
  /-- How many sets of pushed values have more types, or stand for all of them. -/
  typeCountOver : Nat := 0
  /-- The deepest nesting of solver passes. -/
  maxSolverDepth : Nat := 0
  /-- How many solver passes were given up because of a failure. -/
  failures : Nat := 0
  deriving DecidableEq, Repr, Inhabited

/-- Sets of pushed values are counted by their size below this number of types. -/
def Stats.typeCountLimit : Nat := 4

/-- The statistics with the sets of pushed values counted by their sizes; a set that stands for
every type has none. -/
def Stats.countSizes (s : Stats) (sizes : List (Option Nat)) : Stats :=
  { s with
    typeCounts := (List.range typeCountLimit).map fun n => sizes.count (some n)
    typeCountOver := sizes.countP fun size => size.all (typeCountLimit ≤ ·) }

end FlowTypes
