/-!
# Kinds of objects

What is known about all objects of a set.  The kinds form a lattice, drawn with the most precise
kind at the top:

```text
                   none
      ___________ /  | \______________
     /               |                \
packedArray  scriptedFunction  nativeFunction
     |               |                 |
denseArray           |                 |
     \____________   |   _____________/
                  \  |  /
                  unknown
```

## Main results

`combine` is the meet of this lattice: it is commutative, associative and idempotent, with `none`
as its neutral element and `unknown` as its absorbing one.
-/

namespace FlowTypes

/-- A coarse kind of a set of objects. -/
inductive Kind
  | none
  | unknown
  | packedArray
  | denseArray
  | scriptedFunction
  | nativeFunction
  deriving DecidableEq, Repr, Inhabited

namespace Kind

def name : Kind → String
  | none => "none"
  | unknown => "unknown"
  | packedArray => "packed-array"
  | denseArray => "dense-array"
  | scriptedFunction => "scripted-function"
  | nativeFunction => "native-function"

def all : List Kind := [none, unknown, packedArray, denseArray, scriptedFunction, nativeFunction]

def ofName? (name : String) : Option Kind := all.find? (·.name == name)

/-- The meet of two kinds. -/
def combine : Kind → Kind → Kind
  | none, k => k
  | k, none => k
  | packedArray, packedArray => packedArray
  | denseArray, denseArray => denseArray
  | packedArray, denseArray => denseArray
  | denseArray, packedArray => denseArray
  | scriptedFunction, scriptedFunction => scriptedFunction
  | nativeFunction, nativeFunction => nativeFunction
  | _, _ => unknown

def isArray : Kind → Bool
  | packedArray | denseArray => true
  | _ => false

theorem combine_none (k : Kind) : combine k none = k := by cases k <;> rfl

theorem none_combine (k : Kind) : combine none k = k := by cases k <;> rfl

theorem combine_unknown (k : Kind) : combine k unknown = unknown := by cases k <;> rfl

theorem combine_self (k : Kind) : combine k k = k := by cases k <;> rfl

theorem combine_comm (a b : Kind) : combine a b = combine b a := by
  cases a <;> cases b <;> rfl

theorem combine_assoc (a b c : Kind) : combine (combine a b) c = combine a (combine b c) := by
  cases a <;> cases b <;> cases c <;> rfl

end Kind

end FlowTypes
