/-!
# Failures of a request

Why a request to a compartment failed.  What the request did before it failed stays done.
-/

namespace FlowTypes

/-- Why a request failed. -/
inductive InferError
  /-- There is no room for what a table would have to hold. -/
  | outOfMemory (what : String)
  /-- A function was asked for, and the object of that name is none. -/
  | notAFunction (name : String)
  /-- An object that is no function was asked for, and the object of that name is one. -/
  | unexpectedFunction (name : String)
  /-- The prototype of an object can be set only once. -/
  | prototypeAlreadySet (name : String)
  /-- An object would be on its own chain of prototypes. -/
  | prototypeCycle (name proto : String)
  deriving DecidableEq, Repr, Inhabited

def InferError.message : InferError → String
  | outOfMemory what => "out of memory while growing the " ++ what
  | notAFunction name => "type object `" ++ name ++ "` is not a function"
  | unexpectedFunction name => "type object `" ++ name ++ "` is a function"
  | prototypeAlreadySet name => "the prototype of `" ++ name ++ "` has already been set"
  | prototypeCycle name proto =>
    "making `" ++ proto ++ "` the prototype of `" ++ name ++ "` would create a prototype cycle"

end FlowTypes
