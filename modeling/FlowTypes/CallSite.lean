import FlowTypes.Ty

/-!
# Call sites

A call or a `new` expression in a script, with the type sets of its arguments and of its result.
-/

namespace FlowTypes

/-- A call, or a `new` expression. -/
structure CallSite where
  /-- Where the call is. -/
  code : Location
  /-- The call is a `new` expression. -/
  isNew : Bool := false
  /-- The types of each argument. -/
  arguments : List SetId := []
  /-- The types of the `this` value, if it is not known in advance. -/
  thisTypes : Option SetId := none
  /-- The type of the `this` value, if it is known in advance. -/
  thisType : Option Ty := none
  /-- Where the result goes, if it is used. -/
  result : Option SetId := none
  deriving DecidableEq, Repr, Inhabited

end FlowTypes
