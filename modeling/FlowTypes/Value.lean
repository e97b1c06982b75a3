import FlowTypes.Decimal.Shortest
import FlowTypes.Text.Quoted
import FlowTypes.Ty

/-!
# Values

The values that the host observes at run time, and the types they have.
-/

namespace FlowTypes

/-- A value observed at run time. -/
inductive Value
  | undefined
  | null
  | boolean (value : Bool)
  | int32 (value : Int)
  | double (value : Binary64)
  | string (value : String)
  /-- An object, known by its type object. -/
  | object (id : ObjectId)
  /-- A value of the host's own, such as a hole in an array, that has no type. -/
  | magic
  deriving DecidableEq, Repr, Inhabited

namespace Value

/-- The type of a value, if it has one. -/
def type? : Value → Option Ty
  | undefined => some .undefined
  | null => some .null
  | boolean _ => some .boolean
  | int32 _ => some .int32
  | double _ => some .double
  | string _ => some .string
  | object id => some (.object id)
  | magic => none

/-- Doubles from `0.0001` up to `10¹⁶` are written with all their places. -/
def doubleLayout : Decimal.Layout := ⟨-3, 16⟩

/-- The text of a value that is no object. -/
def text? : Value → Option String
  | undefined => some "undefined"
  | null => some "null"
  | boolean value => some (if value then "true" else "false")
  | int32 value => some (String.ofList (Decimal.signed value))
  | double value => some (String.ofList (value.text doubleLayout))
  | string value => some (String.ofList (Text.quoted value.toList))
  | object _ => none
  | magic => some "<magic>"

end Value

end FlowTypes
