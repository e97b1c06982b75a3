import FlowTypes.Constraint
import FlowTypes.TypeSet

/-!
# Results of arithmetic

What an operation yields when a type joins one operand while the other operand holds the types of a
set.  Types that the other operand gains later are seen when they join it, so each pair of types is
looked at once, from the side that comes last.
-/

namespace FlowTypes.Arith

/-- The result of an operation with one operand. -/
def unary : Ty → Ty
  | .null | .boolean | .int32 => .int32
  | .unknown => .unknown
  | _ => .double

/-- The kinds of the other operand that make the sum or the result of another operation with an
integer a double. -/
def doubleWithInt : ArithOp → Flags
  | .add => Flags.undefined ||| Flags.double
  | .numeric => Flags.undefined ||| Flags.double ||| Flags.string ||| Flags.object

/-- The results of an operation when a type joins one operand, in the order they are reported. -/
def binary (op : ArithOp) (t : Ty) (other : TypeSet) : List Ty :=
  match op, t with
  | .add, .string => [.string]
  | .add, .object _ => [.unknown]
  | _, .unknown => [.unknown]
  | op, .null | op, .boolean | op, .int32 =>
    (if other.hasAnyFlag .intLike then [.int32] else []) ++
      (if other.hasAnyFlag (doubleWithInt op) then [.double] else [])
  | .add, _ => if other.hasAnyFlag .numberLike then [.double] else []
  | .numeric, _ => if other.isEmpty then [] else [.double]

/-- The results of an operation with one or two operands. -/
def results (op : ArithOp) (t : Ty) : Option TypeSet → List Ty
  | none => [unary t]
  | some other => binary op t other

end FlowTypes.Arith
