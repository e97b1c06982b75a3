/-!
# Type flags

One bit for each coarse kind of type.  A word of flags that comes from outside may have further
bits set; they are kept and have no meaning.
-/

namespace FlowTypes

/-- A word of type flags. -/
structure Flags where
  bits : UInt32
  deriving DecidableEq, Repr, Inhabited

namespace Flags

def none : Flags := ⟨0⟩
def undefined : Flags := ⟨0x2⟩
def null : Flags := ⟨0x4⟩
def boolean : Flags := ⟨0x8⟩
def int32 : Flags := ⟨0x10⟩
def double : Flags := ⟨0x20⟩
def string : Flags := ⟨0x40⟩
def unknown : Flags := ⟨0x80⟩
def object : Flags := ⟨0x1000⟩

/-- The flags of both words. -/
def union (a b : Flags) : Flags := ⟨a.bits ||| b.bits⟩

instance : OrOp Flags := ⟨union⟩

/-- The flags of the first word that the second one lacks. -/
def without (a b : Flags) : Flags := ⟨a.bits &&& ~~~b.bits⟩

/-- The first word has every flag of the second one. -/
def contains (a b : Flags) : Bool := a.bits &&& b.bits == b.bits

/-- The two words have a flag in common. -/
def intersects (a b : Flags) : Bool := a.bits &&& b.bits != 0

def isEmpty (a : Flags) : Bool := a.bits == 0

/-- How many bits are set. -/
def count (a : Flags) : Nat :=
  (List.range 32).countP fun i => a.bits.toNat.testBit i

/-- The kinds of values that convert to an integer without leaving the range of `int32`. -/
def intLike : Flags := null ||| boolean ||| int32

/-- The kinds of primitive values that take part in numeric addition. -/
def numberLike : Flags := intLike ||| undefined ||| double

end Flags

end FlowTypes
