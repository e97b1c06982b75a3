import FlowTypes.Text.Numeral

/-!
# Property keys

A property is found by its name.  The elements of an array share one property: every name that is
the canonical spelling of an array index stands for it.  Array indexes are the numbers below
`2³² - 1`, and a canonical spelling has no sign and no leading zero.
-/

namespace FlowTypes

/-- What a property is found by. -/
inductive Key
  /-- The one property that stands for every element. -/
  | index
  | named (name : String)
  deriving DecidableEq, Repr, Inhabited

namespace Key

/-- The bound of the array indexes. -/
def indexBound : Nat := UInt32.size - 1

/-- The canonical spelling of an array index. -/
def isIndexName (name : String) : Bool :=
  match name.toList with
  | ['0'] => true
  | '0' :: _ => false
  | cs => ((Text.readDigits? cs).filter (· < indexBound)).isSome

/-- The key of a property name. -/
def ofName (name : String) : Key :=
  if isIndexName name then index else named name

def isIndex : Key → Bool
  | index => true
  | named _ => false

/-- The key is that name; the elements have no name. -/
def isNamed (target : String) : Key → Bool
  | index => false
  | named name => name == target

/-- The elements are shown as a pair of brackets. -/
def text : Key → String
  | index => "[]"
  | named name => name

end Key

end FlowTypes
