import FlowTypes.Flags
import FlowTypes.Handle

/-!
# Types and value tags

A type is one of the primitive kinds, a particular type object, or the unknown type, which stands
for any type at all.

## Main results

A primitive name is read back as its type (`Ty.ofName?_name`), and a word of flags has a tag
exactly when it is the flag of that tag alone (`Tag.ofFlags?_eq_some_iff`).
-/

namespace FlowTypes

/-- A single concrete type. -/
inductive Ty
  | undefined
  | null
  | boolean
  | int32
  | double
  | string
  /-- Any type at all. -/
  | unknown
  | object (id : ObjectId)
  deriving DecidableEq, Repr, Inhabited

namespace Ty

/-- The types that are neither unknown nor objects. -/
def isPrimitive : Ty → Bool
  | unknown | object _ => false
  | _ => true

def object? : Ty → Option ObjectId
  | object id => some id
  | _ => none

def isObject (t : Ty) : Bool := t.object?.isSome

/-- The flag that records this type in a type set. -/
def flag : Ty → Flags
  | undefined => .undefined
  | null => .null
  | boolean => .boolean
  | int32 => .int32
  | double => .double
  | string => .string
  | unknown => .unknown
  | object _ => .object

/-- The name of a type that is no object. -/
def name? : Ty → Option String
  | undefined => some "undefined"
  | null => some "null"
  | boolean => some "boolean"
  | int32 => some "int32"
  | double => some "double"
  | string => some "string"
  | unknown => some "unknown"
  | object _ => none

/-- Every type that is no object. -/
def named : List Ty := [undefined, null, boolean, int32, double, string, unknown]

/-- The type of that name, which is no object. -/
def ofName? (name : String) : Option Ty := named.find? (·.name? == some name)

/-- A primitive name is read back as its type. -/
theorem ofName?_name {t : Ty} {name : String} (h : t.name? = some name) : ofName? name = some t := by
  cases t <;> simp only [name?, Option.some.injEq, reduceCtorEq] at h <;> subst h <;> decide

end Ty

/-- The tag that every value of a type set may be known to have. -/
inductive Tag
  | undefined
  | null
  | boolean
  | int32
  | double
  | string
  | object
  deriving DecidableEq, Repr, Inhabited

namespace Tag

def flag : Tag → Flags
  | undefined => .undefined
  | null => .null
  | boolean => .boolean
  | int32 => .int32
  | double => .double
  | string => .string
  | object => .object

def name : Tag → String
  | undefined => "undefined"
  | null => "null"
  | boolean => "boolean"
  | int32 => "int32"
  | double => "double"
  | string => "string"
  | object => "object"

def all : List Tag := [undefined, null, boolean, int32, double, string, object]

def ofName? (name : String) : Option Tag := all.find? (·.name == name)

/-- The one tag that a word of flags describes, if there is a single one. -/
def ofFlags? (flags : Flags) : Option Tag := all.find? (·.flag == flags)

/-- A word of flags describes a tag exactly when it is the flag of that tag. -/
theorem ofFlags?_eq_some_iff {flags : Flags} {tag : Tag} :
    ofFlags? flags = some tag ↔ flags = tag.flag := by
  constructor
  · intro h
    have found : tag.flag = flags := by simpa using List.find?_some h
    exact found.symm
  · rintro rfl
    cases tag <;> decide

end Tag

end FlowTypes
