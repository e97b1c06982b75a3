/-!
# Builtin objects

The singleton type objects that the engine refers to.  A compartment holds at most one of each and
makes it on first request; what is made depends on its category.

## Main results

The builtins differ in their names (`ofName?_name`), and the prototypes of a builtin are found in
at most two steps: `lineage` ends at `objectPrototype` (`getLast?_lineage`).
-/

namespace FlowTypes

/-- A singleton type object of the engine. -/
inductive Builtin
  | object
  | function
  | array
  | functionPrototype
  | emptyFunction
  | objectPrototype
  | arrayPrototype
  | newBoolean
  | newNumber
  | newString
  | newRegExp
  | newIterator
  | newGenerator
  | newArrayBuffer
  | xml
  | arguments
  | noSuchMethod
  | noSuchMethodArguments
  | propertyDescriptor
  | keyValuePair
  | json
  | proxy
  | regExpMatchArray
  | stringSplitArray
  | unknownArray
  | cloneArray
  | propertyArray
  | reflectArray
  | unknownObject
  | cloneObject
  | reflectObject
  | xmlSettings
  /-- Stands in for the properties with a scripted getter or setter. -/
  | getSet
  | regExpStatics
  | callObject
  | declEnv
  | sharpArray
  | withScope
  | block
  | nullClosure
  | propertyIterator
  | scriptObject
  deriving DecidableEq, Repr, Inhabited

/-- What a builtin is, which decides its prototype and how it is set up. -/
inductive Builtin.Category
  | function
  | prototype
  /-- An object whose properties are never tracked. -/
  | untracked
  | array
  | plain
  | internal
  deriving DecidableEq, Repr, Inhabited

namespace Builtin

/-- The name of the type object. -/
def name : Builtin → String
  | object => "Object"
  | function => "Function"
  | array => "Array"
  | functionPrototype => "Function.prototype"
  | emptyFunction => "EmptyFunction"
  | objectPrototype => "Object.prototype"
  | arrayPrototype => "Array.prototype"
  | newBoolean => "new Boolean"
  | newNumber => "new Number"
  | newString => "new String"
  | newRegExp => "new RegExp"
  | newIterator => "new Iterator"
  | newGenerator => "new Generator"
  | newArrayBuffer => "new ArrayBuffer"
  | xml => "XML"
  | arguments => "Arguments"
  | noSuchMethod => "NoSuchMethod"
  | noSuchMethodArguments => "NoSuchMethodArguments"
  | propertyDescriptor => "PropertyDescriptor"
  | keyValuePair => "KeyValuePair"
  | json => "JSON"
  | proxy => "Proxy"
  | regExpMatchArray => "RegExpMatchArray"
  | stringSplitArray => "StringSplitArray"
  | unknownArray => "UnknownArray"
  | cloneArray => "CloneArray"
  | propertyArray => "PropertyArray"
  | reflectArray => "ReflectArray"
  | unknownObject => "UnknownObject"
  | cloneObject => "CloneObject"
  | reflectObject => "ReflectObject"
  | xmlSettings => "XMLSettings"
  | getSet => "GetSet"
  | regExpStatics => "RegExpStatics"
  | callObject => "Call"
  | declEnv => "DeclEnv"
  | sharpArray => "SharpArray"
  | withScope => "With"
  | block => "Block"
  | nullClosure => "NullClosure"
  | propertyIterator => "PropertyIterator"
  | scriptObject => "Script"

/-- Every builtin, in the order of their numbers. -/
def all : List Builtin :=
  [object, function, array, functionPrototype, emptyFunction, objectPrototype, arrayPrototype,
   newBoolean, newNumber, newString, newRegExp, newIterator, newGenerator, newArrayBuffer, xml,
   arguments, noSuchMethod, noSuchMethodArguments, propertyDescriptor, keyValuePair, json, proxy,
   regExpMatchArray, stringSplitArray, unknownArray, cloneArray, propertyArray, reflectArray,
   unknownObject, cloneObject, reflectObject, xmlSettings, getSet, regExpStatics, callObject,
   declEnv, sharpArray, withScope, block, nullClosure, propertyIterator, scriptObject]

/-- The number of a builtin. -/
def number (b : Builtin) : Nat := all.idxOf b

def ofName? (name : String) : Option Builtin := all.find? (·.name == name)

def category : Builtin → Category
  | object | function | array | functionPrototype | emptyFunction => .function
  | objectPrototype | arrayPrototype | newBoolean | newNumber | newString | newRegExp |
    newIterator | newGenerator | newArrayBuffer => .prototype
  | xml | arguments | noSuchMethod | noSuchMethodArguments | propertyDescriptor | keyValuePair |
    json | proxy => .untracked
  | regExpMatchArray | stringSplitArray | unknownArray | cloneArray | propertyArray |
    reflectArray => .array
  | unknownObject | cloneObject | reflectObject | xmlSettings => .plain
  | getSet | regExpStatics | callObject | declEnv | sharpArray | withScope | block | nullClosure |
    propertyIterator | scriptObject => .internal

def isFunction (b : Builtin) : Bool := b.category == .function

/-- The properties of this builtin are never tracked. -/
def isUntracked (b : Builtin) : Bool := b.category == .untracked

def isArray (b : Builtin) : Bool := b.category == .array

/-- The builtin that is the prototype of this one. -/
def prototype? : Builtin → Option Builtin
  | objectPrototype => none
  | functionPrototype | arrayPrototype => some objectPrototype
  | b => match b.category with
    | .function => some functionPrototype
    | .array => some arrayPrototype
    | _ => some objectPrototype

/-- The prototypes of a builtin, nearest first. -/
def lineage (b : Builtin) : List Builtin :=
  match b.prototype? with
  | none => []
  | some p => p :: p.prototype?.toList

theorem mem_all (b : Builtin) : b ∈ all := by cases b <;> decide

theorem length_all : all.length = 42 := rfl

/-- A builtin is found by its name. -/
theorem ofName?_name (b : Builtin) : ofName? b.name = some b := by cases b <;> decide

/-- The lineage lists the prototype first, and then the prototype's lineage. -/
theorem lineage_of_prototype {b p : Builtin} (h : b.prototype? = some p) :
    b.lineage = p :: p.lineage := by
  cases b <;> simp only [prototype?, category, Option.some.injEq, reduceCtorEq] at h <;>
    subst h <;> rfl

theorem lineage_of_no_prototype {b : Builtin} (h : b.prototype? = none) : b.lineage = [] := by
  simp [lineage, h]

theorem getLast?_lineage {b : Builtin} (h : b ≠ objectPrototype) :
    b.lineage.getLast? = some objectPrototype := by
  cases b <;> first | rfl | exact absurd rfl h

end Builtin

end FlowTypes
