import FlowTypes.Key
import FlowTypes.Ty

/-!
# Type objects

What is known about the objects that one place of a program creates: their properties, their
prototype, and how array-like they are.  Functions have a record of their own for what is passed in
and out of them.

## Main results

Adding a property puts it behind the others (`property?_add_self`, `property?_add_of_ne`).
-/

namespace FlowTypes

/-- A property of a type object. -/
structure Property where
  key : Key
  /-- The types of the property, also those inherited from prototypes. -/
  types : SetId
  /-- The types assigned to the object itself. -/
  ownTypes : SetId
  deriving DecidableEq, Repr, Inhabited

/-- What is known about a function. -/
structure FunctionInfo where
  /-- The types that the function returns. -/
  returns : SetId
  /-- The types of `this` within the function. -/
  thisTypes : SetId
  /-- The types of each declared parameter. -/
  parameters : List SetId := []
  /-- The script of the function, unless it is native. -/
  script : Option ScriptId := none
  /-- The host's handler that runs at each call. -/
  handler : Option String := none
  /-- The default object in the `prototype` property of the function. -/
  prototypeObject : Option ObjectId := none
  /-- The function is the constructor of a builtin class. -/
  isBuiltin : Bool := false
  /-- The function treats its first argument as it would treat its `this` value. -/
  isGeneric : Bool := false
  deriving DecidableEq, Repr, Inhabited

/-- The function has no script. -/
def FunctionInfo.isNative (f : FunctionInfo) : Bool := f.script.isNone

/-- A type object. -/
structure ObjectInfo where
  /-- No other object of the compartment has this name. -/
  name : String
  /-- The properties, in the order they were first asked for. -/
  properties : List Property := []
  /-- The prototype; once set it stays. -/
  proto : Option ObjectId := none
  /-- The objects that have this one as their prototype, oldest first. -/
  instances : List ObjectId := []
  /-- The object for what is constructed with this one as its prototype. -/
  newObject : Option ObjectId := none
  /-- Nothing is known about the properties. -/
  isUnknown : Bool := false
  /-- The object is an array without holes in the middle. -/
  isDense : Bool := false
  /-- The object is an array without any holes. -/
  isPacked : Bool := false
  /-- The object comes from an array initializer that may fill the array. -/
  isPossiblyPacked : Bool := false
  /-- Present for functions. -/
  function : Option FunctionInfo := none
  deriving DecidableEq, Repr, Inhabited

namespace ObjectInfo

def isFunction (o : ObjectInfo) : Bool := o.function.isSome

/-- The property with this key, if it has been asked for before. -/
def property? (o : ObjectInfo) (key : Key) : Option Property :=
  o.properties.find? (·.key == key)

/-- The object with one more property. -/
def addProperty (o : ObjectInfo) (p : Property) : ObjectInfo :=
  { o with properties := o.properties ++ [p] }

theorem property?_add_self {o : ObjectInfo} {p : Property} (h : o.property? p.key = none) :
    (o.addProperty p).property? p.key = some p := by
  simp only [property?, addProperty, List.find?_append] at *
  simp [h]

theorem property?_add_of_ne {o : ObjectInfo} {p : Property} {key : Key} (h : p.key ≠ key) :
    (o.addProperty p).property? key = o.property? key := by
  have : (p.key == key) = false := by simpa using h
  simp [property?, addProperty, List.find?_append, this]

end ObjectInfo

end FlowTypes
