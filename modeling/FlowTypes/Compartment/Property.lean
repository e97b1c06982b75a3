import FlowTypes.Compartment.Propagation

/-!
# Properties

The properties of an object come into being when they are asked for.  A property has two sets: the
types assigned to the object itself, and those together with what is inherited from the prototypes.
A new property is made on every prototype up to the first one that has it, and each is wired to the
one above it, so that the sets of inherited types are right from then on.
-/

namespace FlowTypes

namespace Compartment

variable (pass : Action Unit)

/-- Of a chain of prototypes, those that lack a property, up to the first one that has it or whose
properties are unknown; and the set of types that comes from this one. -/
def lacking (c : Compartment) (key : Key) : List ObjectId → List ObjectId × Option SetId
  | [] => ([], none)
  | p :: ps =>
    if (c.object p).isUnknown then ([], some universal)
    else match (c.object p).property? key with
      | some q => ([], some q.types)
      | none =>
        let above := lacking c key ps
        (p :: above.1, above.2)

/-- Makes the two sets of a property. -/
def createProperty (id : ObjectId) (key : Key) : Action Property := do
  let types ← newSet
  let ownTypes ← newSet
  let p : Property := { key, types, ownTypes }
  modify fun c => (c.changeObject id (·.addProperty p)).record (.propertyCreated id p)
  return p

/-- Makes a set flow into the types of a property of every object on a stack.  An object that has
not been asked for the property is passed over to those that inherit from it; it picks the types up
when it is. -/
def flowDown (base : SetId) (key : Key) : Nat → List ObjectId → Action Unit
  | _, [] => pure ()
  | 0, _ => throw (.outOfMemory "instance list")
  | fuel + 1, id :: rest => do
    let o := (← get).object id
    match o.property? key with
    | some p =>
      addSubset pass base p.types
      flowDown base key fuel rest
    | none => flowDown base key fuel (o.instances.reverse ++ rest)

/-- Makes the types of a property flow into the same property of every object that inherits from
this one. -/
def storeToInstances (id : ObjectId) (key : Key) : Action Unit := do
  let c ← get
  match (c.object id).property? key with
  | none => pure ()
  | some p => flowDown pass p.types key (c.objectBound + 1) (c.object id).instances.reverse

/-- Wires new properties, from the top of a chain down: to the object's own types, to the types of
the property above, and to the objects below. -/
def wireProperties (key : Key) : Option SetId → List (ObjectId × Property) → Action Unit
  | _, [] => pure ()
  | above, (owner, p) :: rest => do
    addSubset pass p.ownTypes p.types
    if let some above := above then
      addSubset pass above p.types
    storeToInstances pass owner key
    wireProperties key (some p.types) rest

/-- Makes a property of an object that lacks it, and of its prototypes as far as they lack it. -/
def addProperty (id : ObjectId) (key : Key) : Action Property := do
  let c ← get
  let (owners, inherited) := c.lacking key (c.chain id)
  let created ← owners.reverse.mapM fun owner => return (owner, ← createProperty owner key)
  let p ← createProperty id key
  wireProperties pass key inherited (created ++ [(id, p)])
  return p

/-- The types of a property, which is made if need be: only those assigned to the object itself,
or those with what is inherited.  An object with unknown properties answers with every type. -/
def getProperty (id : ObjectId) (key : Key) (own : Bool) : Action SetId := do
  let o := (← get).object id
  if o.isUnknown then return universal
  else
    let p ← match o.property? key with
      | some p => pure p
      | none => addProperty pass id key
    return if own then p.ownTypes else p.types

end Compartment

end FlowTypes
