import FlowTypes.Compartment.Property

/-!
# Answers that compiled code relies on

A compiler asks for the tag, the kind or the emptiness of a set.  If it names the script that it
compiles, a freeze constraint holds the answer, and the script is queued for recompilation once the
answer is no longer true.
-/

namespace FlowTypes

namespace Compartment

variable (pass : Action Unit)

/-- The tag that every value of a set has. -/
def knownTag (id : SetId) (script : Option ScriptId) : Action (Option Tag) := do
  let tag := ((← get).set id).tag?
  match script, tag with
  | some script, some tag =>
    discard <| addConstraint pass id (.freezeTag script tag false) false
  | _, _ => pure ()
  return tag

/-- The kind that all objects of a set have.  A script that relies on it also hears when one of the
objects changes its kind. -/
def knownKind (id : SetId) (script : Option ScriptId) : Action Kind := do
  let kind := (← get).setKind id
  match script with
  | none => return kind
  | some script =>
    if kind = .unknown then return kind
    else
      discard <| addConstraint pass id (.freezeKind script kind false) false
      let objects := ((← get).set id).objectTypes
      objects.forM fun o => do
        let elements ← getProperty pass o .index false
        discard <| addConstraint pass elements (.freezeElementKind script kind false) false
      return kind

/-- Whether a set has any type. -/
def knownNonEmpty (id : SetId) (script : Option ScriptId) : Action Bool := do
  if ((← get).set id).isEmpty then
    if let some script := script then
      discard <| addConstraint pass id (.freezeEmpty script false) false
    return false
  else return true

end Compartment

end FlowTypes
