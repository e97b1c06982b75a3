import FlowTypes.Key
import FlowTypes.Kind
import FlowTypes.Ty

/-!
# Constraints

A constraint listens to the types of one set, its source, and carries them elsewhere or asks for a
recompilation.  The freeze constraints hold an answer that compiled code relies on; each asks for
at most one recompilation and is spent then.
-/

namespace FlowTypes

/-- The operation that an arithmetic constraint models. -/
inductive ArithOp
  /-- Addition, which concatenates if one side is a string. -/
  | add
  /-- Any other operator, whose result is always a number. -/
  | numeric
  deriving DecidableEq, Repr, Inhabited

/-- What a filter holds back. -/
inductive FilterMode
  /-- Every primitive type; only objects and the unknown type pass. -/
  | primitives
  /-- The types `null` and `undefined`. -/
  | nullOrUndefined
  deriving DecidableEq, Repr, Inhabited

/-- The filter lets this type through. -/
def FilterMode.passes : FilterMode → Ty → Bool
  | primitives, t => !t.isPrimitive
  | nullOrUndefined, t => !(t == .null || t == .undefined)

/-- What is done with a property or an element. -/
inductive Access
  | read
  | write
  deriving DecidableEq, Repr, Inhabited

/-- A rule that listens to one type set. -/
inductive Constraint
  /-- Every type of the source is added to the target. -/
  | subset (target : SetId)
  /-- A property is read or written on the objects of the source.  A read carries the types of the
  property into the target, a write carries the target into the object's own types of it. -/
  | property (code : Option Location) (key : Key) (target : SetId) (access : Access)
  /-- An element of the objects of a set is read or written, at the indexes of the source.  Once an
  index has been seen, the shared property of the elements is wired up. -/
  | element (code : Option Location) (objects target : SetId) (access : Access) (wired : Bool)
  /-- The functions of the source are called at a site. -/
  | call (site : SiteId)
  /-- The source is one operand of an operation; the other one's types are in another set, unless
  the operation has only one operand. -/
  | arith (op : ArithOp) (target : SetId) (other : Option SetId)
  /-- A `this` value is passed on, a primitive one as its wrapper object. -/
  | boxThis (target : SetId)
  /-- The types that the filter lets through are added to the target. -/
  | filter (target : SetId) (mode : FilterMode)
  /-- A value that was read is passed on; if it may come out of a getter, the read is monitored. -/
  | monitorRead (code : Location) (target : SetId)
  /-- A script relies on the tag of the source. -/
  | freezeTag (script : ScriptId) (tag : Tag) (spent : Bool)
  /-- A script relies on the kind of the objects in the source. -/
  | freezeKind (script : ScriptId) (kind : Kind) (spent : Bool)
  /-- A script relies on the source having no types. -/
  | freezeEmpty (script : ScriptId) (spent : Bool)
  /-- A script relies on a kind of objects, one of which owns the source as its element types; the
  constraint hears when that object changes its kind. -/
  | freezeElementKind (script : ScriptId) (kind : Kind) (spent : Bool)
  deriving DecidableEq, Repr, Inhabited

namespace Constraint

/-- A short name for what the constraint does. -/
def kind : Constraint → String
  | subset .. => "subset"
  | property _ _ _ .read => "getProperty"
  | property _ _ _ .write => "setProperty"
  | element _ _ _ .read _ => "getElem"
  | element _ _ _ .write _ => "setElem"
  | call .. => "call"
  | arith .. => "arith"
  | boxThis .. => "transformThis"
  | filter .. => "filter"
  | monitorRead .. => "monitorRead"
  | freezeTag .. => "freezeTypeTag"
  | freezeKind .. => "freezeObjectKind"
  | freezeEmpty .. => "freezeNonEmpty"
  | freezeElementKind .. => "freezeElementKind"

/-- The constraint with its element property wired up. -/
def wire : Constraint → Constraint
  | element code objects target access _ => element code objects target access true
  | c => c

/-- The constraint after its recompilation has been asked for. -/
def spend : Constraint → Constraint
  | freezeTag script tag _ => freezeTag script tag true
  | freezeKind script kind _ => freezeKind script kind true
  | freezeEmpty script _ => freezeEmpty script true
  | freezeElementKind script kind _ => freezeElementKind script kind true
  | c => c

theorem kind_wire (c : Constraint) : c.wire.kind = c.kind := by
  cases c <;> first | rfl | (rename_i access _; cases access <;> rfl)

theorem kind_spend (c : Constraint) : c.spend.kind = c.kind := by cases c <;> rfl

end Constraint

end FlowTypes
