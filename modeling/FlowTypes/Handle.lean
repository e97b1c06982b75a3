import FlowTypes.Text.Numeral

/-!
# Handles and locations

A compartment keeps its type sets, objects, constraints, call sites and stack nodes in tables, and
hands out their places in these tables.  Scripts are numbered by the host, and a location is a
place in the code of a script.
-/

namespace FlowTypes

/-- The place of a type set in its table. -/
structure SetId where
  index : Nat
  deriving DecidableEq, Repr, Inhabited

/-- The place of a type object in its table. -/
structure ObjectId where
  index : Nat
  deriving DecidableEq, Repr, Inhabited

/-- The place of a constraint in its table. -/
structure ConstraintId where
  index : Nat
  deriving DecidableEq, Repr, Inhabited

/-- The place of a call site in its table. -/
structure SiteId where
  index : Nat
  deriving DecidableEq, Repr, Inhabited

/-- The place of a stack node in its table. -/
structure StackId where
  index : Nat
  deriving DecidableEq, Repr, Inhabited

/-- A script, by the number that the host gave it. -/
structure ScriptId where
  number : Nat
  deriving DecidableEq, Repr, Inhabited

/-- A script is written as its number behind a hash sign. -/
def ScriptId.text (s : ScriptId) : String :=
  String.ofList ('#' :: Text.decimal s.number)

/-- A place in the code of a script. -/
structure Location where
  script : ScriptId
  offset : Nat
  deriving DecidableEq, Repr, Inhabited

/-- An offset has five places or more. -/
def Location.offsetText (offset : Nat) : String :=
  String.ofList (Text.decimalPadded 5 offset)

/-- A location is written as its script and its offset with a colon between them. -/
def Location.text (l : Location) : String :=
  l.script.text ++ ":" ++ offsetText l.offset

end FlowTypes
