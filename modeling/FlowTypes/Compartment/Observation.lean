import FlowTypes.Compartment.Property
import FlowTypes.Compartment.Unknown
import FlowTypes.Value

/-!
# What the host observes at run time

Types that turn up while a program runs, and the sets of variables and of pushed values that they
turn up in.  The host also queues scripts for recompilation and takes the queued ones.

## Main results

Taking the queued scripts leaves none behind (`takeRecompiles_recompiles`) and answers each of them
once (`nodup_takeRecompiles`).
-/

namespace FlowTypes

namespace Compartment

variable (pass : Action Unit)

/-! ## Variables and pushed values -/

/-- The types of a variable of a script. -/
def variableTypes (script : ScriptId) (name : String) : Action SetId := do
  match (ScriptTable.get? (← get).scripts script).bind (·.typesOf? name) with
  | some types => return types
  | none =>
    let types ← newSet
    modify (·.changeScript script (·.addVariable name types))
    return types

/-- The types of the value that the code at a place pushes at a place on the stack. -/
def pushedTypes (code : Location) (index : Nat) : Action SetId := do
  match (ScriptTable.get? (← get).scripts code.script).bind (·.pushed? code.offset index) with
  | some types => return types
  | none =>
    let types ← newSet
    modify (·.changeScript code.script (·.addPushed ⟨code.offset, index, types⟩))
    return types

/-! ## Types seen at run time -/

/-- Adds a type that was seen in a set. -/
def observeType (target : SetId) (t : Ty) : Action Unit := do
  unless ((← get).set target).has t do
    modify (·.record (.typeObserved target t))
    addType pass target t

/-- Adds a type that was seen in a pushed value.  If it was not foreseen, the script is queued, so
that its code can be compiled to handle it. -/
def observePush (code : Location) (index : Nat) (t : Ty) : Action Unit := do
  let target ← pushedTypes code index
  unless ((← get).set target).has t do
    modify (·.record (.pushObserved code index t))
    addType pass target t
    modify (·.queueRecompile code.script (.pushed code))

/-- Adds the type of a value that was assigned to a property.  A new prototype makes all that is
known about the properties of the object wrong. -/
def observeAssignment (id : ObjectId) (key : Key) (value : Value) : Action Unit := do
  if key.isNamed "__proto__" then markUnknown pass id
  else if ((← get).object id).isUnknown then pure ()
  else match value.type? with
    | none => pure ()
    | some t =>
      let own ← getProperty pass id key true
      unless ((← get).set own).has t do
        modify (·.record (.assignmentObserved id key t))
        addType pass own t

/-! ## Recompilation -/

/-- Each script of a list once, where it comes first. -/
def distinct : List ScriptId → List ScriptId
  | [] => []
  | s :: rest => s :: (distinct rest).filter (· != s)

/-- Takes the queued scripts, each once, in the order they were first queued. -/
def takeRecompiles (c : Compartment) : List ScriptId × Compartment :=
  let scripts := distinct c.recompiles
  (scripts, { c.record (.recompiled scripts) with
    queued := []
    stats := { c.stats with recompilations := c.stats.recompilations + scripts.length } })

theorem takeRecompiles_recompiles (c : Compartment) : c.takeRecompiles.2.recompiles = [] := rfl

theorem nodup_distinct (scripts : List ScriptId) : (distinct scripts).Nodup := by
  induction scripts with
  | nil => exact List.nodup_nil
  | cons s rest ih =>
    rw [distinct, List.nodup_cons]
    exact ⟨by simp, ih.filter _⟩

theorem mem_distinct {s : ScriptId} {scripts : List ScriptId} :
    s ∈ distinct scripts ↔ s ∈ scripts := by
  induction scripts with
  | nil => rfl
  | cons t rest ih =>
    rw [distinct, List.mem_cons, List.mem_cons, List.mem_filter, ih]
    by_cases h : s = t <;> simp [h]

theorem nodup_takeRecompiles (c : Compartment) : c.takeRecompiles.1.Nodup :=
  nodup_distinct c.recompiles

/-- A script is taken exactly if it was queued. -/
theorem mem_takeRecompiles {c : Compartment} {s : ScriptId} :
    s ∈ c.takeRecompiles.1 ↔ s ∈ c.recompiles :=
  mem_distinct

end Compartment

end FlowTypes
