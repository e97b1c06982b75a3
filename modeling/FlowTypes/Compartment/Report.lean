import FlowTypes.Compartment
import FlowTypes.Text.Lines

/-!
# Reports

What a compartment shows of itself: a description of its objects and scripts, the messages of its
log, its statistics, and a summary of the sizes of its tables.
-/

namespace FlowTypes

namespace Compartment

/-! ## Description -/

/-- The types of a set, oldest first. -/
def typesText (c : Compartment) (id : SetId) : String :=
  let s := c.set id
  if s.isUnknown then "unknown"
  else if s.isEmpty then "(empty)"
  else String.intercalate " " (s.types.map c.typeName)

private def entry (label text : String) : String := "    " ++ label ++ text

/-- What is written about an object behind its name. -/
def objectLabel (c : Compartment) (id : ObjectId) : String :=
  let o := c.object id
  let proto := match o.proto with
    | some p => " : " ++ c.objectName p
    | none => ""
  let unknown := if o.isUnknown then " (unknown properties)" else ""
  let array := if o.isPacked then " (packed)" else if o.isDense then " (dense)" else ""
  o.name ++ proto ++ unknown ++ array

/-- The lines about a function: its script, and what goes in and out of it. -/
def functionLines (c : Compartment) (f : FunctionInfo) : List String :=
  f.script.toList.map (fun s => entry "script " s.text) ++
    [entry "this: " (c.typesText f.thisTypes)] ++
    f.parameters.mapIdx (fun i p =>
      entry ("arg" ++ String.ofList (Text.decimal i) ++ ": ") (c.typesText p)) ++
    [entry "returns: " (c.typesText f.returns)]

/-- The lines about an object, its prototype and its properties. -/
def objectLines (c : Compartment) (id : ObjectId) : List String :=
  let o := c.object id
  c.objectLabel id :: (o.function.toList.flatMap c.functionLines ++
    o.properties.map fun p => entry (p.key.text ++ ": ") (c.typesText p.types))

/-- The lines about a script, its variables and its pushed values. -/
def scriptLines (c : Compartment) (id : ScriptId) (s : ScriptTypes) : List String :=
  ("script " ++ id.text) ::
    (s.named.map fun (name, types) => entry ("var " ++ name ++ ": ") (c.typesText types)) ++
    s.pushed.map fun p =>
      entry ("push " ++ Location.offsetText p.offset ++ "[" ++ String.ofList (Text.decimal p.index)
        ++ "]: ") (c.typesText p.types)

/-- Describes a single object. -/
def describeObject (c : Compartment) (id : ObjectId) : String :=
  Text.unlines (c.objectLines id)

/-- Describes every object, in the order they were made, and every script by its number. -/
def describe (c : Compartment) : String :=
  Text.unlines (c.allObjects.flatMap c.objectLines ++
    c.scripts.flatMap fun (id, s) => c.scriptLines id s)

/-! ## Statistics -/

/-- The statistics so far. -/
def currentStats (c : Compartment) : Stats :=
  { c.stats with maxSolverDepth := c.worklist.maxDepth }

/-- Counts the sizes of the sets of pushed values. -/
def countPushed (c : Compartment) : Compartment :=
  let sizes := c.scripts.flatMap fun (_, s) => s.pushed.map fun p => (c.set p.types).count?
  { c with stats := c.stats.countSizes sizes }

/-- Ends an analysis: counts the sizes of the sets of pushed values and reports the final state. -/
def finish (c : Compartment) : Stats × Compartment :=
  let c := c.countPushed
  let report := if c.options.spew.result then
      (Text.lines c.describe.toList).map String.ofList
    else []
  let c := report.foldl (fun c line => c.record (.resultLine line)) c
  let stats := c.currentStats
  (stats, c.record (.finished stats))

/-! ## Log -/

private def setText (id : SetId) : String := "T" ++ String.ofList (Text.decimal id.index)

private def numberText (n : Nat) : String := String.ofList (Text.decimal n)

/-- The message of an event, and the channel it belongs to. -/
def message? (c : Compartment) : Event → Option (Channel × String)
  | .typeAdded s t => some (.ops, "addType: " ++ setText s ++ " " ++ c.typeName t)
  | .constraintAdded s id _ =>
    some (.ops, "addConstraint: " ++ setText s ++ " " ++ (c.constraint id).kind)
  | .objectCreated id => some (.ops, "newObject: " ++ c.objectName id)
  | .propertyCreated id p =>
    some (.ops, "addProperty: " ++ c.objectName id ++ " " ++ p.key.text ++ " " ++
      setText p.types ++ " own " ++ setText p.ownTypes)
  | .prototypeLinked id proto =>
    some (.ops, "addPrototype: " ++ c.objectName id ++ " " ++ c.objectName proto)
  | .called site .unknown => some (.ops, "call: unknown callee at " ++ site.code.text)
  | .markedUnknown id => some (.dynamic, "markUnknown: " ++ c.objectName id)
  | .markedNotPacked id notDense =>
    some (.dynamic, "markArrayNotPacked: " ++ c.objectName id ++
      (if notDense then " (not dense)" else ""))
  | .monitored code => some (.dynamic, "monitorBytecode: " ++ code.text)
  | .recompileQueued script _ => some (.dynamic, "addPendingRecompile: " ++ script.text)
  | .typeObserved s t => some (.dynamic, "addDynamicType: " ++ setText s ++ " " ++ c.typeName t)
  | .pushObserved code index t =>
    some (.dynamic, "addDynamicPush: " ++ code.text ++ " " ++ numberText index ++ ": " ++
      c.typeName t)
  | .assignmentObserved id key t =>
    some (.dynamic, "dynamicAssign: " ++ c.objectName id ++ " " ++ key.text ++ ": " ++
      c.typeName t)
  | .passAborted e => some (.dynamic, "solver aborted: " ++ e.message)
  | .resultLine line => some (.result, line)
  | .finished s =>
    some (.result, "finished: " ++ numberText s.recompilations ++
      " recompilations, max solver depth " ++ numberText s.maxSolverDepth ++ ", " ++
      numberText s.failures ++ " failures")
  | .fired _ | .called _ (.function ..) | .recompiled _ => none

/-- The events after the first `n`, oldest first. -/
def eventsSince (c : Compartment) (n : Nat) : List Event :=
  (c.journal.take (c.journal.length - n)).reverse

/-- The line of a log for a message. -/
def logLine (channel : Channel) (message : String) : String :=
  channel.label ++ " " ++ channel.target ++ ": " ++ message

/-- The log lines of the enabled channels for the events after the first `n`. -/
def logSince (c : Compartment) (n : Nat) : List String :=
  (c.eventsSince n).filterMap fun e =>
    match c.message? e with
    | some (channel, message) =>
      if c.options.spew.has channel then some (logLine channel message) else none
    | none => none

/-- What native handlers were called after the first `n` events, where, and with how many
arguments. -/
def handlerCallsSince (c : Compartment) (n : Nat) : List String :=
  (c.eventsSince n).filterMap fun e =>
    match e with
    | .called site (.function _ f) => f.handler.map fun name =>
      name ++ " " ++ site.code.text ++ " " ++ numberText site.arguments.length
    | _ => none

/-! ## Summary -/

private def fields (name : String) (items : List (String × String)) : String :=
  name ++ " \x7b " ++ String.intercalate ", " (items.map fun (k, v) => k ++ ": " ++ v) ++ " \x7d"

private def listText (items : List String) : String :=
  "[" ++ String.intercalate ", " items ++ "]"

/-- The sizes of the tables, the scripts that are queued and the statistics. -/
def summary (c : Compartment) : String :=
  let stats := fields "InferStats"
    [("analysis_time", "0ns"),
     ("recompilations", numberText c.stats.recompilations),
     ("type_counts", listText (c.stats.typeCounts.map numberText)),
     ("type_count_over", numberText c.stats.typeCountOver),
     ("max_solver_depth", numberText c.stats.maxSolverDepth),
     ("failures", numberText c.stats.failures)]
  fields "TypeCompartment"
    [("sets", numberText c.sets.size),
     ("constraints", numberText c.constraints.size),
     ("objects", numberText c.objects.size),
     ("sites", numberText c.sites.size),
     ("scripts", numberText c.scripts.length),
     ("pending_work", numberText c.worklist.size),
     ("pending_recompiles",
       listText (c.recompiles.map fun s => "ScriptId(" ++ numberText s.number ++ ")")),
     ("stats", stats)]

end Compartment

end FlowTypes
