import FlowTypes.Proofs.Actions.Requests
import FlowTypes.Proofs.Checked.Unknown

/-!
# Reports, checked

What a compartment shows of itself, with every object and every set that is named in it looked up.
A survey asks everything that there is to ask about the entries of a compartment.

## Main results

* `reads_describe`, `gives_finish`: the description and the final report name what exists.
* `reads_survey`: nothing that can be asked about an intact compartment stops the engine.
-/

namespace FlowTypes

namespace Checked

/-! ## Actions -/

def typesText (id : SetId) : Checked String := do
  let s ← setAt id
  if s.isUnknown then return "unknown"
  else if s.isEmpty then return "(empty)"
  else return String.intercalate " " (← s.types.mapM typeName)

/-- A line of a description. -/
def line (label text : String) : String := "    " ++ label ++ text

def objectLabel (id : ObjectId) : Checked String := do
  let o ← objectAt id
  let proto ← match o.proto with
    | some p => do
      let name ← objectName p
      pure (" : " ++ name)
    | none => pure ""
  let unknown := if o.isUnknown then " (unknown properties)" else ""
  let array := if o.isPacked then " (packed)" else if o.isDense then " (dense)" else ""
  return o.name ++ proto ++ unknown ++ array

def functionLines (f : FunctionInfo) : Checked (List String) := do
  let thisText ← typesText f.thisTypes
  let parameters ← f.parameters.mapM typesText
  let returns ← typesText f.returns
  return f.script.toList.map (fun s => line "script " s.text) ++ [line "this: " thisText] ++
    parameters.mapIdx (fun i text =>
      line ("arg" ++ String.ofList (Text.decimal i) ++ ": ") text) ++ [line "returns: " returns]

def objectLines (id : ObjectId) : Checked (List String) := do
  let o ← objectAt id
  let label ← objectLabel id
  let function ← o.function.toList.mapM functionLines
  let properties ← o.properties.mapM fun p => return line (p.key.text ++ ": ") (← typesText p.types)
  return label :: (function.flatten ++ properties)

def scriptLines (id : ScriptId) (s : ScriptTypes) : Checked (List String) := do
  let named ← s.named.mapM fun v => return line ("var " ++ v.1 ++ ": ") (← typesText v.2)
  let pushed ← s.pushed.mapM fun p => return line ("push " ++ Location.offsetText p.offset ++ "[" ++
    String.ofList (Text.decimal p.index) ++ "]: ") (← typesText p.types)
  return ("script " ++ id.text) :: named ++ pushed

def describe : Checked String := do
  let c ← get
  let objects ← c.allObjects.mapM objectLines
  let scripts ← c.scripts.mapM fun s => scriptLines s.1 s.2
  return Text.unlines (objects.flatten ++ scripts.flatten)

def countPushed : Checked Unit := do
  let pushed := (← get).scripts.flatMap fun s => s.2.pushed
  let sizes ← pushed.mapM fun p => return (← setAt p.types).count?
  modify fun c => { c with stats := c.stats.countSizes sizes }

/-- The lines of the final state, if the host listens to them. -/
def report : Checked (List String) := do
  if (← get).options.spew.result then
    let text ← describe
    return (Text.lines text.toList).map String.ofList
  else return []

def finish : Checked Stats := do
  countPushed
  let lines ← report
  lines.forM fun line => modify (·.record (.resultLine line))
  let stats := (← get).currentStats
  modify (·.record (.finished stats))
  return stats

/-- Asks everything that there is to ask about the entries of a compartment. -/
def survey : Checked Unit := do
  let c ← get
  ((List.range c.sets.size).map SetId.mk).forM fun id => do
    discard <| setKind id
    discard <| typesText id
  ((List.range c.constraints.size).map ConstraintId.mk).forM fun id => discard <| constraintAt id
  c.allObjects.forM fun id => do
    discard <| isArray id
    discard <| objectKind id
  ((List.range c.sites.size).map SiteId.mk).forM fun id => discard <| siteAt id
  ((List.range c.stack.size).map StackId.mk).forM fun id => discard <| slotAt id
  discard describe

/-! ## What is shown -/

variable {c : Compartment}

theorem in_of_mem_allObjects {id : ObjectId} (hid : id ∈ c.allObjects) : id.In c.extent := by
  obtain ⟨i, hi, rfl⟩ := List.mem_map.mp hid
  exact List.mem_range.mp hi

section Valid

variable (hc : c.Valid)
include hc

theorem reads_typesText {id : SetId} (hid : id.In c.extent) :
    Reads (typesText id) c (c.typesText id) := by
  refine (reads_setAt hid).bind ?_
  rw [Compartment.typesText]
  split
  · exact .pure _
  · split
    · exact .pure _
    · exact (Reads.mapM fun t ht => reads_typeName ((hc.sets id).types t ht)).bind (.pure _)

theorem reads_objectLabel {id : ObjectId} (hid : id.In c.extent) :
    Reads (objectLabel id) c (c.objectLabel id) := by
  refine (reads_objectAt hid).bind ?_
  rw [Compartment.objectLabel]
  cases hproto : (c.object id).proto with
  | none => exact .pure _
  | some p => exact (reads_objectName ((hc.objects id).proto p hproto)).bind (.pure _)

theorem reads_functionLines {f : FunctionInfo} (hf : f.Valid c.extent) :
    Reads (functionLines f) c (c.functionLines f) := by
  refine (reads_typesText hc hf.thisTypes).bind ?_
  refine (Reads.mapM fun s hs => reads_typesText hc (hf.parameters s hs)).bind ?_
  refine (reads_typesText hc hf.returns).bind ?_
  have hparameters : (f.parameters.map c.typesText).mapIdx (fun i text =>
      line ("arg" ++ String.ofList (Text.decimal i) ++ ": ") text) =
        f.parameters.mapIdx fun i s =>
          line ("arg" ++ String.ofList (Text.decimal i) ++ ": ") (c.typesText s) :=
    List.ext_getElem (by simp) fun i _ _ => by simp
  rw [hparameters]
  exact .pure _

theorem reads_objectLines {id : ObjectId} (hid : id.In c.extent) :
    Reads (objectLines id) c (c.objectLines id) := by
  have ho := hc.objects id
  refine (reads_objectAt hid).bind ((reads_objectLabel hc hid).bind ?_)
  refine (Reads.mapM (g := c.functionLines) fun f hf =>
    reads_functionLines hc (ho.function f (Option.mem_toList.mp hf))).bind ?_
  refine (Reads.mapM (g := fun p => line (p.key.text ++ ": ") (c.typesText p.types)) fun p hp =>
    (reads_typesText hc (ho.properties p hp).types).bind (.pure _)).bind ?_
  rw [← List.flatMap_def]
  exact .pure _

theorem reads_scriptLines (id : ScriptId) {s : ScriptTypes} (hs : s.Valid c.extent) :
    Reads (scriptLines id s) c (c.scriptLines id s) := by
  refine (Reads.mapM (g := fun v => line ("var " ++ v.1 ++ ": ") (c.typesText v.2)) fun v hv =>
    (reads_typesText hc (hs.named v hv)).bind (.pure _)).bind ?_
  refine (Reads.mapM (g := fun p => line ("push " ++ Location.offsetText p.offset ++ "[" ++
    String.ofList (Text.decimal p.index) ++ "]: ") (c.typesText p.types)) fun p hp =>
      (reads_typesText hc (hs.pushed p hp)).bind (.pure _)).bind ?_
  exact .pure _

theorem reads_describe : Reads describe c c.describe := by
  refine Reads.bind .get ?_
  refine (Reads.mapM fun id hid => reads_objectLines hc (in_of_mem_allObjects hid)).bind ?_
  refine (Reads.mapM (g := fun s => c.scriptLines s.1 s.2) fun s hs =>
    reads_scriptLines hc s.1 (hc.scripts s hs)).bind ?_
  rw [← List.flatMap_def, ← List.flatMap_def]
  exact .pure _

theorem gives_countPushed : Gives countPushed c ⟨⟩ c.countPushed := by
  refine Gives.bind .get ?_
  refine (Reads.mapM (g := fun p => (c.set p.types).count?) fun p hp => ?_).gives ?_
  · obtain ⟨s, hs, hp⟩ := List.mem_flatMap.mp hp
    exact (reads_setAt ((hc.scripts s hs).pushed p hp)).bind (.pure _)
  · rw [List.map_flatMap]
    exact .modify _

theorem reads_report : Reads report c (if c.options.spew.result then
    (Text.lines c.describe.toList).map String.ofList else []) := by
  refine Reads.bind .get ?_
  split
  · exact (reads_describe hc).bind (.pure _)
  · exact .pure _

end Valid

theorem gives_finish (hc : c.Intact) : Gives finish c c.finish.1 c.finish.2 := by
  have hcounted : c.countPushed.Valid :=
    hc.toValid.extend (.of_tables (.refl _) (fun _ => .inl rfl) (fun _ => .inl rfl)
      (fun _ => .inl rfl) (fun _ => .inl rfl) rfl rfl rfl rfl rfl)
  refine (gives_countPushed hc.toValid).bind ((reads_report hcounted).gives ?_)
  refine (Gives.forM_foldl (I := fun _ => True) (g := fun c line => c.record (.resultLine line))
    (fun line _ b _ => ⟨.modify _, trivial⟩) trivial).bind ?_
  exact Gives.bind .get ((Gives.modify _).bind (.pure _))

/-! ## Everything that can be asked -/

/-- Nothing that can be asked about an intact compartment stops the engine. -/
theorem reads_survey (hc : c.Intact) : Reads survey c ⟨⟩ := by
  refine Reads.bind .get ?_
  refine (Reads.forM fun id hid => ?_).bind ?_
  · obtain ⟨i, hi, rfl⟩ := List.mem_map.mp hid
    have hin : SetId.In ⟨i⟩ c.extent := List.mem_range.mp hi
    exact (reads_setKind hc hin).discard.bind (reads_typesText hc.toValid hin).discard
  refine (Reads.forM fun id hid => ?_).bind ?_
  · obtain ⟨i, hi, rfl⟩ := List.mem_map.mp hid
    have hin : ConstraintId.In ⟨i⟩ c.extent := List.mem_range.mp hi
    exact (reads_constraintAt hin).discard
  refine (Reads.forM fun id hid => ?_).bind ?_
  · have hin := in_of_mem_allObjects hid
    exact (reads_isArray hc.toValid hin).discard.bind (reads_objectKind hc hin).discard
  refine (Reads.forM fun id hid => ?_).bind ?_
  · obtain ⟨i, hi, rfl⟩ := List.mem_map.mp hid
    have hin : SiteId.In ⟨i⟩ c.extent := List.mem_range.mp hi
    exact (reads_siteAt hin).discard
  refine (Reads.forM fun id hid => ?_).bind ?_
  · obtain ⟨i, hi, rfl⟩ := List.mem_map.mp hid
    have hin : StackId.In ⟨i⟩ c.extent := List.mem_range.mp hi
    exact (reads_slotAt hc.toValid hin).discard
  exact (reads_describe hc.toValid).discard

end Checked

end FlowTypes
