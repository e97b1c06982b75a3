import FlowTypes.Proofs.Deliveries
import FlowTypes.Proofs.Runs

/-!
# What a set answers

Beside the list of its types a set keeps their flags and the objects among them, and answers from
these.  Its list only grows, at the end, by the types that the journal tells were added to it.  So
whoever keeps the handle of a set may rely on everything that it was once told, and a listener that
has heard of the first types of a set need never hear of them again.

A request that fails keeps what it did before it failed, and a pass that is given up stops between
two deliveries; neither leaves a set behind whose summaries are out of step with its list.

## Main results

* Everything that a set answers is read off the list of its types (`Coherent.faithful`).
* The sets of every compartment that a run leaves behind are faithful, and later runs only add to
  them (`sets_grow`).
-/

namespace FlowTypes

/-- Everything that a set answers is read off the list of its types. -/
structure TypeSet.Faithful (s : TypeSet) : Prop where
  nodup : s.types.Nodup
  unknownLast : ∀ before after, s.types = before ++ .unknown :: after → after = []
  flags : s.flags = s.types.foldl (fun flags t => flags ||| t.flag) .none
  objects : ∀ o : ObjectId, s.objects.contains o.index = true ↔ .object o ∈ s.types
  has : ∀ t, s.has t = true ↔ t ∈ s.types ∨ .unknown ∈ s.types
  tag : ∀ tag, s.tag? = some tag ↔ s.types ≠ [] ∧ ∀ t ∈ s.types, t.flag = tag.flag
  count : ∀ n, s.count? = some n ↔ .unknown ∉ s.types ∧ s.types.length = n

theorem TypeSet.Coherent.faithful {s : TypeSet} (h : s.Coherent) : s.Faithful where
  nodup := h.nodup_types
  unknownLast before after htypes := by
    have hlatest : s.latest = after.reverse ++ .unknown :: before.reverse := by
      rw [← List.reverse_reverse s.latest, ← types, htypes]
      simp
    cases hrev : after.reverse with
    | nil => exact List.reverse_eq_nil_iff.mp hrev
    | cons t rest =>
      rw [hrev] at hlatest
      exact absurd (by simp [hlatest]) h.unknownLast
  flags := by rw [h.flags, flagsOf, types, List.foldl_reverse]
  objects o := (h.objects o.index).trans mem_types.symm
  has := h.has_iff
  tag _ := h.tag?_iff
  count _ := h.count?_iff

namespace Compartment

/-- A set that stands for every type and was so from the start holds no other type. -/
theorem types_set_universal {options : Options} {c : Compartment}
    (hgrows : (fresh options).Grows c) (hvalid : c.Valid) :
    (c.set universal).types = [.unknown] := by
  obtain ⟨after, hafter⟩ := (hgrows.set universal).types
  rw [show ((fresh options).set universal).types = [.unknown] from TypeSet.types_universal] at hafter
  have hnil : after = [] :=
    (hvalid.sets universal).coherent.faithful.unknownLast [] after hafter.symm
  rw [← hafter, hnil, List.append_nil]

/-- In every compartment that a run leaves behind, whatever failed in it, everything that a set
answers is read off the list of its types, and the universal set holds just the unknown type.  In
all later runs a handle stays the handle of its set, whose lists of types and of listeners only
grow, at the end; the new types are those that the journal tells were added to this set. -/
theorem sets_grow {safe : Extent → String → Prop} {host : Host} {options : Options}
    {rs : List Request} {c : Compartment} (hrun : Request.Reaches safe host rs (fresh options) c) :
    (∀ s, (c.set s).Faithful) ∧ (c.set universal).types = [.unknown] ∧
      ∀ rs' c', Request.Reaches safe host rs' c c' →
        ∃ es, c'.journal = es ++ c.journal ∧ ∀ s : SetId, s.In c.extent →
          s.In c'.extent ∧ (c'.set s).types = (c.set s).types ++ added s es ∧
            (c.set s).constraints <+: (c'.set s).constraints := by
  have hfresh : (handled host safe).At (fresh options) := at_fresh options _ trivial _ _
  obtain ⟨hat, hdid⟩ := hrun.moves hfresh
  refine ⟨fun s => (hat.sound.valid.sets s).coherent.faithful,
    types_set_universal (hdid.grows hfresh.sound) hat.sound.valid, ?_⟩
  intro rs' c' hlater
  have hdid' := (hlater.moves hat).2
  have hgrows := hdid'.grows hat.sound
  obtain ⟨es, hes, htypes⟩ := hdid'.types hat.sound
  exact ⟨es, hes, fun s hs => ⟨hs.mono hgrows.extent, htypes s, (hgrows.set s).constraints⟩⟩

/-- Two sets, one of which flows into the other, and an object. -/
def filledRun : List Request :=
  [.newSet, .newSet, .addSubset ⟨1⟩ ⟨2⟩, .addType ⟨1⟩ .int32, .typeObject none "o" false none,
    .addType ⟨1⟩ (.object ⟨1⟩)]

/-- Later the first set comes to stand for every type, and a request fails. -/
def overflowingRun : List Request :=
  [.addType ⟨1⟩ .unknown, .addPrototype ⟨1⟩ ⟨1⟩, .addType ⟨1⟩ .string]

theorem sets_grow_overflowing :
    ((Request.runAll .silent filledRun (fresh {})).2.set ⟨2⟩).count? = some 2 ∧
      ∃ ts, ((Request.runAll .silent overflowingRun
          (Request.runAll .silent filledRun (fresh {})).2).2.set ⟨2⟩).types =
        ((Request.runAll .silent filledRun (fresh {})).2.set ⟨2⟩).types ++ ts := by
  have hvalid : Request.ValidAlong .silent filledRun (fresh {}) := by decide +kernel
  have hvalid' : Request.ValidAlong .silent overflowingRun
      (Request.runAll .silent filledRun (fresh {})).2 := by
    decide +kernel
  have hfilled := Request.reaches_silent hvalid (by decide +kernel)
  have hlater := Request.reaches_silent hvalid' (by decide +kernel)
  obtain ⟨hfaithful, -, hgrow⟩ := sets_grow hfilled
  obtain ⟨es, -, hset⟩ := hgrow _ _ hlater
  refine ⟨((hfaithful ⟨2⟩).count 2).mpr (by decide +kernel), added ⟨2⟩ es, ?_⟩
  exact (hset ⟨2⟩ (by decide +kernel)).2.1

end Compartment

end FlowTypes
