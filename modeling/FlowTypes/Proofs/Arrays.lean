import FlowTypes.Proofs.Runs

/-!
# Arrays

An object is taken for an array when it gets its prototype, if `Array.prototype` is among its
prototypes then.  From then on it can only lose what it was taken for.  It is never taken for an
array again, not even when a prototype further up is set or when `Array.prototype` is made later,
because this is asked only once, and an object gets its prototype once.

So what an array was taken for stays backed by its prototypes, which no one takes back, and by what
is known about it: whatever becomes unknown stops being an array in the same step.

## Main results

* `isArray_iff`: an array inherits from the builtin `Array.prototype`.
* `Classified`: what it means that an object is taken for an array; `Did.classified`.
* `arrays_weaken`: this holds in every compartment that a run leaves behind, and what an object is
  no longer taken for it is never taken for again.
-/

namespace FlowTypes

namespace Compartment

variable {sc : Scope} {c c' : Compartment} {o : ObjectId}

/-- An array inherits from `Array.prototype`, which has been made. -/
theorem isArray_iff (hc : c.Sound) : c.isArray o = true ↔
    ∃ p, c.builtin? .arrayPrototype = some p ∧ c.Inherits o p := by
  unfold isArray
  cases hfound : c.builtin? .arrayPrototype with
  | none => simp
  | some p => simp [mem_chain_iff hc.valid hc.forest]

/-! ## What arrays are -/

/-- What is said of an object by taking it for an array is true. -/
structure Classified (c : Compartment) (o : ObjectId) : Prop where
  packed : (c.object o).isPacked = true → (c.object o).isDense = true
  inherits : (c.object o).isDense = true →
    ∃ p, c.builtin? .arrayPrototype = some p ∧ c.Inherits o p
  known : (c.object o).isDense = true → (c.object o).isUnknown = false

theorem classified_fresh (options : Options) (o : ObjectId) : (fresh options).Classified o := by
  have hplain : ((fresh options).object o).isPacked = false ∧
      ((fresh options).object o).isDense = false := by
    obtain ⟨i⟩ := o
    cases i <;> exact ⟨rfl, rfl⟩
  constructor <;> intro h
  · rw [hplain.1] at h
    cases h
  · rw [hplain.2] at h
    cases h
  · rw [hplain.2] at h
    cases h

/-- What the object inherits from is not taken back. -/
theorem Classified.steady (h : c.Classified o) (hgrows : c.Grows c') (hsteady : Steady c c' o) :
    c'.Classified o where
  packed hpacked := hsteady.dense.trans (h.packed (hsteady.packed.symm.trans hpacked))
  inherits hdense := by
    obtain ⟨p, hp, hinherits⟩ := h.inherits (hsteady.dense.symm.trans hdense)
    exact ⟨p, hgrows.builtin? hp, hinherits.mono hgrows⟩
  known hdense := hsteady.unknown.trans (h.known (hsteady.dense.symm.trans hdense))

/-- An object that loses what is known about it is not taken for more than it was. -/
theorem Classified.demote (h : c.Classified o) (hgrows : c.Grows c')
    (hdemoted : (c.object o).Demoted (c'.object o)) : c'.Classified o where
  packed hpacked := (hdemoted.packedDense hpacked).trans (h.packed (hdemoted.packed hpacked))
  inherits hdense := by
    obtain ⟨p, hp, hinherits⟩ := h.inherits (hdemoted.dense hdense)
    exact ⟨p, hgrows.builtin? hp, hinherits.mono hgrows⟩
  known hdense := by
    by_contra hunknown
    have hknown := h.known (hdemoted.dense hdense)
    obtain hold | hloose := hdemoted.loose (eq_true_of_ne_false hunknown)
    · rw [hknown] at hold
      cases hold
    · rw [ObjectInfo.isLoose, hdense] at hloose
      cases hloose

theorem Change.classified (hc : c.Sound) (hchange : c.Change sc c') (h : c.Classified o) :
    c'.Classified o := by
  have hgrows := hchange.grows hc.valid
  obtain hsteady | ⟨-, hin, f, hf, heq⟩ := hchange.steady o
  · exact h.steady hgrows hsteady
  · refine h.demote hgrows ?_
    rw [heq, object_notifyKind, object_changeObject hin, if_pos rfl]
    exact hf

/-- An object is taken for an array if it inherits from `Array.prototype` and is known. -/
theorem Classified.classify (hc : c.Sound) {id : ObjectId} (hid : id.In c.extent)
    (harray : c.isArray id = true) (hknown : (c.object id).isUnknown = false)
    (h : c.Classified o) : (c.classify id).Classified o := by
  have hobject := object_changeObject hid
    (fun o : ObjectInfo => { o with isDense := true, isPacked := true }) o
  by_cases hido : id = o
  · subst hido
    rw [if_pos rfl] at hobject
    obtain ⟨p, hp, hinherits⟩ := (isArray_iff hc).mp harray
    constructor
    · intro _
      rw [Compartment.classify, hobject]
    · intro _
      exact ⟨p, (grows_classify hid).builtin? hp, hinherits.mono (grows_classify hid)⟩
    · intro _
      rw [Compartment.classify, hobject]
      exact hknown
  · rw [if_neg hido] at hobject
    exact h.steady (grows_classify hid) (.of_eq hobject)

theorem Did.classified (hc : c.Sound) (h : Did sc c c') (hall : ∀ o, c.Classified o) (o : ObjectId) :
    c'.Classified o := by
  induction h generalizing o with
  | refl => exact hall o
  | step h hchange ih => exact hchange.classified (h.sound hc) (ih hc hall o)
  | classify h _ h' hid harray hknown ih ih' =>
    have hsound := h.sound hc
    exact (ih' hsound (ih hc hall) o).classify (h'.sound hsound) hid harray hknown

/-! ## Runs -/

/-- In every compartment that a run leaves behind, whatever failed in it, an array without any holes
has none in the middle, and an object without holes in the middle inherits from `Array.prototype` and
is known.  An object that stops being such an array in a later run is none after any run that
follows. -/
theorem arrays_weaken {safe : Extent → String → Prop} {host : Host} {options : Options}
    {rs : List Request} {c : Compartment} (hrun : Request.Reaches safe host rs (fresh options) c) :
    (∀ o, c.Classified o) ∧
      ∀ rs' c', Request.Reaches safe host rs' c c' →
        ∀ rs'' c'', Request.Reaches safe host rs'' c' c'' → ∀ o,
          ((c.object o).isPacked = true → (c'.object o).isPacked = false →
            (c''.object o).isPacked = false) ∧
          ((c.object o).isDense = true → (c'.object o).isDense = false →
            (c''.object o).isDense = false) := by
  have hat := hrun.resting rfl
  have hdid := hrun.did rfl
  refine ⟨hdid.classified (sound_fresh options) (classified_fresh options), ?_⟩
  intro rs' c' hthen rs'' c'' hlater o
  obtain ⟨hat', hdid'⟩ := hthen.moves hat
  have hdid'' := (hlater.moves hat').2
  -- An array has a prototype, so from here on nothing is added to what it is taken for.
  have hlost : (c.object o).isDense = true ∨ (c.object o).isPacked = true →
      ((c''.object o).isPacked = true → (c'.object o).isPacked = true) ∧
        ((c''.object o).isDense = true → (c'.object o).isDense = true) := by
    intro harray
    have hproto := hdid.arraysInherit (sound_fresh options) (arraysInherit_fresh options) o harray
    have hproto' := (hdid'.grows hat.sound).proto_ne_none hproto
    exact hdid''.notReclassified id hat'.sound hproto'
  constructor
  · intro hpacked hunpacked
    by_contra hagain
    have := (hlost (.inr hpacked)).1 (eq_true_of_ne_false hagain)
    rw [hunpacked] at this
    cases this
  · intro hdense hholes
    by_contra hagain
    have := (hlost (.inl hdense)).2 (eq_true_of_ne_false hagain)
    rw [hholes] at this
    cases this

/-- Two arrays. -/
def arraysRun : List Request :=
  [.builtin .arrayPrototype, .typeObject none "a" false (some ⟨1⟩),
    .typeObject none "b" false (some ⟨1⟩)]

/-- One of them gets holes at its end, the other one in its middle; afterwards a prototype is asked
for once more, which is refused. -/
theorem arrays_weaken_two :
    let c := (Request.runAll .silent arraysRun (fresh {})).2
    let c' := (Request.runAll .silent [.markNotPacked ⟨3⟩ false, .markNotPacked ⟨4⟩ true] c).2
    let c'' := (Request.runAll .silent [.addPrototype ⟨3⟩ ⟨1⟩] c').2
    (∃ p, c.builtin? .arrayPrototype = some p ∧ c.Inherits ⟨3⟩ p) ∧
      (c.object ⟨3⟩).isPacked = true ∧ (c'.object ⟨3⟩).isDense = true ∧
        (c''.object ⟨3⟩).isPacked = false ∧ (c''.object ⟨4⟩).isDense = false := by
  intro c c' c''
  have hrun : Request.Reaches _ .silent arraysRun (fresh {}) c :=
    Request.reaches_silent (by decide +kernel) (by decide +kernel)
  have hthen : Request.Reaches _ .silent _ c c' :=
    Request.reaches_silent (by decide +kernel) (by decide +kernel)
  have hlater : Request.Reaches _ .silent _ c' c'' :=
    Request.reaches_silent (by decide +kernel) (by decide +kernel)
  obtain ⟨hclassified, hweaken⟩ := arrays_weaken hrun
  have hlost := hweaken _ _ hthen _ _ hlater
  exact ⟨(hclassified ⟨3⟩).inherits (by decide +kernel), by decide +kernel, by decide +kernel,
    (hlost ⟨3⟩).1 (by decide +kernel) (by decide +kernel),
    (hlost ⟨4⟩).2 (by decide +kernel) (by decide +kernel)⟩

end Compartment

end FlowTypes
