import FlowTypes.Proofs.Solution

/-!
# What objects inherit

Between two requests, an object has what its prototypes hand down.  The keys go up: whatever an
object was asked for, each of its prototypes has a property for too.  The types come down: what is
known of a property of a prototype is known of the same property of every object below.  An object
about whose properties nothing is known takes all objects below it along, and then every set of a
property stands for every type.

Neither direction is an invariant of every moment, because the solver may deliver types in the
middle of a request that makes a property or sets a prototype.  Both are restored when the request
is done.

## Main results

* `HandedDown`: what one object has of another one that it inherits from.
* `HandedDown.trans`, `Resolved.handedDown`: along a whole chain of prototypes.
* `inheritance_kept`: the same after every run in which each request succeeds.
-/

namespace FlowTypes

namespace Compartment

variable {c : Compartment}

/-- The properties of an unknown object have the unknown type. -/
def Forgotten (c : Compartment) (o : ObjectId) : Prop :=
  (c.object o).isUnknown = true → ∀ q ∈ (c.object o).properties,
    .unknown ∈ (c.set q.types).types ∧ .unknown ∈ (c.set q.ownTypes).types

/-- A property of an object has its own types, and those of the same property of the second
object, which has this property too. -/
def Derives (c : Compartment) (p : ObjectId) (q : Property) : Prop :=
  ∃ above, (c.object p).property? q.key = some above ∧
    (∀ t, (c.set above.types).has t = true → (c.set q.types).has t = true) ∧
      ∀ t, (c.set q.ownTypes).has t = true → (c.set q.types).has t = true

/-- What the first object has of the second one, which it inherits from. -/
structure HandedDown (c : Compartment) (d p : ObjectId) : Prop where
  spread : (c.object p).isUnknown = true → (c.object d).isUnknown = true
  forgotten : c.Forgotten d
  derives : (c.object d).isUnknown = false → ∀ q ∈ (c.object d).properties, c.Derives p q

/-- What is handed down twice is handed down. -/
theorem HandedDown.trans {d p a : ObjectId} (h : c.HandedDown d p) (h' : c.HandedDown p a) :
    c.HandedDown d a where
  spread ha := h.spread (h'.spread ha)
  forgotten := h.forgotten
  derives hd q hq := by
    have hp : (c.object p).isUnknown = false := by
      by_contra hp
      rw [h.spread (by simpa using hp)] at hd
      cases hd
    obtain ⟨above, habove, htypes, hown⟩ := h.derives hd q hq
    obtain ⟨top, htop, hcome, -⟩ := h'.derives hp above (List.mem_of_find?_eq_some habove)
    rw [ObjectInfo.key_of_property? habove] at htop
    exact ⟨top, htop, fun t ht => htypes t (hcome t ht), hown⟩

namespace Resolved

variable (h : c.Resolved)
include h

theorem forgets (o : ObjectId) : c.Forgotten o := by
  intro hunknown q hq
  obtain ⟨htypes, hown⟩ := h.forgotten o hunknown q hq
  exact ⟨(h.sound.valid.sets _).coherent.has_unknown_iff.mp htypes,
    (h.sound.valid.sets _).coherent.has_unknown_iff.mp hown⟩

/-- An object has what its prototype hands down. -/
theorem handedDown_of_proto {d p : ObjectId} (hp : (c.object d).proto = some p) :
    c.HandedDown d p where
  spread hunknown := h.spread d p hp hunknown
  forgotten := h.forgets d
  derives hd q hq := by
    obtain hunknown | ⟨s, hanswer, hflows⟩ := h.inherited d p hp q hq
    · rw [hd] at hunknown
      cases hunknown
    obtain ⟨hunknown, -⟩ | ⟨above, habove, rfl⟩ := hanswer
    · rw [h.spread d p hp hunknown] at hd
      cases hd
    · exact ⟨above, habove, fun t ht => h.has_of_flows hflows ht,
        fun t ht => h.has_of_flows (h.wired d q hq) ht⟩

/-- An object has what each of its prototypes hands down. -/
theorem handedDown {d p : ObjectId} (hp : c.Inherits d p) : c.HandedDown d p := by
  induction hp with
  | proto hp => exact h.handedDown_of_proto hp
  | step _ hq ih => exact ih.trans (h.handedDown_of_proto hq)

end Resolved

/-- Between two requests, an object has what each of its prototypes hands down. -/
theorem inheritance_kept {host : Host} {options : Options} {rs : List Request}
    {outcomes : List (Except InferError Answer)} {c : Compartment}
    (hrun : Request.runAll host rs (fresh options) = (outcomes, c))
    (hvalid : Request.ValidAlong host rs (fresh options)) (hok : ∀ o ∈ outcomes, o.isOk = true)
    (hnative : ∀ r ∈ rs, r.isNative = false) {d p : ObjectId} (hp : c.Inherits d p) :
    c.HandedDown d p := by
  have hredelivery : ∀ r ∈ rs, r.isRedelivery = true → True := fun _ _ _ => trivial
  obtain ⟨hat, hgood, -⟩ := Request.runAll_unhandled hrun hvalid hok hnative hredelivery
  exact (resolved_of_good (fun h => h) hat hgood).handedDown hp

/-- A chain of two prototypes, of which the nearer one is set last: a property is read at the bottom
and assigned in the middle. -/
def inheritingRun : List Request :=
  [.typeObject none "top" false none, .typeObject none "middle" false (some ⟨1⟩),
    .typeObject none "bottom" false none, .property ⟨3⟩ (.named "x") false,
    .observeAssignment ⟨2⟩ (.named "x") (.int32 0), .addPrototype ⟨3⟩ ⟨2⟩]

theorem inheritance_kept_bottom :
    (Request.runAll .silent inheritingRun (fresh {})).2.HandedDown ⟨3⟩ ⟨1⟩ := by
  have hrun : Request.runAll .silent inheritingRun (fresh {}) =
      ((Request.runAll .silent inheritingRun (fresh {})).1,
        (Request.runAll .silent inheritingRun (fresh {})).2) := rfl
  have hmiddle : ((Request.runAll .silent inheritingRun (fresh {})).2.object ⟨3⟩).proto =
      some ⟨2⟩ := by decide +kernel
  have htop : ((Request.runAll .silent inheritingRun (fresh {})).2.object ⟨2⟩).proto =
      some ⟨1⟩ := by decide +kernel
  exact inheritance_kept hrun (by decide +kernel) (by decide +kernel) (by decide +kernel)
    (.step (.proto hmiddle) htop)

end Compartment

end FlowTypes
