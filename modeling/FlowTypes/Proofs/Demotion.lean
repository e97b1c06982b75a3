import FlowTypes.Proofs.Watches

/-!
# What it means to mark an object unknown

Marking an object takes everything below it along, and whatever a host has done before, nothing is
missed.  An object that is unknown already may be left alone on the way, because all of this holds
of it already: between two requests, everything below an unknown object is unknown, has the unknown
type in all its properties, is not taken for an array, and nobody relies on its kind any more.

The walk has more rounds than there can be objects, also with those that the passes make which it
starts.  So it is never cut off, and the request fails only if such a pass comes upon something that
has to be refused.

## Main results

* `Loose`: unknown objects are not arrays without holes.
* `Lost`: what it means for an object that nothing is known about it.
* `markUnknown_fails`: marking an object fails only if something is refused.
* `lost_of_unknown`: between two requests, every unknown object is lost.
* `marked_with_below`: after an object was marked, it and all objects below it are lost.
-/

namespace FlowTypes

namespace Compartment

variable {host : Host} {sc : Scope} {c c' : Compartment} {o : ObjectId}

/-! ## Unknown objects and arrays -/

/-- An unknown object is not taken for an array without holes. -/
def Loose (c : Compartment) : Prop :=
  ∀ o, (c.object o).isUnknown = true → (c.object o).isLoose = true

theorem loose_fresh (options : Options) : (fresh options).Loose := by
  rintro ⟨i⟩ h
  cases i <;> rfl

theorem Change.loose (hchange : c.Change sc c') (h : c.Loose) : c'.Loose := by
  intro o hunknown
  obtain hsteady | ⟨-, hin, f, hf, rfl⟩ := hchange.steady o
  · rw [hsteady.unknown] at hunknown
    rw [ObjectInfo.isLoose, hsteady.dense, hsteady.packed]
    exact h o hunknown
  · rw [object_notifyKind, object_changeObject hin, if_pos rfl] at hunknown ⊢
    obtain hold | hloose := hf.loose hunknown
    · exact hf.isLoose (h o hold)
    · exact hloose

theorem Loose.classify (h : c.Loose) (ho : o.In c.extent)
    (hknown : (c.object o).isUnknown = false) : (c.classify o).Loose := by
  intro a hunknown
  rw [Compartment.classify, object_changeObject ho] at hunknown ⊢
  split at hunknown
  · rename_i hoa
    subst hoa
    rw [hknown] at hunknown
    cases hunknown
  · rename_i hoa
    rw [if_neg hoa]
    exact h a hunknown

theorem Did.loose (h : Did sc c c') (hloose : c.Loose) : c'.Loose := by
  induction h with
  | refl => exact hloose
  | step _ hchange ih => exact hchange.loose (ih hloose)
  | classify _ _ _ hid _ hknown ih ih' => exact (ih' (ih hloose)).classify hid hknown

/-! ## The walk comes to an end -/

/-- What a request may bring about by itself, of a host that has no handlers. -/
def Scope.unchosen : Scope := { Scope.unhandled with choice := False }

theorem Scope.unchosen_within : Scope.unchosen.Within .unhandled :=
  ⟨False.elim, .refl _, id, fun _ => id, id, fun _ _ => id, id, id, id⟩

/-- The law of such a request, in which neither a pass nor a walk gets to its bound. -/
def reaching (host : Host) : Law :=
  between host .unchosen (countable.within Scope.unchosen_within) fun e => e.isRefusal = true

theorem roomy_reaching (host : Host) : (reaching host).Roomy :=
  .inr fun _ _ hb hdid => hdid.objects_le id hb

theorem lawful_reaching (host : Host) : (reaching host).Lawful := by
  refine lawful_between trivial (fun _ _ => id) (Law.Refuses.lenient ⟨id, .inr ?_⟩) (.inr ?_)
  · exact fun _ _ hb hdid => hdid.objects_le id hb
  · exact fun _ _ _ hb (hkept : countable.Holds _) hran =>
      hran.le_deliveryBound hb hkept.1 hkept.2

theorem at_reaching (h : (ending host).At c) : (reaching host).At c :=
  ⟨⟨h.sound, h.handled, h.kept⟩, h.rest⟩

/-- Marking an object fails only if something is refused on the way. -/
theorem markUnknown_fails (h : (ending host).At c) (ho : o.In c.extent) {e : InferError}
    (hrun : ((Request.markUnknown o).run host c).1 = .error e) : e.isRefusal = true := by
  have hat := at_reaching h
  have hmoves := Request.moves (r := .markUnknown o) (lawful_reaching host) hat
    (roomy_reaching host) ho trivial
  exact (Outcome.error hmoves hrun).2.2

/-! ## Objects about which nothing is known -/

/-- Nothing is known about an object any more, and the constraints of this sort that watched it have
asked for their scripts. -/
structure Lost (host : Host) (made : ConstraintId → Prop) (c : Compartment) (o : ObjectId) :
    Prop where
  unknown : (c.object o).isUnknown = true
  packed : (c.object o).isPacked = false
  dense : (c.object o).isDense = false
  kind : c.objectKind o = .unknown
  properties : ∀ p ∈ (c.object o).properties,
    .unknown ∈ (c.set p.types).types ∧ .unknown ∈ (c.set p.ownTypes).types
  told : ∀ id r kind spent, made id → c.Watched o id →
    c.constraint id = .freezeElementKind r kind spent → spent = true ∧ asked id c.journal = [r]
  again : (Request.markUnknown o).run host c = (.ok .done, c)

section Runs

variable {options : Options} {rs : List Request} {outcomes : List (Except InferError Answer)}
  (hrun : Request.runAll host rs (fresh options) = (outcomes, c))
  (hvalid : Request.ValidAlong host rs (fresh options)) (hok : ∀ o ∈ outcomes, o.isOk = true)
  (hnative : ∀ r ∈ rs, r.isNative = false)
include hrun hvalid hok hnative

/-- Between two requests, an unknown object is lost, whatever made it unknown. -/
theorem lost_of_unknown (hunknown : (c.object o).isUnknown = true) :
    Lost host (Request.MadeForKind host rs (fresh options)) c o := by
  have hredelivery : ∀ r ∈ rs, r.isRedelivery = true → True := fun _ _ _ => trivial
  obtain ⟨hat, hgood, -⟩ := Request.runAll_unhandled hrun hvalid hok hnative hredelivery
  have hresolved := resolved_of_good (fun h => h) hat hgood
  have hending := at_ending (congrArg Prod.snd hrun) hvalid hnative
  have hcounted : c.Listed ∧ c.SetsApart := hending.kept
  have hloose := hgood.did.loose (loose_fresh options) o hunknown
  rw [ObjectInfo.isLoose, Bool.and_eq_true, Bool.not_eq_true', Bool.not_eq_true'] at hloose
  refine ⟨hunknown, hloose.2, hloose.1, ?_, hresolved.forgets o hunknown, ?_, ?_⟩
  · rw [objectKind, hunknown]
    rfl
  · intro id r kind spent hmade hwatched hk
    obtain ⟨a, hupheld⟩ := Request.upheld_of_run hrun hvalid hok hnative hmade hk
    obtain rfl := hupheld.watched.unique hcounted.1 hcounted.2 hwatched
    obtain ⟨hspent, hasked⟩ := hupheld.told hunknown
    cases hk.symm.trans hspent
    exact ⟨rfl, hasked⟩
  · exact run_bind_ok (markUnknown_of_unknown (solve host) hunknown)

/-- In every compartment between two requests, marking an object fails only if something is refused
on the way.  If it succeeds, the object and everything that inherits from it is lost. -/
theorem marked_with_below (ho : o.In c.extent) :
    (∀ e, ((Request.markUnknown o).run host c).1 = .error e → e.isRefusal = true) ∧
      ∀ x c', (Request.markUnknown o).run host c = (.ok x, c') →
        ∀ a, a = o ∨ c'.Inherits a o →
          Lost host (Request.MadeForKind host rs (fresh options)) c' a := by
  refine ⟨fun e => markUnknown_fails (at_ending (congrArg Prod.snd hrun) hvalid hnative) ho, ?_⟩
  intro x c' hmark a ha
  -- The run goes on by one request.
  have hrun' : Request.runAll host (rs ++ [.markUnknown o]) (fresh options) =
      (outcomes ++ [.ok x], c') := by
    rw [Request.runAll_append, hrun]
    simp only [Request.runAll, hmark]
  have hvalid' : Request.ValidAlong host (rs ++ [.markUnknown o]) (fresh options) :=
    Request.along_append.mpr ⟨hvalid, by rw [hrun]; exact ⟨ho, trivial⟩⟩
  have hok' : ∀ o ∈ outcomes ++ [.ok x], o.isOk = true :=
    List.forall_mem_append.mpr ⟨hok, List.forall_mem_singleton.mpr rfl⟩
  have hnative' : ∀ r ∈ rs ++ [.markUnknown o], r.isNative = false :=
    List.forall_mem_append.mpr ⟨hnative, List.forall_mem_singleton.mpr rfl⟩
  have hredelivery : ∀ r ∈ rs ++ [.markUnknown o], r.isRedelivery = true → True :=
    fun _ _ _ => trivial
  obtain ⟨hat, hgood, hdone⟩ := Request.runAll_unhandled hrun' hvalid' hok' hnative' hredelivery
  have hmarked : (c'.object o).isUnknown = true :=
    hdone (.markUnknown o) (List.mem_append_right _ List.mem_cons_self)
  have hunknown : (c'.object a).isUnknown = true := by
    obtain rfl | hbelow := ha
    · exact hmarked
    · exact ((resolved_of_good (fun h => h) hat hgood).handedDown hbelow).spread hmarked
  have hlost := lost_of_unknown hrun' hvalid' hok' hnative' hunknown
  refine { hlost with told := fun id r kind spent hmade => hlost.told id r kind spent ?_ }
  obtain ⟨before, s, script, after, rfl, hmade⟩ := hmade
  exact ⟨before, s, script, after ++ [.markUnknown o], by simp, hmade⟩

end Runs

/-- An array and one that inherits from it; a script relies on the kind of the second one. -/
def watchedRun : List Request :=
  [.builtin .arrayPrototype, .typeObject none "above" false (some ⟨1⟩),
    .typeObject none "below" false (some ⟨3⟩), .newSet, .addType ⟨1⟩ (.object ⟨4⟩),
    .knownKind ⟨1⟩ (some ⟨5⟩)]

/-- The first array is marked, and the script that relies on the second one is queued. -/
theorem marked_with_below_array :
    let c := (Request.runAll .silent watchedRun (fresh {})).2
    let c' := ((Request.markUnknown ⟨3⟩).run .silent c).2
    c.objectKind ⟨4⟩ = .packedArray ∧ c'.objectKind ⟨4⟩ = .unknown ∧
      asked ⟨8⟩ c'.journal = [⟨5⟩] := by
  intro c c'
  have hrun : Request.runAll .silent watchedRun (fresh {}) =
      ((Request.runAll .silent watchedRun (fresh {})).1, c) := rfl
  have hmark : (Request.markUnknown ⟨3⟩).run .silent c = (.ok .done, c') :=
    Prod.ext (by decide +kernel) rfl
  have hmade : Request.MadeForKind .silent watchedRun (fresh {}) ⟨8⟩ :=
    ⟨watchedRun.take 5, ⟨1⟩, some ⟨5⟩, [], rfl, by decide +kernel, by decide +kernel⟩
  have hwatched : c'.Watched ⟨4⟩ ⟨8⟩ :=
    ⟨⟨.index, ⟨8⟩, ⟨9⟩⟩, by decide +kernel, by decide +kernel⟩
  have hproto : (c'.object ⟨4⟩).proto = some ⟨3⟩ := by decide +kernel
  have hk : c'.constraint ⟨8⟩ = .freezeElementKind ⟨5⟩ .packedArray true := by decide +kernel
  obtain ⟨-, hlost⟩ := marked_with_below hrun (by decide +kernel) (by decide +kernel)
    (by decide +kernel) (o := ⟨3⟩) (by decide +kernel)
  have hbelow := hlost .done c' hmark ⟨4⟩ (.inr (.proto hproto))
  exact ⟨by decide +kernel, hbelow.kind,
    (hbelow.told ⟨8⟩ ⟨5⟩ .packedArray true hmade hwatched hk).2⟩

end Compartment

end FlowTypes
