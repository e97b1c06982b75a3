import FlowTypes.Compartment.Query
import FlowTypes.Proofs.Actions.Observation
import FlowTypes.Proofs.Kinds

/-!
# How answers are frozen

A script that relies on a tag, a kind or the emptiness of a set has a constraint on the set.  For a
kind there is one more on the element types of each object that is in the set, so that every object
is watched from then on, unless it lost what was known about it while the others were looked at.

## Main results

* `Held.kept`: an object that is held stays so.
* `moves_knownKind`: every object of the set is held afterwards.
* `moves_knownTag`, `moves_knownNonEmpty`.
-/

namespace FlowTypes

namespace Compartment

variable {L : Law} {sc : Scope} {c c' : Compartment}

/-- Since an earlier moment the script was queued, or the object was marked, or the object is watched
and the kind that the script relies on fits it. -/
def Held (c : Compartment) (earlier : List Event) (r : ScriptId) (kind : Kind) (o : ObjectId) :
    Prop :=
  c.Since earlier (Event.queues r) ∨ c.Since earlier (Event.marks o) ∨
    (∃ es, c.journal = es ++ earlier) ∧ ∃ id, c.Watched o id ∧
      c.constraint id = .freezeElementKind r kind false ∧ c.Fits kind o

theorem Held.kept {earlier : List Event} {r : ScriptId} {kind : Kind} {o : ObjectId}
    (hc : c.Sound) (ho : o.In c.extent) (hdid : Did sc c c') (h : c.Held earlier r kind o) :
    c'.Held earlier r kind o := by
  have hgrows := hdid.grows hc
  obtain hqueued | hmarked | ⟨⟨es, hes⟩, id, hwatched, hid, hfits⟩ := h
  · exact .inl (hqueued.mono hgrows)
  · exact .inr (.inl (hmarked.mono hgrows))
  · obtain hid' | hqueued := hdid.unspent hc hid rfl
    · obtain hfits' | hqueued := hwatched.kept hc ho hdid hid hfits
      · obtain ⟨es', hes'⟩ := hgrows.journal
        refine .inr (.inr ⟨⟨es' ++ es, ?_⟩, id, hwatched.mono hgrows, hid', hfits'⟩)
        rw [← hes', hes, List.append_assoc]
      · exact .inl (hqueued.of_later hes)
    · exact .inl (hqueued.of_later hes)

/-- What holds since a moment holds since the moment before. -/
theorem Held.of_cons {d : Event} {before : List Event} {r : ScriptId} {kind : Kind} {o : ObjectId}
    (h : c.Held (d :: before) r kind o) : c.Held before r kind o := by
  have hsince : ∀ {P : Event → Prop}, c.Since (d :: before) P → c.Since before P := by
    rintro P ⟨later, e, hjournal, he, hP⟩
    exact ⟨later ++ [d], e, by rw [hjournal, List.append_assoc]; rfl,
      List.mem_append_left _ he, hP⟩
  refine h.imp hsince (Or.imp hsince (And.imp_left ?_))
  rintro ⟨es, hes⟩
  exact ⟨es ++ [d], by rw [hes, List.append_assoc]; rfl⟩

/-- A constraint begins to hold an answer. -/
theorem moves_freeze (h : L.At c) {source : SetId} {k : Constraint}
    (hasked : L.scope.grant.asks source k) (hsource : source.In c.extent) (hk : k.isFreeze = true) :
    L.Moves (discard <| addConstraint L.pass source k false) c fun _ c' =>
      c' = c.register source k false := by
  have hvalid : k.Valid c.extent := by
    cases k <;> trivial
  have hgood : L.Good c (c.register source k false) :=
    .of_calm (.traffic (.register (.inl hasked) hsource hvalid (.inl (.inr hk)))) (calm_register _ _ _)
  exact outcome_discard.mpr (outcome_of_ok rfl ⟨hgood, h.rest, rfl⟩)

/-- The host may have any answer frozen.  An answer about a kind is watched at the element types of
the objects. -/
structure Grant.Freezes (g : Grant) : Prop where
  elements : g.keys .index
  asks : ∀ s k, k.isFreeze = true → g.asks s k

section Lawful

variable (hL : L.Lawful)
include hL

theorem moves_knownTag (hfreezes : L.scope.grant.Freezes) (h : L.At c) {id : SetId}
    (hid : id.In c.extent) (script : Option ScriptId) :
    L.Moves (knownTag L.pass id script) c fun _ _ => True := by
  refine .get ?_
  dsimp only
  split
  · refine .bind hL.within h (moves_freeze h (hfreezes.asks _ _ rfl) hid rfl) ?_
    exact fun _ c' h' _ _ => .pure h' trivial
  · exact .pure h trivial

theorem moves_knownNonEmpty (hfreezes : L.scope.grant.Freezes) (h : L.At c) {id : SetId}
    (hid : id.In c.extent) (script : Option ScriptId) :
    L.Moves (knownNonEmpty L.pass id script) c fun _ _ => True := by
  refine .get ?_
  by_cases hempty : (c.set id).isEmpty = true
  · rw [if_pos hempty]
    cases script with
    | none => exact .pure h trivial
    | some script =>
      refine .bind hL.within h (moves_freeze h (hfreezes.asks _ _ rfl) hid rfl) ?_
      exact fun _ c' h' _ _ => .pure h' trivial
  · rw [if_neg hempty]
    exact .pure h trivial

/-- The element types of an object get a constraint that watches it. -/
theorem moves_watch (hroom : L.Roomy)
    (hfreezes : L.scope.grant.Freezes) (h : L.At c) {o : ObjectId} (ho : o.In c.extent)
    {r : ScriptId} {kind : Kind} (hkind : kind ≠ .unknown) {d : Event} {after before : List Event}
    (hjournal : c.journal = after ++ d :: before) (hd : d.isDelivery = true)
    (hfits : c.Fits kind o ∨ c.Since (d :: before) (Event.marks o)) :
    L.Moves (do
      let elements ← getProperty L.pass o .index false
      discard <| addConstraint L.pass elements (.freezeElementKind r kind false) false) c
        fun _ c' => c'.Held (d :: before) r kind o := by
  refine .bind hL.within h (moves_getProperty hL hroom h ho (.inl hfreezes.elements) false) ?_
  intro elements c₁ h₁ hgood₁ hanswers
  have hgrows₁ := hgood₁.grows h.sound
  have helements := hanswers.in h₁.sound.valid
  have hfits₁ : c₁.Fits kind o ∨ c₁.Since (d :: before) (Event.marks o) := by
    obtain hfits | hmarked := hfits
    · exact hfits.kept h.sound ho hjournal hd hgood₁.did
    · exact .inr (hmarked.mono hgrows₁)
  refine .imp h₁ (moves_freeze h₁ (hfreezes.asks _ _ rfl) helements rfl) ?_
  rintro _ _ - hgood₂ rfl
  have hgrows₂ := hgood₂.grows h₁.sound
  obtain hfits₁ | hmarked := hfits₁
  · obtain ⟨hunknown, -⟩ | ⟨p, hp, rfl⟩ := hanswers
    · rw [((fits_iff hkind).mp hfits₁).1] at hunknown
      cases hunknown
    · right
      right
      obtain ⟨es, hes⟩ := (hgrows₁.trans hgrows₂).journal
      refine ⟨⟨es ++ after, ?_⟩, ⟨c₁.constraints.size⟩, ⟨p, ?_, ?_⟩, ?_, ?_⟩
      · rw [← hes, hjournal, List.append_assoc]
      · rw [object_register]
        exact hp
      · rw [if_neg Bool.false_ne_true] at helements ⊢
        rw [mem_listeners_register helements]
        exact .inr ⟨rfl, rfl⟩
      · rw [constraint_register]
        exact if_pos rfl
      · rw [Fits, objectKind, object_register]
        exact hfits₁
  · exact .inr (.inl (hmarked.mono hgrows₂))

/-- The answer to a question about a kind holds for every object of the set. -/
theorem moves_knownKind (hroom : L.Roomy) (hfreezes : L.scope.grant.Freezes) (h : L.At c)
    {id : SetId} (hid : id.In c.extent) (script : Option ScriptId) :
    L.Moves (knownKind L.pass id script) c fun kind c' => kind = c.setKind id ∧
      ∀ r, script = some r → kind ≠ .unknown →
        Did L.scope (c.register id (.freezeKind r kind false) false) c' ∧
          ∀ o ∈ (c.set id).objectTypes, c'.Held c.journal r kind o := by
  refine .get ?_
  dsimp only
  cases script with
  | none => exact .pure h ⟨rfl, fun r hr => by cases hr⟩
  | some script =>
    by_cases hkind : c.setKind id = .unknown
    · dsimp only
      rw [if_pos hkind]
      exact .pure h ⟨rfl, fun r _ hne => absurd hkind hne⟩
    · dsimp only
      rw [if_neg hkind]
      refine .bind hL.within h (moves_freeze h (hfreezes.asks _ _ rfl) hid rfl) ?_
      rintro _ b hb hgood hregister
      have hjournal : b.journal =
          [] ++ .constraintAdded id ⟨c.constraints.size⟩ false :: c.journal := by
        rw [hregister, journal_register, List.nil_append]
      have htypes : (b.set id).objectTypes = (c.set id).objectTypes := by
        rw [hregister, TypeSet.objectTypes, types_register hid, TypeSet.objectTypes]
      have hin : ∀ o ∈ (c.set id).objectTypes, o.In b.extent := fun o ho =>
        (in_of_mem_objectTypes h.sound.valid ho).mono (hgood.grows h.sound).extent
      have hfits : ∀ o ∈ (c.set id).objectTypes, b.Fits (c.setKind id) o := by
        intro o ho
        rw [hregister, Fits, objectKind, object_register]
        exact fits_setKind hkind ho
      refine .get ?_
      rw [htypes]
      refine .bind hL.within hb (.forM hL.within hb (I := fun _ => True)
        (Q := fun o c' => o.In c'.extent ∧ c'.Held
          (.constraintAdded id ⟨c.constraints.size⟩ false :: c.journal) script (c.setKind id) o)
        trivial ?_ ?_) ?_
      · rintro o c' c'' h' hgood' ⟨ho, hheld⟩
        exact ⟨ho.mono (hgood'.grows h'.sound).extent, hheld.kept h'.sound ho hgood'.did⟩
      · intro o ho c' h' hgood' _
        have hgrows' := hgood'.grows hb.sound
        obtain ⟨es, hes⟩ := hgrows'.journal
        have hjournal' : c'.journal =
            es ++ .constraintAdded id ⟨c.constraints.size⟩ false :: c.journal := by
          rw [← hes, hjournal, List.nil_append]
        have ho' := (hin o ho).mono hgrows'.extent
        refine .imp h' (moves_watch hL hroom hfreezes h' ho' hkind hjournal' rfl
          ((hfits o ho).kept hb.sound (hin o ho) hjournal rfl hgood'.did)) ?_
        exact fun _ c'' h'' hgood'' hheld =>
          ⟨trivial, ho'.mono (hgood''.grows h'.sound).extent, hheld⟩
      · rintro _ c' h' hgood' ⟨-, hall⟩
        refine .pure h' ⟨rfl, ?_⟩
        rintro r ⟨⟩ -
        exact ⟨hregister ▸ hgood'.did, fun o ho => (hall o ho).2.of_cons⟩

end Lawful

end Compartment

end FlowTypes
