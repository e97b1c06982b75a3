import FlowTypes.Proofs.Traffic

/-!
# How the kinds of objects change

An object loses what is known about it only after that was written down.  Otherwise it keeps its
kind, with two exceptions that nobody is told about: a function may be connected with a script or be
made native, and an object that gets a prototype may become an array.

A freeze constraint that is not spent stays as it is until its script is queued.

## Main results

* `Fits.kept`: a kind goes on to fit an object until the object is marked.
* `Change.unspent`: a freeze constraint stays until its script is queued.
* `Watched.kept`: a kind goes on to fit a watched object until the script that relies on it is
  queued.
-/

namespace FlowTypes

/-- A kind that functions have. -/
def Kind.isFunction : Kind → Bool
  | scriptedFunction | nativeFunction => true
  | _ => false

/-- The event says that a script has to be compiled again. -/
def Event.queues (r : ScriptId) : Event → Prop
  | .recompileQueued s _ => s = r
  | _ => False

instance (r : ScriptId) : DecidablePred (Event.queues r) := fun e => by
  cases e <;> unfold Event.queues <;> infer_instance

instance (id : ObjectId) : DecidablePred (Event.marks id) := fun e => by
  cases e <;> unfold Event.marks <;> infer_instance

namespace Compartment

variable {sc : Scope} {c c' c'' : Compartment}

/-! ## What has happened since -/

/-- An event of this sort was written down on top of an earlier journal. -/
def Since (c : Compartment) (earlier : List Event) (P : Event → Prop) : Prop :=
  ∃ later e, c.journal = later ++ earlier ∧ e ∈ later ∧ P e

theorem Since.mono {earlier : List Event} {P : Event → Prop} (hgrows : c.Grows c')
    (h : c.Since earlier P) : c'.Since earlier P := by
  obtain ⟨later, e, hjournal, he, hP⟩ := h
  obtain ⟨more, hmore⟩ := hgrows.journal
  refine ⟨more ++ later, e, ?_, List.mem_append_right _ he, hP⟩
  rw [← hmore, hjournal, List.append_assoc]

/-- What happened since a later moment happened since an earlier one. -/
theorem Since.of_later {earlier : List Event} {P : Event → Prop} {es : List Event}
    (hearlier : c.journal = es ++ earlier) (h : c'.Since c.journal P) : c'.Since earlier P := by
  obtain ⟨later, e, hjournal, he, hP⟩ := h
  refine ⟨later ++ es, e, ?_, List.mem_append_left _ he, hP⟩
  rw [hjournal, hearlier, List.append_assoc]

/-- An object that has just been marked was marked after the latest delivery. -/
theorem JustMarked.since {id : ObjectId} {d : Event} {after before : List Event}
    (h : c.JustMarked id) (hjournal : c.journal = after ++ d :: before)
    (hd : d.isDelivery = true) : c.Since (d :: before) (Event.marks id) := by
  obtain ⟨es, e, rest, hmarked, he, hes⟩ := h
  have hne : e ≠ d := by
    rintro rfl
    cases e <;> first | exact he | cases hd
  have hold : e :: rest <:+ c.journal := hmarked ▸ List.suffix_append _ _
  have hnew : d :: before <:+ c.journal := hjournal ▸ List.suffix_append _ _
  obtain ⟨mid, hmid⟩ | ⟨mid, hmid⟩ := List.suffix_or_suffix_of_suffix hold hnew
  · -- The delivery would be younger than the mark.
    cases mid with
    | nil => exact absurd (List.cons.inj hmid).1 hne
    | cons x mid =>
      obtain ⟨rfl, rfl⟩ := List.cons.inj hmid
      have hsplit : es ++ e :: rest = (after ++ x :: mid) ++ e :: rest := by
        rw [List.append_assoc]
        exact hmarked.symm.trans hjournal
      have hes' := List.append_cancel_right hsplit
      have hquiet := hes x (hes' ▸ List.mem_append_right _ List.mem_cons_self)
      rw [hd] at hquiet
      cases hquiet
  · cases mid with
    | nil => exact absurd (List.cons.inj hmid).1.symm hne
    | cons x mid =>
      obtain ⟨rfl, rfl⟩ := List.cons.inj hmid
      refine ⟨es ++ x :: mid, x, ?_, List.mem_append_right _ List.mem_cons_self, he⟩
      rw [List.append_assoc]
      exact hmarked

/-! ## Objects keep what is known about them -/

/-- The object has the same marks, and is a function as before. -/
structure Steady (c c' : Compartment) (o : ObjectId) : Prop where
  unknown : (c'.object o).isUnknown = (c.object o).isUnknown
  dense : (c'.object o).isDense = (c.object o).isDense
  packed : (c'.object o).isPacked = (c.object o).isPacked

theorem steady_iff {o : ObjectId} : Steady c c' o ↔
    (c'.object o).isUnknown = (c.object o).isUnknown ∧
      (c'.object o).isDense = (c.object o).isDense ∧
        (c'.object o).isPacked = (c.object o).isPacked :=
  ⟨fun h => ⟨h.unknown, h.dense, h.packed⟩, fun h => ⟨h.1, h.2.1, h.2.2⟩⟩

theorem Steady.of_eq {o : ObjectId} (h : c'.object o = c.object o) : Steady c c' o := by
  constructor <;> rw [h]

theorem steady_changeObject {id o : ObjectId} (hid : id.In c.extent)
    {f : ObjectInfo → ObjectInfo} (hunknown : ∀ i, (f i).isUnknown = i.isUnknown)
    (hdense : ∀ i, (f i).isDense = i.isDense) (hpacked : ∀ i, (f i).isPacked = i.isPacked) :
    Steady c (c.changeObject id f) o := by
  constructor
  · rw [object_changeObject hid]
    split
    · exact hunknown _
    · rfl
  · rw [object_changeObject hid]
    split
    · exact hdense _
    · rfl
  · rw [object_changeObject hid]
    split
    · exact hpacked _
    · rfl

/-- A change leaves the marks of an object alone, or demotes it. -/
theorem Change.steady (h : c.Change sc c') (o : ObjectId) :
    Steady c c' o ∨ c.JustMarked o ∧ o.In c.extent ∧ ∃ f : ObjectInfo → ObjectInfo,
      (c.object o).Demoted (f (c.object o)) ∧ c' = (c.changeObject o f).notifyKind o := by
  cases h with
  | traffic h => exact .inl (.of_eq (by rw [object, h.objects_eq.1, object]))
  | aside h => exact .inl (.of_eq (by rw [object, h.objects, object]))
  | @pushObject name function =>
    left
    rw [steady_iff, object_pushObject_eq]
    exact ⟨rfl, rfl, rfl⟩
  | pushProperty howner =>
    left
    constructor <;>
    · rw [object_pushProperty howner]
      split <;> rfl
  | setProto hid hproto _ hne =>
    left
    constructor <;>
    · rw [object_setProto hid hproto hne]
  | memo hid | retool hid | possiblyPacked _ hid =>
    exact .inl (steady_changeObject hid (fun _ => rfl) (fun _ => rfl) fun _ => rfl)
  | @demote id f hid hf hmarked =>
    by_cases hido : id = o
    · subst hido
      exact .inr ⟨hmarked, hid, f, hf, rfl⟩
    · refine .inl (.of_eq ?_)
      rw [object_notifyKind, object_changeObject hid, if_neg hido]
  | spend | handOut | pushSet | builtin | pushSite | changeSite => exact .inl (.of_eq rfl)

/-! ## Kinds that fit -/

/-- The kind of an object goes with the kind of a set.  A function goes with any kind of functions as
long as its kind is known. -/
def Fits (c : Compartment) (kind : Kind) (o : ObjectId) : Prop :=
  kind.combine (c.objectKind o) = kind ∨
    kind.isFunction = true ∧ c.objectKind o ≠ .unknown

theorem fits_unknown (c : Compartment) (o : ObjectId) : c.Fits .unknown o := by
  left
  cases c.objectKind o <;> rfl

theorem combine_foldl {α : Type} (kindOf : α → Kind) {os : List α} {o : α} (ho : o ∈ os)
    (kind : Kind) : (os.foldl (fun k o => k.combine (kindOf o)) kind).combine (kindOf o) =
      os.foldl (fun k o => k.combine (kindOf o)) kind := by
  have hall : ∀ (os : List α) (kind k : Kind), kind.combine k = kind →
      (os.foldl (fun k o => k.combine (kindOf o)) kind).combine k =
        os.foldl (fun k o => k.combine (kindOf o)) kind := by
    intro os
    induction os with
    | nil => exact fun kind k h => h
    | cons a os ih =>
      intro kind k h
      refine ih _ k ?_
      rw [Kind.combine_assoc, Kind.combine_comm (kindOf a), ← Kind.combine_assoc, h]
  induction os generalizing kind with
  | nil => cases ho
  | cons a os ih =>
    obtain rfl | ho := List.mem_cons.mp ho
    · refine hall os _ _ ?_
      rw [Kind.combine_assoc, Kind.combine_self]
    · exact ih ho _

/-- The kind of a set fits its objects. -/
theorem fits_setKind {s : SetId} {o : ObjectId} (hknown : c.setKind s ≠ .unknown)
    (ho : o ∈ (c.set s).objectTypes) : c.Fits (c.setKind s) o := by
  left
  unfold setKind at hknown ⊢
  dsimp only at hknown ⊢
  split at hknown
  · exact absurd rfl hknown
  · rename_i hs
    rw [if_neg hs]
    exact combine_foldl c.objectKind ho .none

/-- What an object has to be for a kind to fit it. -/
theorem fits_iff {kind : Kind} (hkind : kind ≠ .unknown) {o : ObjectId} :
    c.Fits kind o ↔ (c.object o).isUnknown = false ∧
      ((kind.isFunction = true ∧ ((c.object o).isPacked = true ∨ (c.object o).isDense = true ∨
          (c.object o).isFunction = true)) ∨
        kind.isArray = true ∧ ((c.object o).isPacked = true ∨
          kind = .denseArray ∧ (c.object o).isDense = true)) := by
  unfold Fits objectKind ObjectInfo.isFunction
  generalize c.object o = i
  obtain ⟨-, -, -, -, -, unknown, dense, packed, -, function⟩ := i
  cases unknown <;> cases packed <;> cases dense <;> cases function with
  | none => cases kind <;> simp_all [Kind.combine, Kind.isFunction, Kind.isArray]
  | some f =>
    cases hnative : f.isNative <;> cases kind <;>
      simp_all [Kind.combine, Kind.isFunction, Kind.isArray]

/-- A kind goes on to fit an object that loses nothing. -/
theorem Fits.raise {kind : Kind} {o : ObjectId} (h : c.Fits kind o)
    (hunknown : (c.object o).isUnknown = false → (c'.object o).isUnknown = false)
    (hdense : (c.object o).isDense = true → (c'.object o).isDense = true)
    (hpacked : (c.object o).isPacked = true → (c'.object o).isPacked = true)
    (hfunction : (c.object o).isFunction = true → (c'.object o).isFunction = true) :
    c'.Fits kind o := by
  by_cases hkind : kind = .unknown
  · rw [hkind]
    exact fits_unknown c' o
  · rw [fits_iff hkind] at h ⊢
    refine ⟨hunknown h.1, h.2.imp ?_ ?_⟩
    · exact And.imp_right (Or.imp hpacked (Or.imp hdense hfunction))
    · exact And.imp_right (Or.imp hpacked (And.imp_right hdense))

theorem Fits.steady {kind : Kind} {o : ObjectId} (h : c.Fits kind o) (hgrows : c.Grows c')
    (ho : o.In c.extent) (hsteady : Steady c c' o) : c'.Fits kind o :=
  h.raise (fun hu => hsteady.unknown.trans hu) (fun hd => hsteady.dense.trans hd)
    (fun hp => hsteady.packed.trans hp) fun hf => (hgrows.isFunction o ho).trans hf

theorem Fits.classify {kind : Kind} {o id : ObjectId} (h : c.Fits kind o) (hid : id.In c.extent) :
    (c.classify id).Fits kind o := by
  have hobject : ∀ o, (c.classify id).object o = if id = o then
      { c.object o with isDense := true, isPacked := true } else c.object o :=
    object_changeObject hid _
  refine h.raise ?_ ?_ ?_ ?_ <;>
  · intro h
    rw [hobject]
    split
    · first | rfl | exact h
    · exact h

/-- A kind goes on to fit an object until the object is marked. -/
theorem Fits.kept {kind : Kind} {o : ObjectId} (hc : c.Sound) (ho : o.In c.extent)
    {d : Event} {after before : List Event} (hjournal : c.journal = after ++ d :: before)
    (hd : d.isDelivery = true) (h : Did sc c c') (hfits : c.Fits kind o) :
    c'.Fits kind o ∨ c'.Since (d :: before) (Event.marks o) := by
  induction h generalizing after with
  | refl => exact .inl hfits
  | @step _ b b' h hchange ih =>
    have hsound := h.sound hc
    have hgrows := hchange.grows hsound.valid
    obtain hfits' | hmarked := ih hc ho hjournal hfits
    · have ho' := ho.mono (h.grows hc).extent
      obtain hsteady | ⟨hjust, -⟩ := hchange.steady o
      · exact .inl (hfits'.steady hgrows ho' hsteady)
      · obtain ⟨es, hes⟩ := (h.grows hc).journal
        have hjournal' : b.journal = (es ++ after) ++ d :: before := by
          rw [← hes, hjournal, List.append_assoc]
        exact .inr ((hjust.since hjournal' hd).mono hgrows)
    · exact .inr (hmarked.mono hgrows)
  | @classify _ c₁ c₂ id h _ h' hid _ _ ih ih' =>
    have hsound₁ := h.sound hc
    have hgrows₁ := h.grows hc
    obtain hfits₁ | hmarked := ih hc ho hjournal hfits
    · obtain ⟨es, hes⟩ := hgrows₁.journal
      have hjournal₁ : c₁.journal = (es ++ after) ++ d :: before := by
        rw [← hes, hjournal, List.append_assoc]
      obtain hfits₂ | hmarked := ih' hsound₁ (ho.mono hgrows₁.extent) hjournal₁ hfits₁
      · exact .inl (hfits₂.classify hid)
      · exact .inr (hmarked.mono (grows_classify hid))
    · exact .inr (hmarked.mono ((h'.grows hsound₁).trans (grows_classify hid)))

/-! ## Arrays -/

/-- Only an object with a prototype is taken for an array. -/
def ArraysInherit (c : Compartment) : Prop :=
  ∀ o, (c.object o).isDense = true ∨ (c.object o).isPacked = true → (c.object o).proto ≠ none

theorem arraysInherit_fresh (options : Options) : (fresh options).ArraysInherit := by
  rintro ⟨i⟩ h
  cases i <;> cases h <;> contradiction

theorem proto_of_isArray {id : ObjectId} (h : c.isArray id = true) : (c.object id).proto ≠ none := by
  intro hnone
  unfold isArray at h
  split at h
  · cases h
  · rw [chain, hnone] at h
    cases hsize : c.objects.size <;> rw [hsize] at h <;> cases h

theorem Did.arraysInherit (hc : c.Sound) (h : Did sc c c') (harrays : c.ArraysInherit) :
    c'.ArraysInherit := by
  induction h with
  | refl => exact harrays
  | @step _ b b' h hchange ih =>
    have hgrows := hchange.grows (h.sound hc).valid
    intro o ho
    refine hgrows.proto_ne_none (ih hc harrays o ?_)
    obtain hsteady | ⟨-, hin, f, hf, rfl⟩ := hchange.steady o
    · rwa [hsteady.dense, hsteady.packed] at ho
    · rw [object_notifyKind, object_changeObject hin, if_pos rfl] at ho
      exact ho.imp hf.dense hf.packed
  | @classify _ c₁ c₂ a h _ h' ha harray _ ih ih' =>
    have hsound₁ := h.sound hc
    have hall := ih' hsound₁ (ih hc harrays)
    intro o ho
    refine (grows_classify ha).proto_ne_none ?_
    by_cases hao : a = o
    · exact hao ▸ proto_of_isArray harray
    · rw [Compartment.classify, object_changeObject ha, if_neg hao] at ho
      exact hall o ho

/-- An object with a prototype is not taken for an array, if it was not. -/
theorem Did.notReclassified (hstrict : ¬ sc.reclassifies) (hc : c.Sound) (h : Did sc c c')
    {o : ObjectId} (hproto : (c.object o).proto ≠ none) :
    ((c'.object o).isPacked = true → (c.object o).isPacked = true) ∧
      ((c'.object o).isDense = true → (c.object o).isDense = true) := by
  induction h with
  | refl => exact ⟨id, id⟩
  | @step _ b b' h hchange ih =>
    obtain ⟨hpacked, hdense⟩ := ih hc hproto
    obtain hsteady | ⟨-, hin, f, hf, rfl⟩ := hchange.steady o
    · rw [hsteady.packed, hsteady.dense]
      exact ⟨hpacked, hdense⟩
    · rw [object_notifyKind, object_changeObject hin, if_pos rfl]
      exact ⟨hpacked ∘ hf.packed, hdense ∘ hf.dense⟩
  | @classify _ c₁ c₂ a h hnone h' ha _ _ ih ih' =>
    have hproto₁ := (h.grows hc).proto_ne_none hproto
    have hne : a ≠ o := by
      rintro rfl
      exact hproto₁ (hnone.resolve_left hstrict)
    obtain ⟨hpacked, hdense⟩ := ih hc hproto
    obtain ⟨hpacked', hdense'⟩ := ih' (h.sound hc) hproto₁
    rw [Compartment.classify, object_changeObject ha, if_neg hne]
    exact ⟨hpacked ∘ hpacked', hdense ∘ hdense'⟩

/-! ## Freeze constraints that are not spent -/

section Unspent

variable {id : ConstraintId} {k : Constraint} {r : ScriptId}

theorem unspent_spend (hid : c.constraint id = k) (hheld : k.heldFor? = some r)
    {other : ConstraintId} {script : ScriptId}
    (hother : (c.constraint other).heldFor? = some script) :
    (c.spend other script).constraint id = k ∨
      (c.spend other script).Since c.journal (Event.queues r) := by
  by_cases hsame : other = id
  · subst hsame
    rw [hid, hheld] at hother
    cases hother
    exact .inr ⟨[.recompileQueued r (.frozen other)], _, rfl, List.mem_cons_self, rfl⟩
  · left
    have hconstraint := constraint_changeConstraint (in_of_heldFor hother) Constraint.spend id
    rw [if_neg hsame, hid] at hconstraint
    exact hconstraint

theorem unspent_notifyKind (hid : c.constraint id = k) (hheld : k.heldFor? = some r)
    (o : ObjectId) : (c.notifyKind o).constraint id = k ∨
      (c.notifyKind o).Since c.journal (Event.queues r) := by
  have hkept : (c.notifyKind o).constraint id = k ∧ (∃ es, (c.notifyKind o).journal = es ++ c.journal) ∨
      (c.notifyKind o).Since c.journal (Event.queues r) := by
    refine notifyKind_induction (P := fun b => b.constraint id = k ∧
      (∃ es, b.journal = es ++ c.journal) ∨ b.Since c.journal (Event.queues r)) ?_ o
      (.inl ⟨hid, [], rfl⟩)
    intro b other script kind hk hkept
    have hother := heldFor_of_elementKind hk
    obtain ⟨hb, es, hes⟩ | hsince := hkept
    · obtain hsame | hqueued := unspent_spend hb hheld hother
      · exact .inl ⟨hsame, .recompileQueued script (.frozen other) :: es, congrArg (_ :: ·) hes⟩
      · exact .inr (hqueued.of_later hes)
    · exact .inr (hsince.mono (grows_spend (in_of_heldFor hother) script))
  exact hkept.imp_left And.left

/-- A freeze constraint stays as it is until its script is queued. -/
theorem Change.unspent (h : c.Change sc c') (hid : c.constraint id = k)
    (hheld : k.heldFor? = some r) :
    c'.constraint id = k ∨ c'.Since c.journal (Event.queues r) := by
  cases h with
  | traffic h =>
    have hfreeze : (c.constraint id).isFreeze = true := hid ▸ Constraint.isFreeze_of_heldFor hheld
    exact .inl ((h.freeze_eq hfreeze).trans hid)
  | aside h =>
    left
    rw [constraint, h.constraints]
    exact hid
  | @demote o f => exact unspent_notifyKind (c := c.changeObject o f) hid hheld o
  | spend hother => exact unspent_spend hid hheld hother
  | handOut | pushSet | pushObject | pushProperty | setProto | memo | retool | possiblyPacked |
    builtin | pushSite | changeSite => exact .inl hid

/-- The same for a sequence of changes. -/
theorem Did.unspent (hc : c.Sound) (h : Did sc c c') (hid : c.constraint id = k)
    (hheld : k.heldFor? = some r) :
    c'.constraint id = k ∨ c'.Since c.journal (Event.queues r) := by
  induction h with
  | refl => exact .inl hid
  | @step _ b b' h hchange ih =>
    have hsound := h.sound hc
    obtain hb | hsince := ih hc hid
    · obtain ⟨es, hes⟩ := (h.grows hc).journal
      exact (hchange.unspent hb hheld).imp_right (Since.of_later hes.symm)
    · exact .inr (hsince.mono (hchange.grows hsound.valid))
  | @classify _ c₁ c₂ o h _ h' ho _ _ ih ih' =>
    have hsound₁ := h.sound hc
    obtain hb | hsince := ih hc hid
    · obtain ⟨es, hes⟩ := (h.grows hc).journal
      refine (ih' hsound₁ hb).imp (fun hb => hb) fun hqueued => ?_
      exact (hqueued.of_later hes.symm).mono (grows_classify ho)
    · exact .inr (hsince.mono ((h'.grows hsound₁).trans (grows_classify ho)))

end Unspent

/-! ## Watched objects -/

/-- A freeze constraint listens at the element types of an object. -/
def Watched (c : Compartment) (o : ObjectId) (id : ConstraintId) : Prop :=
  ∃ p, (c.object o).property? .index = some p ∧ id ∈ (c.set p.types).constraints

theorem Watched.mono {o : ObjectId} {id : ConstraintId} (hgrows : c.Grows c')
    (h : c.Watched o id) : c'.Watched o id := by
  obtain ⟨p, hp, hid⟩ := h
  exact ⟨p, hgrows.property? hp, (hgrows.set p.types).constraints.subset hid⟩

/-- Telling one constraint leaves the others alone, and those that hold no answer any more. -/
theorem constraint_kindChanged {l id : ConstraintId} {new : Kind}
    (h : l = id → (c.constraint id).heldFor? = none) :
    (c.kindChanged l new).constraint id = c.constraint id := by
  unfold kindChanged
  split
  · rename_i script kind hk
    split
    · rfl
    · have hheld := heldFor_of_elementKind hk
      refine (constraint_changeConstraint (in_of_heldFor hheld) Constraint.spend id).trans
        (if_neg ?_)
      rintro rfl
      rw [h rfl] at hheld
      cases hheld
  · rfl

section Watched

variable {o : ObjectId} {id : ConstraintId} {r : ScriptId} {kind : Kind}

/-- A listener whose answer no longer fits is spent. -/
theorem spent_of_told {new : Kind} {listeners : List ConstraintId} (hmem : id ∈ listeners)
    (hid : c.constraint id = .freezeElementKind r kind false) (hnew : kind.combine new ≠ kind) :
    (listeners.foldl (fun c l => c.kindChanged l new) c).constraint id =
      .freezeElementKind r kind true := by
  have hspent : ∀ (ls : List ConstraintId) (b : Compartment),
      b.constraint id = .freezeElementKind r kind true →
        (ls.foldl (fun c l => c.kindChanged l new) b).constraint id =
          .freezeElementKind r kind true := by
    intro ls
    induction ls with
    | nil => exact fun b hb => hb
    | cons l ls ih =>
      exact fun b hb => ih _ ((constraint_kindChanged fun _ => by rw [hb]; rfl).trans hb)
  induction listeners generalizing c with
  | nil => cases hmem
  | cons l ls ih =>
    rw [List.foldl_cons]
    by_cases hl : l = id
    · subst hl
      have htold : c.kindChanged l new = c.spend l r := by
        rw [kindChanged, hid]
        exact if_neg hnew
      rw [htold]
      refine hspent ls _ ?_
      refine (constraint_changeConstraint (in_of_heldFor (heldFor_of_elementKind hid)) _ l).trans ?_
      rw [if_pos rfl, hid]
      rfl
    · refine ih ((List.mem_cons.mp hmem).resolve_left (Ne.symm hl)) ?_
      exact (constraint_kindChanged fun h => absurd h hl).trans hid

/-- A kind goes on to fit a watched object as long as the constraint that relies on it is not
spent. -/
theorem Watched.fits (hc : c.Sound) (ho : o.In c.extent) (h : Did sc c c')
    (hwatched : c.Watched o id)
    (hfits : c.constraint id = .freezeElementKind r kind false → c.Fits kind o) :
    c'.constraint id = .freezeElementKind r kind false → c'.Fits kind o := by
  refine (h.change_induction (P := fun b => c.Grows b ∧
    (b.constraint id = .freezeElementKind r kind false → b.Fits kind o)) hc ?_ ?_
    ⟨Grows.refl c, hfits⟩).2
  · rintro a b ha hchange ⟨hgrows, hfits⟩
    have hgrows' := hchange.grows ha.valid
    refine ⟨hgrows.trans hgrows', fun hid => ?_⟩
    have hin : id.In c.extent := by
      obtain ⟨p, -, hlistens⟩ := hwatched
      exact (hc.valid.sets p.types).constraints id hlistens
    have hid' := ((hgrows'.constraint id (hin.mono hgrows.extent)).eq_of_held
      (r := r) (by rw [hid]; rfl)).trans hid
    obtain hsteady | ⟨-, ho', f, hf, rfl⟩ := hchange.steady o
    · exact (hfits hid').steady hgrows' (ho.mono hgrows.extent) hsteady
    · -- The object is demoted, and its listeners are told.
      by_cases hnew : kind.combine ((a.changeObject o f).objectKind o) = kind
      · left
        rw [objectKind, object_notifyKind]
        exact hnew
      · obtain ⟨p, hp, hmem⟩ := hwatched.mono hgrows
        have hp' : ((a.changeObject o f).object o).property? .index = some p := by
          rw [object_changeObject ho', if_pos rfl, ObjectInfo.property?, hf.properties]
          exact hp
        rw [notifyKind, hp'] at hid
        cases hid.symm.trans (spent_of_told (c := a.changeObject o f) hmem hid' hnew)
  · rintro a x - hx ⟨hgrows, hfits⟩
    exact ⟨hgrows.trans (grows_classify hx), fun hid => (hfits hid).classify hx⟩

/-- A kind goes on to fit a watched object until the script that relies on it is queued. -/
theorem Watched.kept (hc : c.Sound) (ho : o.In c.extent) (h : Did sc c c')
    (hwatched : c.Watched o id) (hid : c.constraint id = .freezeElementKind r kind false)
    (hfits : c.Fits kind o) : c'.Fits kind o ∨ c'.Since c.journal (Event.queues r) :=
  (h.unspent hc hid rfl).imp_left (hwatched.fits hc ho h fun _ => hfits)

end Watched

end Compartment

end FlowTypes
