import FlowTypes.Proofs.Deliveries
import FlowTypes.Proofs.Actions.Freeze

/-!
# Kinds that are held

A script that relies on the kind of the objects of a set has this kind held by a constraint on the
set, which hears of the types that join it, and by one on the element types of every object that is
in the set when the kind is asked for, which hears when the object loses what is known about it.

Nothing watches the objects that join the set later.  One of them goes with the kind when it joins;
but when it loses what is known about it after that, the kind of the set changes and the script is
not compiled again (`kind_frozen_late`).  Nor is anything told when a function changes its kind, by
getting a script, a native handler or `Array.prototype` as its prototype.

Apart from these a kind that was asked for holds until the script is queued.

## Main results

* `Did.told`: a constraint has heard of every type that joined its set, or has yet to.
* `Did.went_with`, `Joined.fits`: the kind fits an object when it joins, and goes on to.
* `Held.fits`: it goes on to fit an object that was there.
* `setKind_of_fits`: if the kind fits all objects, it is the kind of the set.
* `kind_frozen`: what holds of this for every run.
-/

namespace FlowTypes

namespace Compartment

variable {sc : Scope} {c c' : Compartment}

/-! ## What a constraint has heard of -/

/-- What was heard of was heard of by constraints that are there. -/
theorem Did.known (hc : c.Sound) (h : Did sc c c')
    (hknown : ∀ w, .fired w ∈ c.journal → w.constraint.In c.extent) :
    ∀ w, .fired w ∈ c'.journal → w.constraint.In c'.extent := by
  have hextend : ∀ (a b : Compartment) {e : Event},
      (∀ w, .fired w ∈ a.journal → w.constraint.In a.extent) →
      a.constraints.size ≤ b.constraints.size → b.journal = e :: a.journal →
      (∀ w, e ≠ .fired w) → ∀ w, .fired w ∈ b.journal → w.constraint.In b.extent := by
    intro a b e ha hsize hjournal he w hw
    rw [hjournal] at hw
    exact Nat.lt_of_lt_of_le (ha w ((List.mem_cons.mp hw).resolve_left fun h => he w h.symm)) hsize
  refine h.delivery_induction (P := fun b => ∀ w, .fired w ∈ b.journal → w.constraint.In b.extent)
    hc ?_ ?_ ?_ ?_ ?_ ?_ hknown
  · intro a b hstill ha w hw
    obtain ⟨es, hes, hquiet⟩ := hstill.journal
    rw [hes, List.mem_append] at hw
    exact Nat.lt_of_lt_of_le (ha w (hw.resolve_left fun hmem => by cases hquiet _ hmem))
      (Nat.le_of_eq hstill.count.symm)
  · exact fun a target t _ _ ha => hextend a (a.insertType target t) ha (Nat.le_refl _) rfl nofun
  · intro a source k ce _ _ ha
    refine hextend a _ ha ?_ (journal_register k ce) nofun
    rw [size_register]
    exact Nat.le_succ _
  · intro a work rest _ hvalid hnext ha w hw
    obtain hw | hw := List.mem_cons.mp hw
    · cases hw
      refine (hvalid.pending work ?_).constraint
      rw [Worklist.pending_of_next? hnext]
      exact List.mem_cons_self
    · exact ha w hw
  · exact fun a _ _ ha => ha
  · exact fun a e _ ha => hextend a (a.abandon e) ha (Nat.le_refl _) rfl nofun

/-- A constraint has heard of every type that joined its set since, or has yet to. -/
theorem Did.told (haborts : ¬ sc.aborts) (hc : c.Sound) (h : Did sc c c') {s : SetId}
    {id : ConstraintId} (hid : id ∈ (c.set s).constraints) {t : Ty} (ht : t ∈ (c'.set s).types) :
    t ∈ (c.set s).types ∨ ⟨id, s, t⟩ ∈ c'.worklist.pending ∨ .fired ⟨id, s, t⟩ ∈ c'.journal := by
  refine (h.delivery_induction (P := fun b => id ∈ (b.set s).constraints ∧ ∀ t ∈ (b.set s).types,
    t ∈ (c.set s).types ∨ ⟨id, s, t⟩ ∈ b.worklist.pending ∨ .fired ⟨id, s, t⟩ ∈ b.journal)
    hc ?_ ?_ ?_ ?_ ?_ ?_ ⟨hid, fun _ => .inl⟩).2 t ht
  · rintro a b hstill ⟨hid, ha⟩
    obtain ⟨es, hes, -⟩ := hstill.journal
    rw [hstill.listeners, hstill.types, hstill.pending, hes]
    exact ⟨hid, fun t ht => (ha t ht).imp_right (.imp_right (List.mem_append_right es))⟩
  · rintro a target u htarget hnew ⟨hid, ha⟩
    rw [constraints_insertType htarget, types_insertType htarget u hnew, pending_insertType,
      journal_insertType]
    refine ⟨hid, fun t ht => ?_⟩
    have hold := fun ht => (ha t ht).imp_right (Or.imp (List.mem_append_left
      ((a.set target).constraints.map fun id => (⟨id, target, u⟩ : Work)))
        (List.mem_cons_of_mem (Event.typeAdded target u)))
    split at ht
    · rename_i htarget
      subst htarget
      obtain ht | ht := List.mem_append.mp ht
      · exact hold ht
      · rw [List.mem_singleton.mp ht]
        exact .inr (.inl (List.mem_append_right _ (List.mem_map.mpr ⟨id, hid, rfl⟩)))
    · exact hold ht
  · rintro a source k ce _ hsource ⟨hid, ha⟩
    rw [mem_listeners_register hsource, types_register hsource, pending_register, journal_register]
    exact ⟨.inl hid, fun t ht => (ha t ht).imp_right
      (.imp (List.mem_append_left _) (List.mem_cons_of_mem _))⟩
  · rintro a work rest _ _ hnext ⟨hid, ha⟩
    refine ⟨hid, fun t ht => (ha t ht).imp_right ?_⟩
    rw [Worklist.pending_of_next? hnext, List.mem_cons]
    rintro ((rfl | hpending) | hfired)
    · exact .inr List.mem_cons_self
    · exact .inl hpending
    · exact .inr (List.mem_cons_of_mem _ hfired)
  · rintro a work _ ⟨hid, ha⟩
    refine ⟨hid, fun t ht => (ha t ht).imp_right (.imp_left ?_)⟩
    rw [enqueue, changeWorklist, Worklist.pending_enqueue]
    exact List.mem_append_left _
  · exact fun a e h => absurd h haborts

/-! ## Kinds of sets -/

/-- If a kind goes with all kinds of a list and is one of them, it is their meet. -/
theorem foldl_combine {α : Type} {kindOf : α → Kind} {os : List α} {kind : Kind}
    (hall : ∀ o ∈ os, kind.combine (kindOf o) = kind) {o : α} (ho : o ∈ os) (hkind : kindOf o = kind) :
    os.foldl (fun k o => k.combine (kindOf o)) .none = kind := by
  have hbelow : ∀ (os : List α) (k : Kind), (∀ o ∈ os, kind.combine (kindOf o) = kind) →
      kind.combine k = kind → kind.combine (os.foldl (fun k o => k.combine (kindOf o)) k) = kind := by
    intro os
    induction os with
    | nil => exact fun k _ hk => hk
    | cons a os ih =>
      intro k hall hk
      refine ih _ (fun o ho => hall o (List.mem_cons_of_mem _ ho)) ?_
      rw [← Kind.combine_assoc, hk, hall a List.mem_cons_self]
  have habove := combine_foldl kindOf ho .none
  rw [hkind] at habove
  rw [← habove, Kind.combine_comm]
  exact hbelow os .none hall (Kind.combine_none kind)

/-- What the kind of an object says of its marks.  None has the kind of no object, and an array that is
called dense is not packed. -/
theorem objectKind_marks (o : ObjectId) :
    c.objectKind o ≠ .none ∧
      (c.objectKind o = .packedArray → (c.object o).isPacked = true) ∧
      (c.objectKind o = .denseArray → (c.object o).isPacked = false ∧ (c.object o).isDense = true) := by
  unfold objectKind
  dsimp only
  split
  · exact ⟨nofun, nofun, nofun⟩
  · split
    · rename_i hpacked
      exact ⟨nofun, fun _ => hpacked, nofun⟩
    · rename_i hunpacked
      split
      · rename_i hdense
        exact ⟨nofun, nofun, fun _ => ⟨eq_false_of_ne_true hunpacked, hdense⟩⟩
      · -- Neither packed nor dense, it is a function or of no kind that is known.
        repeat' split
        all_goals exact ⟨nofun, nofun, nofun⟩

/-- The kind of a set of objects is that of one of them, unless it is unknown. -/
theorem exists_objectKind {s : SetId} (hknown : c.setKind s ≠ .unknown) (hsome : c.setKind s ≠ .none) :
    ∃ o ∈ (c.set s).objectTypes, c.objectKind o = c.setKind s := by
  have hfold : ∀ (os : List ObjectId) (kind : Kind),
      os.foldl (fun k o => k.combine (c.objectKind o)) kind ≠ .unknown →
      os.foldl (fun k o => k.combine (c.objectKind o)) kind = kind ∨
        ∃ o ∈ os, c.objectKind o = os.foldl (fun k o => k.combine (c.objectKind o)) kind := by
    intro os
    induction os with
    | nil => exact fun kind _ => .inl rfl
    | cons a os ih =>
      intro kind hne
      rw [List.foldl_cons] at hne ⊢
      obtain hsame | ⟨o, ho, hkind⟩ := ih _ hne
      · rw [hsame] at hne ⊢
        -- The meet of two kinds is one of them, unless it is unknown.
        have htwo : ∀ k k' : Kind, k.combine k' ≠ .unknown →
            k.combine k' = k ∨ k' = k.combine k' := by
          intro k k'
          cases k <;> cases k' <;> decide
        exact (htwo _ _ hne).imp_right fun h => ⟨a, List.mem_cons_self, h⟩
      · exact .inr ⟨o, List.mem_cons_of_mem _ ho, hkind⟩
  unfold setKind at *
  dsimp only at *
  split at hknown
  · exact absurd rfl hknown
  · rename_i hs
    rw [if_neg hs] at hsome ⊢
    exact (hfold _ _ hknown).resolve_left hsome

/-- If a kind fits all objects of a set, and is the kind of one of them unless it is that of no
object, it is the kind of the set.  Whether functions have the very kind has to be known. -/
theorem setKind_of_fits (hc : c.Valid) {s : SetId} {kind : Kind}
    (hknown : .unknown ∉ (c.set s).types) (hfits : ∀ o ∈ (c.set s).objectTypes, c.Fits kind o)
    (hfunctions : kind.isFunction = true → ∀ o ∈ (c.set s).objectTypes,
      c.objectKind o ≠ .unknown → c.objectKind o = kind)
    (hone : kind ≠ .none → ∃ o ∈ (c.set s).objectTypes, c.objectKind o = kind) :
    c.setKind s = kind := by
  have hset : (c.set s).isUnknown = false := by
    rw [← Bool.not_eq_true, (hc.sets s).coherent.isUnknown_iff]
    exact hknown
  have hall : ∀ o ∈ (c.set s).objectTypes, kind.combine (c.objectKind o) = kind := by
    intro o ho
    obtain hgoes | ⟨hfunction, hne⟩ := hfits o ho
    · exact hgoes
    · rw [hfunctions hfunction o ho hne, Kind.combine_self]
  unfold setKind
  dsimp only
  rw [hset, if_neg Bool.false_ne_true]
  by_cases hnone : kind = .none
  · -- No object has the kind of no object.
    have hempty : (c.set s).objectTypes = [] := by
      refine List.eq_nil_iff_forall_not_mem.mpr fun o ho => ?_
      have hgoes := hall o ho
      rw [hnone, Kind.none_combine] at hgoes
      exact (objectKind_marks o).1 hgoes
    rw [hempty, hnone]
    rfl
  · obtain ⟨o, ho, hkind⟩ := hone hnone
    exact foldl_combine hall ho hkind

/-! ## Objects that join -/

section Joined

variable {options : Options} {b : Compartment} {s : SetId} {r : ScriptId} {kind : Kind}

/-- At some moment a type that joined a set was heard of, and the kind of the set went with it. -/
structure Joined (sc : Scope) (b c : Compartment) (kind : Kind) (t : Ty) (m : Compartment) : Prop where
  sound : m.Sound
  type : t.In m.extent
  delivery : ∃ d before, m.journal = d :: before ∧ d.isDelivery = true
  later : ∃ es, m.journal = es ++ b.journal
  since : Did sc.loose m c
  goes : m.refinedKind kind t = kind

/-- When a type joined a set of a kind that is still held, the kind went with it. -/
theorem Did.went_with (haborts : ¬ sc.aborts) (hb : Did sc (fresh options) b)
    (hs : s.In b.extent) (hdid : Did sc (b.register s (.freezeKind r kind false) false) c)
    (hdelivered : Delivered sc (fresh options) c) (hpending : c.worklist.pending = [])
    (hheld : c.constraint ⟨b.constraints.size⟩ = .freezeKind r kind false) {t : Ty}
    (ht : t ∈ (c.set s).types) (hnew : t ∉ (b.set s).types) :
    ∃ m, Joined sc b c kind t m := by
  have hfresh := sound_fresh options
  have hsound := hb.sound hfresh
  have hreg := hsound.register hs (k := .freezeKind r kind false) trivial false
  have hlistens : ⟨b.constraints.size⟩ ∈
      ((b.register s (.freezeKind r kind false) false).set s).constraints := by
    rw [mem_listeners_register hs]
    exact .inr ⟨rfl, rfl⟩
  have htold := hdid.told haborts hreg hlistens ht
  rw [types_register hs, hpending] at htold
  have hfired := (htold.resolve_left hnew).resolve_left List.not_mem_nil
  obtain ⟨after, before, hjournal⟩ := List.append_of_mem hfired
  obtain ⟨m, c₁, hsettled⟩ := hdelivered after before _ hjournal (Nat.zero_le _)
  have hm := hsettled.upTo.sound hfresh
  have hc₁ := hsettled.during.sound hm
  have hsince : Did sc.loose m c := (hsettled.during.mono sc.within_loose).trans hsettled.since
  have hlate : ∃ es, m.journal = es ++ b.journal := by
    -- The constraint was not there before.
    have hlater : b.journal <:+ c.journal := by
      refine List.IsSuffix.trans ?_ (hdid.grows hreg).journal
      rw [journal_register]
      exact List.suffix_cons _ _
    obtain hbefore | ⟨es, hes⟩ := List.suffix_or_suffix_of_suffix (hsince.grows hm).journal hlater
    · have hmem : .fired ⟨⟨b.constraints.size⟩, s, t⟩ ∈ b.journal := by
        refine hbefore.subset ?_
        rw [hsettled.journal]
        exact List.mem_cons_self
      exact absurd (hb.known hfresh (fun w hw => by cases hw) _ hmem) (Nat.lt_irrefl _)
    · exact ⟨es, hes.symm⟩
  have hk₁ : c₁.constraint ⟨b.constraints.size⟩ = .freezeKind r kind false := by
    have hin := hsettled.valid.constraint.mono (hsettled.during.grows hm).extent
    have hevolves := (hsettled.since.grows hc₁).constraint _ hin
    rw [hheld] at hevolves
    exact hevolves.eq_of_held rfl
  have hgoes := hsettled.settled
  rw [hk₁] at hgoes
  exact ⟨m, hm, hsettled.valid.type, ⟨_, before, hsettled.journal, rfl⟩, hlate, hsince,
    hgoes.resolve_left Bool.false_ne_true⟩

/-- The kind goes on to fit an object that joined, unless the object was marked. -/
theorem Joined.fits {m : Compartment} {o : ObjectId} (h : Joined sc b c kind (.object o) m) :
    c.Fits kind o ∨ c.Since b.journal (Event.marks o) := by
  obtain ⟨d, before, hjournal, hd⟩ := h.delivery
  obtain ⟨es, hes⟩ := h.later
  have hfits : m.Fits kind o := .inl h.goes
  have hjournal' : m.journal = [] ++ d :: before := hjournal
  obtain hfits | hmarked := hfits.kept h.sound (h.type o rfl) hjournal' hd h.since
  · exact .inl hfits
  · rw [← hjournal] at hmarked
    exact .inr (hmarked.of_later hes)

/-- An object that had the kind of its set goes on to have it as long as the kind fits, unless it is a
function. -/
theorem Did.objectKind_of_fits (hstrict : ¬ sc.reclassifies) (hb : Did sc (fresh options) b)
    (hdid : Did sc b c) {o : ObjectId} (hkind : b.objectKind o = kind)
    (hknown : kind ≠ .unknown) (hfits : c.Fits kind o)
    (hfunctions : kind.isFunction = true → c.objectKind o ≠ .unknown → c.objectKind o = kind) :
    c.objectKind o = kind := by
  obtain hgoes | ⟨hfunction, hne⟩ := hfits
  · cases kind with
    | none => exact absurd hkind (objectKind_marks o).1
    | unknown => exact absurd rfl hknown
    | denseArray =>
      -- A dense array has a prototype already, so it does not become a packed one.
      obtain ⟨hunpacked, hdense⟩ := (objectKind_marks o).2.2 hkind
      have hsound := hb.sound (sound_fresh options)
      have hproto := hb.arraysInherit (sound_fresh options) (arraysInherit_fresh options) o
        (.inl hdense)
      have hlater : c.objectKind o ≠ .packedArray := by
        intro hpacked
        have hlater := (hdid.notReclassified hstrict hsound hproto).1
        rw [hunpacked] at hlater
        cases hlater ((objectKind_marks o).2.1 hpacked)
      have hsome := (objectKind_marks (c := c) o).1
      revert hgoes hlater hsome
      cases c.objectKind o <;> simp [Kind.combine]
    | packedArray | scriptedFunction | nativeFunction =>
      have hsome := (objectKind_marks (c := c) o).1
      revert hgoes hsome
      cases c.objectKind o <;> simp [Kind.combine]
  · exact hfunctions hfunction hne

/-- The constraint that a kind was registered with still holds it, unless its script was queued. -/
theorem Did.still_freezes (hb : b.Sound) (hs : s.In b.extent)
    (hdid : Did sc (b.register s (.freezeKind r kind false) false) c) :
    c.constraint ⟨b.constraints.size⟩ = .freezeKind r kind false ∨
      c.Since b.journal (Event.queues r) := by
  have hreg := hb.register hs (k := .freezeKind r kind false) trivial false
  have hk : (b.register s (.freezeKind r kind false) false).constraint ⟨b.constraints.size⟩ =
      .freezeKind r kind false := by rw [constraint_register, if_pos rfl]
  have hjournal : (b.register s (.freezeKind r kind false) false).journal =
      [.constraintAdded s ⟨b.constraints.size⟩ false] ++ b.journal := by
    rw [journal_register, List.singleton_append]
  exact (hdid.unspent hreg hk rfl).imp_right fun hsince => hsince.of_later hjournal

/-- The kind that is held goes on to fit an object that was there, unless the script was queued or the
object was marked on the way. -/
theorem Held.fits {o : ObjectId} {m : Compartment} (hb : b.Sound) (ho : o ∈ (b.set s).objectTypes)
    (hheld : m.Held b.journal r kind o) (hbm : b.Grows m) (hm : m.Sound) (hdid : Did sc m c) :
    c.Fits kind o ∨ c.Since b.journal (Event.queues r) ∨ m.Since b.journal (Event.marks o) := by
  have hin : o.In m.extent :=
    ((hb.valid.sets s).types _ (mem_objectTypes.mp ho) o rfl).mono hbm.extent
  obtain hsince | hmarked | ⟨⟨es, hes⟩, id, hwatched, hid, hfits⟩ := hheld
  · exact .inr (.inl (hsince.mono (hdid.grows hm)))
  · exact .inr (.inr hmarked)
  · exact (hwatched.kept hm hin hdid hid hfits).imp_right fun hsince => .inl (hsince.of_later hes)

end Joined

/-! ## Runs -/

/-- The kind of a set that is asked for, for a script, holds in every later compartment between two
requests unless the script was queued since; provided that no object that joined the set since has
lost what was known about it, nor any other object in the course of the question, and that the
functions in the set that are still known have kept their kind. -/
theorem kind_frozen {safe : Extent → String → Prop} {host : Host} {options : Options}
    {before later : List Request} {b b' c : Compartment} {s : SetId} {r : ScriptId} {kind : Kind}
    (hbefore : Request.Proper safe host before (fresh options) b) (hs : s.In b.extent)
    (hrun : (Request.knownKind s (some r)).run host b = (.ok (.kind kind), b'))
    (hknown : kind ≠ .unknown) (hlater : Request.Proper safe host later b' c)
    (hasked : ∀ o ∈ (b.set s).objectTypes, ¬ b'.Since b.journal (Event.marks o))
    (hjoined : ∀ o ∈ (c.set s).objectTypes, o ∉ (b.set s).objectTypes →
      ¬ c.Since b.journal (Event.marks o))
    (hfunctions : kind.isFunction = true → ∀ o ∈ (c.set s).objectTypes,
      c.objectKind o ≠ .unknown → c.objectKind o = kind) :
    c.setKind s = kind ∨ c.Since b.journal (Event.queues r) := by
  have hfresh := sound_fresh options
  obtain ⟨hb, hgood⟩ := hbefore.good (at_fresh options _ trivial _ _)
  obtain ⟨hgood', hrest, hanswered⟩ :=
    (Request.moves_handled hbefore.handlers hb (r := .knownKind s (some r)) hs trivial).of_run hrun
  obtain ⟨hkind, hfrozen⟩ := hanswered.kind s r kind rfl rfl
  obtain ⟨hregistered, hheld⟩ := hfrozen hknown
  have hb' := hgood'.at hb hrest
  obtain ⟨hc, hgood₁⟩ := hlater.good hb'
  have hstart := hgood.trans hfresh hgood'
  have hall := hstart.trans hfresh hgood₁
  by_cases hqueued : c.Since b.journal (Event.queues r)
  · exact .inr hqueued
  left
  have hdid := hregistered.trans hgood₁.did
  have hsince : Did _ b c := hgood'.did.trans hgood₁.did
  have hunspent := (hdid.still_freezes hb.sound hs).resolve_right hqueued
  have hnew : ∀ t ∈ (c.set s).types, t ∉ (b.set s).types → ∃ m, Joined _ b c kind t m :=
    fun t ht hnew => hgood.did.went_with id hs hdid hall.delivered hc.rest.1 hunspent ht hnew
  have hfits : ∀ o ∈ (c.set s).objectTypes, c.Fits kind o := by
    intro o ho
    by_cases hold : o ∈ (b.set s).objectTypes
    · have hfits := (hheld o hold).fits hb.sound hold (hgood'.grows hb.sound) hb'.sound hgood₁.did
      exact hfits.resolve_right fun h => h.elim hqueued (hasked o hold)
    · have hjoin : .object o ∉ (b.set s).types := fun h => hold (mem_objectTypes.mpr h)
      obtain ⟨m, hm⟩ := hnew _ (mem_objectTypes.mp ho) hjoin
      exact hm.fits.resolve_right (hjoined o ho hold)
  refine setKind_of_fits hc.sound.valid ?_ hfits hfunctions ?_
  · intro hunknown
    have hbefore : .unknown ∉ (b.set s).types := by
      intro hmem
      have hset := (hb.sound.valid.sets s).coherent.isUnknown_iff.mpr hmem
      refine hknown (hkind.trans ?_)
      unfold setKind
      exact if_pos hset
    obtain ⟨m, hm⟩ := hnew _ hunknown hbefore
    exact hknown hm.goes.symm
  · intro hsome
    obtain ⟨o, ho, hok⟩ := exists_objectKind (hkind ▸ hknown) (hkind ▸ hsome)
    have ho' : o ∈ (c.set s).objectTypes :=
      mem_objectTypes.mpr ((hsince.grows hb.sound).set s |>.types.subset (mem_objectTypes.mp ho))
    exact ⟨o, ho', hgood.did.objectKind_of_fits id hsince (hok.trans hkind.symm) hknown
      (hfits o ho') fun hfunction => hfunctions hfunction o ho'⟩

/-- Two arrays are made, and one of them is put into a set. -/
def arrayRun : List Request :=
  [.builtin .arrayPrototype, .typeObject none "a" false (some ⟨1⟩),
    .typeObject none "b" false (some ⟨1⟩), .newSet, .addType ⟨1⟩ (.object ⟨3⟩)]

/-- The kind of the set is asked for, the other array joins, and the first one gets a hole. -/
theorem kind_frozen_first :
    let b := (Request.runAll .silent arrayRun (fresh {})).2
    let b' := ((Request.knownKind ⟨1⟩ (some ⟨5⟩)).run .silent b).2
    let c := (Request.runAll .silent
      [.addType ⟨1⟩ (.object ⟨4⟩), .markNotPacked ⟨3⟩ false] b').2
    c.setKind ⟨1⟩ = .packedArray ∨ c.Since b.journal (Event.queues ⟨5⟩) := by
  intro b b' c
  have hproper : ∀ (rs : List Request) (a : Compartment), Request.ValidAlong .silent rs a →
      (∀ o ∈ (Request.runAll .silent rs a).1, o.isOk = true) → (∀ r ∈ rs, r.isNative = false) →
      Request.Proper (fun _ _ => True) .silent rs a (Request.runAll .silent rs a).2 :=
    fun rs a hvalid hok hnative => ⟨fun _ _ _ _ _ _ _ _ => trivial, rfl, hvalid.safe hnative, hok⟩
  have hunmarked : ∀ {a : Compartment} {o : ObjectId}, (∀ e ∈ a.journal, ¬ Event.marks o e) →
      ¬ a.Since b.journal (Event.marks o) := by
    rintro a o hall ⟨later, e, hjournal, he, hmarks⟩
    exact hall e (hjournal ▸ List.mem_append_left _ he) hmarks
  have hbefore := hproper arrayRun (fresh {}) (by decide +kernel) (by decide +kernel)
    (by decide +kernel)
  have hlater := hproper [.addType ⟨1⟩ (.object ⟨4⟩), .markNotPacked ⟨3⟩ false] b'
    (by decide +kernel) (by decide +kernel) (by decide +kernel)
  refine kind_frozen hbefore (by decide +kernel) (Prod.ext (by decide +kernel) rfl) nofun hlater
    (fun o ho => hunmarked ?_) (fun o ho hnew => hunmarked ?_) nofun
  · exact (by decide +kernel : ∀ o ∈ (b.set ⟨1⟩).objectTypes, ∀ e ∈ b'.journal, ¬ Event.marks o e)
      o ho
  · exact (by decide +kernel : ∀ o ∈ (c.set ⟨1⟩).objectTypes, o ∉ (b.set ⟨1⟩).objectTypes →
      ∀ e ∈ c.journal, ¬ Event.marks o e) o ho hnew

/-- The kind of the set is asked for, the other array joins and gets a hole: the kind of the set is
another one, and nobody has queued the script. -/
theorem kind_frozen_late :
    let b := (Request.runAll .silent arrayRun (fresh {})).2
    let b' := ((Request.knownKind ⟨1⟩ (some ⟨5⟩)).run .silent b).2
    let c := (Request.runAll .silent
      [.addType ⟨1⟩ (.object ⟨4⟩), .markNotPacked ⟨4⟩ false] b').2
    ((Request.knownKind ⟨1⟩ (some ⟨5⟩)).run .silent b).1 = .ok (.kind .packedArray) ∧
      c.setKind ⟨1⟩ = .denseArray ∧ ∀ e ∈ c.journal, ¬ Event.queues ⟨5⟩ e := by
  decide +kernel

end Compartment

end FlowTypes
