import FlowTypes.Proofs.Frozen
import FlowTypes.Proofs.Laziness

/-!
# Objects that are watched

A script that relies on the kind of objects has a constraint on the element types of each of them.
Such a constraint hears no types; it is told of the object.  So what holds of it depends on nothing
that flows, and a type that is delivered once more makes no difference to it.

While it is not spent, the kind that its script relies on fits the object.  Once it is spent it has
asked for its script, once.  This is so from the moment on at which a request for a kind puts it
there: such a request makes properties on the way, but it only looks, so the objects that are
watched first are still what they were when the last one is.

## Main results

* `Upheld`, `Upheld.kept`: what a constraint that watches an object is good for.
* `Upheld.told`: a constraint that watches an unknown object has asked for its script.
* `Looking.upholds`: what a request for a kind puts on the element types of objects is upheld.
* `upheld_of_run`: and stays so for the rest of a run.
-/

namespace FlowTypes

/-- Whether it is spent or not, the constraint watches for the same script and the same kind. -/
theorem Constraint.Evolves.elementKind {k k' : Constraint} (h : k.Evolves k') {r : ScriptId}
    {kind : Kind} {spent : Bool} (hk : k' = .freezeElementKind r kind spent) :
    ∃ spent', k = .freezeElementKind r kind spent' := by
  have hbare := h.bare
  rw [hk] at hbare
  cases k <;> cases hbare
  exact ⟨_, rfl⟩

namespace Compartment

variable {host : Host} {sc : Scope} {c c' : Compartment} {o : ObjectId} {id : ConstraintId}
  {k : Constraint} {r : ScriptId} {kind : Kind}

/-! ## Watching an object -/

/-- An object that is watched is in the table. -/
theorem Watched.owner_in (h : c.Watched o id) : o.In c.extent := by
  obtain ⟨p, hp, -⟩ := h
  exact in_of_mem_properties (List.mem_of_find?_eq_some hp)

/-- A constraint that is put on one set watches one object. -/
theorem Watched.unique {a : ObjectId} (hlisted : c.Listed) (hapart : c.SetsApart)
    (h : c.Watched o id) (h' : c.Watched a id) : a = o := by
  obtain ⟨p, hp, hid⟩ := h
  obtain ⟨q, hq, hid'⟩ := h'
  exact (hapart.types (List.mem_of_find?_eq_some hq) (List.mem_of_find?_eq_some hp)
    (hlisted.only p.types q.types id hid hid')).1

/-- A constraint watches an object for a script that relies on its kind. -/
structure Upheld (c : Compartment) (o : ObjectId) (id : ConstraintId) (r : ScriptId) (kind : Kind) :
    Prop where
  known : kind ≠ .unknown
  watched : c.Watched o id
  balanced : c.Balanced id (.freezeElementKind r kind false) r
  fits : c.constraint id = .freezeElementKind r kind false → c.Fits kind o

theorem Upheld.kept (hc : c.Sound) (hdid : Did sc c c') (h : c.Upheld o id r kind) :
    c'.Upheld o id r kind where
  known := h.known
  watched := h.watched.mono (hdid.grows hc)
  balanced := hdid.balanced rfl hc h.balanced
  fits := h.watched.fits hc h.watched.owner_in hdid h.fits

/-- A constraint that watches an unknown object has asked for its script. -/
theorem Upheld.told (h : c.Upheld o id r kind) (hunknown : (c.object o).isUnknown = true) :
    c.constraint id = .freezeElementKind r kind true ∧ asked id c.journal = [r] := by
  obtain ⟨hk, -⟩ | hspent := h.balanced
  · have hknown := ((fits_iff h.known).mp (h.fits hk)).1
    rw [hunknown] at hknown
    cases hknown
  · exact hspent

/-- What is put on the element types of an object that the kind fits is upheld. -/
theorem upheld_register {p : Property} (hkind : kind ≠ .unknown)
    (hp : (c.object o).property? .index = some p) (hin : p.types.In c.extent)
    (hfits : c.Fits kind o) (hnone : asked ⟨c.constraints.size⟩ c.journal = []) :
    (c.register p.types (.freezeElementKind r kind false) false).Upheld o ⟨c.constraints.size⟩ r
      kind where
  known := hkind
  watched := by
    refine ⟨p, by rwa [object_register], ?_⟩
    rw [mem_listeners_register hin]
    exact .inr ⟨rfl, rfl⟩
  balanced := by
    refine .inl ⟨by rw [constraint_register, if_pos rfl], ?_⟩
    rw [journal_register]
    exact hnone
  fits _ := by
    rw [Fits, objectKind, object_register]
    exact hfits

/-! ## Requests for a kind -/

theorem Unmoved.objectKind (h : c.Unmoved c') (o : ObjectId) :
    c'.objectKind o = c.objectKind o := by
  obtain ⟨ps, hps⟩ := h.object o
  rw [Compartment.objectKind, hps, Compartment.objectKind]

/-- Since an earlier moment, every constraint that relies on the kind of an object and was made is
upheld for one. -/
def Upholds (c c' : Compartment) : Prop :=
  ∀ id r kind spent, ¬ id.In c.extent → c'.constraint id = .freezeElementKind r kind spent →
    ∃ o, c'.Upheld o id r kind

theorem Upholds.refl (c : Compartment) : c.Upholds c := by
  intro id r kind spent hid hk
  rw [constraint_of_not_in hid] at hk
  cases hk

theorem Upholds.of_furnished {b c₁ c' : Compartment} {n : Nat} (h : c.Upholds b) (hb : b.Sound)
    (hdid : Did sc b c') (hfurnished : b.Furnished c₁) (hcarries : Carries n c₁ c') :
    c.Upholds c' := by
  intro id r kind spent hid hk
  have hfreeze : (c'.constraint id).isFreeze = true := by rw [hk]; rfl
  obtain ⟨-, hsame⟩ := hfurnished.frozen hcarries hfreeze
  obtain ⟨o, hupheld⟩ := h id r kind spent hid (hsame ▸ hk)
  exact ⟨o, hupheld.kept hb hdid⟩

/-- What is registered does not watch any object, or it is upheld. -/
theorem Upholds.register {b : Compartment} (h : c.Upholds b) (hb : b.Sound) {source : SetId}
    {k : Constraint} (hdid : Did sc b (b.register source k false))
    (hlast : ∀ r kind spent, k = .freezeElementKind r kind spent →
      ∃ o, (b.register source k false).Upheld o ⟨b.constraints.size⟩ r kind) :
    c.Upholds (b.register source k false) := by
  intro id r kind spent hid hk
  rw [constraint_register] at hk
  split at hk
  · rename_i hnew
    subst hnew
    exact hlast r kind spent hk
  · obtain ⟨o, hupheld⟩ := h id r kind spent hid hk
    exact ⟨o, hupheld.kept hb hdid⟩

section Looking

variable {scope : Scope} {options : Options} {b : Compartment} (hpasses : scope.passes)
  (hhandler : ∀ e h, ¬ scope.handler e h) (haborts : ¬ scope.aborts)
  (hfreezes : scope.grant.Freezes)
include hfreezes

theorem did_freeze {source : SetId} (hsource : source.In c.extent) (hk : k.isFreeze = true)
    (hvalid : k.Valid c.extent) : Did scope c (c.register source k false) :=
  .single (.traffic (.register (.inl (hfreezes.asks _ _ hk)) hsource hvalid (.inl (.inr hk))))

include hpasses hhandler haborts

/-- One more object is watched. -/
theorem Looking.watch (hb : Looking host scope options c b) (hupholds : c.Upholds b)
    (ho : o.In b.extent) (hkind : kind ≠ .unknown) (hfits : b.Fits kind o) : Outcome (do
      let elements ← getProperty (solve host) o .index false
      discard <| addConstraint (solve host) elements (.freezeElementKind r kind false) false) b
        (fun _ b' => Looking host scope options c b' ∧ c.Upholds b')
        fun e _ => e = .outOfMemory "worklist" := by
  have hL := lawful_unhandled host hpasses hhandler
  have hlooks : Outcome (getProperty (solve host) o .index false) b _ _ :=
    (hb.resolved haborts).furnishes_getProperty ho .index false
  have hmoves := moves_getProperty hL (.inl trivial) hb.rests ho (.inl hfreezes.elements) false
  refine outcome_bind.mpr (Outcome.imp (hlooks.and hmoves) ?_ fun _ _ h => h.1)
  rintro elements b₁ ⟨⟨m, hfurnished, hcarries⟩, hgood, hrest, hanswers⟩
  have hunmoved := hfurnished.unmoved hcarries
  have hb₁ : Looking host scope options c b₁ :=
    ⟨hgood.at hb.rests hrest, hb.good.trans (sound_fresh options) hgood, hb.unmoved.trans hunmoved⟩
  have hsound₁ := hb₁.rests.sound
  have hupholds₁ := hupholds.of_furnished hb.rests.sound hgood.did hfurnished hcarries
  have hfits₁ : b₁.Fits kind o := by
    rw [Fits, hunmoved.objectKind]
    exact hfits
  obtain ⟨hunknown, -⟩ | ⟨p, hp, rfl⟩ := hanswers
  · rw [((fits_iff hkind).mp hfits₁).1] at hunknown
    cases hunknown
  · have hin : p.types.In b₁.extent :=
      ((hsound₁.valid.objects o).properties p (List.mem_of_find?_eq_some hp)).types
    have hnone : asked ⟨b₁.constraints.size⟩ b₁.journal = [] :=
      hb₁.good.did.asked_eq_nil (sound_fresh options) (fun _ _ => rfl) (Nat.lt_irrefl _)
    refine outcome_discard.mpr (outcome_of_ok (addConstraint_for_later _ p.types _)
      ⟨hb₁.register hfreezes hin rfl, ?_⟩)
    refine hupholds₁.register hsound₁ (did_freeze hfreezes hin rfl trivial) ?_
    rintro r' kind' spent ⟨⟩
    exact ⟨o, upheld_register hkind hp hin hfits₁ hnone⟩

/-- What a request for a kind puts on the element types of objects is upheld. -/
theorem Looking.upholds (h : Looking host scope options c c) {s : SetId} (hs : s.In c.extent)
    (script : Option ScriptId) : Outcome (Compartment.knownKind (solve host) s script) c
      (fun _ c' => c.Upholds c') fun e _ => e = .outOfMemory "worklist" := by
  refine Outcome.imp (outcome_knownKind (I := fun b => Looking host scope options c b ∧
    c.Upholds b) hs ⟨h, .refl c⟩ ?_ ?_) (fun _ _ hb => hb.2) fun _ _ h => h
  · intro r hkind
    exact ⟨h.register hfreezes hs rfl, (Upholds.refl c).register h.rests.sound
      (did_freeze hfreezes hs rfl trivial) fun _ _ _ hk => by cases hk⟩
  · rintro r hkind o ho b ⟨hb, hupholds⟩
    have hin : o.In b.extent :=
      Nat.lt_of_lt_of_eq (in_of_mem_objectTypes h.rests.sound.valid ho) hb.unmoved.objects.symm
    have hfits : b.Fits (c.setKind s) o := by
      rw [Fits, hb.unmoved.objectKind]
      exact fits_setKind hkind ho
    exact hb.watch hpasses hhandler haborts hfreezes hupholds hin hkind hfits

end Looking

end Compartment

/-! ## Runs -/

namespace Request

open Compartment

variable {host : Host} {options : Options} {rs : List Request} {c : Compartment}
  {outcomes : List (Except InferError Answer)} {id : ConstraintId}

/-- A request for a kind, in a run, made the constraint. -/
def MadeForKind (host : Host) (rs : List Request) (c : Compartment) (id : ConstraintId) : Prop :=
  ∃ before s script after, rs = before ++ knownKind s script :: after ∧
    ¬ id.In (runAll host before c).2.extent ∧
    id.In ((knownKind s script).run host (runAll host before c).2).2.extent

/-- A request for a kind, in a run, upholds what it makes. -/
theorem Part.upholds {s : SetId} {script : Option ScriptId} {b b' : Compartment}
    (h : Part host outcomes [knownKind s script] b b')
    (hb : Looking host (scopeOf outcomes True) options b b) : b.Upholds b' := by
  have hfreezes : (scopeOf outcomes True).grant.Freezes := ⟨trivial, fun _ _ _ => trivial⟩
  have houtcome : Outcome ((knownKind s script).run host) b (fun _ c' => b.Upholds c')
      fun e _ => e = .outOfMemory "worklist" :=
    outcome_bind.mpr (Outcome.imp (hb.upholds trivial (fun _ _ => id) id hfreezes h.valid.1 script)
      (fun _ _ h => outcome_pure.mpr h) fun _ _ h => h)
  have hok : ((knownKind s script).run host b).1.isOk = true :=
    h.ok _ (h.outcomes List.mem_cons_self)
  cases hanswer : ((knownKind s script).run host b).1 with
  | error e =>
    rw [hanswer] at hok
    cases hok
  | ok x =>
    rw [← h.run]
    exact houtcome.ok hanswer

/-- A constraint that a request for a kind put on the element types of an object is upheld ever
after. -/
theorem upheld_of_run (hrun : runAll host rs (fresh options) = (outcomes, c))
    (hvalid : ValidAlong host rs (fresh options)) (hok : ∀ o ∈ outcomes, o.isOk = true)
    (hnative : ∀ r ∈ rs, r.isNative = false) (hmade : MadeForKind host rs (fresh options) id)
    {r : ScriptId} {kind : Kind} {spent : Bool}
    (hk : c.constraint id = .freezeElementKind r kind spent) : ∃ o, c.Upheld o id r kind := by
  obtain ⟨before, s, script, after, rfl, hnew, hin⟩ := hmade
  have hredelivery : ∀ {rs : List Request}, ∀ r ∈ rs, r.isRedelivery = true → True :=
    fun _ _ _ => trivial
  have hall : Part host outcomes (before ++ ([knownKind s script] ++ after)) (fresh options) c :=
    .of_run hrun hvalid hok hnative
  obtain ⟨hbefore, hrest⟩ := hall.split
  obtain ⟨hasking, hafter⟩ := hrest.split
  obtain ⟨hat, hgood, -⟩ := hbefore.good hredelivery (at_fresh options _ trivial _ _)
  obtain ⟨hat', -, -⟩ := hasking.good hredelivery hat
  obtain ⟨-, hgood', -⟩ := hafter.good hredelivery hat'
  have hevolves := (hgood'.grows hat'.sound).constraint id hin
  obtain ⟨spent', hk'⟩ := hevolves.elementKind hk
  obtain ⟨o, hupheld⟩ := hasking.upholds ⟨hat, hgood, .refl _⟩ id r kind spent' hnew hk'
  exact ⟨o, hupheld.kept hat'.sound hgood'.did⟩

end Request

end FlowTypes
