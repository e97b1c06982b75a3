import FlowTypes.Proofs.Deliveries

/-!
# Answers that are held

A script that relies on the tag of a set, or on the set being empty, has its answer held by a
constraint.  The constraint asks for the recompilation of the script once, when the answer has
ceased to be true, and it never asks in vain.

The constraint is spent only after it heard of a type by which its answer was wrong, and an answer
that is wrong stays so, because sets only grow.  The other way round, an unspent constraint found its
answer true when it last heard of a type, and then the set had all the types that it has now.

What a constraint asks for is queued, and stays in the queue until the queue is handed out.

## Main results

* `asked`: what the journal tells a constraint has asked for.
* `Balanced`: a constraint has asked once if it is spent, and otherwise not at all.
* `Did.accounted`: and if it is spent its answer is wrong.
* `Did.stands`: an unspent constraint's answer is true when nothing is pending.
* `frozen_exactly`: both for every run, and that the next recompilation takes the script.
-/

namespace FlowTypes

/-! ## What a constraint has asked for -/

/-- The scripts whose recompilation a constraint has asked for, newest first. -/
def asked (id : ConstraintId) (journal : List Event) : List ScriptId :=
  journal.filterMap fun
    | .recompileQueued script (.frozen k) => if k = id then some script else none
    | _ => none

theorem asked_append (id : ConstraintId) (es js : List Event) :
    asked id (es ++ js) = asked id es ++ asked id js :=
  List.filterMap_append

theorem asked_frozen (id k : ConstraintId) (script : ScriptId) (js : List Event) :
    asked id (.recompileQueued script (.frozen k) :: js) =
      if k = id then script :: asked id js else asked id js := by
  unfold asked
  by_cases hk : k = id <;> simp [hk]

theorem mem_asked {id : ConstraintId} {script : ScriptId} {journal : List Event} :
    script ∈ asked id journal ↔ .recompileQueued script (.frozen id) ∈ journal := by
  rw [asked, List.mem_filterMap]
  constructor
  · rintro ⟨e, he, hscript⟩
    split at hscript
    · split at hscript
      · rename_i hk
        cases hscript
        exact hk ▸ he
      · cases hscript
    · cases hscript
  · exact fun h => ⟨_, h, if_pos rfl⟩

theorem asked_of_quiet (id : ConstraintId) {es : List Event} (h : ∀ e ∈ es, e.isQuiet = true) :
    asked id es = [] := by
  refine List.eq_nil_iff_forall_not_mem.mpr fun script hscript => ?_
  cases h _ (mem_asked.mp hscript)

/-- A script that was queued since the scripts were last handed out is in the queue. -/
theorem mem_queuedBy {es js : List Event} (h : ∀ scripts, .recompiled scripts ∉ es) {script : ScriptId}
    {cause : Cause} (hqueued : .recompileQueued script cause ∈ es) : script ∈ queuedBy (es ++ js) := by
  induction es with
  | nil => cases hqueued
  | cons e es ih =>
    have ih := ih fun scripts hmem => h scripts (List.mem_cons_of_mem _ hmem)
    obtain rfl | hqueued := List.mem_cons.mp hqueued
    · exact List.mem_cons_self
    · have hrest := ih hqueued
      cases e with
      | recompileQueued => exact List.mem_cons_of_mem _ hrest
      | recompiled scripts => exact absurd List.mem_cons_self (h scripts)
      | _ => exact hrest

namespace Compartment

variable {sc : Scope} {c c' : Compartment} {id : ConstraintId} {k : Constraint} {r : ScriptId}

/-! ## The queue -/

/-- The queue is kept as the journal tells, and it is not handed out. -/
structure Kept (c c' : Compartment) : Prop where
  tallied : c.Tallied → c'.Tallied
  journal : ∃ es, c'.journal = es ++ c.journal ∧ ∀ scripts, .recompiled scripts ∉ es

theorem Kept.of_cons {e : Event} (he : e.requeues = false) (hqueued : c'.queued = c.queued)
    (hjournal : c'.journal = e :: c.journal) : c.Kept c' where
  tallied htallied := by
    rw [Tallied, hqueued, hjournal]
    exact Tallied.record he htallied
  journal := ⟨[e], hjournal, fun scripts hmem => by
    rw [← List.mem_singleton.mp hmem] at he
    cases he⟩

theorem Kept.of_eq (hqueued : c'.queued = c.queued) (hjournal : c'.journal = c.journal) :
    c.Kept c' where
  tallied htallied := by rwa [Tallied, hqueued, hjournal]
  journal := ⟨[], hjournal, fun _ => List.not_mem_nil⟩

theorem Kept.refl (c : Compartment) : c.Kept c := .of_eq rfl rfl

theorem Kept.trans {c'' : Compartment} (h : c.Kept c') (h' : c'.Kept c'') : c.Kept c'' where
  tallied htallied := h'.tallied (h.tallied htallied)
  journal := by
    obtain ⟨es, hes, hnone⟩ := h.journal
    obtain ⟨es', hes', hnone'⟩ := h'.journal
    refine ⟨es' ++ es, by rw [hes', hes, List.append_assoc], fun scripts hmem => ?_⟩
    exact (List.mem_append.mp hmem).elim (hnone' scripts) (hnone scripts)

theorem kept_spend (id : ConstraintId) (script : ScriptId) : c.Kept (c.spend id script) where
  tallied htallied := congrArg (script :: ·) htallied
  journal := ⟨[_], rfl, fun scripts hmem => by cases List.mem_singleton.mp hmem⟩

theorem Traffic.kept (h : c.Traffic sc c') : c.Kept c' := by
  cases h with
  | insert | pop | abandon => exact .of_cons rfl rfl rfl
  | deliver => exact .of_eq rfl rfl
  | @register source k callExisting =>
    exact .of_cons rfl (by cases callExisting <;> rfl) (journal_register k callExisting)
  | edge | wire => exact .of_cons rfl rfl (journal_register _ true)

/-- A change keeps the queue, unless it is handed out. -/
theorem Change.kept (h : c.Change sc c') :
    c.Kept c' ∨ sc.handsOut ∧ c' = c.takeRecompiles.2 := by
  cases h with
  | traffic h => exact .inl h.kept
  | aside h =>
    obtain ⟨es, hes, hquiet⟩ := h.journal
    exact .inl ⟨h.tallied, es, hes, fun scripts hmem => by cases hquiet _ hmem⟩
  | pushObject | pushProperty | setProto => exact .inl (.of_cons rfl rfl rfl)
  | @demote o f =>
    have hobject : c.Kept (c.changeObject o f) := .of_eq rfl rfl
    exact .inl (notifyKind_induction (fun b id script _ _ hb => hb.trans (kept_spend id script)) o
      hobject)
  | spend => exact .inl (kept_spend _ _)
  | handOut hhands => exact .inr ⟨hhands, rfl⟩
  | pushSet | memo | retool | possiblyPacked | builtin | pushSite | changeSite =>
    exact .inl (.of_eq rfl rfl)

/-- The queue is always the one that the journal tells of. -/
theorem Did.tallied (hc : c.Sound) (h : Did sc c c') (htallied : c.Tallied) : c'.Tallied := by
  refine h.change_induction hc ?_ (fun _ _ _ _ ha => ha) htallied
  intro a b _ hchange ha
  obtain hkept | ⟨-, rfl⟩ := hchange.kept
  · exact hkept.tallied ha
  · rfl

/-- While nobody hands the queue out, what is in it stays there. -/
theorem Did.not_recompiled (hhands : ¬ sc.handsOut) (hc : c.Sound) (h : Did sc c c') :
    ∃ es, c'.journal = es ++ c.journal ∧ ∀ scripts, .recompiled scripts ∉ es := by
  have hkept : c.Kept c' := by
    refine h.change_induction hc ?_ (fun a id _ _ ha => ha.trans (.of_eq rfl rfl))
      (Kept.refl c)
    intro a b _ hchange ha
    exact ha.trans (hchange.kept.resolve_right fun ⟨hhands', _⟩ => hhands hhands')
  exact hkept.journal

/-! ## One request for each constraint -/

theorem Traffic.asked_eq (h : c.Traffic sc c') (id : ConstraintId) :
    asked id c'.journal = asked id c.journal := by
  cases h with
  | insert | pop | abandon | deliver => rfl
  | register => rw [journal_register]; rfl
  | edge => rw [journal_addEdge]; rfl
  | wire => rw [journal_wireUp]; rfl

theorem Aside.asked_eq (h : c.Aside c') (id : ConstraintId) :
    asked id c'.journal = asked id c.journal := by
  obtain ⟨es, hes, hquiet⟩ := h.journal
  rw [hes, asked_append, asked_of_quiet id hquiet, List.nil_append]

/-- What a constraint is asked by others leaves it alone. -/
theorem asked_spend_of_ne {other : ConstraintId} (hne : other ≠ id) (script : ScriptId) :
    asked id (c.spend other script).journal = asked id c.journal :=
  (asked_frozen id other script c.journal).trans (if_neg hne)

/-- A change by which a constraint asks for something finds it in the table. -/
theorem Change.asked_eq (h : c.Change sc c') (hid : ¬ id.In c.extent) :
    asked id c'.journal = asked id c.journal := by
  have hne : ∀ {b : Compartment} {other : ConstraintId} {script : ScriptId},
      b.extent.constraints = c.extent.constraints → (b.constraint other).heldFor? = some script →
        other ≠ id := by
    rintro b other script hextent hheld rfl
    have hother := in_of_heldFor hheld
    rw [ConstraintId.In, hextent] at hother
    exact hid hother
  cases h with
  | traffic h => exact h.asked_eq id
  | aside h => exact h.asked_eq id
  | @demote o f =>
    refine (notifyKind_induction (c := c.changeObject o f) (P := fun b =>
      b.extent.constraints = c.extent.constraints ∧
      asked id b.journal = asked id c.journal) ?_ o ⟨rfl, rfl⟩).2
    rintro b other script kind hk ⟨hextent, hb⟩
    refine ⟨?_, (asked_spend_of_ne (hne hextent (heldFor_of_elementKind hk)) script).trans hb⟩
    rw [← hextent]
    exact Array.size_modify
  | spend hheld => exact asked_spend_of_ne (hne rfl hheld) _
  | handOut | pushSet | pushObject | pushProperty | setProto | memo | retool | possiblyPacked |
    builtin | pushSite | changeSite => rfl

/-- A constraint that is not there yet has asked for nothing. -/
theorem Did.asked_eq_nil (hc : c.Sound) (h : Did sc c c')
    (hnone : ∀ id, ¬ id.In c.extent → asked id c.journal = []) (hid : ¬ id.In c'.extent) :
    asked id c'.journal = [] := by
  refine h.change_induction (P := fun b => ∀ id, ¬ id.In b.extent → asked id b.journal = []) hc ?_
    ?_ hnone id hid
  · intro a b ha hchange hnone id hid
    have hid' : ¬ id.In a.extent := fun hin => hid (hin.mono (hchange.grows ha.valid).extent)
    rw [hchange.asked_eq hid', hnone id hid']
  · intro a o _ _ hnone id hid
    exact hnone id hid

/-- A wrong answer stays wrong. -/
theorem Refuted.mono (hc : c.Valid) (hc' : c'.Valid) (hgrows : c.Grows c') (hgenuine : c.Genuine)
    (h : c.Refuted id) : c'.Refuted id := by
  obtain ⟨w, hfired, rfl, hwrong⟩ := h
  obtain ⟨hlistens, htype⟩ := hgenuine w (.inr hfired)
  have hid := (hc.sets w.source).constraints _ hlistens
  have hbare := (hgrows.constraint _ hid).bare
  refine ⟨w, hgrows.journal.subset hfired, rfl, ?_⟩
  cases hk : c.constraint w.constraint with
  | freezeTag script tag spent =>
    obtain ⟨spent', hk'⟩ : ∃ spent', c'.constraint w.constraint = .freezeTag script tag spent' := by
      rw [hk] at hbare
      cases hk' : c'.constraint w.constraint <;> rw [hk'] at hbare <;> cases hbare
      exact ⟨_, rfl⟩
    rw [hk] at hwrong
    rw [hk']
    have hkept := (hgrows.set w.source).types
    intro htag
    refine hwrong (((hc.sets w.source).coherent.tag?_iff).mpr ⟨List.ne_nil_of_mem htype, ?_⟩)
    exact fun t ht => (((hc'.sets w.source).coherent.tag?_iff).mp htag).2 t (hkept.subset ht)
  | _ =>
    split
    · rename_i hk'
      rw [hk, hk'] at hbare
      cases hbare
    · trivial

/-- A constraint that holds an answer for a script has asked for its recompilation once if it is
spent, and otherwise not at all. -/
def Balanced (c : Compartment) (id : ConstraintId) (k : Constraint) (r : ScriptId) : Prop :=
  c.constraint id = k ∧ asked id c.journal = [] ∨
    c.constraint id = k.spend ∧ asked id c.journal = [r]

theorem Balanced.congr (hconstraint : c'.constraint id = c.constraint id)
    (hasked : asked id c'.journal = asked id c.journal) (h : c.Balanced id k r) :
    c'.Balanced id k r := by
  unfold Balanced
  rwa [hconstraint, hasked]

theorem Balanced.isFreeze (hheld : k.heldFor? = some r) (h : c.Balanced id k r) :
    (c.constraint id).isFreeze = true := by
  obtain ⟨hk, -⟩ | ⟨hk, -⟩ := h <;> rw [hk] <;> cases k <;> first | rfl | cases hheld

theorem Balanced.spend (hheld : k.heldFor? = some r) (h : c.Balanced id k r)
    {other : ConstraintId} {script : ScriptId}
    (hother : (c.constraint other).heldFor? = some script) :
    (c.spend other script).Balanced id k r := by
  have hconstraint := constraint_changeConstraint (in_of_heldFor hother) Constraint.spend id
  by_cases hne : other = id
  · subst hne
    rw [if_pos rfl] at hconstraint
    obtain ⟨hk, hasked⟩ | ⟨hk, -⟩ := h
    · rw [hk] at hother hconstraint
      cases hheld.symm.trans hother
      refine .inr ⟨hconstraint, (asked_frozen other other r c.journal).trans ?_⟩
      rw [if_pos rfl, hasked]
    · rw [hk] at hother
      cases k <;> cases hother
  · exact h.congr (hconstraint.trans (if_neg hne)) (asked_spend_of_ne hne script)

theorem Change.balanced (hheld : k.heldFor? = some r) (hchange : c.Change sc c')
    (h : c.Balanced id k r) : c'.Balanced id k r := by
  cases hchange with
  | traffic htraffic =>
    exact h.congr (htraffic.freeze_eq (h.isFreeze hheld)) (htraffic.asked_eq id)
  | aside haside =>
    refine h.congr ?_ (haside.asked_eq id)
    rw [constraint, haside.constraints, constraint]
  | @demote o f =>
    refine notifyKind_induction (c := c.changeObject o f) (P := fun b => b.Balanced id k r) ?_ o h
    exact fun b other script kind hk hb => hb.spend hheld (heldFor_of_elementKind hk)
  | spend hother => exact h.spend hheld hother
  | handOut | pushSet | pushObject | pushProperty | setProto | memo | retool | possiblyPacked |
    builtin | pushSite | changeSite => exact h.congr rfl rfl

theorem Did.balanced (hheld : k.heldFor? = some r) (hc : c.Sound) (hdid : Did sc c c')
    (h : c.Balanced id k r) : c'.Balanced id k r :=
  hdid.change_induction (P := fun b => b.Balanced id k r) hc
    (fun _ _ _ hchange hb => hchange.balanced hheld hb) (fun _ _ _ _ hb => hb.congr rfl rfl) h

/-- Unless it watches an object, a constraint that is spent by a change has heard of a type by which
its answer is wrong. -/
theorem Change.refuted_of_spent (hchange : c.Change sc c') (hk : c.constraint id = k)
    (hheld : k.heldFor? = some r)
    (hkind : ∀ script kind spent, k ≠ .freezeElementKind script kind spent)
    (hspent : c'.constraint id ≠ k) : c.Refuted id := by
  cases hchange with
  | traffic htraffic =>
    have hfreeze := Constraint.isFreeze_of_heldFor hheld
    exact absurd ((htraffic.freeze_eq (hk ▸ hfreeze)).trans hk) hspent
  | aside haside =>
    refine absurd ?_ hspent
    rw [constraint, haside.constraints]
    exact hk
  | @demote o f =>
    -- Only the constraints that watch an object are told of its kind.
    refine absurd (notifyKind_induction (c := c.changeObject o f)
      (P := fun b => b.constraint id = k) ?_ o hk) hspent
    intro b other script kind hother hb
    have hin := in_of_heldFor (heldFor_of_elementKind hother)
    refine (constraint_changeConstraint hin Constraint.spend id).trans ?_
    rw [if_neg, hb]
    rintro rfl
    exact hkind _ _ _ (hb.symm.trans hother)
  | @spend other script hother hwrong =>
    by_cases hne : other = id
    · exact hne ▸ hwrong
    · refine absurd ?_ hspent
      refine (constraint_changeConstraint (in_of_heldFor hother) Constraint.spend id).trans ?_
      rw [if_neg hne, hk]
  | handOut | pushSet | pushObject | pushProperty | setProto | memo | retool | possiblyPacked |
    builtin | pushSite | changeSite => exact absurd hk hspent

/-- A constraint that holds an answer for a script has asked for its recompilation once if it is
spent, and then its answer is wrong; otherwise it has asked for nothing. -/
def Accounted (c : Compartment) (id : ConstraintId) (k : Constraint) (r : ScriptId) : Prop :=
  (c.constraint id = k ∧ asked id c.journal = []) ∨
    (c.constraint id = k.spend ∧ asked id c.journal = [r] ∧ c.Refuted id)

theorem Accounted.balanced (h : c.Accounted id k r) : c.Balanced id k r :=
  h.imp_right fun h => ⟨h.1, h.2.1⟩

section Accounted

variable (hheld : k.heldFor? = some r)
  (hkind : ∀ script kind spent, k ≠ .freezeElementKind script kind spent)
include hheld hkind

theorem Change.accounted (hc : c.Sound) (hgenuine : c.Genuine) (hchange : c.Change sc c')
    (h : c.Accounted id k r) : c'.Accounted id k r := by
  obtain hunspent | ⟨hk', hasked⟩ := hchange.balanced hheld h.balanced
  · exact .inl hunspent
  · refine .inr ⟨hk', hasked, .mono hc.valid (hchange.sound hc).valid (hchange.grows hc.valid)
      hgenuine ?_⟩
    obtain ⟨hk, -⟩ | ⟨-, -, hrefuted⟩ := h
    · refine hchange.refuted_of_spent hk hheld hkind fun hsame => ?_
      rw [hk'] at hsame
      rw [← hsame] at hheld
      cases k <;> cases hheld
    · exact hrefuted

/-- The same for a sequence of changes in which no type is delivered once more. -/
theorem Did.accounted (hredelivery : ¬ sc.redelivery) (hc : c.Sound) (hgenuine : c.Genuine)
    (hdid : Did sc c c') (h : c.Accounted id k r) : c'.Accounted id k r := by
  refine (hdid.change_induction (P := fun b => b.Genuine ∧ b.Accounted id k r) hc ?_ ?_
    ⟨hgenuine, h⟩).2
  · rintro a b ha hchange ⟨hgenuine, h⟩
    exact ⟨(Did.single hchange).genuine hredelivery ha hgenuine,
      hchange.accounted hheld hkind ha hgenuine h⟩
  · rintro a o ha ho ⟨hgenuine, h⟩
    refine ⟨hgenuine, h.imp_right fun ⟨hk, hasked, hrefuted⟩ => ⟨hk, hasked, ?_⟩⟩
    exact hrefuted.mono ha.valid (ha.classify ho).valid (grows_classify ho) hgenuine

end Accounted

/-! ## Answers that are true -/

/-- The answer that a constraint holds about a set is true. -/
def Stands (c : Compartment) (s : SetId) : Constraint → Prop
  | .freezeTag _ tag _ => (c.set s).tag? = some tag
  | .freezeEmpty .. => (c.set s).isEmpty = true
  | _ => True

instance (c : Compartment) (s : SetId) (k : Constraint) : Decidable (c.Stands s k) :=
  match k with
  | .freezeTag _ tag _ => inferInstanceAs (Decidable ((c.set s).tag? = some tag))
  | .freezeEmpty .. => inferInstanceAs (Decidable ((c.set s).isEmpty = true))
  | .subset .. | .property .. | .element .. | .call .. | .arith .. | .boxThis .. | .filter ..
  | .monitorRead .. | .freezeKind .. | .freezeElementKind .. => isTrue trivial

/-- Whether an answer is true depends on the types of the set only. -/
theorem Stands.congr {s : SetId} (hc : c.Valid) (hc' : c'.Valid)
    (htypes : (c'.set s).types = (c.set s).types) (h : c.Stands s k) : c'.Stands s k := by
  cases k with
  | freezeTag script tag spent =>
    have htag : (c.set s).tag? = some tag := h
    rw [(hc.sets s).coherent.tag?_iff, ← htypes] at htag
    exact (hc'.sets s).coherent.tag?_iff.mpr htag
  | freezeEmpty script spent =>
    have hempty := (hc.sets s).coherent.isEmpty_iff.mp h
    rw [← htypes] at hempty
    exact (hc'.sets s).coherent.isEmpty_iff.mpr hempty
  | _ => trivial

end Compartment

/-- A request whose answer about the types of a set is held for a script, and the constraint that
holds it. -/
inductive Request.Frozen : Request → Answer → SetId → ScriptId → Constraint → Prop
  | tag (s : SetId) (r : ScriptId) (tag : Tag) :
    Frozen (knownTag s (some r)) (.tag (some tag)) s r (.freezeTag r tag false)
  | empty (s : SetId) (r : ScriptId) :
    Frozen (knownNonEmpty s (some r)) (.truth false) s r (.freezeEmpty r false)

namespace Request.Frozen

open Compartment

variable {c c' : Compartment} {k : Constraint} {r : ScriptId} {s : SetId} {q : Request} {x : Answer}

theorem heldFor (h : q.Frozen x s r k) : k.heldFor? = some r := by
  cases h <;> rfl

theorem not_element (h : q.Frozen x s r k) (script : ScriptId) (kind : Kind) (spent : Bool) :
    k ≠ .freezeElementKind script kind spent := by
  cases h <;> exact nofun

/-- The answer is true when it is given, and the constraint is put on the set. -/
theorem registered {pass : Action Unit} (h : q.Frozen x s r k)
    (hrun : q.perform pass c = (.ok x, c')) : c' = c.register s k false ∧ c.Stands s k := by
  cases h with
  | tag s r tag =>
    have hrun : (Compartment.knownTag pass s (some r) >>= fun tag => pure (.tag tag) : Action Answer) c =
        (.ok (.tag (some tag)), c') := hrun
    unfold Compartment.knownTag at hrun
    rw [run_bind, run_get] at hrun
    cases htag : (c.set s).tag? with
    | none =>
      simp only [htag] at hrun
      cases hrun
    | some tag' =>
      simp only [htag] at hrun
      cases hrun
      exact ⟨rfl, htag⟩
  | empty s r =>
    have hrun : (Compartment.knownNonEmpty pass s (some r) >>= fun b => pure (.truth b) : Action Answer) c =
        (.ok (.truth false), c') := hrun
    unfold Compartment.knownNonEmpty at hrun
    rw [run_bind, run_get] at hrun
    cases hempty : (c.set s).isEmpty with
    | false =>
      simp only [hempty] at hrun
      cases hrun
    | true =>
      simp only [hempty] at hrun
      cases hrun
      exact ⟨rfl, hempty⟩

end Request.Frozen

namespace Compartment

variable {sc : Scope} {c : Compartment} {id : ConstraintId} {k : Constraint} {r : ScriptId}
  {s : SetId} {q : Request} {x : Answer} {options : Options}

/-! ## Answers that nobody was told about -/

/-- A constraint that has heard of anything has heard of something last. -/
theorem last_fired {js : List Event} (h : heard id js ≠ []) :
    ∃ es w rest, js = es ++ .fired w :: rest ∧ w.constraint = id ∧ heard id es = [] := by
  induction js with
  | nil => exact absurd rfl h
  | cons e js ih =>
    by_cases he : e.heardBy id = []
    · rw [heard_cons, he, List.append_nil] at h
      obtain ⟨es, w, rest, rfl, hw, hnone⟩ := ih h
      refine ⟨e :: es, w, rest, rfl, hw, ?_⟩
      rw [heard_cons, hnone, he, List.append_nil]
    · cases e with
      | fired w =>
        by_cases hw : w.constraint = id
        · exact ⟨[], w, js, rfl, hw, rfl⟩
        · exact absurd (if_neg hw) he
      | _ => exact absurd rfl he

/-- When a constraint last heard of a type, its set had all the types that it has once nothing is
pending. -/
theorem Did.last_heard (hredelivery : ¬ sc.redelivery) (haborts : ¬ sc.aborts)
    (hdid : Did sc (fresh options) c) (hdelivered : Delivered sc (fresh options) c)
    (hnone : c.pendingFor id = []) {callExisting : Bool} {after before : List Event}
    (hregistered : c.journal = after ++ .constraintAdded s id callExisting :: before)
    (hheard : heard id after ≠ []) :
    ∃ w b, w.source = s ∧ b.Sound ∧ (b.set s).types = (c.set s).types ∧
      Settled b c w (c.constraint id) := by
  have hfresh := sound_fresh options
  have hsound := hdid.sound hfresh
  have horder := hdid.inOrder hredelivery haborts hfresh (inOrder_fresh options)
  obtain ⟨es, w, mid, rfl, rfl, hquiet⟩ := last_fired hheard
  rw [List.append_assoc, List.cons_append] at hregistered
  obtain ⟨b, c₁, hsettled⟩ := hdelivered es _ w hregistered (Nat.zero_le _)
  have hb := hsettled.upTo.sound hfresh
  have hc₁ := hsettled.during.sound hb
  refine ⟨w, b, ?_, hb, ?_, ?_⟩
  · have hgenuine := hdid.genuine hredelivery hfresh (genuine_fresh options)
    have hfired : .fired w ∈ c.journal := hregistered ▸ List.mem_append_right _ List.mem_cons_self
    have hadded : .constraintAdded s w.constraint callExisting ∈ c.journal :=
      hregistered ▸ List.mem_append_right _
        (List.mem_cons_of_mem _ (List.mem_append_right _ List.mem_cons_self))
    exact horder.listed.only s w.source w.constraint
      (horder.listed.listens s _ callExisting hadded) (hgenuine w (.inr hfired)).1
  · -- What was added later would have been heard of later.
    have hlater : (c.set s).types = (b.set s).types ++ added s es := by
      rw [hdid.types_fresh, hsettled.upTo.types_fresh, hregistered, hsettled.journal, added_append,
        List.append_assoc]
    have hnow := horder.order s w.constraint callExisting (es ++ .fired w :: mid) before (by
      rw [hregistered, List.append_assoc, List.cons_append])
    have hthen := (hsettled.upTo.inOrder hredelivery haborts hfresh (inOrder_fresh options)).order s
      w.constraint callExisting (.fired w :: mid) before hsettled.journal
    have hdue : c.due s callExisting (es ++ .fired w :: mid) =
        b.due s callExisting (.fired w :: mid) ++ added s es := by
      cases callExisting with
      | true => exact hlater
      | false => exact added_append s es _
    rw [heard_append, hquiet, List.append_nil, hnone, List.append_nil, hdue, ← hthen,
      List.append_assoc] at hnow
    have hnil := (List.append_eq_nil_iff.mp (List.append_right_eq_self.mp hnow.symm)).2
    rw [hlater, hnil, List.append_nil]
  · have hgrows := hsettled.since.grows hc₁
    have hin := hsettled.valid.constraint.mono (hsettled.during.grows hb).extent
    exact hsettled.settled.mono hgrows hc₁.valid hsound.valid (hgrows.constraint _ hin)

/-- An answer that was true when it began to be held is true as long as its constraint is not spent,
whenever nothing is pending. -/
theorem Did.stands (hredelivery : ¬ sc.redelivery) (haborts : ¬ sc.aborts) {b b' : Compartment}
    (hb' : Did sc (fresh options) b') (hregister : b' = b.register s k false)
    (hdid : Did sc b' c) (hdelivered : Delivered sc (fresh options) c) (hfrozen : q.Frozen x s r k)
    (hstands : b'.Stands s k) (hnone : c.pendingFor ⟨b.constraints.size⟩ = [])
    (hk : c.constraint ⟨b.constraints.size⟩ = k) : c.Stands s k := by
  have hfresh := sound_fresh options
  have hsound' := hb'.sound hfresh
  have hsound := hdid.sound hsound'
  have hall := hb'.trans hdid
  obtain ⟨after, hafter⟩ := (hdid.grows hsound').journal
  have hjournal' : b'.journal = .constraintAdded s ⟨b.constraints.size⟩ false :: b.journal := by
    rw [hregister, journal_register]
  have hregistered :
      c.journal = after ++ .constraintAdded s ⟨b.constraints.size⟩ false :: b.journal := by
    rw [← hafter, hjournal']
  by_cases hheard : heard ⟨b.constraints.size⟩ after = []
  · -- Nothing was added to the set since.
    have horder := (hall.inOrder hredelivery haborts hfresh (inOrder_fresh options)).order s
      ⟨b.constraints.size⟩ false after b.journal hregistered
    rw [hheard, hnone] at horder
    have hadded : added s after = [] := horder.symm
    refine hstands.congr hsound'.valid hsound.valid ?_
    rw [hall.types_fresh, hb'.types_fresh, ← hafter, added_append, hadded, List.append_nil]
  · obtain ⟨w, m, rfl, hm, htypes, hsettled⟩ :=
      hall.last_heard hredelivery haborts hdelivered hnone hregistered hheard
    rw [hk] at hsettled
    refine Stands.congr hm.valid hsound.valid htypes.symm ?_
    cases hfrozen with
    | tag => exact hsettled.resolve_left Bool.false_ne_true
    | empty => cases hsettled

/-- An answer that is wrong by a type of the set is not true. -/
theorem Refuted.not_stands (hc : c.Sound) (hlisted : c.Listed) (hgenuine : c.Genuine)
    (hlistens : id ∈ (c.set s).constraints) (hfrozen : q.Frozen x s r k)
    (hk : c.constraint id = k.spend) (h : c.Refuted id) : ¬ c.Stands s k := by
  obtain ⟨w, hfired, rfl, hwrong⟩ := h
  obtain ⟨hlistens', htype⟩ := hgenuine w (.inr hfired)
  obtain rfl := hlisted.only s w.source _ hlistens hlistens'
  rw [hk] at hwrong
  cases hfrozen with
  | tag => exact hwrong
  | empty =>
    intro hempty
    rw [(hc.valid.sets w.source).coherent.isEmpty_iff.mp hempty] at htype
    cases htype

/-- Whenever nothing is pending, the constraint that an answer was registered with has asked for its
script exactly once if the answer is no longer true, and not at all if it still is. -/
theorem Did.asked_exactly (hredelivery : ¬ sc.redelivery) (haborts : ¬ sc.aborts)
    {b b' : Compartment} (hb : Did sc (fresh options) b) (hsource : s.In b.extent)
    (hregister : b' = b.register s k false) (hb' : Did sc (fresh options) b') (hdid : Did sc b' c)
    (hdelivered : Delivered sc (fresh options) c) (hfrozen : q.Frozen x s r k)
    (hstands : b'.Stands s k) (hpending : c.worklist.pending = []) :
    asked ⟨b.constraints.size⟩ c.journal = if c.Stands s k then [] else [r] := by
  have hfresh := sound_fresh options
  have hsound' := hb'.sound hfresh
  have hall := hb'.trans hdid
  have hheld : b'.constraint ⟨b.constraints.size⟩ = k := by
    rw [hregister, constraint_register, if_pos rfl]
  have hsilent : asked ⟨b.constraints.size⟩ b'.journal = [] := by
    rw [hregister, journal_register]
    exact hb.asked_eq_nil hfresh (fun _ _ => rfl) (Nat.lt_irrefl _)
  obtain ⟨hk, hasked⟩ | ⟨hk, hasked, hrefuted⟩ := hdid.accounted hfrozen.heldFor
    hfrozen.not_element hredelivery hsound'
    (hb'.genuine hredelivery hfresh (genuine_fresh options)) (.inl ⟨hheld, hsilent⟩)
  · have hnone : c.pendingFor ⟨b.constraints.size⟩ = [] := by
      rw [pendingFor, hpending]
      rfl
    rw [hasked, if_pos (hb'.stands hredelivery haborts hregister hdid hdelivered hfrozen hstands
      hnone hk)]
  · have hlistens : ⟨b.constraints.size⟩ ∈ (b'.set s).constraints := by
      rw [hregister, mem_listeners_register hsource]
      exact .inr ⟨rfl, rfl⟩
    have hlisted := (hall.inOrder hredelivery haborts hfresh (inOrder_fresh options)).listed
    have hgenuine := hall.genuine hredelivery hfresh (genuine_fresh options)
    have hlistens' := ((hdid.grows hsound').set s).constraints.subset hlistens
    rw [hasked, if_neg (hrefuted.not_stands (hall.sound hfresh) hlisted hgenuine hlistens' hfrozen hk)]

/-! ## Runs -/

/-- The tag or the emptiness that a set is known to have for a script is held from then on.  In
every later compartment between two requests, the constraint that holds it has asked for the
recompilation of the script exactly once if the answer is no longer true, and not at all if it still
is.  So the script is among those that are taken first after the answer ceased to be true. -/
theorem frozen_exactly {host : Host} {before between later : List Request}
    {b b' c₁ c : Compartment} (hbefore : Request.Succeeds host before (fresh options) b)
    (hvalid : q.Valid b.extent) (hrun : q.run host b = (.ok x, b')) (hfrozen : q.Frozen x s r k)
    (hbetween : Request.Succeeds host between b' c₁) (hlater : Request.Succeeds host later c₁ c) :
    b'.constraint ⟨b.constraints.size⟩ = k ∧
      ⟨b.constraints.size⟩ ∈ (b'.set s).constraints ∧
      asked ⟨b.constraints.size⟩ c.journal = (if c.Stands s k then [] else [r]) ∧
      (c₁.Stands s k → ¬ c.Stands s k → .takeRecompiles ∉ later →
        ∃ scripts c', Request.takeRecompiles.run host c = (.ok (.scripts scripts), c') ∧
          r ∈ scripts) := by
  have hfresh := sound_fresh options
  obtain ⟨hb, hgood⟩ := hbefore.good (at_fresh options _ trivial _ _)
  have hallowed : q.Allowed .plain b := by
    cases hfrozen <;> exact Request.allowed_plain rfl rfl
  have hmoves := Request.moves (lawful_unhandled host trivial fun _ _ => id) hb
    ((free_unhandled host _).supported _) hvalid hallowed
  obtain ⟨hgood', hrest, -⟩ := hmoves.of_run hrun
  obtain ⟨hregister, hstands⟩ := hfrozen.registered hrun
  have hb' := hgood'.at hb hrest
  have hstart := hgood.trans hfresh hgood'
  have hsource : s.In b.extent := by
    cases hfrozen <;> exact hvalid
  have hk' : b'.constraint ⟨b.constraints.size⟩ = k := by
    rw [hregister, constraint_register, if_pos rfl]
  have hlistens : ⟨b.constraints.size⟩ ∈ (b'.set s).constraints := by
    rw [hregister, mem_listeners_register hsource]
    exact .inr ⟨rfl, rfl⟩
  have hstands' : b'.Stands s k := by
    refine hstands.congr hb.sound.valid hb'.sound.valid ?_
    rw [hregister, types_register hsource]
  have hexact : ∀ e, (unhandled host .plain).At e → (unhandled host .plain).Good b' e →
      asked ⟨b.constraints.size⟩ e.journal = if e.Stands s k then [] else [r] := fun e he hgoode =>
    hgood.did.asked_exactly id id hsource hregister hstart.did hgoode.did
      (hstart.trans hfresh hgoode).delivered hfrozen hstands' he.rest.1
  obtain ⟨hc₁, hgood₁⟩ := hbetween.good hb'
  obtain ⟨hc, hgood₂⟩ := hlater.good hc₁
  have hfinal := hgood₁.trans hb'.sound hgood₂
  refine ⟨hk', hlistens, hexact c hc hfinal, ?_⟩
  intro hthen hnow hhands
  obtain ⟨es, hes, hnone⟩ := (hlater.waits hhands hc₁).not_recompiled id hc₁.sound
  have hlate : r ∈ asked ⟨b.constraints.size⟩ es := by
    have hasked := hexact c hc hfinal
    rw [if_neg hnow, hes, asked_append, hexact c₁ hc₁ hgood₁, if_pos hthen, List.append_nil] at hasked
    rw [hasked]
    exact List.mem_singleton_self r
  have htallied : c.Tallied := (hstart.trans hfresh hfinal).did.tallied hfresh rfl
  refine ⟨_, _, rfl, ?_⟩
  rw [mem_takeRecompiles, recompiles, List.mem_reverse, htallied, hes]
  exact mem_queuedBy hnone (mem_asked.mp hlate)

/-- The tag of a set is held for a script, and then a type of another tag comes by way of an edge. -/
theorem frozen_exactly_tag :
    let before : List Request := [.newSet, .newSet, .addSubset ⟨1⟩ ⟨2⟩, .addType ⟨1⟩ .int32]
    let b := (Request.runAll .silent before (fresh {})).2
    let b' := ((Request.knownTag ⟨2⟩ (some ⟨7⟩)).run .silent b).2
    let c := (Request.runAll .silent [.addType ⟨1⟩ .string] b').2
    asked ⟨1⟩ c.journal = [⟨7⟩] ∧ ∃ scripts c',
      Request.takeRecompiles.run .silent c = (.ok (.scripts scripts), c') ∧ ⟨7⟩ ∈ scripts := by
  intro before b b' c
  have hbefore : Request.Succeeds .silent before (fresh {}) b :=
    ⟨rfl, by decide +kernel, by decide +kernel, by decide +kernel, by decide +kernel⟩
  have hbetween : Request.Succeeds .silent [] b' b' :=
    ⟨rfl, trivial, by decide +kernel, by decide +kernel, by decide +kernel⟩
  have hlater : Request.Succeeds .silent [.addType ⟨1⟩ .string] b' c :=
    ⟨rfl, by decide +kernel, by decide +kernel, by decide +kernel, by decide +kernel⟩
  have hrun : (Request.knownTag ⟨2⟩ (some ⟨7⟩)).run .silent b = (.ok (.tag (some .int32)), b') :=
    Prod.ext (by decide +kernel) rfl
  obtain ⟨-, -, hasked, htaken⟩ := frozen_exactly hbefore (by decide +kernel) hrun (.tag _ _ _)
    hbetween hlater
  have hwrong : ¬ c.Stands ⟨2⟩ (.freezeTag ⟨7⟩ .int32 false) := by decide +kernel
  have hplace : b.constraints.size = 1 := by decide +kernel
  rw [if_neg hwrong, hplace] at hasked
  exact ⟨hasked, htaken (by decide +kernel) hwrong (by decide +kernel)⟩

end Compartment

end FlowTypes
