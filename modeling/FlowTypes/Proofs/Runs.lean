import FlowTypes.Proofs.Pass

/-!
# Runs of requests and of handlers

A host makes requests, one after the other, and each request belongs to the compartment that it
meets: its handles are in the tables.  What one request keeps, a whole run keeps.

A handler of a native function makes requests of its own within a pass.  It is proper if those
belong to the compartment too, whatever it has seen before.  The handles that it knows from the
start must be there from the moment on at which a function gets it; `safe` says when that is.

## Main results

* `runAll_induction`: what a request keeps, a run keeps.
* `runAll_good`: a run in which every request succeeds obeys the law between passes.
* `Request.Succeeds.good`: so does every successful run of a host without handlers.
* `obeyed_of_proper`: the handlers of a proper host obey the law within a pass.
* `Request.Proper.good`: a successful run of a proper host obeys the law between passes.
* `Request.Reaches.moves`: a run of a proper host keeps what single changes keep, whatever fails.
-/

namespace FlowTypes

open Compartment

/-! ## Runs -/

namespace Request

/-- The request gives a function a handler. -/
def isNative : Request → Bool
  | setNativeHandler _ handler _ => handler.isSome
  | _ => false

/-- The request makes a constraint hear of a type once more. -/
def isRedelivery : Request → Bool
  | deliver .. => true
  | _ => false

variable (host : Host)

/-- Every request of a run has a property at the compartment that it meets. -/
def Along (P : Compartment → Request → Prop) : List Request → Compartment → Prop
  | [], _ => True
  | r :: rest, c => P c r ∧ Along P rest (r.run host c).2

instance decidableAlong {P : Compartment → Request → Prop} [∀ c r, Decidable (P c r)] :
    (rs : List Request) → (c : Compartment) → Decidable (Along host P rs c)
  | [], _ => isTrue trivial
  | r :: rest, c =>
    haveI : Decidable (Along host P rest (r.run host c).2) := decidableAlong rest _
    inferInstanceAs (Decidable (P c r ∧ Along host P rest (r.run host c).2))

/-- Every request of a run belongs to the compartment that it meets. -/
def ValidAlong (rs : List Request) (c : Compartment) : Prop :=
  Along host (fun c r => r.Valid c.extent) rs c

instance (rs : List Request) (c : Compartment) : Decidable (ValidAlong host rs c) :=
  inferInstanceAs (Decidable (Along host (fun c r => r.Valid c.extent) rs c))

variable {host} {P : Compartment → Request → Prop} {I : Compartment → Prop} {rs : List Request}
  {c c' : Compartment} {outcomes : List (Except InferError Answer)}

theorem Along.imp {P' : Compartment → Request → Prop} (hP : ∀ c r, P c r → P' c r)
    (h : Along host P rs c) : Along host P' rs c := by
  induction rs generalizing c with
  | nil => trivial
  | cons r rest ih => exact ⟨hP c r h.1, ih h.2⟩

/-- A run goes on from where its first part ended. -/
theorem runAll_append (rs rs' : List Request) (c : Compartment) : runAll host (rs ++ rs') c =
    ((runAll host rs c).1 ++ (runAll host rs' (runAll host rs c).2).1,
      (runAll host rs' (runAll host rs c).2).2) := by
  induction rs generalizing c with
  | nil => rfl
  | cons r rest ih =>
    simp only [List.cons_append, runAll, ih]
    rfl

theorem along_append {rs rs' : List Request} : Along host P (rs ++ rs') c ↔
    Along host P rs c ∧ Along host P rs' (runAll host rs c).2 := by
  induction rs generalizing c with
  | nil => exact ⟨fun h => ⟨trivial, h⟩, fun h => h.2⟩
  | cons r rest ih =>
    simp only [List.cons_append, Along, ih, and_assoc]
    rfl

/-- A run of several requests is a run of the first one and then one of the others. -/
theorem of_runAll_cons {r : Request} {rest : List Request}
    (h : runAll host (r :: rest) c = (outcomes, c')) :
    ∃ o os b, r.run host c = (o, b) ∧ runAll host rest b = (os, c') ∧ outcomes = o :: os := by
  cases hfirst : r.run host c with
  | mk o b =>
    cases hlater : runAll host rest b with
    | mk os b' =>
      simp only [runAll, hfirst, hlater, Prod.mk.injEq] at h
      obtain ⟨rfl, rfl⟩ := h
      exact ⟨o, os, b, rfl, hlater, rfl⟩

/-- What every request of a run keeps, the run keeps. -/
theorem runAll_induction (hrun : runAll host rs c = (outcomes, c')) (hP : Along host P rs c)
    (hstep : ∀ r ∈ rs, ∀ b o b', P b r → r.run host b = (o, b') → o ∈ outcomes → I b → I b')
    (h : I c) : I c' := by
  induction rs generalizing c outcomes with
  | nil =>
    cases hrun
    exact h
  | cons r rest ih =>
    obtain ⟨hr, hrest⟩ := hP
    obtain ⟨o, os, b, hfirst, hlater, rfl⟩ := of_runAll_cons hrun
    rw [hfirst] at hrest
    have hb := hstep r List.mem_cons_self c o b hr hfirst List.mem_cons_self h
    refine ih hlater hrest ?_ hb
    exact fun r hr b o b' hP hrun ho =>
      hstep r (List.mem_cons_of_mem _ hr) b o b' hP hrun (List.mem_cons_of_mem _ ho)

/-- A host that asks for a constraint is told its place. -/
theorem answer_of_isDirect {pass : Action Unit} {r : Request} {x : Answer}
    (hdirect : r.isDirect = true) (hrun : r.perform pass c = (.ok x, c')) :
    x = .constraint ⟨c.constraints.size⟩ := by
  cases r with
  | addConstraint source k callExisting =>
    have hplace : ∀ id c', Compartment.addConstraint pass source k callExisting c = (.ok id, c') →
        id = ⟨c.constraints.size⟩ := by
      intro id c' hadd
      cases callExisting with
      | false =>
        cases hadd
        rfl
      | true =>
        have hlast : Compartment.addConstraint pass source k true c =
            (requestPass pass >>= fun _ => pure ⟨c.constraints.size⟩ : Action ConstraintId)
              ((c.attach source k true).enqueue
                (((c.attach source k true).set source).types.map fun t =>
                  ⟨⟨c.constraints.size⟩, source, t⟩)) := rfl
        rw [hlast, run_bind] at hadd
        split at hadd
        · cases hadd
          rfl
        · cases hadd
    have hrun : (Compartment.addConstraint pass source k callExisting >>= fun id =>
        pure (.constraint id) : Action Answer) c = (.ok x, c') := hrun
    rw [run_bind] at hrun
    split at hrun
    · rename_i hadd
      cases hrun
      rw [hplace _ _ hadd]
    · cases hrun
  | _ => cases hdirect

/-- Every request has an outcome. -/
theorem length_runAll (host : Host) (rs : List Request) (c : Compartment) :
    (runAll host rs c).1.length = rs.length := by
  induction rs generalizing c with
  | nil => rfl
  | cons r rest ih => exact congrArg (· + 1) (ih _)

theorem exists_outcome (host : Host) (c : Compartment) {r : Request} (hr : r ∈ rs) :
    ∃ o, (r, o) ∈ rs.zip (runAll host rs c).1 := by
  obtain ⟨i, hi, rfl⟩ := List.getElem_of_mem hr
  have hi' : i < (runAll host rs c).1.length := by rwa [length_runAll]
  refine ⟨(runAll host rs c).1[i], List.mem_iff_getElem.mpr ⟨i, ?_, List.getElem_zip⟩⟩
  rw [List.length_zip]
  omega

theorem exists_request (host : Host) (c : Compartment) {o : Except InferError Answer}
    (ho : o ∈ (runAll host rs c).1) : ∃ r, (r, o) ∈ rs.zip (runAll host rs c).1 := by
  obtain ⟨i, hi, rfl⟩ := List.getElem_of_mem ho
  have hi' : i < rs.length := by rwa [← length_runAll host rs c]
  refine ⟨rs[i], List.mem_iff_getElem.mpr ⟨i, ?_, List.getElem_zip⟩⟩
  rw [List.length_zip]
  omega

/-- If every request keeps a law, the run does, and what is known of a request and its outcome stays
known. -/
theorem runAll_obeys {L : Law} {R : Request → Except InferError Answer → Compartment → Prop}
    (hmono : ∀ r o b b', L.At b → L.At b' → L.Good b b' → R r o b → R r o b')
    (hrun : runAll host rs c = (outcomes, c')) (hP : Along host P rs c)
    (hstep : ∀ r ∈ rs, ∀ b o b', P b r → r.run host b = (o, b') → o ∈ outcomes → L.At b →
      L.At b' ∧ L.Good b b' ∧ R r o b') (h : L.At c) :
    L.At c' ∧ L.Good c c' ∧ ∀ p ∈ rs.zip outcomes, R p.1 p.2 c' := by
  induction rs generalizing c outcomes with
  | nil =>
    cases hrun
    exact ⟨h, .refl _, fun _ hp => absurd hp List.not_mem_nil⟩
  | cons r rest ih =>
    obtain ⟨hr, hrest⟩ := hP
    obtain ⟨o, os, b, hfirst, hlater, rfl⟩ := of_runAll_cons hrun
    rw [hfirst] at hrest
    obtain ⟨hb, hgood, hdone⟩ := hstep r List.mem_cons_self c o b hr hfirst List.mem_cons_self h
    obtain ⟨hc', hgood', hdone'⟩ := ih hlater hrest (fun r hr b o b' hP hrun ho =>
      hstep r (List.mem_cons_of_mem _ hr) b o b' hP hrun (List.mem_cons_of_mem _ ho)) hb
    refine ⟨hc', hgood.trans h.sound hgood', ?_⟩
    intro p hp
    obtain rfl | hp := List.mem_cons.mp hp
    · exact hmono r o b c' hb hc' hgood' hdone
    · exact hdone' p hp

/-- What is done stays done. -/
theorem Done.later {L : Law} {b b' : Compartment} (hb : L.At b) (hb' : L.At b') (hgood : L.Good b b')
    {r : Request} (h : r.Done b) : r.Done b' :=
  h.mono (hgood.grows hb.sound) hb.sound.valid hb'.sound.valid

section Moving

variable {L : Law} {r : Request} {b b' : Compartment} {o : Except InferError Answer}
  (hmoves : L.Moves (r.run host) b fun _ c' => r.Done c') (hrun : r.run host b = (o, b'))
include hmoves hrun

theorem kept_of_isOk (hb : L.At b) (hok : o.isOk = true) :
    L.At b' ∧ L.Good b b' ∧ r.Done b' := by
  cases o with
  | error => cases hok
  | ok x =>
    obtain ⟨hgood, hrest, hdone⟩ := hmoves.of_run hrun
    exact ⟨hgood.at hb hrest, hgood, hdone⟩

theorem isOk_of_never (hnever : ∀ e, ¬ L.Fails e) : o.isOk = true := by
  cases o with
  | error e => exact absurd (hmoves.of_failure hrun).2.2 (hnever e)
  | ok x => rfl

end Moving

/-- A run in which every request succeeds obeys the law between passes, if every request does. -/
theorem runAll_good {L : Law} (hrun : runAll host rs c = (outcomes, c')) (hP : Along host P rs c)
    (hok : ∀ o ∈ outcomes, o.isOk = true)
    (hmoves : ∀ r ∈ rs, ∀ b x b', P b r → r.run host b = (.ok x, b') → .ok x ∈ outcomes → L.At b →
      L.Moves (r.run host) b fun _ c' => r.Done c') (h : L.At c) :
    L.At c' ∧ L.Good c c' ∧ ∀ r ∈ rs, r.Done c' := by
  obtain ⟨hc', hgood, hdone⟩ := runAll_obeys (R := fun r _ b => r.Done b)
    (fun _ _ _ _ hb hb' hgood hdone => hdone.later hb hb' hgood) hrun hP
    (fun r hr b o b' hPr hrun ho hb => by
      cases o with
      | error => cases hok _ ho
      | ok x => exact kept_of_isOk (hmoves r hr b x b' hPr hrun ho hb) hrun hb rfl) h
  refine ⟨hc', hgood, fun r hr => ?_⟩
  obtain ⟨o, ho⟩ := exists_outcome host c hr
  rw [hrun] at ho
  exact hdone (r, o) ho

/-- The request was turned down and has changed nothing. -/
def Refused (host : Host) (c : Compartment) (r : Request) : Prop :=
  ∃ e, e.isRefusal = true ∧ r.run host c = (.error e, c)

/-- If some requests may be turned down, and no request fails in any other way, the run obeys the law
between passes. -/
theorem runAll_refused {L : Law} {refusable : Request → Prop} (hnever : ∀ e, ¬ L.Fails e)
    (hP : Along host P rs c)
    (hmoves : ∀ r ∈ rs, ∀ b, P b r → L.At b → (refusable r ∧ r.Refused host b) ∨
      L.Moves (r.run host) b fun _ c' => r.Done c') (h : L.At c) :
    (∀ o ∈ (runAll host rs c).1, o.isOk = true ∨ ∃ e, o = .error e ∧ e.isRefusal = true) ∧
      L.At (runAll host rs c).2 ∧ L.Good c (runAll host rs c).2 ∧
        ∀ r ∈ rs, ¬ refusable r → r.Done (runAll host rs c).2 := by
  obtain ⟨hat, hgood, hdone⟩ := runAll_obeys (L := L)
    (R := fun r o b => (refusable r ∧ ∃ e, o = .error e ∧ e.isRefusal = true) ∨
      o.isOk = true ∧ r.Done b)
    (fun r _ _ _ hb hb' hgood => Or.imp_right (And.imp_right fun hdone => hdone.later hb hb' hgood))
    rfl hP (fun r hr b o b' hPr hrun _ hb => by
      obtain ⟨hrefusable, e, he, hrefused⟩ | hmoves := hmoves r hr b hPr hb
      · cases hrun.symm.trans hrefused
        exact ⟨hb, .refl b, .inl ⟨hrefusable, e, rfl, he⟩⟩
      · have hok := isOk_of_never hmoves hrun hnever
        obtain ⟨hb', hgood, hdone⟩ := kept_of_isOk hmoves hrun hb hok
        exact ⟨hb', hgood, .inr ⟨hok, hdone⟩⟩) h
  refine ⟨fun o ho => ?_, hat, hgood, fun r hr hrefusable => ?_⟩
  · obtain ⟨r, hr⟩ := exists_request host c ho
    exact (hdone (r, o) hr).symm.imp And.left And.right
  · obtain ⟨o, ho⟩ := exists_outcome host c hr
    exact ((hdone (r, o) ho).resolve_left fun hrefused => hrefusable hrefused.1).2

/-- A run in which no request can fail obeys the law between passes. -/
theorem runAll_never_fails {L : Law} (hnever : ∀ e, ¬ L.Fails e) (hP : Along host P rs c)
    (hmoves : ∀ r ∈ rs, ∀ b, P b r → L.At b → L.Moves (r.run host) b fun _ c' => r.Done c')
    (h : L.At c) : (∀ o ∈ (runAll host rs c).1, o.isOk = true) ∧ L.At (runAll host rs c).2 ∧
      L.Good c (runAll host rs c).2 ∧ ∀ r ∈ rs, r.Done (runAll host rs c).2 := by
  have hok : ∀ o ∈ (runAll host rs c).1, o.isOk = true := by
    intro o ho
    obtain ⟨r, hr⟩ := exists_request host c ho
    exact (runAll_obeys (L := L) (R := fun _ o _ => o.isOk = true) (fun _ _ _ _ _ _ _ => id) rfl hP
      (fun r hr b o b' hPr hrun _ hb => by
        have hok := isOk_of_never (hmoves r hr b hPr hb) hrun hnever
        obtain ⟨hb', hgood, -⟩ := kept_of_isOk (hmoves r hr b hPr hb) hrun hb hok
        exact ⟨hb', hgood, hok⟩) h).2.2 (r, o) hr
  exact ⟨hok, runAll_good rfl hP hok (fun r hr b _ _ hPr _ _ hb => hmoves r hr b hPr hb) h⟩

end Request

namespace Compartment

variable {L : Law} {c c' : Compartment} {host : Host}

/-- A fresh compartment is at rest. -/
theorem at_fresh (options : Options) (pass : Action Unit) {scope : Scope}
    {invariant : scope.Invariant} (hkept : invariant.Holds (fresh options)) (tidy : Prop)
    (fails : InferError → Prop) : (outer pass scope invariant tidy fails).At (fresh options) := by
  refine ⟨⟨sound_fresh options, ?_, hkept⟩, rfl, rfl⟩
  intro o f name hf
  have hnone : ((fresh options).object o).function = none := by
    obtain ⟨i⟩ := o
    cases i <;> rfl
  rw [hnone] at hf
  cases hf

/-! ## Scopes of hosts -/

/-- What a host may bring about that asks for certain things. -/
def Scope.granting (grant : Grant) (direct : ConstraintId → Prop) (redelivery : Prop)
    (handler : Extent → String → Prop) : Scope where
  choice := True
  grant := grant
  passes := True
  direct := direct
  redelivery := redelivery
  handler := handler
  aborts := False
  reclassifies := False
  handsOut := True

/-- What a host may bring about. -/
def Scope.ofHost (direct : ConstraintId → Prop) (redelivery : Prop)
    (handler : Extent → String → Prop) : Scope :=
  .granting .full direct redelivery handler

/-- What a host may bring about that has no handlers and makes no constraint hear of a type once
more. -/
def Scope.plain : Scope := .ofHost (fun _ => True) False fun _ _ => False

/-- What such a host may bring about while nobody takes the scripts that are to be compiled again. -/
def Scope.waiting : Scope := { Scope.plain with handsOut := False }

/-- What the engine does of its own accord while it delivers a type. -/
def Scope.engine : Scope where
  choice := False
  grant := .none
  passes := False
  direct _ := False
  redelivery := False
  handler _ _ := False
  aborts := False
  reclassifies := False
  handsOut := False

theorem Scope.inside_engine {sc : Scope} (hpasses : sc.passes) (hhandler : ∀ e h, ¬ sc.handler e h) :
    Scope.engine.Inside sc where
  within := ⟨False.elim, sc.grant.none_within, False.elim, fun _ => False.elim, False.elim,
    fun _ _ => False.elim, False.elim, False.elim, False.elim⟩
  passes := hpasses
  nested := id
  handler := hhandler

/-- What a host may bring about within a pass, by its handlers. -/
def Scope.nested (sc : Scope) : Scope := { sc with passes := False }

theorem Scope.inside_nested {sc : Scope} (hpasses : sc.passes) : sc.nested.Inside sc where
  within := ⟨id, .refl _, False.elim, fun _ => id, id, fun _ _ => id, id, id, id⟩
  passes := hpasses
  nested := id
  handler _ _ := id

/-! ## Runs without handlers -/

/-- The law of a host without handlers. -/
def between (host : Host) (scope : Scope) (invariant : scope.Invariant)
    (fails : InferError → Prop) : Law :=
  outer (solve host) scope invariant True fails

theorem lawful_between {scope : Scope} (hpasses : scope.passes)
    (hhandler : ∀ e h, ¬ scope.handler e h) {invariant : scope.Invariant}
    {fails : InferError → Prop}
    (hlenient : (inner .engine (invariant.within
      (Scope.inside_engine hpasses hhandler).within) True fails).Lenient)
    (hends : fails (.outOfMemory "worklist") ∨
      ∀ b n c, b.Sound → invariant.Holds b → Ran .engine b n c → n ≤ b.deliveryBound) :
    (between host scope invariant fails).Lawful :=
  lawful_solve (Scope.inside_engine hpasses hhandler) hlenient
    (fun _ => obeyed_of_not_handled (fun _ _ => id) host) hends

/-- What a host does that may ask for less, one may do that may ask for more. -/
theorem moves_widen {scope scope' : Scope} (hscope : scope.Within scope')
    {invariant : scope.Invariant} {invariant' : scope'.Invariant} {fails : InferError → Prop}
    {α : Type} {a : Action α} {Q : α → Compartment → Prop}
    (h : (between host scope invariant fails).Moves a c Q) :
    (between host scope' invariant' fails).Moves a c Q := by
  have hfailing : (between host scope invariant fails).failing.Within
      (between host scope' invariant' fails).failing :=
    ⟨hscope.choice, hscope.grant, hscope.passes, hscope.direct, hscope.redelivery, hscope.handler,
      id, hscope.reclassifies, hscope.handsOut⟩
  refine Outcome.imp h ?_ ?_
  · rintro x c' ⟨hgood, hrest, hx⟩
    exact ⟨⟨hgood.did.mono hscope, hgood.tidied, hgood.delivered.mono hscope⟩, hrest, hx⟩
  · rintro e c' ⟨hdid, hrest, he⟩
    exact ⟨hdid.mono hfailing, hrest, he⟩

/-- The law of a host without handlers whose requests may fail in any way. -/
def unhandled (host : Host) (scope : Scope) : Law := between host scope (.none _) fun _ => True

theorem free_unhandled (host : Host) (scope : Scope) : (unhandled host scope).Free :=
  fun _ _ => trivial

theorem lawful_unhandled (host : Host) {scope : Scope} (hpasses : scope.passes)
    (hhandler : ∀ e h, ¬ scope.handler e h) : (unhandled host scope).Lawful :=
  lawful_between hpasses hhandler (Law.Free.refuses fun _ _ => trivial).lenient (.inl trivial)

end Compartment

/-- What a host without handlers may ask for, in a run with these answers. -/
def Request.scopeOf (outcomes : List (Except InferError Answer)) (redelivery : Prop) : Scope :=
  .ofHost (fun id => .ok (.constraint id) ∈ outcomes) redelivery fun _ _ => False

/-- A request of a run without handlers is allowed in it. -/
theorem Request.allowed_of_run {host : Host} {outcomes : List (Except InferError Answer)}
    {r : Request} {b b' : Compartment} {x : Answer} {redelivery : Prop}
    (hnative : r.isNative = false) (hredelivery : r.isRedelivery = true → redelivery)
    (hrun : r.run host b = (.ok x, b')) (hx : .ok x ∈ outcomes) :
    r.Allowed (scopeOf outcomes redelivery) b := by
  refine allowed_of_full trivial rfl (fun _ => trivial) ?_ ?_ ?_
  · rintro source k ce rfl
    rw [answer_of_isDirect rfl hrun] at hx
    exact hx
  · rintro id s t rfl
    exact hredelivery rfl
  · rintro o handler g name rfl rfl
    cases hnative

/-- A run of requests that are allowed and succeed obeys the law between passes. -/
theorem Request.runAll_allowed {host : Host} {sc : Scope} (hpasses : sc.passes)
    (hhandler : ∀ e h, ¬ sc.handler e h) {rs : List Request}
    {outcomes : List (Except InferError Answer)} {b c : Compartment}
    (hrun : runAll host rs b = (outcomes, c)) (hvalid : ValidAlong host rs b)
    (hok : ∀ o ∈ outcomes, o.isOk = true)
    (hallowed : ∀ r ∈ rs, ∀ b x b', r.run host b = (.ok x, b') → .ok x ∈ outcomes → r.Allowed sc b)
    (h : (unhandled host sc).At b) :
    (unhandled host sc).At c ∧ (unhandled host sc).Good b c ∧ ∀ r ∈ rs, r.Done c := by
  refine runAll_good hrun hvalid hok ?_ h
  intro r hr b x b' hvalid hrun hx hb
  have hmoves := Request.moves (lawful_unhandled host hpasses hhandler) hb
    ((free_unhandled host sc).supported r) hvalid (hallowed r hr b x b' hrun hx)
  exact hmoves.imp hb fun _ _ _ _ hanswered => hanswered.done

/-- A part of a run without handlers, in which every request succeeds; the whole run has these
outcomes. -/
structure Request.Part (host : Host) (all : List (Except InferError Answer)) (rs : List Request)
    (b c : Compartment) : Prop where
  run : (runAll host rs b).2 = c
  outcomes : (runAll host rs b).1 ⊆ all
  valid : ValidAlong host rs b
  ok : ∀ o ∈ all, o.isOk = true
  native : ∀ r ∈ rs, r.isNative = false

namespace Request.Part

variable {host : Host} {all : List (Except InferError Answer)} {rs rs' : List Request}
  {b c : Compartment}

/-- The whole run is a part of it. -/
theorem of_run (hrun : runAll host rs b = (all, c)) (hvalid : ValidAlong host rs b)
    (hok : ∀ o ∈ all, o.isOk = true) (hnative : ∀ r ∈ rs, r.isNative = false) :
    Part host all rs b c where
  run := congrArg Prod.snd hrun
  outcomes := by
    rw [hrun]
    exact List.Subset.refl _
  valid := hvalid
  ok := hok
  native := hnative

/-- A part has parts of its own. -/
theorem split (h : Part host all (rs ++ rs') b c) :
    Part host all rs b (runAll host rs b).2 ∧ Part host all rs' (runAll host rs b).2 c := by
  obtain ⟨hvalid, hvalid'⟩ := along_append.mp h.valid
  have hrun := h.run
  have houtcomes := h.outcomes
  rw [runAll_append] at hrun houtcomes
  obtain ⟨hfirst, hlast⟩ := List.append_subset.mp houtcomes
  exact ⟨⟨rfl, hfirst, hvalid, h.ok, fun r hr => h.native r (List.mem_append_left _ hr)⟩,
    ⟨hrun, hlast, hvalid', h.ok, fun r hr => h.native r (List.mem_append_right _ hr)⟩⟩

/-- It obeys the law between passes that the whole run does. -/
theorem good (h : Part host all rs b c) {redelivery : Prop}
    (hredelivery : ∀ r ∈ rs, r.isRedelivery = true → redelivery)
    (hb : (unhandled host (scopeOf all redelivery)).At b) :
    (unhandled host (scopeOf all redelivery)).At c ∧
      (unhandled host (scopeOf all redelivery)).Good b c ∧ ∀ r ∈ rs, r.Done c :=
  runAll_allowed trivial (fun _ _ => id) (Prod.ext rfl h.run) h.valid
    (fun o ho => h.ok o (h.outcomes ho)) (fun r hr _ _ _ hrun hx =>
      allowed_of_run (h.native r hr) (hredelivery r hr) hrun (h.outcomes hx)) hb

end Request.Part

/-- A run without handlers, in which every request succeeds, obeys the law between passes. -/
theorem Request.runAll_unhandled {host : Host} {options : Options} {rs : List Request}
    {outcomes : List (Except InferError Answer)} {c : Compartment}
    (hrun : runAll host rs (fresh options) = (outcomes, c))
    (hvalid : ValidAlong host rs (fresh options)) (hok : ∀ o ∈ outcomes, o.isOk = true)
    (hnative : ∀ r ∈ rs, r.isNative = false) {redelivery : Prop}
    (hredelivery : ∀ r ∈ rs, r.isRedelivery = true → redelivery) :
    (unhandled host (scopeOf outcomes redelivery)).At c ∧
      (unhandled host (scopeOf outcomes redelivery)).Good (fresh options) c ∧
        ∀ r ∈ rs, r.Done c :=
  (Part.of_run hrun hvalid hok hnative).good hredelivery (at_fresh options _ trivial _ _)

/-- A run of requests that belong to the compartments that they meet and succeed, of a host that has
no handlers and makes no constraint hear of a type once more. -/
structure Request.Succeeds (host : Host) (rs : List Request) (b c : Compartment) : Prop where
  run : (runAll host rs b).2 = c
  valid : ValidAlong host rs b
  ok : ∀ o ∈ (runAll host rs b).1, o.isOk = true
  native : ∀ r ∈ rs, r.isNative = false
  redelivery : ∀ r ∈ rs, r.isRedelivery = false

theorem Request.allowed_plain {r : Request} {c : Compartment} (hnative : r.isNative = false)
    (hredelivery : r.isRedelivery = false) : r.Allowed .plain c := by
  refine allowed_of_full trivial rfl (fun _ => trivial) (fun _ _ _ _ => trivial) ?_ ?_
  · rintro id s t rfl
    cases hredelivery
  · rintro o handler g name rfl rfl
    cases hnative

theorem Request.allowed_waiting {r : Request} {c : Compartment} (hnative : r.isNative = false)
    (hredelivery : r.isRedelivery = false) (hhands : r ≠ .takeRecompiles) :
    r.Allowed .waiting c := by
  refine allowed_of_full trivial rfl (fun h => absurd h hhands) (fun _ _ _ _ => trivial) ?_ ?_
  · rintro id s t rfl
    cases hredelivery
  · rintro o handler g name rfl rfl
    cases hnative

namespace Request.Succeeds

variable {host : Host} {rs : List Request} {b c : Compartment} (h : Succeeds host rs b c)
include h

theorem good (hb : (unhandled host .plain).At b) :
    (unhandled host .plain).At c ∧ (unhandled host .plain).Good b c := by
  obtain ⟨hat, hgood, -⟩ := runAll_allowed trivial (fun _ _ => id)
    (Prod.ext rfl h.run : runAll host rs b = ((runAll host rs b).1, c)) h.valid h.ok
    (fun r hr _ _ _ _ _ => allowed_plain (h.native r hr) (h.redelivery r hr)) hb
  exact ⟨hat, hgood⟩

/-- As long as nobody takes the scripts that are to be compiled again, they stay. -/
theorem waits (hhands : .takeRecompiles ∉ rs) (hb : (unhandled host .plain).At b) :
    Did .waiting b c := by
  have hb' : (unhandled host .waiting).At b := ⟨⟨hb.sound, hb.handled, trivial⟩, hb.rest⟩
  obtain ⟨-, hgood, -⟩ := runAll_allowed trivial (fun _ _ => id)
    (Prod.ext rfl h.run : runAll host rs b = ((runAll host rs b).1, c)) h.valid h.ok
    (fun r hr _ _ _ _ _ => allowed_waiting (h.native r hr) (h.redelivery r hr)
      (ne_of_mem_of_not_mem hr hhands)) hb'
  exact hgood.did

end Request.Succeeds

/-! ## Handlers -/

/-- What a request needs in a run whose handlers are safe in compartments of certain sizes. -/
def Request.Safe (safe : Extent → String → Prop) (c : Compartment) : Request → Prop
  | setNativeHandler _ handler _ => ∀ name, handler = some name → safe c.extent name
  | _ => True

/-- Every request that a handler makes belongs to the compartment that it meets. -/
def Handler.Proper (safe : Extent → String → Prop) : Handler → Compartment → Prop
  | done, _ => True
  | fail _, _ => True
  | look next, c => (next c).Proper safe c
  | ask r next, c => (r.Valid c.extent ∧ r.Safe safe c) ∧
    (next (r.perform idle c).1).Proper safe (r.perform idle c).2

/-- A handler is proper wherever it is safe. -/
def Host.Proper (safe : Extent → String → Prop) (host : Host) : Prop :=
  ∀ name e site (c : Compartment), safe e name → e.Within c.extent → c.Sound →
    site.Valid c.extent → (host name site).Proper safe c

/-- Every request that a handler makes has a property. -/
def Handler.Asks (P : Request → Prop) : Handler → Compartment → Prop
  | done, _ => True
  | fail _, _ => True
  | look next, c => (next c).Asks P c
  | ask r next, c => P r ∧ (next (r.perform idle c).1).Asks P (r.perform idle c).2

theorem Handler.Asks.imp {P Q : Request → Prop} (hPQ : ∀ r, P r → Q r) {handler : Handler}
    {c : Compartment} (h : handler.Asks P c) : handler.Asks Q c := by
  induction handler generalizing c with
  | done => trivial
  | fail => trivial
  | look next ih => exact ih c h
  | ask r next ih => exact ⟨hPQ r h.1, ih _ h.2⟩

theorem Handler.asks_of_forall {P : Request → Prop} (hP : ∀ r, P r) (handler : Handler)
    (c : Compartment) : handler.Asks P c := by
  induction handler generalizing c with
  | done => trivial
  | fail => trivial
  | look next ih => exact ih c c
  | ask r next ih => exact ⟨hP r, ih _ _⟩

/-- Every request that the handlers of a host make has a property. -/
def Host.Asks (P : Request → Prop) (host : Host) : Prop :=
  ∀ name site (c : Compartment), (host name site).Asks P c

namespace Compartment

variable {L : Law} {c c' : Compartment} {host : Host}

section Handlers

variable {sci : Scope} {invariant : sci.Invariant} (hchoice : sci.choice)
  (hgrant : sci.grant = .full) (hpasses : ¬ sci.passes) (hdirect : ∀ id, sci.direct id)
  (hhands : sci.handsOut)
include hchoice hgrant hpasses hdirect hhands

/-- A proper handler obeys the law within a pass. -/
theorem moves_run {handler : Handler} (h : (inner sci invariant False fun _ => True).At c)
    (hproper : handler.Proper sci.handler c)
    (hasks : handler.Asks (fun r => r.isRedelivery = true → sci.redelivery) c) :
    (inner sci invariant False fun _ => True).Moves handler.run c fun _ _ => True := by
  have hL : (inner sci invariant False fun _ => True).Lawful := lawful_inner sci invariant False _
  induction handler generalizing c with
  | done => exact .pure h trivial
  | fail e => exact .throw h trivial
  | look next ih =>
    have hrun : (Handler.look next).run c = (next c).run c := rfl
    exact (outcome_congr hrun).mpr (ih c h hproper hasks)
  | ask r next ih =>
    obtain ⟨⟨hvalid, hsafe⟩, hnext⟩ := hproper
    obtain ⟨hredelivery, hasks⟩ := hasks
    have hallowed : r.Allowed sci c := by
      refine Request.allowed_of_full hchoice hgrant (fun _ => hhands) (fun _ _ _ _ => hdirect _)
        ?_ ?_
      · rintro id s t rfl
        exact hredelivery rfl
      · rintro o handler g name rfl hname
        exact hsafe name hname
    have hmoves := Request.moves hL h (Law.Free.supported (fun _ _ => trivial) r) hvalid hallowed
    have hgood : (inner sci invariant False fun _ => True).Good c (r.perform idle c).2 ∧
        (r.perform idle c).2.worklist.resolving = true := by
      refine Outcome.either (P := fun c' => (inner sci invariant False fun _ => True).Good c c' ∧
        c'.worklist.resolving = true) (Outcome.imp hmoves ?_ ?_)
      · exact fun _ _ hmoved => ⟨hmoved.1, hmoved.2.1⟩
      · -- The host may go on after a request that failed.
        rintro e c' ⟨hdid, hrest, -⟩
        exact ⟨⟨hdid, False.elim, delivered_of_journal (hdid.not_fired hpasses h.sound)⟩, hrest⟩
    have hrun : (Handler.ask r next).run c =
        (next (r.perform idle c).1).run (r.perform idle c).2 := rfl
    refine (outcome_congr hrun).mpr ?_
    exact Law.Moves.after hL.within h.sound hgood.1
      (ih _ (hgood.1.at h hgood.2) hnext hasks)

/-- The handlers of a proper host obey the law within a pass. -/
theorem obeyed_of_proper (hhost : host.Proper sci.handler)
    (hasks : host.Asks fun r => r.isRedelivery = true → sci.redelivery)
    (h : (inner sci invariant False fun _ => True).At c) :
    (inner sci invariant False fun _ => True).Obeyed host c := by
  intro o f name site hf hname hsite
  obtain ⟨e, he, hsafe⟩ := h.handled o f name hf hname
  have hrecord : c.Aside (c.record (.called site (.function o f))) := aside_record rfl rfl
  have hat : (inner sci invariant False fun _ => True).At (c.record (.called site (.function o f))) :=
    Law.Good.at h (.of_calm (.aside hrecord) hrecord.calm) h.rest
  exact moves_run hchoice hgrant hpasses hdirect hhands hat
    (hhost name e site _ hsafe he hat.sound hsite) (hasks name site _)

end Handlers

/-- The law of a host whose handlers are safe in compartments of certain sizes. -/
def handled (host : Host) (safe : Extent → String → Prop) : Law :=
  outer (solve host) (.ofHost (fun _ => True) True safe) (.none _) False fun _ => True

/-- A compartment without handlers is at rest for every host. -/
theorem at_handled {scope : Scope} (hhandler : ∀ e h, ¬ scope.handler e h)
    (h : (unhandled host scope).At c) (host' : Host) (safe : Extent → String → Prop) :
    (handled host' safe).At c := by
  refine ⟨⟨h.sound, fun o f name hf hname => ?_, trivial⟩, h.rest⟩
  obtain ⟨e, -, hnone⟩ := h.handled o f name hf hname
  exact absurd hnone (hhandler e name)

theorem lawful_ofHost {safe : Extent → String → Prop} {redelivery : Prop} (hhost : host.Proper safe)
    (hasks : host.Asks fun r => r.isRedelivery = true → redelivery) :
    (outer (solve host) (.ofHost (fun _ => True) redelivery safe) (.none _) False
      fun _ => True).Lawful :=
  lawful_solve (Scope.inside_nested trivial) (Law.Free.refuses fun _ _ => trivial).lenient
    (fun _ h => obeyed_of_proper trivial rfl id (fun _ => trivial) trivial hhost hasks h)
    (.inl trivial)

theorem lawful_handled {safe : Extent → String → Prop} (hhost : host.Proper safe) :
    (handled host safe).Lawful :=
  lawful_ofHost hhost fun _ _ => Handler.asks_of_forall (fun _ _ => trivial) _

/-- The law of such a host as long as no constraint hears of a type once more. -/
def handledOnce (host : Host) (safe : Extent → String → Prop) : Law :=
  outer (solve host) (.ofHost (fun _ => True) False safe) (.none _) False fun _ => True

end Compartment

/-- A run of requests that belong to the compartments that they meet and succeed, of a host whose
handlers do too. -/
structure Request.Proper (safe : Extent → String → Prop) (host : Host) (rs : List Request)
    (b c : Compartment) : Prop where
  handlers : host.Proper safe
  run : (runAll host rs b).2 = c
  along : Along host (fun c r => r.Valid c.extent ∧ r.Safe safe c) rs b
  ok : ∀ o ∈ (runAll host rs b).1, o.isOk = true

/-- Requests that give no handlers are safe. -/
theorem Request.ValidAlong.safe {safe : Extent → String → Prop} {host : Host} {rs : List Request}
    {b : Compartment} (h : ValidAlong host rs b) (hnative : ∀ r ∈ rs, r.isNative = false) :
    Along host (fun c r => r.Valid c.extent ∧ r.Safe safe c) rs b := by
  induction rs generalizing b with
  | nil => trivial
  | cons r rs ih =>
    refine ⟨⟨h.1, ?_⟩, ih h.2 fun r hr => hnative r (List.mem_cons_of_mem _ hr)⟩
    have hr := hnative r List.mem_cons_self
    cases r with
    | setNativeHandler o handler g =>
      rintro name rfl
      cases hr
    | _ => trivial

/-- If handlers are safe everywhere, every request is. -/
theorem Request.ValidAlong.safe_everywhere {host : Host} {rs : List Request} {b : Compartment}
    (h : ValidAlong host rs b) :
    Along host (fun c r => r.Valid c.extent ∧ r.Safe (fun _ _ => True) c) rs b := by
  refine Along.imp (fun c r hvalid => ⟨hvalid, ?_⟩) h
  cases r with
  | setNativeHandler => exact fun _ _ => trivial
  | _ => trivial

/-- A request that is safe obeys the law of a host with handlers. -/
theorem Request.moves_handled {safe : Extent → String → Prop} {host : Host} (hhost : host.Proper safe)
    {b : Compartment} (hb : (handled host safe).At b) {r : Request} (hvalid : r.Valid b.extent)
    (hsafe : r.Safe safe b) : (handled host safe).Moves (r.run host) b
      (r.Answered (.ofHost (fun _ => True) True safe) b) := by
  refine Request.moves (lawful_handled hhost) hb
    (Law.Free.supported (fun _ _ => trivial) r) hvalid ?_
  refine allowed_of_full trivial rfl (fun _ => trivial) (fun _ _ _ _ => trivial)
    (fun _ _ _ _ => trivial) ?_
  rintro o handler g name rfl hname
  exact hsafe name hname

theorem Request.Proper.good {safe : Extent → String → Prop} {host : Host} {rs : List Request}
    {b c : Compartment} (h : Proper safe host rs b c) (hb : (handled host safe).At b) :
    (handled host safe).At c ∧ (handled host safe).Good b c := by
  obtain ⟨hat, hgood, -⟩ := runAll_good
    (Prod.ext rfl h.run : runAll host rs b = ((runAll host rs b).1, c)) h.along h.ok
    (fun r _ b x b' hr _ _ hb => (moves_handled h.handlers hb hr.1 hr.2).imp hb
      fun _ _ _ _ hanswered => hanswered.done) hb
  exact ⟨hat, hgood⟩

/-- Nobody makes a constraint hear of a type once more, neither the host nor a handler. -/
structure Request.DeliversOnce (host : Host) (rs : List Request) : Prop where
  requests : ∀ r ∈ rs, r.isRedelivery = false
  handlers : host.Asks fun r => r.isRedelivery = false

theorem Request.Proper.good_once {safe : Extent → String → Prop} {host : Host} {rs : List Request}
    {b c : Compartment} (h : Proper safe host rs b c) (honce : DeliversOnce host rs)
    (hb : (handledOnce host safe).At b) :
    (handledOnce host safe).At c ∧ (handledOnce host safe).Good b c ∧ ∀ r ∈ rs, r.Done c := by
  have hL : (handledOnce host safe).Lawful := by
    refine lawful_ofHost h.handlers fun name site c => (honce.handlers name site c).imp ?_
    intro r hnone hredelivery
    rw [hnone] at hredelivery
    cases hredelivery
  refine runAll_good (Prod.ext rfl h.run : runAll host rs b = ((runAll host rs b).1, c)) h.along h.ok
    ?_ hb
  intro r hr a x a' hwell _ _ ha
  have hallowed : r.Allowed (.ofHost (fun _ => True) False safe) a := by
    refine allowed_of_full trivial rfl (fun _ => trivial) (fun _ _ _ _ => trivial) ?_ ?_
    · rintro id s t rfl
      cases honce.requests _ hr
    · rintro o handler g name rfl hname
      exact hwell.2 name hname
  have hmoves := Request.moves hL ha (Law.Free.supported (fun _ _ => trivial) r) hwell.1 hallowed
  exact hmoves.imp ha fun _ _ _ _ hanswered => hanswered.done

/-! ## Runs whose requests may fail -/

/-- A run of requests that belong to the compartments that they meet, of a host whose handlers do
too.  Any of the requests may fail. -/
structure Request.Reaches (safe : Extent → String → Prop) (host : Host) (rs : List Request)
    (b c : Compartment) : Prop where
  handlers : host.Proper safe
  run : (runAll host rs b).2 = c
  along : Along host (fun c r => r.Valid c.extent ∧ r.Safe safe c) rs b

/-- Requests that give no handlers, in a run of a host that has none. -/
theorem Request.reaches_silent {rs : List Request} {b : Compartment}
    (hvalid : ValidAlong .silent rs b) (hnative : ∀ r ∈ rs, r.isNative = false) :
    Reaches (fun _ _ => True) .silent rs b (runAll .silent rs b).2 :=
  ⟨fun _ _ _ _ _ _ _ _ => trivial, rfl, hvalid.safe hnative⟩

/-- Whether a request succeeds or fails, the compartment is at rest again. -/
theorem Request.at_run {safe : Extent → String → Prop} {host : Host} (hhost : host.Proper safe)
    {b : Compartment} (hb : (handled host safe).At b) {r : Request} (hvalid : r.Valid b.extent)
    (hsafe : r.Safe safe b) : (handled host safe).At (r.run host b).2 ∧
      Did (handled host safe).failing b (r.run host b).2 := by
  refine Outcome.either (P := fun b' => (handled host safe).At b' ∧ Did _ b b')
    (Outcome.imp (moves_handled hhost hb hvalid hsafe) ?_ ?_)
  · rintro _ b' ⟨hgood, hrest, -⟩
    exact ⟨hgood.at hb hrest, hgood.did.mono (lawful_handled hhost).within⟩
  · rintro e b' ⟨hdid, hrest, -⟩
    -- A request that fails gives no other handlers than one that succeeds.
    have hhandled : Compartment.HandledBy _ (handled host safe).failing :=
      hdid.handled hb.sound (hb.handled.mono fun _ _ h => h)
    exact ⟨⟨⟨hdid.sound hb.sound, hhandled.mono fun _ _ h => h, trivial⟩, hrest⟩, hdid⟩

theorem Request.at_outcome {safe : Extent → String → Prop} {host : Host}
    (hhost : host.Proper safe) {b b' : Compartment} (hb : (handled host safe).At b) {r : Request}
    (hvalid : r.Valid b.extent) (hsafe : r.Safe safe b) {o : Except InferError Answer}
    (hrun : r.run host b = (o, b')) :
    (handled host safe).At b' ∧ Did (handled host safe).failing b b' := by
  have hat := at_run hhost hb hvalid hsafe
  rwa [hrun] at hat

namespace Request.Reaches

variable {safe : Extent → String → Prop} {host : Host} {rs : List Request} {b c : Compartment}
  (h : Reaches safe host rs b c)
include h

/-- A run leaves a compartment at rest, whatever fails in it. -/
theorem moves (hb : (handled host safe).At b) :
    (handled host safe).At c ∧ Did (handled host safe).failing b c := by
  refine runAll_induction (I := fun c => (handled host safe).At c ∧
      Did (handled host safe).failing b c)
    (Prod.ext rfl h.run : runAll host rs b = ((runAll host rs b).1, c)) h.along ?_ ⟨hb, .refl b⟩
  rintro r - a o a' ⟨hvalid, hsafe⟩ hrun - ⟨ha, hdid⟩
  obtain ⟨ha', hdid'⟩ := at_outcome h.handlers ha hvalid hsafe hrun
  exact ⟨ha', hdid.trans hdid'⟩

/-- A run from a fresh compartment leaves a compartment at rest. -/
theorem resting {options : Options} (hb : b = fresh options) : (handled host safe).At c := by
  subst hb
  exact (h.moves (at_fresh options _ trivial _ _)).1

/-- What a run from a fresh compartment has done. -/
theorem did {options : Options} (hb : b = fresh options) :
    Did (handled host safe).failing (fresh options) c := by
  subst hb
  exact (h.moves (at_fresh options _ trivial _ _)).2

end Request.Reaches

end FlowTypes
