import FlowTypes.Proofs.Settlement

/-!
# How actions move a compartment

An action answers or fails, and either way it leaves a compartment behind.  A `Law` fixes what may
happen on the way: what a request for a pass does, which changes are in scope and what they keep,
whether the action has to be tidy, and how the worklist looks between two actions.  `Law.Moves` says
that an action obeys the law from a given compartment on, and what holds of its answer.

The laws of sequencing let the moves of a long action be put together from those of its parts, along
the text of the action.

## Main results

* `Outcome`: what holds of the answer and of the failure of an action; `outcome_bind`.
* `Law.Moves`; `Moves.bind`, `Moves.pure`, `Moves.modify`, `Moves.forM`.
-/

namespace FlowTypes

/-- The host asked for something that cannot be; there was room enough for it. -/
def InferError.isRefusal : InferError → Bool
  | outOfMemory _ => false
  | _ => true

namespace Compartment

/-! ## Outcomes -/

/-- What holds of the answer of an action, or of its failure, and of what it leaves behind. -/
@[irreducible]
def Outcome {α : Type} (a : Action α) (c : Compartment) (ok : α → Compartment → Prop)
    (failed : InferError → Compartment → Prop) : Prop :=
  match a c with
  | (.ok x, c') => ok x c'
  | (.error e, c') => failed e c'

variable {α β : Type} {c c' : Compartment}

theorem Outcome.imp {a : Action α} {ok ok' : α → Compartment → Prop}
    {failed failed' : InferError → Compartment → Prop} (h : Outcome a c ok failed)
    (hok : ∀ x c', ok x c' → ok' x c') (hfailed : ∀ e c', failed e c' → failed' e c') :
    Outcome a c ok' failed' := by
  unfold Outcome at *
  split
  · rename_i hrun
    rw [hrun] at h
    exact hok _ _ h
  · rename_i hrun
    rw [hrun] at h
    exact hfailed _ _ h

theorem run_bind (a : Action α) (f : α → Action β) : (a >>= f) c =
    match a c with
    | (.ok x, c') => f x c'
    | (.error e, c') => (.error e, c') := by
  show (match a c with
    | (r, c') => ExceptT.bindCont f r c') = _
  cases a c with
  | mk r c' => cases r <;> rfl

/-- The second action goes on from where the first one answered. -/
theorem run_bind_ok {a : Action α} {f : α → Action β} {x : α} (h : a c = (.ok x, c')) :
    (a >>= f) c = f x c' := by
  rw [run_bind, h]

/-- The second action is left out if the first one fails. -/
theorem run_bind_error {a : Action α} {f : α → Action β} {e : InferError}
    (h : a c = (.error e, c')) : (a >>= f) c = (.error e, c') := by
  rw [run_bind, h]

theorem run_get (f : Compartment → Action α) : (get >>= f) c = f c c := rfl

theorem run_modify (g : Compartment → Compartment) (f : PUnit → Action α) :
    (modify g >>= f) c = f ⟨⟩ (g c) :=
  rfl

/-- The second action goes on from where the first one stopped, unless that failed. -/
theorem outcome_bind {a : Action α} {f : α → Action β} {ok : β → Compartment → Prop}
    {failed : InferError → Compartment → Prop} :
    Outcome (a >>= f) c ok failed ↔
      Outcome a c (fun x c' => Outcome (f x) c' ok failed) failed := by
  unfold Outcome
  rw [run_bind]
  cases a c with
  | mk r c' => cases r <;> rfl

theorem outcome_of_ok {a : Action α} {x : α} {ok : α → Compartment → Prop}
    {failed : InferError → Compartment → Prop} (hrun : a c = (.ok x, c')) (h : ok x c') :
    Outcome a c ok failed := by
  unfold Outcome
  rw [hrun]
  exact h

theorem outcome_of_error {a : Action α} {e : InferError} {ok : α → Compartment → Prop}
    {failed : InferError → Compartment → Prop} (hrun : a c = (.error e, c')) (h : failed e c') :
    Outcome a c ok failed := by
  unfold Outcome
  rw [hrun]
  exact h

/-- What holds of an answer that the action gave, and of what it left behind. -/
theorem Outcome.of_run {a : Action α} {x : α} {ok : α → Compartment → Prop}
    {failed : InferError → Compartment → Prop} (h : Outcome a c ok failed)
    (hrun : a c = (.ok x, c')) : ok x c' := by
  unfold Outcome at h
  rwa [hrun] at h

/-- What holds of a failure that came up, and of what the action left behind. -/
theorem Outcome.of_failure {a : Action α} {e : InferError} {ok : α → Compartment → Prop}
    {failed : InferError → Compartment → Prop} (h : Outcome a c ok failed)
    (hrun : a c = (.error e, c')) : failed e c' := by
  unfold Outcome at h
  rwa [hrun] at h

theorem Outcome.ok {a : Action α} {x : α} {ok : α → Compartment → Prop}
    {failed : InferError → Compartment → Prop} (h : Outcome a c ok failed)
    (hrun : (a c).1 = .ok x) : ok x (a c).2 :=
  h.of_run (Prod.ext hrun rfl)

theorem Outcome.error {a : Action α} {e : InferError} {ok : α → Compartment → Prop}
    {failed : InferError → Compartment → Prop} (h : Outcome a c ok failed)
    (hrun : (a c).1 = .error e) : failed e (a c).2 :=
  h.of_failure (Prod.ext hrun rfl)

/-- What holds of the compartment whether the action succeeds or fails. -/
theorem Outcome.either {a : Action α} {P : Compartment → Prop}
    (h : Outcome a c (fun _ => P) fun _ => P) : P (a c).2 := by
  cases hrun : (a c).1 with
  | ok x => exact h.ok hrun
  | error e => exact h.error hrun

/-- What is known of an outcome in two ways. -/
theorem Outcome.and {a : Action α} {ok ok' : α → Compartment → Prop}
    {failed failed' : InferError → Compartment → Prop} (h : Outcome a c ok failed)
    (h' : Outcome a c ok' failed') :
    Outcome a c (fun x c' => ok x c' ∧ ok' x c') fun e c' => failed e c' ∧ failed' e c' := by
  cases hrun : (a c).1 with
  | ok x => exact outcome_of_ok (Prod.ext hrun rfl) ⟨h.ok hrun, h'.ok hrun⟩
  | error e => exact outcome_of_error (Prod.ext hrun rfl) ⟨h.error hrun, h'.error hrun⟩

/-- An action that runs like another one from a later compartment has its outcome. -/
theorem outcome_congr {a b : Action α} {c₁ : Compartment} {ok : α → Compartment → Prop}
    {failed : InferError → Compartment → Prop} (h : a c = b c₁) :
    Outcome a c ok failed ↔ Outcome b c₁ ok failed := by
  unfold Outcome
  rw [h]

theorem outcome_get {f : Compartment → Action α} {ok : α → Compartment → Prop}
    {failed : InferError → Compartment → Prop} :
    Outcome (get >>= f) c ok failed ↔ Outcome (f c) c ok failed :=
  outcome_congr (run_get f)

theorem outcome_modify {g : Compartment → Compartment} {f : PUnit → Action α}
    {ok : α → Compartment → Prop} {failed : InferError → Compartment → Prop} :
    Outcome (modify g >>= f) c ok failed ↔ Outcome (f ⟨⟩) (g c) ok failed :=
  outcome_congr (run_modify g f)

theorem outcome_pure {x : α} {ok : α → Compartment → Prop}
    {failed : InferError → Compartment → Prop} : Outcome (pure x) c ok failed ↔ ok x c := by
  unfold Outcome
  rfl

theorem outcome_map {a : Action α} {f : α → β} {ok : β → Compartment → Prop}
    {failed : InferError → Compartment → Prop} :
    Outcome (f <$> a) c ok failed ↔ Outcome a c (fun x c' => ok (f x) c') failed := by
  rw [map_eq_pure_bind, outcome_bind]
  simp only [outcome_pure]

theorem outcome_discard {a : Action α} {ok : PUnit → Compartment → Prop}
    {failed : InferError → Compartment → Prop} :
    Outcome (discard a) c ok failed ↔ Outcome a c (fun _ c' => ok ⟨⟩ c') failed :=
  outcome_map (f := fun _ => PUnit.unit)

/-- A loop over a list keeps what each round keeps. -/
theorem outcome_forM {xs : List α} {f : α → Action PUnit} {I : Compartment → Prop}
    {failed : InferError → Compartment → Prop} (h : I c)
    (hf : ∀ x ∈ xs, ∀ b, I b → Outcome (f x) b (fun _ b' => I b') failed) :
    Outcome (xs.forM f) c (fun _ c' => I c') failed := by
  induction xs generalizing c with
  | nil => exact outcome_of_ok rfl h
  | cons x xs ih =>
    refine outcome_bind.mpr (Outcome.imp (hf x List.mem_cons_self c h) ?_ fun _ _ h => h)
    exact fun _ b hb => ih hb fun y hy => hf y (List.mem_cons_of_mem _ hy)

/-! ## Laws -/

/-- What holds at every moment, whatever is done within a scope. -/
structure Scope.Invariant (sc : Scope) where
  Holds : Compartment → Prop
  kept : ∀ c c' : Compartment, c.Sound → Did sc c c' → Holds c → Holds c'

/-- The invariant that says nothing. -/
def Scope.Invariant.none (sc : Scope) : sc.Invariant := ⟨fun _ => True, fun _ _ _ _ _ => trivial⟩

/-- What may happen while an action is carried out. -/
structure Law where
  /-- What a pass is, at this place. -/
  pass : Action Unit
  /-- The changes that an action may make. -/
  scope : Scope
  /-- What they keep. -/
  invariant : scope.Invariant
  /-- The changes that an action may make before it fails. -/
  failing : Scope
  /-- Actions do what they begin. -/
  tidy : Prop
  /-- The worklist between two actions. -/
  Rest : Worklist → Prop
  /-- The worklist when a pass is asked for. -/
  Ready : Worklist → Prop
  /-- Why an action may fail. -/
  Fails : InferError → Prop

namespace Law

variable (L : Law)

/-- An action may fail for every reason but that a pass does not end. -/
def Free : Prop := ∀ e, e ≠ .outOfMemory "worklist" → L.Fails e

/-- There are never more objects than a walk has rounds for, unless an action may fail for that. -/
def Roomy : Prop :=
  L.Fails (.outOfMemory "instance list") ∨
    ∀ b c : Compartment, b.Sound → Did L.scope b c → c.objects.size ≤ b.objectBound

/-- An action may be turned down, and no walk is cut off unless an action may fail for that. -/
structure Refuses : Prop where
  fails : ∀ {e : InferError}, e.isRefusal = true → L.Fails e
  roomy : L.Roomy

theorem Free.refuses {L : Law} (h : L.Free) : L.Refuses where
  fails {e} he := h e fun heq => by rw [heq] at he; cases he
  roomy := .inl (h _ (by decide))

/-- What holds all the time. -/
structure Standing (c : Compartment) : Prop where
  sound : c.Sound
  handled : c.HandledBy L.scope
  kept : L.invariant.Holds c

/-- Between two actions. -/
structure At (c : Compartment) : Prop extends L.Standing c where
  rest : L.Rest c.worklist

/-- What an action may do. -/
structure Good (c c' : Compartment) : Prop where
  did : Did L.scope c c'
  tidied : L.tidy → c.Tidied c'
  delivered : Delivered L.scope c c'

/-- An action obeys the law, and its answer has a property. -/
def Moves (a : Action α) (c : Compartment) (Q : α → Compartment → Prop) : Prop :=
  Outcome a c (fun x c' => L.Good c c' ∧ L.Rest c'.worklist ∧ Q x c')
    fun e c' => Did L.failing c c' ∧ L.Rest c'.worklist ∧ L.Fails e

/-- The parts of a law agree with each other. -/
structure Lawful : Prop where
  within : L.scope.Within L.failing
  ready : ∀ w works, L.Rest w → L.Ready (w.enqueue works)
  requestPass : ∀ c, L.Standing c → L.Ready c.worklist →
    L.Moves (requestPass L.pass) c fun _ _ => True

variable {L}

theorem Good.sound (hc : c.Sound) (h : L.Good c c') : c'.Sound := h.did.sound hc

theorem Good.grows (hc : c.Sound) (h : L.Good c c') : c.Grows c' := h.did.grows hc

theorem Standing.did (h : L.Standing c) (hdid : Did L.scope c c') : L.Standing c' :=
  ⟨hdid.sound h.sound, hdid.handled h.sound h.handled, L.invariant.kept c c' h.sound hdid h.kept⟩

theorem At.did (h : L.At c) (hdid : Did L.scope c c') (hrest : L.Rest c'.worklist) : L.At c' :=
  ⟨h.toStanding.did hdid, hrest⟩

theorem Good.at (h : L.At c) (hgood : L.Good c c') (hrest : L.Rest c'.worklist) : L.At c' :=
  h.did hgood.did hrest

theorem Good.refl (c : Compartment) : L.Good c c :=
  ⟨.refl c, fun _ => Tidied.refl c, Delivered.refl c⟩

theorem Good.trans {c'' : Compartment} (hc : c.Sound) (h : L.Good c c') (h' : L.Good c' c'') :
    L.Good c c'' where
  did := h.did.trans h'.did
  tidied ht := (h.tidied ht).trans (h.sound hc) (h'.sound (h.sound hc)) (h'.grows (h.sound hc))
    (h'.tidied ht)
  delivered := h.delivered.trans hc h.did h'.did h'.delivered

/-- A single calm change. -/
theorem Good.of_calm (hchange : c.Change L.scope c') (hcalm : c.Calm c') : L.Good c c' :=
  ⟨.single hchange, fun _ => hcalm.tidied, hcalm.delivered⟩

/-- A first step need not be tidy by itself, if what follows makes it so. -/
theorem Good.tidying {c₁ : Compartment} (hc : c.Sound) (hdid : Did L.scope c c₁)
    (hquiet : ∃ es, c₁.journal = es ++ c.journal ∧ ∀ w, .fired w ∉ es) (hgood : L.Good c₁ c')
    (htidied : c₁.Tidied c' → c.Tidied c') : L.Good c c' where
  did := hdid.trans hgood.did
  tidied ht := htidied (hgood.tidied ht)
  delivered := (delivered_of_journal hquiet).trans hc hdid hgood.did hgood.delivered

/-! ## Sequencing -/

namespace Moves

variable {a : Action α} {f : α → Action β} {Q : α → Compartment → Prop}
  {R : β → Compartment → Prop}

theorem imp {Q' : α → Compartment → Prop} (h : L.At c) (ha : L.Moves a c Q)
    (hQ : ∀ x c', L.At c' → L.Good c c' → Q x c' → Q' x c') : L.Moves a c Q' := by
  refine Outcome.imp ha ?_ fun _ _ h => h
  rintro x c' ⟨hgood, hrest, hx⟩
  exact ⟨hgood, hrest, hQ x c' (hgood.at h hrest) hgood hx⟩

/-- What is known of the answer in another way. -/
theorem and {R : α → Compartment → Prop} (h : L.Moves a c Q)
    (h' : Outcome a c R fun _ _ => True) : L.Moves a c fun x c' => Q x c' ∧ R x c' := by
  refine Outcome.imp (Outcome.and h h') ?_ fun _ _ hfailed => hfailed.1
  rintro x c' ⟨⟨hgood, hrest, hx⟩, hx'⟩
  exact ⟨hgood, hrest, hx, hx'⟩

/-- The moves of an action that begins in the middle of another one. -/
theorem after (hL : L.scope.Within L.failing) {c₁ : Compartment} (hc : c.Sound)
    (hgood : L.Good c c₁) (h : L.Moves a c₁ Q) : Outcome a c₁
      (fun x c' => L.Good c c' ∧ L.Rest c'.worklist ∧ Q x c')
      fun e c' => Did L.failing c c' ∧ L.Rest c'.worklist ∧ L.Fails e := by
  refine Outcome.imp h ?_ ?_
  · rintro x c' ⟨hgood', hrest, hx⟩
    exact ⟨hgood.trans hc hgood', hrest, hx⟩
  · rintro e c' ⟨hdid, hrest, he⟩
    exact ⟨(hgood.did.mono hL).trans hdid, hrest, he⟩

/-- The moves of an action that begins with a step that it makes tidy later on. -/
theorem tidying (hL : L.scope.Within L.failing) {c₁ : Compartment} (hc : c.Sound)
    (hdid : Did L.scope c c₁) (hquiet : ∃ es, c₁.journal = es ++ c.journal ∧ ∀ w, .fired w ∉ es)
    (h : L.Moves a c₁ Q) {P : α → Compartment → Prop}
    (hQ : ∀ x c', L.Good c₁ c' → Q x c' → (c₁.Tidied c' → c.Tidied c') ∧ P x c') : Outcome a c₁
      (fun x c' => L.Good c c' ∧ L.Rest c'.worklist ∧ P x c')
      fun e c' => Did L.failing c c' ∧ L.Rest c'.worklist ∧ L.Fails e := by
  refine Outcome.imp h ?_ ?_
  · rintro x c' ⟨hgood, hrest, hx⟩
    obtain ⟨htidied, hx'⟩ := hQ x c' hgood hx
    exact ⟨.tidying hc hdid hquiet hgood htidied, hrest, hx'⟩
  · rintro e c' ⟨hdid', hrest, he⟩
    exact ⟨(hdid.mono hL).trans hdid', hrest, he⟩

theorem bind (hL : L.scope.Within L.failing) (h : L.At c) (ha : L.Moves a c Q)
    (hf : ∀ x c', L.At c' → L.Good c c' → Q x c' → L.Moves (f x) c' R) :
    L.Moves (a >>= f) c R := by
  refine outcome_bind.mpr (Outcome.imp ha ?_ fun _ _ h => h)
  rintro x c' ⟨hgood, hrest, hx⟩
  exact after hL h.sound hgood (hf x c' (hgood.at h hrest) hgood hx)

theorem discard {P : Compartment → Prop} (ha : L.Moves a c fun _ c' => P c') :
    L.Moves (Functor.discard a) c fun _ c' => P c' :=
  outcome_discard.mpr ha

theorem pure {x : α} (h : L.At c) (hx : Q x c) : L.Moves (Pure.pure x) c Q :=
  outcome_of_ok rfl ⟨Good.refl c, h.rest, hx⟩

theorem throw {e : InferError} (h : L.At c) (he : L.Fails e) :
    L.Moves (MonadExcept.throw e : Action α) c Q :=
  outcome_of_error rfl ⟨.refl c, h.rest, he⟩

/-- Looking at the compartment changes nothing. -/
theorem get {f : Compartment → Action α} (h : L.Moves (f c) c Q) :
    L.Moves (MonadState.get >>= f) c Q :=
  outcome_get.mpr h

theorem modify {g : Compartment → Compartment} {Q : PUnit → Compartment → Prop}
    (hgood : L.Good c (g c)) (hrest : L.Rest (g c).worklist) (hQ : Q ⟨⟩ (g c)) :
    L.Moves (modify g) c Q :=
  outcome_of_ok rfl ⟨hgood, hrest, hQ⟩

/-- A change of nothing that flows. -/
theorem aside {g : Compartment → Compartment} (h : L.At c) (haside : c.Aside (g c))
    (hworklist : (g c).worklist = c.worklist) :
    L.Moves (MonadState.modifyGet fun c => (PUnit.unit, g c)) c fun _ c' => c' = g c := by
  refine modify (Good.of_calm (.aside haside) haside.calm) ?_ rfl
  rw [hworklist]
  exact h.rest

/-- A loop over a list keeps what each round keeps. -/
theorem forM {xs : List α} {f : α → Action PUnit} {I : Compartment → Prop}
    {Q : α → Compartment → Prop}
    (hL : L.scope.Within L.failing) (h : L.At c) (hI : I c)
    (hkept : ∀ x c' c'', L.At c' → L.Good c' c'' → Q x c' → Q x c'')
    (hf : ∀ x ∈ xs, ∀ c', L.At c' → L.Good c c' → I c' →
      L.Moves (f x) c' fun _ c'' => I c'' ∧ Q x c'') :
    L.Moves (xs.forM f) c fun _ c' => I c' ∧ ∀ x ∈ xs, Q x c' := by
  induction xs generalizing c with
  | nil =>
    exact outcome_of_ok rfl ⟨Good.refl c, h.rest, hI, fun _ hx => absurd hx List.not_mem_nil⟩
  | cons x xs ih =>
    refine bind hL h (hf x List.mem_cons_self c h (Good.refl c) hI) ?_
    rintro _ c₁ h₁ hgood₁ ⟨hI₁, hx⟩
    refine imp h₁ (ih h₁ hI₁ ?_) ?_
    · intro y hy c' h' hgood'
      exact hf y (List.mem_cons_of_mem _ hy) c' h' (hgood₁.trans h.sound hgood')
    · rintro _ c₂ - hgood₂ ⟨hI₂, hall⟩
      refine ⟨hI₂, ?_⟩
      intro y hy
      obtain rfl | hy := List.mem_cons.mp hy
      · exact hkept _ _ _ h₁ hgood₂ hx
      · exact hall y hy

/-- The answers of a loop over a list have what each of them had. -/
theorem mapM {xs : List α} {f : α → Action β} {R : β → Compartment → Prop}
    (hL : L.scope.Within L.failing) (h : L.At c)
    (hkept : ∀ y c' c'', L.At c' → L.Good c' c'' → R y c' → R y c'')
    (hf : ∀ x ∈ xs, ∀ c', L.At c' → L.Good c c' → L.Moves (f x) c' R) :
    L.Moves (xs.mapM f) c fun ys c' => ∀ y ∈ ys, R y c' := by
  induction xs generalizing c with
  | nil => exact pure h fun _ hy => absurd hy List.not_mem_nil
  | cons x xs ih =>
    rw [List.mapM_cons]
    refine bind hL h (hf x List.mem_cons_self c h (Good.refl c)) ?_
    intro y c₁ h₁ hgood₁ hy
    refine bind hL h₁ (ih h₁ ?_) ?_
    · intro z hz c' h' hgood'
      exact hf z (List.mem_cons_of_mem _ hz) c' h' (hgood₁.trans h.sound hgood')
    · intro ys c₂ h₂ hgood₂ hall
      refine pure h₂ ?_
      intro z hz
      obtain rfl | hz := List.mem_cons.mp hz
      · exact hkept _ _ _ h₁ hgood₂ hy
      · exact hall z hz

end Moves

end Law

end Compartment

end FlowTypes
