import FlowTypes.Proofs.Actions.Slots

/-!
# Checked actions

The look-ups of a compartment answer a default for a handle that is in no table.  The engine itself
has no such default: it stops at an index that is out of range, and so it does where one of its
assertions fails.  A checked action says so.  It either goes through or stops with a `Fault`, and it
takes nothing from a table but by an index that is checked.

The checked actions are a second reading of the actions of a compartment, one for one.  This module
has what they are made of: the faults, the look-ups and the updates of single entries; and what it
means that a checked action keeps up with an action, so that it has no fault, unless the host passed
a handle that is none of the compartment's.

## Main results

* `Checked`: an action that may stop with a `Fault`.
* `Compartment.Intact`: every handle that is kept is in its table, and packed arrays are dense.
* `Checked.Tracks`: a checked run has no fault and does what the run does; `Tracks.bind`.
-/

namespace FlowTypes

/-- What stops the engine. -/
inductive Fault
  /-- An index is not in its table. -/
  | outOfRange
  /-- An array is packed but not dense. -/
  | packedNotDense
  /-- A constraint is to be spent that holds no answer. -/
  | notFreeze
  /-- A property was asked for, and none has been made. -/
  | noProperty
  /-- A type is no object and has no name. -/
  | nameless
  /-- A request for a pass returns that has not begun. -/
  | unbalanced
  /-- The host passed a handle that is none of the compartment's. -/
  | alien
  deriving DecidableEq, Repr, Inhabited

/-- An action that stops where the engine would. -/
abbrev Checked (α : Type) := ExceptT InferError (StateT Compartment (Except Fault)) α

/-- What a run of a checked action comes to. -/
abbrev Checked.Result (α : Type) := Except Fault (Except InferError α × Compartment)

namespace Checked

variable {α β : Type}

/-! ## The parts of checked actions -/

/-- Stops the engine. -/
def fault (f : Fault) : Checked α := fun _ => .error f

/-- An action that takes nothing from a table. -/
def lift (a : Action α) : Checked α := fun c => .ok (a c)

/-- Carries an action out and takes its failure for an answer. -/
def attempt (a : Checked α) : Checked (Except InferError α) := fun c =>
  match a c with
  | .ok (outcome, c) => .ok (.ok outcome, c)
  | .error f => .error f

/-- The entry at a place of a table. -/
def entryAt (table : Compartment → Array α) (i : Nat) : Checked α := do
  match (table (← get))[i]? with
  | some x => return x
  | none => fault .outOfRange

def setAt (id : SetId) : Checked TypeSet := entryAt (·.sets) id.index

def objectAt (id : ObjectId) : Checked ObjectInfo := entryAt (·.objects) id.index

def constraintAt (id : ConstraintId) : Checked Constraint := entryAt (·.constraints) id.index

def siteAt (id : SiteId) : Checked CallSite := entryAt (·.sites) id.index

/-- The representative of a stack node's group. -/
def representativeAt (n : StackId) : Checked StackId := entryAt (·.stack.representatives) n.index

/-- The record of a stack node's group. -/
def slotAt (n : StackId) : Checked Slot := do
  entryAt (·.stack.slots) (← representativeAt n).index

def changeSet (id : SetId) (f : TypeSet → TypeSet) : Checked Unit := do
  discard <| setAt id
  modify (·.changeSet id f)

def changeObject (id : ObjectId) (f : ObjectInfo → ObjectInfo) : Checked Unit := do
  discard <| objectAt id
  modify (·.changeObject id f)

def changeFunction (id : ObjectId) (f : FunctionInfo → FunctionInfo) : Checked Unit :=
  changeObject id fun o => { o with function := o.function.map f }

def changeConstraint (id : ConstraintId) (f : Constraint → Constraint) : Checked Unit := do
  discard <| constraintAt id
  modify (·.changeConstraint id f)

def changeSite (id : SiteId) (f : CallSite → CallSite) : Checked Unit := do
  discard <| siteAt id
  modify (·.changeSite id f)

def objectName (id : ObjectId) : Checked String := return (← objectAt id).name

/-- The name of a type; an object's type has the name of the object. -/
def typeName (t : Ty) : Checked String :=
  match t.name?, t.object? with
  | some name, _ => return name
  | none, some id => objectName id
  | none, none => fault .nameless

/-! ## Runs of checked actions -/

variable {c c' c'' : Compartment}

theorem run_bind (a : Checked α) (f : α → Checked β) : (a >>= f) c =
    match a c with
    | .ok (.ok x, c') => f x c'
    | .ok (.error e, c') => .ok (.error e, c')
    | .error e => .error e := by
  show (a c >>= fun p => ExceptT.bindCont f p.1 p.2) = _
  cases a c with
  | error e => rfl
  | ok p =>
    obtain ⟨r, c'⟩ := p
    cases r <;> rfl

/-- The checked action goes through, with this answer. -/
def Gives (a : Checked α) (c : Compartment) (x : α) (c' : Compartment) : Prop :=
  a c = .ok (.ok x, c')

/-- The checked action looks this up and changes nothing. -/
def Reads (a : Checked α) (c : Compartment) (x : α) : Prop := Gives a c x c

theorem run_bind_of_gives {a : Checked α} {f : α → Checked β} {x : α} (h : Gives a c x c') :
    (a >>= f) c = f x c' := by
  rw [run_bind, h]

theorem Gives.bind {a : Checked α} {f : α → Checked β} {x : α} {y : β} (h : Gives a c x c')
    (hf : Gives (f x) c' y c'') : Gives (a >>= f) c y c'' :=
  (run_bind_of_gives h).trans hf

theorem Gives.pure (x : α) : Gives (Pure.pure x) c x c := rfl

theorem Gives.get : Gives MonadState.get c c c := rfl

theorem Gives.modify (g : Compartment → Compartment) :
    Gives (MonadState.modifyGet fun c => (PUnit.unit, g c)) c ⟨⟩ (g c) := rfl

theorem Reads.bind {a : Checked α} {f : α → Checked β} {x : α} {y : β} (h : Reads a c x)
    (hf : Reads (f x) c y) : Reads (a >>= f) c y :=
  Gives.bind h hf

theorem Reads.gives {a : Checked α} {f : α → Checked β} {x : α} {y : β} (h : Reads a c x)
    (hf : Gives (f x) c y c') : Gives (a >>= f) c y c' :=
  Gives.bind h hf

theorem Reads.pure (x : α) : Reads (Pure.pure x) c x := rfl

theorem Reads.discard {a : Checked α} {x : α} (h : Reads a c x) :
    Reads (Functor.discard a) c ⟨⟩ := by
  show Reads (a >>= fun _ => Pure.pure PUnit.unit) c ⟨⟩
  exact h.bind (.pure _)

theorem Reads.map {a : Checked α} {x : α} (f : α → β) (h : Reads a c x) :
    Reads (f <$> a) c (f x) := by
  rw [map_eq_pure_bind]
  exact h.bind (.pure _)

theorem Reads.mapM {f : α → Checked β} {g : α → β} {xs : List α}
    (h : ∀ x ∈ xs, Reads (f x) c (g x)) : Reads (xs.mapM f) c (xs.map g) := by
  induction xs with
  | nil => exact .pure _
  | cons x xs ih =>
    rw [List.mapM_cons]
    refine (h x List.mem_cons_self).bind ((ih fun y hy => h y (List.mem_cons_of_mem _ hy)).bind ?_)
    exact .pure _

theorem Reads.forM {f : α → Checked PUnit} {xs : List α} (h : ∀ x ∈ xs, Reads (f x) c ⟨⟩) :
    Reads (xs.forM f) c ⟨⟩ := by
  induction xs with
  | nil => exact .pure _
  | cons x xs ih =>
    exact (h x List.mem_cons_self).bind (ih fun y hy => h y (List.mem_cons_of_mem _ hy))

theorem Reads.foldlM {f : β → α → Checked β} {g : β → α → β} {xs : List α}
    (h : ∀ x ∈ xs, ∀ y, Reads (f y x) c (g y x)) (y : β) :
    Reads (xs.foldlM f y) c (xs.foldl g y) := by
  induction xs generalizing y with
  | nil => exact .pure _
  | cons x xs ih =>
    rw [List.foldlM_cons, List.foldl_cons]
    exact (h x List.mem_cons_self y).bind (ih (fun z hz => h z (List.mem_cons_of_mem _ hz)) _)

/-! ## Entries that exist -/

theorem reads_entryAt {table : Compartment → Array α} {i : Nat} (h : i < (table c).size) (d : α) :
    Reads (entryAt table i) c ((table c).getD i d) := by
  have hentry : (table c)[i]? = some ((table c).getD i d) := by
    simp [Array.getD, h]
  refine Reads.bind .get ?_
  rw [hentry]
  exact .pure _

theorem reads_setAt {id : SetId} (h : id.In c.extent) : Reads (setAt id) c (c.set id) :=
  reads_entryAt h _

theorem reads_objectAt {id : ObjectId} (h : id.In c.extent) :
    Reads (objectAt id) c (c.object id) :=
  reads_entryAt h _

theorem reads_constraintAt {id : ConstraintId} (h : id.In c.extent) :
    Reads (constraintAt id) c (c.constraint id) :=
  reads_entryAt h _

theorem reads_siteAt {id : SiteId} (h : id.In c.extent) : Reads (siteAt id) c (c.site id) :=
  reads_entryAt h _

theorem reads_representativeAt {n : StackId} (h : n.In c.extent) :
    Reads (representativeAt n) c (c.stack.find n) :=
  reads_entryAt h _

theorem reads_slotAt (hc : c.Valid) {n : StackId} (h : n.In c.extent) :
    Reads (slotAt n) c (c.stack.slot n) := by
  refine (reads_representativeAt h).bind (reads_entryAt ?_ _)
  rw [hc.slotCount]
  exact Compartment.in_find hc h

theorem gives_changeSet {id : SetId} (h : id.In c.extent) (f : TypeSet → TypeSet) :
    Gives (changeSet id f) c ⟨⟩ (c.changeSet id f) :=
  (reads_setAt h).discard.gives (.modify _)

theorem gives_changeObject {id : ObjectId} (h : id.In c.extent) (f : ObjectInfo → ObjectInfo) :
    Gives (changeObject id f) c ⟨⟩ (c.changeObject id f) :=
  (reads_objectAt h).discard.gives (.modify _)

theorem gives_changeFunction {id : ObjectId} (h : id.In c.extent)
    (f : FunctionInfo → FunctionInfo) :
    Gives (changeFunction id f) c ⟨⟩ (c.changeFunction id f) :=
  gives_changeObject h _

theorem gives_changeConstraint {id : ConstraintId} (h : id.In c.extent)
    (f : Constraint → Constraint) :
    Gives (changeConstraint id f) c ⟨⟩ (c.changeConstraint id f) :=
  (reads_constraintAt h).discard.gives (.modify _)

theorem gives_changeSite {id : SiteId} (h : id.In c.extent) (f : CallSite → CallSite) :
    Gives (changeSite id f) c ⟨⟩ (c.changeSite id f) :=
  (reads_siteAt h).discard.gives (.modify _)

theorem reads_objectName {id : ObjectId} (h : id.In c.extent) :
    Reads (objectName id) c (c.objectName id) :=
  (reads_objectAt h).bind (.pure _)

theorem reads_typeName {t : Ty} (h : t.In c.extent) : Reads (typeName t) c (c.typeName t) := by
  cases t with
  | object id => exact reads_objectName (h id rfl)
  | undefined | null | boolean | int32 | double | string | unknown => exact .pure _

end Checked

/-! ## Compartments in order -/

namespace Compartment

/-- Every handle is in its table, and every array that is packed is dense. -/
structure Intact (c : Compartment) : Prop extends c.Valid where
  dense : ∀ o, (c.object o).isPacked = true → (c.object o).isDense = true

/-- The tables have grown, and as many requests for a pass have not returned as before. -/
structure Later (c c' : Compartment) : Prop where
  extent : c.extent.Within c'.extent
  depth : c'.worklist.depth = c.worklist.depth

variable {c c' c'' : Compartment}

theorem intact_fresh (options : Options) : (fresh options).Intact where
  toValid := valid_fresh options
  dense o h := by
    obtain ⟨i⟩ := o
    cases i <;> cases h

theorem Later.refl (c : Compartment) : c.Later c := ⟨.refl _, rfl⟩

theorem Later.trans (h : c.Later c') (h' : c'.Later c'') : c.Later c'' :=
  ⟨h.extent.trans h'.extent, h'.depth.trans h.depth⟩

theorem Later.of_extent (hextent : c'.extent = c.extent)
    (hdepth : c'.worklist.depth = c.worklist.depth) : c.Later c' :=
  ⟨hextent ▸ .refl _, hdepth⟩

theorem later_record (e : Event) : c.Later (c.record e) := .of_extent rfl rfl

theorem later_enqueue (works : List Work) : c.Later (c.enqueue works) := .of_extent rfl rfl

theorem later_changeObject (id : ObjectId) (f : ObjectInfo → ObjectInfo) :
    c.Later (c.changeObject id f) :=
  .of_extent (extent_changeObject id f) rfl

theorem later_changeSite (id : SiteId) (f : CallSite → CallSite) : c.Later (c.changeSite id f) :=
  .of_extent (extent_changeSite id f) rfl

/-- A change that makes no array packed keeps packed arrays dense. -/
theorem Intact.of_valid (h : c.Intact) (hvalid : c'.Valid)
    (hobject : ∀ o, (c'.object o).isPacked = true → (c'.object o).isDense = true ∨
      (c'.object o).isDense = (c.object o).isDense ∧ (c.object o).isPacked = true) : c'.Intact where
  toValid := hvalid
  dense o ho := by
    obtain hdense | ⟨heq, hpacked⟩ := hobject o ho
    · exact hdense
    · rw [heq]
      exact h.dense o hpacked

/-- Objects are left alone. -/
theorem Intact.of_objects (h : c.Intact) (hvalid : c'.Valid) (hobjects : c'.objects = c.objects) :
    c'.Intact := by
  have hobject : ∀ o, c'.object o = c.object o := by
    intro o
    rw [object, object, hobjects]
  refine h.of_valid hvalid fun o ho => ?_
  rw [hobject] at ho ⊢
  exact .inr ⟨rfl, ho⟩

theorem Intact.record (h : c.Intact) (e : Event) : (c.record e).Intact :=
  h.of_objects (h.toValid.record e) rfl

theorem Intact.enqueue (h : c.Intact) {works : List Work} (hworks : ∀ w ∈ works, w.Valid c.extent) :
    (c.enqueue works).Intact :=
  h.of_objects (h.toValid.enqueue hworks) rfl

theorem Intact.aside (h : c.Intact) (haside : c.Aside c') : c'.Intact :=
  h.of_objects (h.toValid.extend haside.extended) haside.objects

theorem Intact.changeObject (h : c.Intact) {id : ObjectId} (hid : id.In c.extent)
    {f : ObjectInfo → ObjectInfo} (hf : (f (c.object id)).Valid c.extent)
    (hdense : (f (c.object id)).isPacked = true → (f (c.object id)).isDense = true) :
    (c.changeObject id f).Intact := by
  refine h.of_valid (h.toValid.changeObject hid hf) fun o ho => ?_
  rw [object_changeObject hid] at ho ⊢
  split at ho
  · rename_i heq
    rw [if_pos heq]
    exact .inl (heq ▸ hdense (heq ▸ ho))
  · rename_i hne
    rw [if_neg hne]
    exact .inr ⟨rfl, ho⟩

end Compartment

/-! ## Keeping up -/

namespace Checked

variable {α β : Type} {c c₁ : Compartment}

/-- From an intact compartment on, the checked run has no fault and comes to the same as the run:
what it leaves behind is intact and comes later, and its answer has a property.  Only the host can
break off the checked run, by a handle that is none of the compartment's. -/
inductive Tracks (c : Compartment) (Q : α → Compartment → Prop) :
    Result α → Except InferError α × Compartment → Prop
  | alien {r : Except InferError α × Compartment} : Tracks c Q (.error .alien) r
  | same {r : Except InferError α × Compartment} (later : c.Later r.2) (intact : r.2.Intact)
      (answer : ∀ x, r.1 = .ok x → Q x r.2) : Tracks c Q (.ok r) r

namespace Tracks

variable {a' : Checked α} {a : Action α} {f' : α → Checked β} {f : α → Action β}
  {Q Q' : α → Compartment → Prop} {R : β → Compartment → Prop} {r' : Result α}
  {r : Except InferError α × Compartment}

theorem imp (h : Tracks c Q r' r)
    (hQ : ∀ x c', c'.Intact → c.Later c' → Q x c' → Q' x c') : Tracks c Q' r' r := by
  cases h with
  | alien => exact .alien
  | same later intact answer =>
    exact .same later intact fun x hx => hQ x _ intact later (answer x hx)

/-- A run that begins later. -/
theorem after (hlater : c.Later c₁) (h : Tracks c₁ Q r' r) : Tracks c Q r' r := by
  cases h with
  | alien => exact .alien
  | same later intact answer => exact .same (hlater.trans later) intact answer

theorem pure {x : α} (hc : c.Intact) (hx : Q x c) :
    Tracks c Q ((Pure.pure x : Checked α) c) ((Pure.pure x : Action α) c) := by
  refine .same (.refl c) hc ?_
  rintro _ ⟨⟩
  exact hx

theorem throw {e : InferError} (hc : c.Intact) :
    Tracks c Q ((MonadExcept.throw e : Checked α) c) ((MonadExcept.throw e : Action α) c) :=
  .same (.refl c) hc fun _ hx => nomatch hx

theorem bind (h : Tracks c Q (a' c) (a c))
    (hf : ∀ x c', c'.Intact → c.Later c' → Q x c' → Tracks c' R (f' x c') (f x c')) :
    Tracks c R ((a' >>= f') c) ((a >>= f) c) := by
  rw [run_bind, Compartment.run_bind]
  generalize a' c = r' at h
  generalize a c = r at h
  cases h with
  | alien => exact .alien
  | same later intact answer =>
    obtain ⟨outcome, c'⟩ := r
    cases outcome with
    | ok x => exact after later (hf x c' intact later (answer x rfl))
    | error e => exact .same later intact fun _ hx => nomatch hx

/-- The checked action takes a step of its own. -/
theorem step {u : Checked β} {f' : β → Checked α} {x : β} {c₂ : Compartment}
    (hu : Gives u c₁ x c₂) (h : Tracks c Q (f' x c₂) r) : Tracks c Q ((u >>= f') c₁) r := by
  rw [run_bind_of_gives hu]
  exact h

/-- The action looks at the compartment. -/
theorem get {f : Compartment → Action α} (h : Tracks c Q r' (f c₁ c₁)) :
    Tracks c Q r' ((MonadState.get >>= f) c₁) :=
  h

/-- The action makes a change. -/
theorem modifies {g : Compartment → Compartment} {f : PUnit → Action α}
    (h : Tracks c Q r' (f ⟨⟩ (g c₁))) : Tracks c Q r' ((modify g >>= f) c₁) :=
  h

/-- The two make the same change. -/
theorem change {u : Checked PUnit} {g : Compartment → Compartment}
    {Q : PUnit → Compartment → Prop} (hu : Gives u c ⟨⟩ (g c)) (hlater : c.Later (g c))
    (hintact : (g c).Intact) (hQ : Q ⟨⟩ (g c)) :
    Tracks c Q (u c) ((modify g : Action PUnit) c) := by
  rw [hu]
  exact .same hlater hintact fun _ _ => hQ

theorem ite {p : Prop} [Decidable p] {b' : Checked α} {b : Action α}
    (hpos : p → Tracks c Q (a' c₁) (a c₁)) (hneg : ¬ p → Tracks c Q (b' c₁) (b c₁)) :
    Tracks c Q ((if p then a' else b') c₁) ((if p then a else b) c₁) := by
  split
  · exact hpos ‹_›
  · exact hneg ‹_›

theorem discard {P : Compartment → Prop} (h : Tracks c (fun _ => P) (a' c) (a c)) :
    Tracks c (fun _ => P) ((Functor.discard a' : Checked PUnit) c)
      ((Functor.discard a : Action PUnit) c) := by
  show Tracks c (fun _ => P) ((a' >>= fun _ => Pure.pure PUnit.unit : Checked PUnit) c)
    ((a >>= fun _ => Pure.pure PUnit.unit : Action PUnit) c)
  exact bind h fun _ _ hc' _ hP => pure hc' hP

/-- An action that takes nothing from a table. -/
theorem lift (hlater : c.Later (a c).2) (hintact : (a c).2.Intact)
    (hanswer : ∀ x, (a c).1 = .ok x → Q x (a c).2) : Tracks c Q (Checked.lift a c) (a c) :=
  .same hlater hintact hanswer

/-- The failure of an action is taken for an answer. -/
theorem attempt {f' : Except InferError α → Checked β}
    {k : Except InferError α × Compartment → Except InferError β × Compartment}
    (h : Tracks c Q (a' c) (a c))
    (hk : ∀ o c', c'.Intact → c.Later c' → (∀ x, o = .ok x → Q x c') →
      Tracks c' R (f' o c') (k (o, c'))) :
    Tracks c R ((Checked.attempt a' >>= f') c) (k (a c)) := by
  rw [run_bind, Checked.attempt]
  generalize a' c = r' at h
  generalize a c = r at h
  cases h with
  | alien => exact .alien
  | same later intact answer => exact after later (hk r.1 r.2 intact later answer)

/-! ### Loops -/

theorem forM {f' : α → Checked PUnit} {f : α → Action PUnit} {xs : List α} (hc : c.Intact)
    (hf : ∀ x ∈ xs, ∀ c', c'.Intact → c.Later c' →
      Tracks c' (fun _ _ => True) (f' x c') (f x c')) :
    Tracks c (fun _ _ => True) (xs.forM f' c) (xs.forM f c) := by
  induction xs generalizing c with
  | nil => exact pure hc trivial
  | cons x xs ih =>
    refine bind (hf x List.mem_cons_self c hc (.refl c)) fun _ c₁ hc₁ hlater _ => ?_
    exact ih hc₁ fun y hy c' hc' hlater' =>
      hf y (List.mem_cons_of_mem _ hy) c' hc' (hlater.trans hlater')

theorem forOption {f' : α → Checked PUnit} {f : α → Action PUnit} {o : Option α} (hc : c.Intact)
    (hf : ∀ x ∈ o, Tracks c (fun _ _ => True) (f' x c) (f x c)) :
    Tracks c (fun _ _ => True) (o.forM f' c) (o.forM f c) := by
  cases o with
  | none => exact pure hc trivial
  | some x => exact hf x rfl

/-- The answers of a loop have what each of them had. -/
theorem mapM {f' : α → Checked β} {f : α → Action β} {xs : List α} (hc : c.Intact)
    (hkept : ∀ y c' c'', c'.Later c'' → R y c' → R y c'')
    (hf : ∀ x ∈ xs, ∀ c', c'.Intact → c.Later c' → Tracks c' R (f' x c') (f x c')) :
    Tracks c (fun ys c' => ∀ y ∈ ys, R y c') (xs.mapM f' c) (xs.mapM f c) := by
  induction xs generalizing c with
  | nil => exact pure hc fun _ hy => absurd hy List.not_mem_nil
  | cons x xs ih =>
    rw [List.mapM_cons, List.mapM_cons]
    refine bind (hf x List.mem_cons_self c hc (.refl c)) fun y c₁ hc₁ hlater hy => ?_
    refine bind (ih hc₁ fun z hz c' hc' hlater' =>
      hf z (List.mem_cons_of_mem _ hz) c' hc' (hlater.trans hlater')) fun ys c₂ hc₂ hlater₂ hys => ?_
    refine pure hc₂ fun z hz => ?_
    obtain rfl | hz := List.mem_cons.mp hz
    · exact hkept _ _ _ hlater₂ hy
    · exact hys z hz

end Tracks

/-- Two passes that keep up with each other, from wherever they are begun. -/
def Parallel (pass' : Checked Unit) (pass : Action Unit) : Prop :=
  ∀ c : Compartment, c.Intact → Tracks c (fun _ _ => True) (pass' c) (pass c)

end Checked

end FlowTypes
