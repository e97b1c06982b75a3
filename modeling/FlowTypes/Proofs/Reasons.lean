import FlowTypes.Proofs.Sound
import FlowTypes.Solver

/-!
# Why a compartment changes

Every change that moves types has a reason.  Either the host asked for it, and the scope grants that,
or a constraint heard of a type, or it follows from what is known about the objects.  So what a
compartment holds can be traced back to what the host asked for.

A scope says what a sequence of changes may contain beyond what the engine does of its own accord
while it delivers one type: the engine makes no functions, and the names, the keys and the
constraints that it comes up with are made from those that are there.

A reason stays one while the compartment grows, and in a wider scope.

## Main results

* `Grant`, `Scope`: what a host may ask for, and what may happen.
* `Warranted`, `Drawn`: why a type joins a set, and why a set flows into another one.
* `Linked`, `Forsaken`, `Demanded`: why an object gets a prototype, loses its properties, or is
  remembered as a builtin.
* `Warranted.mono`, `Warranted.later`, and the same for the other reasons.
-/

namespace FlowTypes

namespace Compartment

variable (c : Compartment)

/-! ## Conditions of a change -/

/-- What a host may ask for, one thing at a time. -/
structure Grant where
  /-- A property of this key. -/
  keys : Key → Prop
  /-- This type in this set. -/
  adds : SetId → Ty → Prop
  /-- That a set flows into another one. -/
  joins : SetId → SetId → Prop
  /-- This constraint on this set. -/
  asks : SetId → Constraint → Prop
  /-- That this type is assigned to a property. -/
  assigns : ObjectId → Key → Ty → Prop
  /-- That nothing is known about the properties of this object. -/
  marks : ObjectId → Prop
  /-- This prototype for this object. -/
  links : ObjectId → ObjectId → Prop
  builds : Builtin → Prop

/-- A host that may ask for anything. -/
def Grant.full : Grant :=
  ⟨fun _ => True, fun _ _ => True, fun _ _ => True, fun _ _ => True, fun _ _ _ => True,
    fun _ => True, fun _ _ => True, fun _ => True⟩

/-- A host that asks for nothing. -/
def Grant.none : Grant :=
  ⟨fun _ => False, fun _ _ => False, fun _ _ => False, fun _ _ => False, fun _ _ _ => False,
    fun _ => False, fun _ _ => False, fun _ => False⟩

/-- The host may give any prototype, and have those builtins made that are prototypes themselves. -/
def Grant.Makes (g : Grant) : Prop :=
  (∀ o p, g.links o p) ∧ ∀ b : Builtin, b.category = .prototype → g.builds b

/-- What a sequence of changes may contain, beyond what the engine does of its own accord. -/
structure Scope where
  /-- The host makes sets, call sites, and objects of its own names, functions among them. -/
  choice : Prop
  grant : Grant
  /-- Passes are run. -/
  passes : Prop
  /-- The host registers this constraint itself, whatever it is. -/
  direct : ConstraintId → Prop
  /-- The host makes constraints hear of types once more. -/
  redelivery : Prop
  /-- The host may give a function this handler, when the tables have these sizes. -/
  handler : Extent → String → Prop
  /-- Passes are given up. -/
  aborts : Prop
  /-- Objects with a prototype are taken for arrays. -/
  reclassifies : Prop
  /-- The queued scripts are handed out. -/
  handsOut : Prop

/-- A name that the engine makes an object for. -/
def Nameable (name : String) : Prop :=
  (∃ b : Builtin, name = b.name) ∨
    (∃ o f, (c.object o).function = some f ∧ name = c.objectName o ++ ":prototype") ∨
    ∃ o f p, (c.object o).function = some f ∧ f.prototypeObject = some p ∧
      name = c.objectName p ++ ":new"

/-- A key that the engine makes a property for. -/
def Keyed (key : Key) : Prop :=
  (∃ o, ∃ p ∈ (c.object o).properties, p.key = key) ∨
    ∃ id code target access, c.constraint id = .property code key target access

/-- The set is the answer for a property of an object. -/
def Answers (id : ObjectId) (key : Key) (own : Bool) (s : SetId) : Prop :=
  ((c.object id).isUnknown = true ∧ s = universal) ∨
    ∃ p, (c.object id).property? key = some p ∧ s = if own then p.ownTypes else p.types

/-- A constraint that has heard of a type, without its marks. -/
def Hearing (w : Work) (k : Constraint) : Prop :=
  .fired w ∈ c.journal ∧ w.constraint.In c.extent ∧ (c.constraint w.constraint).bare = k

/-- Calls are among the constraints. -/
def Calls : Prop := ∃ id site, id.In c.extent ∧ c.constraint id = .call site

/-- The object whose properties are read where a type is. -/
def Reached (t : Ty) (o : ObjectId) : Prop :=
  t = .object o ∨ ∃ b, wrapper? t = some b ∧ c.builtin? b = some o

/-- What a `this` value of a type is passed on as. -/
def BoxesTo (t u : Ty) : Prop :=
  match t with
  | .undefined | .null => u = .object global
  | t => match wrapper? t with
    | some b => ∃ o, c.builtin? b = some o ∧ u = .object o
    | none => u = t

/-- A constraint that hears of a type puts a type into a set.  The result of an operation is that for
the types that the other operand had at some time. -/
def Emits : Constraint → Ty → SetId → Ty → Prop
  | .subset target, t, s, u => s = target ∧ u = t
  | .property _ _ target .read, t, s, u => s = target ∧ t = .unknown ∧ u = .unknown
  | .element _ _ target .read _, t, s, u => s = target ∧ isIndexType t = false ∧ u = .unknown
  | .arith op target other, t, s, u => s = target ∧
    ∃ b : Compartment, b.Sound ∧ b.Grows c ∧ u ∈ Arith.results op t (other.map b.set)
  | .boxThis target, t, s, u => s = target ∧ c.BoxesTo t u
  | .filter target mode, t, s, u => s = target ∧ mode.passes t = true ∧ u = t
  | .monitorRead _ target, t, s, u => s = target ∧ u = t
  | _, _, _, _ => False

/-- Why a type joins a set. -/
inductive Warranted (sc : Scope) : SetId → Ty → Prop
  | given {target : SetId} {t : Ty} (h : sc.grant.adds target t) : Warranted sc target t
  | assigned {o : ObjectId} {key : Key} {t : Ty} {p : Property} (h : sc.grant.assigns o key t)
      (hp : (c.object o).property? key = some p) : Warranted sc p.ownTypes t
  | forgotten {o : ObjectId} {p : Property} {s : SetId} (ho : (c.object o).isUnknown = true)
      (hp : p ∈ (c.object o).properties) (hs : s = p.types ∨ s = p.ownTypes) :
      Warranted sc s .unknown
  | emitted {w : Work} {k : Constraint} {target : SetId} {t : Ty} (hw : c.Hearing w k)
      (ht : c.Emits k w.type target t) : Warranted sc target t
  | called {target : SetId} {t : Ty} (h : c.Calls) : Warranted sc target t

/-- Why a set begins to flow into another one. -/
inductive Drawn (sc : Scope) : SetId → SetId → Prop
  | given {source target : SetId} (h : sc.grant.joins source target) : Drawn sc source target
  | own {o : ObjectId} {p : Property} (hp : p ∈ (c.object o).properties) :
      Drawn sc p.ownTypes p.types
  | inherited {o a : ObjectId} {p : Property} {s : SetId} (ha : c.Inherits o a)
      (hp : p ∈ (c.object o).properties) (hs : c.Answers a p.key false s) : Drawn sc s p.types
  | read {w : Work} {code : Option Location} {key : Key} {target s : SetId} {o : ObjectId}
      (hw : c.Hearing w (.property code key target .read)) (ho : c.Reached w.type o)
      (hs : c.Answers o key false s) : Drawn sc s target
  | write {w : Work} {code : Option Location} {key : Key} {values : SetId} {o : ObjectId}
      {p : Property} (hw : c.Hearing w (.property code key values .write))
      (ho : w.type = .object o) (hp : (c.object o).property? key = some p) :
      Drawn sc values p.ownTypes
  | called {source target : SetId} (h : c.Calls) : Drawn sc source target

/-- Why an object gets a prototype. -/
inductive Linked (sc : Scope) : ObjectId → ObjectId → Prop
  | given {id proto : ObjectId} (h : sc.grant.links id proto) : Linked sc id proto
  | builtin {b p : Builtin} {id proto : ObjectId} (hp : b.prototype? = some p)
      (hb : c.builtin? b = some id) (hproto : c.builtin? p = some proto) : Linked sc id proto
  | called {id proto : ObjectId} (h : c.Calls) : Linked sc id proto

/-- Why nothing is known about the properties of an object any more. -/
inductive Forsaken (sc : Scope) : ObjectId → Prop
  | given {id : ObjectId} (h : sc.grant.marks id) : Forsaken sc id
  | inherited {id p : ObjectId} (hp : (c.object id).proto = some p)
      (hunknown : (c.object p).isUnknown = true) : Forsaken sc id
  | untracked {b : Builtin} {id : ObjectId} (hb : b.isUntracked = true)
      (hid : c.builtin? b = some id) : Forsaken sc id

/-- Why a builtin is made. -/
inductive Demanded (sc : Scope) : Builtin → Prop
  | given {b : Builtin} (h : sc.grant.builds b) : Demanded sc b
  | read {w : Work} {code : Option Location} {key : Key} {target : SetId} {wrapper b : Builtin}
      (hw : c.Hearing w (.property code key target .read)) (ht : wrapper? w.type = some wrapper)
      (hb : b ∈ wrapper :: wrapper.lineage) : Demanded sc b
  | boxed {w : Work} {target : SetId} {wrapper b : Builtin} (hw : c.Hearing w (.boxThis target))
      (ht : wrapper? w.type = some wrapper) (hb : b ∈ wrapper :: wrapper.lineage) : Demanded sc b
  | called {b : Builtin} (h : c.Calls) (hb : b.category = .prototype) : Demanded sc b

/-- A constraint has heard of a type by which its answer is no longer true. -/
def Refuted (id : ConstraintId) : Prop :=
  ∃ w, .fired w ∈ c.journal ∧ w.constraint = id ∧
    match c.constraint id with
    | .freezeTag _ tag _ => (c.set w.source).tag? ≠ some tag
    | _ => True

variable {c}

/-! ## Wider scopes -/

/-- The second host may ask for what the first one may. -/
structure Grant.Within (g g' : Grant) : Prop where
  keys : ∀ key, g.keys key → g'.keys key
  adds : ∀ target t, g.adds target t → g'.adds target t
  joins : ∀ source target, g.joins source target → g'.joins source target
  asks : ∀ source k, g.asks source k → g'.asks source k
  assigns : ∀ o key t, g.assigns o key t → g'.assigns o key t
  marks : ∀ o, g.marks o → g'.marks o
  links : ∀ o p, g.links o p → g'.links o p
  builds : ∀ b, g.builds b → g'.builds b

theorem Grant.Within.refl (g : Grant) : g.Within g :=
  ⟨fun _ => id, fun _ _ => id, fun _ _ => id, fun _ _ => id, fun _ _ _ => id, fun _ => id,
    fun _ _ => id, fun _ => id⟩

theorem Grant.none_within (g : Grant) : Grant.none.Within g :=
  ⟨fun _ => False.elim, fun _ _ => False.elim, fun _ _ => False.elim, fun _ _ => False.elim,
    fun _ _ _ => False.elim, fun _ => False.elim, fun _ _ => False.elim, fun _ => False.elim⟩

/-- The second scope allows what the first one does. -/
structure Scope.Within (sc sc' : Scope) : Prop where
  choice : sc.choice → sc'.choice
  grant : sc.grant.Within sc'.grant
  passes : sc.passes → sc'.passes
  direct : ∀ id, sc.direct id → sc'.direct id
  redelivery : sc.redelivery → sc'.redelivery
  handler : ∀ e h, sc.handler e h → sc'.handler e h
  aborts : sc.aborts → sc'.aborts
  reclassifies : sc.reclassifies → sc'.reclassifies
  handsOut : sc.handsOut → sc'.handsOut

theorem Scope.Within.refl (sc : Scope) : sc.Within sc :=
  ⟨id, .refl _, id, fun _ => id, id, fun _ _ => id, id, id, id⟩

/-- The scope in which objects are taken for arrays at any time. -/
def Scope.loose (sc : Scope) : Scope := { sc with reclassifies := True }

theorem Scope.within_loose (sc : Scope) : sc.Within sc.loose :=
  ⟨id, .refl _, id, fun _ => id, id, fun _ _ => id, id, fun _ => trivial, id⟩

section Mono

variable {sc sc' : Scope} (hsc : sc.Within sc')
include hsc

theorem Warranted.mono {target : SetId} {t : Ty} (h : c.Warranted sc target t) :
    c.Warranted sc' target t := by
  cases h with
  | given h => exact .given (hsc.grant.adds _ _ h)
  | assigned h hp => exact .assigned (hsc.grant.assigns _ _ _ h) hp
  | forgotten ho hp hs => exact .forgotten ho hp hs
  | emitted hw ht => exact .emitted hw ht
  | called h => exact .called h

theorem Drawn.mono {source target : SetId} (h : c.Drawn sc source target) :
    c.Drawn sc' source target := by
  cases h with
  | given h => exact .given (hsc.grant.joins _ _ h)
  | own hp => exact .own hp
  | inherited ha hp hs => exact .inherited ha hp hs
  | read hw ho hs => exact .read hw ho hs
  | write hw ho hp => exact .write hw ho hp
  | called h => exact .called h

theorem Linked.mono {id proto : ObjectId} (h : c.Linked sc id proto) : c.Linked sc' id proto := by
  cases h with
  | given h => exact .given (hsc.grant.links _ _ h)
  | builtin hp hb hproto => exact .builtin hp hb hproto
  | called h => exact .called h

theorem Forsaken.mono {id : ObjectId} (h : c.Forsaken sc id) : c.Forsaken sc' id := by
  cases h with
  | given h => exact .given (hsc.grant.marks _ h)
  | inherited hp hunknown => exact .inherited hp hunknown
  | untracked hb hid => exact .untracked hb hid

theorem Demanded.mono {b : Builtin} (h : c.Demanded sc b) : c.Demanded sc' b := by
  cases h with
  | given h => exact .given (hsc.grant.builds _ h)
  | read hw ht hb => exact .read hw ht hb
  | boxed hw ht hb => exact .boxed hw ht hb
  | called h hb => exact .called h hb

end Mono

/-! ## Later compartments -/

section Later

variable {c' : Compartment} (hgrows : c.Grows c')
include hgrows

theorem Inherits.mono {a b : ObjectId} (h : c.Inherits a b) : c'.Inherits a b := by
  induction h with
  | proto h => exact .proto ((hgrows.object _).proto _ h)
  | step _ hq ih => exact .step ih ((hgrows.object _).proto _ hq)

theorem Walk.mono {root : ObjectId} {visited stack : List ObjectId} (h : Walk c root visited stack) :
    Walk c' root visited stack where
  nodup := h.nodup
  below o ho := (h.below o ho).mono hgrows
  parent o ho := by
    obtain ⟨p, hp, hparent⟩ := h.parent o ho
    exact ⟨p, (hgrows.object o).proto p hp, hparent⟩

theorem Answers.mono {id : ObjectId} {key : Key} {own : Bool} {s : SetId}
    (h : c.Answers id key own s) : c'.Answers id key own s := by
  obtain ⟨hunknown, hs⟩ | ⟨p, hp, hs⟩ := h
  · exact .inl ⟨hgrows.isUnknown hunknown, hs⟩
  · exact .inr ⟨p, hgrows.property? hp, hs⟩

theorem Keyed.mono {key : Key} (h : c.Keyed key) : c'.Keyed key := by
  obtain ⟨o, p, hp, hkey⟩ | ⟨id, code, target, access, hk⟩ := h
  · exact .inl ⟨o, p, (hgrows.object o).properties.subset hp, hkey⟩
  · have hin : id.In c.extent := by
      by_cases hin : id.In c.extent
      · exact hin
      · rw [constraint_of_not_in hin] at hk
        cases hk
    have hbare := (hgrows.constraint id hin).bare
    rw [hk] at hbare
    exact .inr ⟨id, code, target, access, Constraint.eq_of_bare_eq hbare rfl⟩

theorem Hearing.mono {w : Work} {k : Constraint} (h : c.Hearing w k) : c'.Hearing w k := by
  obtain ⟨hfired, hid, hbare⟩ := h
  exact ⟨hgrows.journal.subset hfired, hid.mono hgrows.extent,
    (hgrows.constraint _ hid).bare.trans hbare⟩

theorem Calls.mono (h : c.Calls) : c'.Calls := by
  obtain ⟨id, site, hid, hk⟩ := h
  have hbare := (hgrows.constraint id hid).bare
  rw [hk] at hbare
  exact ⟨id, site, hid.mono hgrows.extent, Constraint.eq_of_bare_eq hbare rfl⟩

theorem Reached.mono {t : Ty} {o : ObjectId} (h : c.Reached t o) : c'.Reached t o := by
  obtain rfl | ⟨b, hb, ho⟩ := h
  · exact .inl rfl
  · exact .inr ⟨b, hb, hgrows.builtin? ho⟩

variable {sc : Scope}

theorem Forsaken.later {id : ObjectId} (h : c.Forsaken sc id) : c'.Forsaken sc id := by
  cases h with
  | given h => exact .given h
  | inherited hp hunknown =>
    exact .inherited ((hgrows.object id).proto _ hp) (hgrows.isUnknown hunknown)
  | untracked hb hid => exact .untracked hb (hgrows.builtin? hid)

theorem Demanded.later {b : Builtin} (h : c.Demanded sc b) : c'.Demanded sc b := by
  cases h with
  | given h => exact .given h
  | read hw ht hb => exact .read (hw.mono hgrows) ht hb
  | boxed hw ht hb => exact .boxed (hw.mono hgrows) ht hb
  | called h hb => exact .called (h.mono hgrows) hb

end Later

theorem Answers.in (hc : c.Valid) {id : ObjectId} {key : Key} {own : Bool} {s : SetId}
    (h : c.Answers id key own s) : s.In c.extent := by
  obtain ⟨-, rfl⟩ | ⟨p, hp, rfl⟩ := h
  · exact hc.universal
  · have hp := (hc.objects id).properties p (List.mem_of_find?_eq_some hp)
    split
    · exact hp.ownTypes
    · exact hp.types

end Compartment

end FlowTypes
