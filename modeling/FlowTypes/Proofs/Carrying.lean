import FlowTypes.Proofs.Bounds

/-!
# Compartments whose constraints carry types on

A host that asks for constraints of some kinds only gets no others, apart from subset edges and from
what a wired element access asks for.

Subset edges and filters carry types on as they are.  As long as a host asks for no other
constraints, there are no others, and then the engine makes no objects and asks for no properties of
its own accord.  A pass of such a compartment cannot fail: it comes to an end, and nothing else could
go wrong.

## Main results

* `Limited`, `Did.limited`: the constraints are of certain kinds.
* `Carrying`, `Did.carrying`: every constraint carries types on.
* `carrying`: the law of a host that asks for such constraints only, in which nothing fails.
-/

namespace FlowTypes

/-! ## Constraints of certain kinds -/

/-- The engine comes up with constraints of these kinds only, if there are no others: calls are not
among them, and subset edges are. -/
structure Constraint.Confined (kinds : Constraint → Bool) : Prop where
  bare : ∀ k : Constraint, kinds k.bare = kinds k
  subset : ∀ target, kinds (.subset target) = true
  call : ∀ site, kinds (.call site) = false
  wired : ∀ {code objects target access wired},
    kinds (.element code objects target access wired) = true →
      kinds (.property code .index target access) = true

theorem Constraint.confined_isCarrier : Constraint.Confined isCarrier where
  bare k := by cases k <;> rfl
  subset _ := rfl
  call _ := rfl
  wired h := by cases h

namespace Compartment

variable {sc : Scope} {host : Host} {c c' : Compartment}

/-- Every constraint is of one of the kinds. -/
def Limited (kinds : Constraint → Bool) (c : Compartment) : Prop :=
  ∀ id : ConstraintId, id.In c.extent → kinds (c.constraint id) = true

section Limited

variable {kinds : Constraint → Bool} (hkinds : Constraint.Confined kinds)

theorem limited_fresh (kinds : Constraint → Bool) (options : Options) :
    (fresh options).Limited kinds :=
  fun _ hid => absurd hid (Nat.not_lt_zero _)

include hkinds

theorem Limited.not_calls (h : c.Limited kinds) : ¬ c.Calls := by
  rintro ⟨id, site, hid, hk⟩
  have hkind := h id hid
  rw [hk, hkinds.call] at hkind
  cases hkind

theorem Limited.hearing (h : c.Limited kinds) {w : Work} {k : Constraint} (hw : c.Hearing w k) :
    kinds k = true := by
  obtain ⟨-, hid, rfl⟩ := hw
  rw [hkinds.bare]
  exact h _ hid

theorem Limited.earlier (h : c'.Limited kinds) (hgrows : c.Grows c') : c.Limited kinds := by
  intro id hid
  rw [← hkinds.bare, ← (hgrows.constraint id hid).bare, hkinds.bare]
  exact h id (hid.mono hgrows.extent)

omit hkinds in
theorem Limited.register (h : c.Limited kinds) {source : SetId} {k : Constraint}
    {callExisting : Bool} (hk : kinds k = true) :
    (c.register source k callExisting).Limited kinds := by
  intro id hid
  rw [constraint_register]
  split
  · exact hk
  · rename_i hold
    refine h id ?_
    have hid : id.index < (c.register source k callExisting).constraints.size := hid
    rw [size_register] at hid
    have hne : id.index ≠ c.constraints.size := fun heq => hold (by cases id; cases heq; rfl)
    show id.index < c.constraints.size
    omega

/-- As long as nothing else is asked for, there are constraints of these kinds only. -/
theorem Did.limited (hasks : ∀ s k, sc.grant.asks s k → kinds k = true) (hc : c.Sound)
    (h : Did sc c c') (hlimited : c.Limited kinds) : c'.Limited kinds := by
  refine h.flow_induction (P := Limited kinds) hc ?_ ?_ hlimited
  · intro a b _ _ hquiet h id hid
    rw [← hkinds.bare, hquiet.bare, hkinds.bare]
    exact h id (Nat.lt_of_lt_of_eq hid hquiet.count)
  · intro a b ha _ htraffic h
    cases htraffic with
    | register hasked =>
      exact h.register (hasked.elim (hasks _ _) fun hc => (h.not_calls hkinds hc.2).elim)
    | @edge source target =>
      have h' : (a.changeSet source (·.addTarget target)).Limited kinds := h
      exact h'.register (hkinds.subset target)
    | @wire id code objects target access hid hk =>
      have hwired : (a.changeConstraint id Constraint.wire).Limited kinds := by
        intro id' hid'
        rw [constraint_changeConstraint hid]
        split
        · rename_i hsame
          subst hsame
          rw [← hkinds.bare, (Constraint.evolves_wire _).bare, hkinds.bare]
          exact h _ hid
        · exact h id' (by rwa [extent_changeConstraint] at hid')
      have hkind := h id hid
      rw [hk] at hkind
      exact hwired.register (hkinds.wired hkind)
    | insert | pop | deliver | abandon => exact h

end Limited

/-! ## Carriers -/

/-- Every constraint carries types on as they are. -/
def Carrying (c : Compartment) : Prop := c.Limited Constraint.isCarrier

theorem carrying_fresh (options : Options) : (fresh options).Carrying := limited_fresh _ options

theorem Carrying.not_calls (h : c.Carrying) : ¬ c.Calls :=
  Limited.not_calls Constraint.confined_isCarrier h

theorem Carrying.hearing (h : c.Carrying) {w : Work} {k : Constraint} (hw : c.Hearing w k) :
    k.isCarrier = true :=
  Limited.hearing Constraint.confined_isCarrier h hw

theorem Carrying.earlier (h : c'.Carrying) (hgrows : c.Grows c') : c.Carrying :=
  Limited.earlier Constraint.confined_isCarrier h hgrows

/-- As long as nothing else is asked for, all constraints carry types on. -/
theorem Did.carrying (hasks : ∀ s k, sc.grant.asks s k → k.isCarrier = true) (hc : c.Sound)
    (h : Did sc c c') (hcarrying : c.Carrying) : c'.Carrying :=
  h.limited Constraint.confined_isCarrier hasks hc hcarrying

/-- Nobody asks for a property. -/
theorem Carrying.not_keyed (h : c.Carrying) (hbare : ∀ o, (c.object o).properties = []) (key : Key) :
    ¬ c.Keyed key := by
  rintro (⟨o, p, hp, -⟩ | ⟨id, code, target, access, hk⟩)
  · rw [hbare] at hp
    exact absurd hp List.not_mem_nil
  · by_cases hid : id.In c.extent
    · have hcarrier := h id hid
      rw [hk] at hcarrier
      cases hcarrier
    · rw [constraint_of_not_in hid] at hk
      cases hk

/-! ## The law of such compartments -/

/-- Types are carried on, and a pass comes to an end. -/
structure Carried (c : Compartment) : Prop where
  carrying : c.Carrying
  listed : c.Listed
  apart : c.SetsApart

theorem carried_fresh (options : Options) : (fresh options).Carried :=
  ⟨carrying_fresh options, listed_fresh options, setsApart_fresh options⟩

/-- The host asks for no other constraints, and runs passes without handlers. -/
structure Scope.Carries (sc : Scope) : Prop where
  asks : ∀ s k, sc.grant.asks s k → k.isCarrier = true
  passes : sc.passes
  handler : ∀ e h, ¬ sc.handler e h

variable (hcarries : sc.Carries)
include hcarries

def carried : sc.Invariant where
  Holds := Carried
  kept _ _ hc hdid h := ⟨hdid.carrying hcarries.asks hc h.carrying, hdid.listedOnce hc h.listed,
    hdid.setsApart hc h.apart⟩

/-- The law of such a host, in which nothing fails. -/
def carrying (host : Host) : Law := between host sc (carried hcarries) fun _ => False

theorem lawful_carrying (host : Host) : (carrying hcarries host).Lawful := by
  refine lawful_between hcarries.passes hcarries.handler ?_ (.inr ?_)
  · intro c h id hid hcarrier
    have hkept : Carried c := h.kept
    rw [hkept.carrying id hid] at hcarrier
    cases hcarrier
  · intro b n c hb hkept hran
    have hkept : Carried b := hkept
    exact hran.le_deliveryBound hb hkept.listed hkept.apart

theorem at_carrying (host : Host) (options : Options) :
    (carrying hcarries host).At (fresh options) :=
  at_fresh options _ (carried_fresh options) _ _

end Compartment

end FlowTypes
