import FlowTypes.Compartment.Prototype
import FlowTypes.Proofs.Lookup
import Mathlib.Data.List.Perm.Subperm
import Mathlib.Data.List.Nodup

/-!
# The forest of prototypes

Every object has one prototype at most, and no object is among its own prototypes, so that the
prototypes make a forest.  The list of the prototypes of an object is read off by following them
for as many steps as there are objects; by counting, no prototype is left out.

## Main results

* `Inherits`: one object is among the prototypes of another.
* `Forest`: nothing inherits from itself, and every object lists exactly the objects that have it as
  their prototype.
* `mem_chain_iff`, `nodup_chain`: the chain of an object lists its prototypes, each once.
* `forest_setProto`: a new prototype keeps the forest, unless it inherits from the object.
* `Walk`: a walk down the instances of an object comes by no object twice; `Walk.length_le`.
-/

namespace FlowTypes

namespace Compartment

variable {c : Compartment}

/-- The second object is among the prototypes of the first one. -/
inductive Inherits (c : Compartment) (o : ObjectId) : ObjectId → Prop
  | proto {p : ObjectId} (h : (c.object o).proto = some p) : Inherits c o p
  | step {p q : ObjectId} (hp : Inherits c o p) (hq : (c.object p).proto = some q) : Inherits c o q

namespace Inherits

theorem trans {a b d : ObjectId} (hab : c.Inherits a b) (hbd : c.Inherits b d) :
    c.Inherits a d := by
  induction hbd with
  | proto h => exact .step hab h
  | step _ hq ih => exact .step ih hq

/-- The prototype comes first. -/
theorem head {a b : ObjectId} (h : c.Inherits a b) :
    ∃ p, (c.object a).proto = some p ∧ (p = b ∨ c.Inherits p b) := by
  induction h with
  | proto h => exact ⟨_, h, .inl rfl⟩
  | step _ hq ih =>
    obtain ⟨p, hp, rfl | hrest⟩ := ih
    · exact ⟨p, hp, .inr (.proto hq)⟩
    · exact ⟨p, hp, .inr (.step hrest hq)⟩

theorem target_in (hc : c.Valid) {a b : ObjectId} (h : c.Inherits a b) : b.In c.extent := by
  cases h with
  | proto h => exact (hc.objects _).proto _ h
  | step _ hq => exact (hc.objects _).proto _ hq

/-- Only the prototypes of the objects matter. -/
theorem congr {c' : Compartment} (hproto : ∀ o, (c'.object o).proto = (c.object o).proto)
    {a b : ObjectId} (h : c'.Inherits a b) : c.Inherits a b := by
  induction h with
  | proto h => exact .proto ((hproto _).symm.trans h)
  | step _ hq ih => exact .step ih ((hproto _).symm.trans hq)

end Inherits

/-- The prototypes make a forest, and every object lists those below it. -/
structure Forest (c : Compartment) : Prop where
  acyclic : ∀ o, ¬ c.Inherits o o
  instances : ∀ o p, o ∈ (c.object p).instances ↔ (c.object o).proto = some p
  nodup : ∀ p, (c.object p).instances.Nodup

/-- Only the prototypes and the instances of the objects matter. -/
theorem Forest.congr {c' : Compartment} (h : c.Forest)
    (hproto : ∀ o, (c'.object o).proto = (c.object o).proto)
    (hinstances : ∀ o, (c'.object o).instances = (c.object o).instances) : c'.Forest where
  acyclic o hcycle := h.acyclic o (hcycle.congr hproto)
  instances o p := by rw [hproto, hinstances]; exact h.instances o p
  nodup p := by rw [hinstances]; exact h.nodup p

theorem forest_fresh (options : Options) : (fresh options).Forest := by
  have hobject : ∀ o, ((fresh options).object o).proto = none ∧
      ((fresh options).object o).instances = [] := by
    intro o
    obtain ⟨i⟩ := o
    cases i <;> exact ⟨rfl, rfl⟩
  constructor
  · intro o hcycle
    obtain ⟨p, hp, -⟩ := hcycle.head
    rw [(hobject o).1] at hp
    cases hp
  · intro o p
    rw [(hobject o).1, (hobject p).2]
    simp
  · intro p
    rw [(hobject p).2]
    exact List.nodup_nil

/-! ## The chain of prototypes -/

private theorem inherits_of_mem_chainFrom {o x : ObjectId} {fuel : Nat} {start : Option ObjectId}
    (hstart : ∀ p, start = some p → c.Inherits o p) (hx : x ∈ c.chainFrom fuel start) :
    c.Inherits o x := by
  induction fuel generalizing start with
  | zero => cases hx
  | succ fuel ih =>
    cases start with
    | none => cases hx
    | some p =>
      rw [chainFrom, List.mem_cons] at hx
      obtain rfl | hx := hx
      · exact hstart _ rfl
      · exact ih (fun q hq => .step (hstart p rfl) hq) hx

private theorem nodup_chainFrom (h : c.Forest) (fuel : Nat) (o : ObjectId) :
    (o :: c.chainFrom fuel (c.object o).proto).Nodup := by
  induction fuel generalizing o with
  | zero => exact List.nodup_singleton o
  | succ fuel ih =>
    refine List.nodup_cons.mpr ⟨?_, ?_⟩
    · intro ho
      exact h.acyclic o (inherits_of_mem_chainFrom (fun p hp => .proto hp) ho)
    · cases hproto : (c.object o).proto with
      | none => exact List.nodup_nil
      | some p => exact ih p

/-- Following the prototypes either gets to the end or uses every step. -/
private theorem chainFrom_complete (fuel : Nat) (start : Option ObjectId) :
    (c.chainFrom fuel start).length = fuel ∨
      (∀ p, start = some p → p ∈ c.chainFrom fuel start) ∧
        ∀ p ∈ c.chainFrom fuel start, ∀ q, (c.object p).proto = some q →
          q ∈ c.chainFrom fuel start := by
  induction fuel generalizing start with
  | zero => exact .inl rfl
  | succ fuel ih =>
    cases start with
    | none =>
      refine .inr ⟨?_, ?_⟩
      · intro p hp
        cases hp
      · intro p hp
        cases hp
    | some p =>
      obtain hfull | ⟨hfirst, hclosed⟩ := ih (c.object p).proto
      · exact .inl (by rw [chainFrom, List.length_cons, hfull])
      · refine .inr ⟨?_, ?_⟩
        · rintro q ⟨⟩
          exact List.mem_cons_self
        · intro q hq r hr
          rw [chainFrom, List.mem_cons] at hq ⊢
          obtain rfl | hq := hq
          · exact .inr (hfirst r hr)
          · exact .inr (hclosed q hq r hr)

/-- Different objects of a compartment are no more than it has. -/
theorem length_le_of_nodup {os : List ObjectId} (hos : ∀ o ∈ os, o.In c.extent)
    (hnodup : os.Nodup) : os.length ≤ c.objects.size := by
  have hinj : Function.Injective ObjectId.index := by
    rintro ⟨i⟩ ⟨j⟩ h
    exact congrArg ObjectId.mk h
  have hsub : os.map ObjectId.index ⊆ List.range c.objects.size := by
    intro i hi
    obtain ⟨o, ho, rfl⟩ := List.mem_map.mp hi
    exact List.mem_range.mpr (hos o ho)
  have hle := ((hnodup.map hinj).subperm hsub).length_le
  rwa [List.length_map, List.length_range] at hle

theorem inherits_of_mem_chain {o x : ObjectId} (hx : x ∈ c.chain o) : c.Inherits o x :=
  inherits_of_mem_chainFrom (fun _ hp => .proto hp) hx

/-- An object and its prototypes are all different. -/
theorem nodup_chain (h : c.Forest) (o : ObjectId) : (o :: c.chain o).Nodup :=
  nodup_chainFrom h _ o

/-- More steps than it takes to get to the end make no difference. -/
private theorem chainFrom_succ {fuel : Nat} {start : Option ObjectId}
    (h : (c.chainFrom fuel start).length < fuel) :
    c.chainFrom (fuel + 1) start = c.chainFrom fuel start := by
  induction fuel generalizing start with
  | zero => exact absurd h (Nat.not_lt_zero _)
  | succ fuel ih =>
    cases start with
    | none => rfl
    | some p =>
      rw [chainFrom, List.length_cons] at h
      rw [chainFrom, ih (by omega), chainFrom]

/-- The chain of an object is its prototype and the chain of that one. -/
theorem chain_of_proto (hc : c.Valid) (h : c.Forest) {o p : ObjectId}
    (hp : (c.object o).proto = some p) : c.chain o = p :: c.chain p := by
  have hin : o.In c.extent := in_of_proto hp
  have hlength : (o :: c.chain o).length ≤ c.objects.size := by
    refine length_le_of_nodup (fun x hx => ?_) (nodup_chain h o)
    obtain rfl | hx := List.mem_cons.mp hx
    · exact hin
    · exact (inherits_of_mem_chain hx).target_in hc
  rw [List.length_cons, chain, hp] at hlength
  cases hsize : c.objects.size with
  | zero => omega
  | succ n =>
    rw [hsize, chainFrom, List.length_cons] at hlength
    rw [chain, chain, hp, hsize, chainFrom, chainFrom_succ (by omega)]

theorem chain_of_no_proto {o : ObjectId} (hp : (c.object o).proto = none) : c.chain o = [] := by
  rw [chain, hp]
  cases c.objects.size <;> rfl

/-- The chain of an object lists its prototypes. -/
theorem mem_chain_iff (hc : c.Valid) (h : c.Forest) {o x : ObjectId} :
    x ∈ c.chain o ↔ c.Inherits o x := by
  refine ⟨inherits_of_mem_chain, ?_⟩
  intro hx
  have hin : o.In c.extent := by
    obtain ⟨p, hp, -⟩ := hx.head
    exact in_of_proto hp
  have hcomplete := c.chainFrom_complete c.objects.size (c.object o).proto
  obtain hfull | ⟨hfirst, hclosed⟩ := hcomplete
  · -- A chain that uses every step has, with the object itself, more entries than the table.
    have hall : ∀ p ∈ o :: c.chain o, p.In c.extent := by
      intro p hp
      obtain rfl | hp := List.mem_cons.mp hp
      · exact hin
      · exact (inherits_of_mem_chain hp).target_in hc
    have hle := length_le_of_nodup hall (nodup_chain h o)
    have hlength : (c.chain o).length = c.objects.size := hfull
    rw [List.length_cons, hlength] at hle
    omega
  · induction hx with
    | proto hp => exact hfirst _ hp
    | step _ hq ih => exact hclosed _ ih _ hq

/-! ## A new prototype -/

section SetProto

variable {id proto : ObjectId} (hid : id.In c.extent) (hproto : proto.In c.extent)
include hid hproto

/-- Of an object, no more than its prototype and its instances may change. -/
theorem object_setProto (hne : id ≠ proto) (o : ObjectId) :
    (c.setProto id proto).object o = { c.object o with
      proto := if id = o then some proto else (c.object o).proto
      instances := if proto = o then (c.object o).instances ++ [id] else (c.object o).instances } := by
  have hid' : id.In (c.changeObject proto fun o =>
      { o with instances := o.instances ++ [id] }).extent := by rwa [extent_changeObject]
  show ((c.changeObject proto _).changeObject id _).object o = _
  rw [object_changeObject hid', object_changeObject hproto]
  by_cases h : id = o
  · have hne' : ¬ proto = o := fun h' => hne (h.trans h'.symm)
    rw [if_pos h, if_pos h, if_neg hne', if_neg hne']
  · rw [if_neg h, if_neg h]
    by_cases h' : proto = o
    · rw [if_pos h', if_pos h']
    · rw [if_neg h', if_neg h']

/-- What is new among the ancestors goes through the new link. -/
theorem inherits_setProto (hne : id ≠ proto) {a b : ObjectId}
    (hab : (c.setProto id proto).Inherits a b) :
    c.Inherits a b ∨ (a = id ∨ c.Inherits a id) ∧ (b = proto ∨ c.Inherits proto b) := by
  have hlink : ∀ {o p : ObjectId}, ((c.setProto id proto).object o).proto = some p →
      (o = id ∧ p = proto) ∨ (c.object o).proto = some p := by
    intro o p hp
    rw [object_setProto hid hproto hne] at hp
    by_cases ho : id = o
    · exact .inl ⟨ho.symm, Option.some.inj (hp.symm.trans (if_pos ho))⟩
    · exact .inr ((if_neg ho).symm.trans hp)
  induction hab with
  | proto hp =>
    obtain ⟨rfl, rfl⟩ | hold := hlink hp
    · exact .inr ⟨.inl rfl, .inl rfl⟩
    · exact .inl (.proto hold)
  | step _ hq ih =>
    obtain ⟨rfl, rfl⟩ | hold := hlink hq
    · obtain hbelow | ⟨hbelow, -⟩ := ih
      · exact .inr ⟨.inr hbelow, .inl rfl⟩
      · exact .inr ⟨hbelow, .inl rfl⟩
    · obtain hbelow | ⟨hbelow, rfl | habove⟩ := ih
      · exact .inl (.step hbelow hold)
      · exact .inr ⟨hbelow, .inr (.proto hold)⟩
      · exact .inr ⟨hbelow, .inr (.step habove hold)⟩

/-- A new prototype keeps the forest, unless it is the object or inherits from it. -/
theorem forest_setProto (h : c.Forest) (hnone : (c.object id).proto = none) (hne : id ≠ proto)
    (hup : ¬ c.Inherits proto id) : (c.setProto id proto).Forest := by
  have hold : id ∉ (c.object proto).instances := by
    intro hmem
    rw [(h.instances id proto).mp hmem] at hnone
    cases hnone
  constructor
  · intro o hcycle
    obtain hold | ⟨rfl | hbelow, rfl | habove⟩ := inherits_setProto hid hproto hne hcycle
    · exact h.acyclic o hold
    · exact hne rfl
    · exact hup habove
    · exact hup hbelow
    · exact hup (habove.trans hbelow)
  · intro o p
    rw [object_setProto hid hproto hne, object_setProto hid hproto hne]
    dsimp only
    by_cases hp : proto = p
    · subst hp
      rw [if_pos rfl, List.mem_append, List.mem_singleton, h.instances]
      by_cases ho : id = o
      · simp [ho]
      · rw [if_neg ho]
        simp [Ne.symm ho]
    · rw [if_neg hp, h.instances]
      by_cases ho : id = o
      · subst ho
        simp [hnone, hp]
      · rw [if_neg ho]
  · intro p
    rw [object_setProto hid hproto hne]
    dsimp only
    split
    · rename_i hp
      subst hp
      exact (h.nodup proto).append (List.nodup_singleton id) (by simpa using hold)
    · exact h.nodup p

end SetProto

/-! ## Walks down the forest -/

/-- The objects that a walk below an object has come by, and those that are still to come, are
different ones: each is an instance of that object or of one that the walk has come by. -/
structure Walk (c : Compartment) (root : ObjectId) (visited stack : List ObjectId) : Prop where
  nodup : (visited ++ stack).Nodup
  below : ∀ o ∈ visited ++ stack, c.Inherits o root
  parent : ∀ o ∈ visited ++ stack, ∃ p, (c.object o).proto = some p ∧ (p = root ∨ p ∈ visited)

namespace Walk

variable {root : ObjectId} {visited stack : List ObjectId}

theorem start (h : c.Forest) (root : ObjectId) :
    Walk c root [] (c.object root).instances.reverse where
  nodup := List.nodup_reverse.mpr (h.nodup root)
  below o ho := .proto ((h.instances o root).mp (List.mem_reverse.mp ho))
  parent o ho := ⟨root, (h.instances o root).mp (List.mem_reverse.mp ho), .inl rfl⟩

/-- The walk comes by the next object, and turns to its instances or not. -/
theorem next (h : c.Forest) {o : ObjectId} {rest : List ObjectId} (hw : Walk c root visited (o :: rest))
    {is : List ObjectId} (his : is = [] ∨ is = (c.object o).instances.reverse) :
    Walk c root (visited ++ [o]) (is ++ rest) := by
  have hmoved : ∀ x, x ∈ visited ++ o :: rest ↔ x ∈ visited ++ [o] ++ rest := by simp
  have hproto : ∀ i ∈ is, (c.object i).proto = some o := by
    obtain rfl | rfl := his
    · exact fun i hi => absurd hi List.not_mem_nil
    · exact fun i hi => (h.instances i o).mp (List.mem_reverse.mp hi)
  have hroot : o ≠ root := by
    rintro rfl
    exact h.acyclic _ (hw.below o (by simp))
  have hnew : o ∉ visited := by
    intro ho
    have hnodup := hw.nodup
    rw [List.nodup_append] at hnodup
    exact hnodup.2.2 o ho o List.mem_cons_self rfl
  have hmem : ∀ x, x ∈ visited ++ [o] ++ (is ++ rest) ↔ x ∈ is ∨ x ∈ visited ++ o :: rest := by
    intro x
    simp only [List.mem_append, List.mem_cons, List.not_mem_nil, or_false]
    tauto
  refine ⟨?_, ?_, ?_⟩
  · have hnodup : is.Nodup := by
      obtain rfl | rfl := his
      · exact List.nodup_nil
      · exact List.nodup_reverse.mpr (h.nodup o)
    -- An instance of this object cannot have come up before, because the object had not.
    have hdisjoint : ∀ i ∈ is, i ∉ visited ++ o :: rest := by
      intro i hi hold
      obtain ⟨p, hp, hparent⟩ := hw.parent i hold
      rw [hproto i hi, Option.some.injEq] at hp
      subst hp
      exact hparent.elim hroot hnew
    have hperm : (visited ++ [o] ++ (is ++ rest)).Perm (is ++ (visited ++ o :: rest)) := by
      rw [List.append_assoc, List.singleton_append]
      have hmove : (o :: (is ++ rest)).Perm (is ++ o :: rest) := List.perm_middle.symm
      refine (List.Perm.append_left visited hmove).trans ?_
      rw [← List.append_assoc, ← List.append_assoc]
      exact List.Perm.append_right _ List.perm_append_comm
    rw [hperm.nodup_iff, List.nodup_append]
    exact ⟨hnodup, hw.nodup, fun i hi x hx hix => hdisjoint i hi (hix ▸ hx)⟩
  · intro x hx
    obtain hx | hx := (hmem x).mp hx
    · exact (Inherits.proto (hproto x hx)).trans (hw.below o (by simp))
    · exact hw.below x hx
  · intro x hx
    obtain hx | hx := (hmem x).mp hx
    · exact ⟨o, hproto x hx, .inr (by simp)⟩
    · obtain ⟨p, hp, hparent⟩ := hw.parent x hx
      exact ⟨p, hp, hparent.imp_right fun h => List.mem_append_left _ h⟩

/-- A walk comes by every object once at most. -/
theorem length_le (hw : Walk c root visited stack) :
    visited.length + stack.length ≤ c.objects.size := by
  rw [← List.length_append]
  refine length_le_of_nodup (fun o ho => ?_) hw.nodup
  obtain ⟨p, hp, -⟩ := hw.parent o ho
  exact in_of_proto hp

end Walk

end Compartment

end FlowTypes
