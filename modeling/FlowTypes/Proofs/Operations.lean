import FlowTypes.Arith
import FlowTypes.Proofs.Coherence

/-!
# What an operation yields

An operation hears of the types of one operand at a time, and looks at the kinds of types that the
other operand has at that moment.  So what it yields comes from single types, and from pairs of a
type that is heard of and a type that is there.  If every pair has been looked at, from the one side
or from the other, the results do not depend on the order in which the types came.

## Main results

* `Arith.mem_binary`, `Arith.pair_comm`: an operation looks at one pair of types at a time, and
  at either end of it.
* `Arith.Exact`, `Arith.ExactUnary`: the results of an operation, said without an order.
* `Arith.exact_of_pairs`: what a set has that has the results for every pair.
-/

namespace FlowTypes

/-- The values of the type stand for integers. -/
def Ty.isIntegral : Ty → Bool
  | null | boolean | int32 => true
  | _ => false

/-- The values of the type stand for numbers, and not all of them for integers. -/
def Ty.isFractional : Ty → Bool
  | undefined | double => true
  | _ => false

namespace Arith

variable {op : ArithOp} {t u v : Ty} {s : TypeSet}

/-! ## Pairs of types -/

/-- What an operation yields when a type joins one operand while the other one has one type. -/
def pair (op : ArithOp) (t v : Ty) : List Ty := binary op t { flags := v.flag }

/-- What an operation yields for a set of types is what it yields for each of them, and what it
yields in any case. -/
theorem mem_binary (h : s.Coherent) :
    u ∈ binary op t s ↔ u ∈ binary op t {} ∨ ∃ v ∈ s.types, u ∈ pair op t v := by
  have hflags : ∀ flags, s.flags.intersects flags = true ↔
      ∃ v ∈ s.types, v.flag.intersects flags = true := h.hasAnyFlag_iff
  have hempty : s.flags.isEmpty = true ↔ ∀ v, v ∉ s.types := by
    rw [← List.eq_nil_iff_forall_not_mem]
    exact h.isEmpty_iff
  have hsome : ∀ v : Ty, v.flag.isEmpty = false := by
    intro v
    cases v <;> rfl
  have hnone : Flags.none.isEmpty = true := rfl
  cases op <;> cases t <;>
    simp only [binary, pair, TypeSet.hasAnyFlag, TypeSet.isEmpty, hflags, hempty, hsome, hnone,
      Flags.not_intersects_none, List.mem_append, List.mem_ite_nil_right, List.mem_ite_nil_left,
      List.mem_singleton] <;> grind

/-- All objects are the same to an operation. -/
theorem exists_sample (t : Ty) : ∃ t' ∈ .object ⟨0⟩ :: Ty.named,
    (∀ op s, binary op t s = binary op t' s) ∧ t.flag = t'.flag := by
  cases t with
  | object => exact ⟨.object ⟨0⟩, by decide, fun op s => by cases op <;> rfl, rfl⟩
  | _ => exact ⟨_, by decide, fun _ _ => rfl, rfl⟩

/-- What two types yield together is seen from both of them, or the unknown type is. -/
theorem pair_comm (h : u ∈ pair op t v) : ∃ u' ∈ pair op v t ++ binary op t {} ++ binary op v {},
    u' = u ∨ u' = .unknown := by
  obtain ⟨t', ht, hbinary, hflag⟩ := exists_sample t
  obtain ⟨v', hv, hbinary', hflag'⟩ := exists_sample v
  have hop : op ∈ [ArithOp.add, .numeric] := by cases op <;> decide
  have hall : ∀ op ∈ [ArithOp.add, .numeric], ∀ t ∈ .object ⟨0⟩ :: Ty.named,
      ∀ v ∈ .object ⟨0⟩ :: Ty.named, ∀ u ∈ pair op t v,
        ∃ u' ∈ pair op v t ++ binary op t {} ++ binary op v {}, u' = u ∨ u' = .unknown := by
    decide
  rw [pair, hbinary, hflag'] at h
  rw [pair, hbinary', hflag, hbinary, hbinary']
  exact hall op hop t' ht v' hv u h

/-- What a type yields even if the other operand has none. -/
theorem mem_binary_empty : u ∈ binary op t {} ↔ (u = .string ∧ op = .add ∧ t = .string) ∨
    (u = .unknown ∧ (t = .unknown ∨ op = .add ∧ ∃ o, t = .object o)) := by
  have hint : ({} : TypeSet).hasAnyFlag .intLike = false := by decide
  have hdouble : ({} : TypeSet).hasAnyFlag (doubleWithInt op) = false := by cases op <;> decide
  have hnumber : ({} : TypeSet).hasAnyFlag .numberLike = false := by decide
  have hempty : ({} : TypeSet).isEmpty = true := by decide
  cases op <;> cases t <;> simp [binary, hint, hdouble, hnumber, hempty]

/-- Two types yield a double: in an addition both stand for numbers, one of them not always for
integers; in another operation they do not both stand for integers. -/
def yieldsDouble : ArithOp → Ty → Ty → Bool
  | .add, t, v => (t.isIntegral || t.isFractional) && (v.isIntegral || v.isFractional) &&
      (t.isFractional || v.isFractional)
  | .numeric, t, v => !(t.isIntegral && v.isIntegral)

theorem yieldsDouble_comm : yieldsDouble op t v = yieldsDouble op v t := by
  cases op <;> simp only [yieldsDouble, Bool.and_comm, Bool.or_comm]

/-- The kinds of a single type. -/
theorem hasAnyFlag_single (v : Ty) :
    let s : TypeSet := { flags := v.flag }
    s.hasAnyFlag .intLike = v.isIntegral ∧
      s.hasAnyFlag .numberLike = (v.isIntegral || v.isFractional) ∧
      s.hasAnyFlag (doubleWithInt .add) = v.isFractional ∧ s.isEmpty = false := by
  cases v <;> dsimp only [Ty.flag, Ty.isIntegral, Ty.isFractional] <;> decide

theorem hasAnyFlag_numeric (hv : v ≠ .unknown) :
    ({ flags := v.flag } : TypeSet).hasAnyFlag (doubleWithInt .numeric) = !v.isIntegral := by
  cases v with
  | unknown => exact absurd rfl hv
  | _ =>
    dsimp only [Ty.flag, Ty.isIntegral]
    decide

/-- What two types that are not unknown yield. -/
theorem mem_pair (ht : t ≠ .unknown) (hv : v ≠ .unknown) : u ∈ pair op t v ↔ u ∈ binary op t {} ∨
    (u = .int32 ∧ t.isIntegral = true ∧ v.isIntegral = true) ∨
      (u = .double ∧ yieldsDouble op t v = true) := by
  obtain ⟨hint, hnumber, hadd, hempty⟩ := hasAnyFlag_single v
  have hnumeric := hasAnyFlag_numeric hv
  rw [mem_binary_empty]
  cases op <;> cases t <;>
    simp [pair, binary, yieldsDouble, Ty.isIntegral, Ty.isFractional, hint, hnumber, hadd, hnumeric,
      hempty] <;> grind

/-- Two types yield the unknown type only if the first one does by itself. -/
theorem binary_of_unknown_mem_pair (h : .unknown ∈ pair op t v) : .unknown ∈ binary op t {} := by
  rw [mem_binary_empty]
  unfold pair binary at h
  split at h <;> grind

/-! ## Results without an order -/

/-- The target has the results of an operation on two operands. -/
structure Exact (op : ArithOp) (lhs rhs target : TypeSet) : Prop where
  unknown : target.isUnknown = true ↔ .unknown ∈ lhs.types ∨ .unknown ∈ rhs.types ∨
    op = .add ∧ ((∃ o, .object o ∈ lhs.types) ∨ ∃ o, .object o ∈ rhs.types)
  types : target.isUnknown = false → ∀ t, t ∈ target.types ↔
    (t = .string ∧ op = .add ∧ (.string ∈ lhs.types ∨ .string ∈ rhs.types)) ∨
    (t = .int32 ∧ ∃ a ∈ lhs.types, ∃ b ∈ rhs.types, a.isIntegral = true ∧ b.isIntegral = true) ∨
    (t = .double ∧ ∃ a ∈ lhs.types, ∃ b ∈ rhs.types, yieldsDouble op a b = true)

/-- The target has the results of an operation on one operand. -/
structure ExactUnary (operand target : TypeSet) : Prop where
  unknown : target.isUnknown = true ↔ .unknown ∈ operand.types
  types : target.isUnknown = false → ∀ t, t ∈ target.types ↔
    (t = .int32 ∧ ∃ a ∈ operand.types, a.isIntegral = true) ∨
    (t = .double ∧ ∃ a ∈ operand.types, a.isFractional = true ∨ a = .string ∨ ∃ o, a = .object o)

/-- What the types of one operand yield when the other one has these types. -/
def Yields (op : ArithOp) (operand other : TypeSet) (u : Ty) : Prop :=
  ∃ t ∈ operand.types, u ∈ binary op t {} ∨ ∃ v ∈ other.types, u ∈ pair op t v

variable {lhs rhs target : TypeSet}

/-- The unknown type comes from an operand that alone yields it. -/
theorem Yields.spoiled (h : Yields op lhs rhs .unknown) :
    .unknown ∈ lhs.types ∨ op = .add ∧ ∃ o, .object o ∈ lhs.types := by
  obtain ⟨t, ht, h⟩ := h
  have hunknown : .unknown ∈ binary op t {} := h.elim id fun ⟨_, _, h⟩ => binary_of_unknown_mem_pair h
  obtain ⟨hstring, -⟩ | ⟨-, rfl | ⟨hop, o, rfl⟩⟩ := mem_binary_empty.mp hunknown
  · cases hstring
  · exact .inl ht
  · exact .inr ⟨hop, o, ht⟩

/-- What two operands without the unknown type yield. -/
theorem Yields.cases (h : Yields op lhs rhs u) (hlhs : .unknown ∉ lhs.types)
    (hrhs : .unknown ∉ rhs.types) (hu : u ≠ .unknown) :
    (u = .string ∧ op = .add ∧ .string ∈ lhs.types) ∨
    (u = .int32 ∧ ∃ a ∈ lhs.types, ∃ b ∈ rhs.types, a.isIntegral = true ∧ b.isIntegral = true) ∨
    (u = .double ∧ ∃ a ∈ lhs.types, ∃ b ∈ rhs.types, yieldsDouble op a b = true) := by
  obtain ⟨t, ht, h⟩ := h
  have halone : u ∈ binary op t {} → u = .string ∧ op = .add ∧ .string ∈ lhs.types := by
    intro h
    obtain ⟨rfl, hop, rfl⟩ | ⟨hunknown, -⟩ := mem_binary_empty.mp h
    · exact ⟨rfl, hop, ht⟩
    · exact absurd hunknown hu
  obtain h | ⟨v, hv, h⟩ := h
  · exact .inl (halone h)
  · obtain h | ⟨rfl, hints⟩ | ⟨rfl, hdouble⟩ :=
      (mem_pair (ne_of_mem_of_not_mem ht hlhs) (ne_of_mem_of_not_mem hv hrhs)).mp h
    · exact .inl (halone h)
    · exact .inr (.inl ⟨rfl, t, ht, v, hv, hints⟩)
    · exact .inr (.inr ⟨rfl, t, ht, v, hv, hdouble⟩)

section Pairs

variable (hcoherent : target.Coherent)
  (honly : ∀ u ∈ target.types, Yields op lhs rhs u ∨ Yields op rhs lhs u)
  (hlhs : ∀ t ∈ lhs.types, ∀ u ∈ binary op t {}, target.has u = true)
  (hrhs : ∀ t ∈ rhs.types, ∀ u ∈ binary op t {}, target.has u = true)
include hcoherent honly hlhs hrhs

/-- A set that has what single types yield, and nothing that the operands do not yield, is unknown
exactly if one of the operands makes it so by itself. -/
theorem isUnknown_iff_spoiled : target.isUnknown = true ↔ .unknown ∈ lhs.types ∨
    .unknown ∈ rhs.types ∨
      op = .add ∧ ((∃ o, .object o ∈ lhs.types) ∨ ∃ o, .object o ∈ rhs.types) := by
  rw [hcoherent.isUnknown_iff]
  constructor
  · intro h
    obtain h | h := honly _ h
    · obtain h | ⟨hop, h⟩ := h.spoiled
      · exact .inl h
      · exact .inr (.inr ⟨hop, .inl h⟩)
    · obtain h | ⟨hop, h⟩ := h.spoiled
      · exact .inr (.inl h)
      · exact .inr (.inr ⟨hop, .inr h⟩)
  · intro h
    refine hcoherent.has_unknown_iff.mp ?_
    obtain h | h | ⟨hop, ⟨o, h⟩ | ⟨o, h⟩⟩ := h
    · exact hlhs _ h _ (mem_binary_empty.mpr (.inr ⟨rfl, .inl rfl⟩))
    · exact hrhs _ h _ (mem_binary_empty.mpr (.inr ⟨rfl, .inl rfl⟩))
    · exact hlhs _ h _ (mem_binary_empty.mpr (.inr ⟨rfl, .inr ⟨hop, o, rfl⟩⟩))
    · exact hrhs _ h _ (mem_binary_empty.mpr (.inr ⟨rfl, .inr ⟨hop, o, rfl⟩⟩))

/-- A set has the results of an operation on two operands if it has nothing but what these yield, if
it has what each type yields alone, and what each pair of types yields, seen from one of them. -/
theorem exact_of_pairs (hpairs : ∀ a ∈ lhs.types, ∀ b ∈ rhs.types,
    (∀ u ∈ pair op a b, target.has u = true) ∨ ∀ u ∈ pair op b a, target.has u = true) :
    Exact op lhs rhs target := by
  have hunknown := isUnknown_iff_spoiled hcoherent honly hlhs hrhs
  refine ⟨hunknown, fun hknown u => ?_⟩
  have hnone : .unknown ∉ target.types := by
    rw [← hcoherent.isUnknown_iff, hknown]
    exact Bool.false_ne_true
  have hmem : ∀ {u}, target.has u = true → u ∈ target.types := fun h =>
    ((hcoherent.has_iff _).mp h).resolve_right hnone
  obtain ⟨hl, hr⟩ : .unknown ∉ lhs.types ∧ .unknown ∉ rhs.types := by
    rw [hknown] at hunknown
    simp only [Bool.false_eq_true, false_iff, not_or] at hunknown
    exact ⟨hunknown.1, hunknown.2.1⟩
  have hyields : ∀ {a b u}, a ∈ lhs.types → b ∈ rhs.types →
      (u = .int32 ∧ a.isIntegral = true ∧ b.isIntegral = true) ∨
        (u = .double ∧ yieldsDouble op a b = true) → u ∈ target.types := by
    intro a b u ha hb h
    have ha' := ne_of_mem_of_not_mem ha hl
    have hb' := ne_of_mem_of_not_mem hb hr
    refine hmem ((hpairs a ha b hb).elim (fun hpair => ?_) fun hpair => ?_)
    · exact hpair u ((mem_pair ha' hb').mpr (.inr h))
    · refine hpair u ((mem_pair hb' ha').mpr (.inr ?_))
      rwa [and_comm (a := b.isIntegral = true), yieldsDouble_comm]
  constructor
  · intro hu
    have hne : u ≠ .unknown := ne_of_mem_of_not_mem hu hnone
    obtain h | h := honly u hu
    · obtain ⟨rfl, hop, h⟩ | h | h := h.cases hl hr hne
      · exact .inl ⟨rfl, hop, .inl h⟩
      · exact .inr (.inl h)
      · exact .inr (.inr h)
    · obtain ⟨rfl, hop, h⟩ | ⟨rfl, b, hb, a, ha, hints⟩ | ⟨rfl, b, hb, a, ha, hdouble⟩ :=
        h.cases hr hl hne
      · exact .inl ⟨rfl, hop, .inr h⟩
      · exact .inr (.inl ⟨rfl, a, ha, b, hb, hints.symm⟩)
      · exact .inr (.inr ⟨rfl, a, ha, b, hb, yieldsDouble_comm.trans hdouble⟩)
  · rintro (⟨rfl, hop, h | h⟩ | ⟨rfl, a, ha, b, hb, hints⟩ | ⟨rfl, a, ha, b, hb, hdouble⟩)
    · exact hmem (hlhs _ h _ (mem_binary_empty.mpr (.inl ⟨rfl, hop, rfl⟩)))
    · exact hmem (hrhs _ h _ (mem_binary_empty.mpr (.inl ⟨rfl, hop, rfl⟩)))
    · exact hyields ha hb (.inl ⟨rfl, hints⟩)
    · exact hyields ha hb (.inr ⟨rfl, hdouble⟩)

end Pairs

theorem unary_eq_unknown : unary t = .unknown ↔ t = .unknown := by
  cases t <;> simp [unary]

/-- A set has the results of an operation on one operand if it has what each type yields, and
nothing else. -/
theorem exactUnary_of_types {operand : TypeSet} (hcoherent : target.Coherent)
    (honly : ∀ u ∈ target.types, ∃ t ∈ operand.types, u = unary t)
    (hall : ∀ t ∈ operand.types, target.has (unary t) = true) : ExactUnary operand target := by
  refine ⟨?_, fun hknown u => ?_⟩
  · rw [hcoherent.isUnknown_iff]
    constructor
    · intro h
      obtain ⟨t, ht, hu⟩ := honly _ h
      rwa [unary_eq_unknown.mp hu.symm] at ht
    · exact fun h => hcoherent.has_unknown_iff.mp (hall _ h)
  · have hnone : .unknown ∉ target.types := by
      rw [← hcoherent.isUnknown_iff, hknown]
      exact Bool.false_ne_true
    have hmem : ∀ t ∈ operand.types, unary t ∈ target.types := fun t ht =>
      ((hcoherent.has_iff _).mp (hall t ht)).resolve_right hnone
    constructor
    · intro hu
      obtain ⟨t, ht, rfl⟩ := honly u hu
      have hone : unary t ≠ .unknown := ne_of_mem_of_not_mem hu hnone
      cases t with
      | unknown => exact absurd rfl hone
      | null | boolean | int32 => exact .inl ⟨rfl, _, ht, rfl⟩
      | undefined | double => exact .inr ⟨rfl, _, ht, .inl rfl⟩
      | string => exact .inr ⟨rfl, _, ht, .inr (.inl rfl)⟩
      | object o => exact .inr ⟨rfl, _, ht, .inr (.inr ⟨o, rfl⟩)⟩
    · rintro (⟨rfl, a, ha, hint⟩ | ⟨rfl, a, ha, hfraction | rfl | ⟨o, rfl⟩⟩)
      · cases a <;> first | exact hmem _ ha | cases hint
      · cases a <;> first | exact hmem _ ha | cases hfraction
      · exact hmem _ ha
      · exact hmem _ ha

end Arith

end FlowTypes
