import FlowTypes.TypeSet

/-!
# Summaries of a type set

A type set keeps the flags of its types and the objects among them beside the list of its types.
This module proves that the summaries never disagree with the list, so that everything else about
a set can be read off the list alone.

## Main results

* `Coherent`: the flags and the objects are those of the types, no type comes twice, and nothing
  comes after the unknown type.
* `coherent_insert`, `coherent_listen`, `coherent_addTarget`: every change of a set keeps it so.
* `Coherent.has_iff`: a set stands for a type exactly if it holds the type or the unknown type.
* `Coherent.tag?_iff`, `Coherent.isEmpty_iff`, `Coherent.count?_iff`: the tag, the emptiness and the
  number of types of a set.
-/

namespace FlowTypes

namespace Flags

/-- The flags that record a type. -/
private def singles : List Flags :=
  [undefined, null, boolean, int32, double, string, unknown, object]

private theorem flag_mem_singles (t : Ty) : t.flag ∈ singles := by
  cases t <;> simp [singles, Ty.flag]

private theorem and_singles :
    ∀ a ∈ singles, ∀ b ∈ singles, a.bits &&& b.bits = if a = b then b.bits else 0 := by
  decide

private theorem not_contains_singles : ∀ a ∈ singles, none.contains a = false := by
  decide

/-- The flags of two types are the same or have no bit in common. -/
private theorem and_flag (s t : Ty) :
    s.flag.bits &&& t.flag.bits = if s.flag = t.flag then t.flag.bits else 0 :=
  and_singles _ (flag_mem_singles s) _ (flag_mem_singles t)

private theorem or_and (x y z : UInt32) : (x ||| y) &&& z = (x &&& z) ||| (y &&& z) := by
  apply UInt32.toBitVec_inj.mp
  simp only [UInt32.toBitVec_and, UInt32.toBitVec_or]
  apply BitVec.eq_of_getLsbD_eq
  intro i _
  simp only [BitVec.getLsbD_and, BitVec.getLsbD_or, Bool.and_or_distrib_right]

private theorem and_eq_flag_or (x : UInt32) (s t : Ty) :
    ((x ||| s.flag.bits) &&& t.flag.bits = t.flag.bits) ↔
      x &&& t.flag.bits = t.flag.bits ∨ s.flag = t.flag := by
  rw [or_and, and_flag]
  by_cases h : s.flag = t.flag
  · simp only [h, if_true, or_true, iff_true]
    apply UInt32.toBitVec_inj.mp
    simp only [UInt32.toBitVec_and, UInt32.toBitVec_or]
    apply BitVec.eq_of_getLsbD_eq
    intro i _
    simp only [BitVec.getLsbD_and, BitVec.getLsbD_or]
    cases x.toBitVec.getLsbD i <;> simp
  · simp [h]

/-- One more flag is the only one that can be new. -/
theorem contains_or_flag (a : Flags) (s t : Ty) :
    (a ||| s.flag).contains t.flag = true ↔
      a.contains t.flag = true ∨ s.flag = t.flag := by
  have h := and_eq_flag_or a.bits s t
  have hbits : (a ||| s.flag).bits = a.bits ||| s.flag.bits := rfl
  simpa only [contains, beq_iff_eq, hbits] using h

/-- Two words together have a flag in common with a third one if one of them does. -/
theorem intersects_or (a b flags : Flags) :
    (a ||| b).intersects flags = true ↔ a.intersects flags = true ∨ b.intersects flags = true := by
  have hbits : (a ||| b).bits = a.bits ||| b.bits := rfl
  simp only [intersects, hbits, or_and, bne_iff_ne, ne_eq, UInt32.or_eq_zero_iff]
  exact Decidable.not_and_iff_not_or_not

theorem not_intersects_none (flags : Flags) : none.intersects flags = false := by
  simp [intersects, none]

theorem not_contains_none (t : Ty) : none.contains t.flag = false :=
  not_contains_singles _ (flag_mem_singles t)

private theorem flag_ne_zero (t : Ty) : t.flag.bits ≠ 0 := by
  have hall : ∀ a ∈ singles, a.bits ≠ 0 := by decide
  exact hall _ (flag_mem_singles t)

/-- The flag of a tag has only the flag of one type. -/
theorem flag_eq_of_contains {tag : Tag} {t : Ty} (h : tag.flag.contains t.flag = true) :
    t.flag = tag.flag := by
  have hsingle : tag.flag ∈ singles := by cases tag <;> simp [singles, Tag.flag]
  rw [contains, beq_iff_eq, and_singles _ hsingle _ (flag_mem_singles t)] at h
  by_cases heq : tag.flag = t.flag
  · exact heq.symm
  · rw [if_neg heq] at h
    exact absurd h.symm (flag_ne_zero t)

theorem none_or (a : Flags) : none ||| a = a := congrArg Flags.mk (UInt32.zero_or)

theorem or_self (a : Flags) : a ||| a = a := congrArg Flags.mk (UInt32.or_self)

end Flags

/-- The flag of a type that is no object belongs to no other type. -/
theorem Ty.eq_of_flag_eq {s t : Ty} (h : s.flag = t.flag) (ht : t.object? = none) : s = t := by
  cases t with
  | object id => cases ht
  | _ => cases s <;> simp only [flag] at h <;> first | rfl | exact absurd h (by decide)

namespace Flags

/-- The place of the highest bit. -/
def place (a : Flags) : Nat := a.bits.toNat.log2

private theorem place_singles :
    ∀ a ∈ singles, a.bits.toNat = 1 <<< a.place ∧ a.place < 32 := by
  decide

private theorem place_inj_singles : ∀ a ∈ singles, ∀ b ∈ singles, a.place = b.place → a = b := by
  decide

/-- The flag of a type is a single bit. -/
private theorem testBit_flag (t : Ty) (i : Nat) :
    t.flag.bits.toNat.testBit i = decide (t.flag.place = i) := by
  rw [(place_singles _ (flag_mem_singles t)).1, Nat.one_shiftLeft, Nat.testBit_two_pow]

private theorem place_flag_inj {s t : Ty} (h : s.flag.place = t.flag.place) : s.flag = t.flag :=
  place_inj_singles _ (flag_mem_singles s) _ (flag_mem_singles t) h

private theorem testBit_or (a b : Flags) (i : Nat) :
    (a ||| b).bits.toNat.testBit i = (a.bits.toNat.testBit i || b.bits.toNat.testBit i) := by
  have hbits : (a ||| b).bits = a.bits ||| b.bits := rfl
  rw [hbits, UInt32.toNat_or, Nat.testBit_or]

private theorem testBit_without (a b : Flags) (i : Nat) :
    (a.without b).bits.toNat.testBit i =
      (a.bits.toNat.testBit i && !b.bits.toNat.testBit i) := by
  simp only [without, ← UInt32.toNat_toBitVec, BitVec.testBit_toNat, UInt32.toBitVec_and,
    UInt32.toBitVec_not, BitVec.getLsbD_and, BitVec.getLsbD_not]
  by_cases hi : i < 32
  · simp [hi]
  · simp [BitVec.getLsbD_of_ge a.bits.toBitVec i (by omega)]

/-- Flags are counted by listing their places. -/
private theorem count_eq_length {a : Flags} {places : List Nat} (hnodup : places.Nodup)
    (hlt : ∀ i ∈ places, i < 32)
    (hplaces : ∀ i, a.bits.toNat.testBit i = true ↔ i ∈ places) : a.count = places.length := by
  rw [count, List.countP_eq_length_filter]
  refine ((List.perm_ext_iff_of_nodup (List.nodup_range.filter _) hnodup).mpr fun i => ?_).length_eq
  rw [List.mem_filter, hplaces, and_iff_right_iff_imp, List.mem_range]
  exact hlt i

end Flags

namespace TypeSet

/-- The flags of a list of types. -/
def flagsOf (ts : List Ty) : Flags := ts.foldr (fun t flags => flags ||| t.flag) .none

/-- The flag of a type is among those of a list exactly if the list has a type with this flag. -/
theorem contains_flagsOf (ts : List Ty) (t : Ty) :
    (flagsOf ts).contains t.flag = true ↔ ∃ s ∈ ts, s.flag = t.flag := by
  induction ts with
  | nil => simp [flagsOf, Flags.not_contains_none]
  | cons s ts ih =>
    have hstep : flagsOf (s :: ts) = flagsOf ts ||| s.flag := rfl
    rw [hstep, Flags.contains_or_flag, ih]
    simp only [List.mem_cons, exists_eq_or_imp]
    exact or_comm

/-- The flags of a list have one in common with a word exactly if those of one type do. -/
theorem intersects_flagsOf (ts : List Ty) (flags : Flags) :
    (flagsOf ts).intersects flags = true ↔ ∃ t ∈ ts, t.flag.intersects flags = true := by
  induction ts with
  | nil => simp [flagsOf, Flags.not_intersects_none]
  | cons t ts ih =>
    have hstep : flagsOf (t :: ts) = flagsOf ts ||| t.flag := rfl
    rw [hstep, Flags.intersects_or, ih]
    simp only [List.mem_cons, exists_eq_or_imp]
    exact or_comm

/-- Types that all have one flag have no other. -/
theorem flagsOf_eq {ts : List Ty} {flag : Flags} (hne : ts ≠ []) (h : ∀ t ∈ ts, t.flag = flag) :
    flagsOf ts = flag := by
  induction ts with
  | nil => exact absurd rfl hne
  | cons t ts ih =>
    have hstep : flagsOf (t :: ts) = flagsOf ts ||| t.flag := rfl
    rw [hstep, h t List.mem_cons_self]
    cases ts with
    | nil => exact Flags.none_or flag
    | cons u ts =>
      rw [ih (List.cons_ne_nil _ _) fun v hv => h v (List.mem_cons_of_mem _ hv), Flags.or_self]

private theorem testBit_flagsOf (ts : List Ty) (i : Nat) :
    (flagsOf ts).bits.toNat.testBit i = true ↔ ∃ t ∈ ts, t.flag.place = i := by
  induction ts with
  | nil => simp [flagsOf, Flags.none]
  | cons t ts ih =>
    have hstep : flagsOf (t :: ts) = flagsOf ts ||| t.flag := rfl
    rw [hstep, Flags.testBit_or, Bool.or_eq_true, ih, Flags.testBit_flag, decide_eq_true_eq]
    simp only [List.mem_cons, exists_eq_or_imp]
    exact or_comm

/-- Different types that are no objects have one flag each. -/
theorem count_flagsOf {ts : List Ty} (hnodup : ts.Nodup) :
    ((flagsOf ts).without .object).count = ts.countP (·.object?.isNone) := by
  have hnone : ∀ {t : Ty}, t.object?.isNone = true ↔ t.flag ≠ Flags.object := by
    intro t
    cases t with
    | object id => simp [Ty.object?, Ty.flag]
    | _ => simp only [Ty.object?, Ty.flag, Option.isNone_none, true_iff]; decide
  rw [List.countP_eq_length_filter,
    ← List.length_map (f := fun t : Ty => t.flag.place)]
  refine Flags.count_eq_length ?_ ?_ fun i => ?_
  · refine List.pairwise_map.mpr ((hnodup.filter _).imp_of_mem ?_)
    intro s t _ ht hne hplace
    have ht := (List.mem_filter.mp ht).2
    exact hne (Ty.eq_of_flag_eq (Flags.place_flag_inj hplace) (Option.isNone_iff_eq_none.mp ht))
  · intro i hi
    obtain ⟨t, -, rfl⟩ := List.mem_map.mp hi
    exact (Flags.place_singles _ (Flags.flag_mem_singles t)).2
  · have hobject := Flags.testBit_flag (.object ⟨0⟩) i
    rw [Flags.testBit_without, Bool.and_eq_true, testBit_flagsOf, Bool.not_eq_true',
      show Flags.object = (Ty.object ⟨0⟩).flag from rfl, hobject, decide_eq_false_iff_not,
      List.mem_map]
    constructor
    · rintro ⟨⟨t, ht, rfl⟩, hne⟩
      exact ⟨t, List.mem_filter.mpr ⟨ht, hnone.mpr fun h => hne (by rw [h]; rfl)⟩, rfl⟩
    · rintro ⟨t, ht, rfl⟩
      obtain ⟨ht, hplain⟩ := List.mem_filter.mp ht
      refine ⟨⟨t, ht, rfl⟩, fun h => hnone.mp hplain ?_⟩
      exact (Flags.place_flag_inj h).symm

/-- The summaries of a set agree with its types, which are all different and of which the unknown
type can only be the last. -/
structure Coherent (s : TypeSet) : Prop where
  flags : s.flags = flagsOf s.latest
  objects : ∀ i, s.objects.contains i = true ↔ Ty.object ⟨i⟩ ∈ s.latest
  nodup : s.latest.Nodup
  unknownLast : Ty.unknown ∉ s.latest.tail

theorem mem_types {s : TypeSet} {t : Ty} : t ∈ s.types ↔ t ∈ s.latest := List.mem_reverse

namespace Coherent

variable {s : TypeSet}

theorem isUnknown_iff (h : s.Coherent) : s.isUnknown = true ↔ Ty.unknown ∈ s.types := by
  rw [mem_types, isUnknown, h.flags, show Flags.unknown = Ty.unknown.flag from rfl,
    contains_flagsOf]
  constructor
  · rintro ⟨t, ht, hflag⟩
    rwa [Ty.eq_of_flag_eq hflag rfl] at ht
  · intro ht
    exact ⟨_, ht, rfl⟩

/-- A set stands for the types it holds, and for every type once it holds the unknown type. -/
theorem has_iff (h : s.Coherent) (t : Ty) :
    s.has t = true ↔ t ∈ s.types ∨ Ty.unknown ∈ s.types := by
  have hflag : ∀ u : Ty, u.object? = none → (s.flags.contains u.flag = true ↔ u ∈ s.types) := by
    intro u hu
    rw [mem_types, h.flags, contains_flagsOf]
    constructor
    · rintro ⟨v, hv, hflag⟩
      rwa [Ty.eq_of_flag_eq hflag hu] at hv
    · intro hmem
      exact ⟨_, hmem, rfl⟩
  cases t with
  | object id =>
    change (s.isUnknown || s.objects.contains id.index) = true ↔ _
    rw [Bool.or_eq_true, h.isUnknown_iff, h.objects, mem_types, mem_types, or_comm]
  | _ =>
    change (s.isUnknown || s.flags.contains (Ty.flag _)) = true ↔ _
    rw [Bool.or_eq_true, h.isUnknown_iff, hflag _ rfl, or_comm]

theorem has_of_mem (h : s.Coherent) {t : Ty} (ht : t ∈ s.types) : s.has t = true :=
  (h.has_iff t).mpr (.inl ht)

theorem has_unknown_iff (h : s.Coherent) : s.has .unknown = true ↔ Ty.unknown ∈ s.types := by
  rw [h.has_iff, or_self]

/-- A set with the unknown type stands for every type. -/
theorem has_of_has_unknown (h : s.Coherent) (hu : s.has .unknown = true) (t : Ty) :
    s.has t = true :=
  (h.has_iff t).mpr (.inr (h.has_unknown_iff.mp hu))

theorem nodup_types (h : s.Coherent) : s.types.Nodup := (List.reverse_perm _).nodup_iff.mpr h.nodup

/-- A set has a tag exactly if it has types and each of them has the flag of the tag. -/
theorem tag?_iff (h : s.Coherent) {tag : Tag} :
    s.tag? = some tag ↔ s.types ≠ [] ∧ ∀ t ∈ s.types, t.flag = tag.flag := by
  have hmem : ∀ t, t ∈ s.types ↔ t ∈ s.latest := fun _ => mem_types
  rw [tag?, Tag.ofFlags?_eq_some_iff, h.flags, Ne, types, List.reverse_eq_nil_iff]
  constructor
  · intro hflags
    refine ⟨?_, fun t ht => ?_⟩
    · intro hnil
      rw [hnil] at hflags
      cases tag <;> exact absurd hflags (by decide)
    · have hcontains := (contains_flagsOf s.latest t).mpr ⟨t, (hmem t).mp ht, rfl⟩
      rw [hflags] at hcontains
      exact Flags.flag_eq_of_contains hcontains
  · rintro ⟨hne, hall⟩
    exact flagsOf_eq hne fun t ht => hall t ((hmem t).mpr ht)

/-- The objects of a set are as many as its types that are objects. -/
theorem size_objects (h : s.Coherent) : s.objects.size = s.latest.countP (¬ ·.object?.isNone) := by
  have hobject : ∀ {t : Ty} {o : ObjectId}, t.object? = some o ↔ t = .object o := by
    intro t o
    cases t <;> simp [Ty.object?]
  have hindex : ∀ o p : ObjectId, o.index = p.index → o = p := fun ⟨_⟩ ⟨_⟩ => congrArg ObjectId.mk
  have hnodup : ((s.latest.filterMap Ty.object?).map ObjectId.index).Nodup := by
    refine List.pairwise_map.mpr (List.Pairwise.filterMap _ ?_ h.nodup)
    intro t u hne o ho p hp hplace
    rw [hobject] at ho hp
    exact hne (by rw [ho, hp, hindex o p hplace])
  have hplaces : ∀ n, s.objects.contains n = true ↔
      n ∈ (s.latest.filterMap Ty.object?).map ObjectId.index := by
    intro n
    rw [h.objects, List.mem_map]
    constructor
    · exact fun ht => ⟨⟨n⟩, List.mem_filterMap.mpr ⟨_, ht, rfl⟩, rfl⟩
    · rintro ⟨o, ho, rfl⟩
      obtain ⟨t, ht, hto⟩ := List.mem_filterMap.mp ho
      rwa [← hobject.mp hto]
  rw [IndexSet.size_eq_length hnodup hplaces, List.length_map, List.length_filterMap_eq_countP]
  exact List.countP_congr fun t _ => by cases t.object? <;> simp

/-- A set counts its types, unless it stands for all of them. -/
theorem count?_iff (h : s.Coherent) {n : Nat} :
    s.count? = some n ↔ Ty.unknown ∉ s.types ∧ s.types.length = n := by
  have hlength : s.types.length = (s.flags.without .object).count + s.objects.size := by
    rw [h.flags, count_flagsOf h.nodup, h.size_objects,
      ← List.length_eq_countP_add_countP (fun t : Ty => t.object?.isNone), types,
      List.length_reverse]
  rw [count?, ← h.isUnknown_iff, hlength]
  cases s.isUnknown <;> simp

/-- A set is empty exactly if it has no types. -/
theorem isEmpty_iff (h : s.Coherent) : s.isEmpty = true ↔ s.types = [] := by
  rw [isEmpty, h.flags, types, List.reverse_eq_nil_iff]
  constructor
  · intro hempty
    have hnone : flagsOf s.latest = .none := congrArg Flags.mk (beq_iff_eq.mp hempty)
    refine List.eq_nil_iff_forall_not_mem.mpr fun t ht => ?_
    have hcontains := (contains_flagsOf s.latest t).mpr ⟨t, ht, rfl⟩
    rw [hnone, Flags.not_contains_none] at hcontains
    cases hcontains
  · intro hnil
    rw [hnil]
    rfl

/-- A set has one of some flags exactly if one of its types does. -/
theorem hasAnyFlag_iff (h : s.Coherent) (flags : Flags) :
    s.hasAnyFlag flags = true ↔ ∃ t ∈ s.types, t.flag.intersects flags = true := by
  rw [hasAnyFlag, h.flags, intersects_flagsOf]
  simp only [mem_types]

/-- What a set stands for is kept by a set with more types. -/
theorem has_of_prefix {s' : TypeSet} (h : s.Coherent) (h' : s'.Coherent)
    (hp : s.types <+: s'.types) {t : Ty} (ht : s.has t = true) : s'.has t = true := by
  rw [h.has_iff] at ht
  rw [h'.has_iff]
  exact ht.imp (hp.subset ·) (hp.subset ·)

end Coherent

/-! ## The changes of a set -/

theorem coherent_empty : ({} : TypeSet).Coherent where
  flags := rfl
  objects i := by
    have : IndexSet.contains {} i = false := IndexSet.contains_empty i
    simp [this]
  nodup := List.nodup_nil
  unknownLast := by simp

theorem latest_insert {s : TypeSet} {t : Ty} (h : s.has t = false) :
    (s.insert t).latest = t :: s.latest := by
  simp [insert, h]

theorem coherent_insert {s : TypeSet} (hs : s.Coherent) (t : Ty) : (s.insert t).Coherent := by
  by_cases h : s.has t = true
  · rwa [insert_of_has h]
  · have hnew : s.has t = false := by simpa using h
    have hmem : t ∉ s.types := fun ht => h (hs.has_of_mem ht)
    have hknown : Ty.unknown ∉ s.types := fun hu => h ((hs.has_iff t).mpr (.inr hu))
    rw [mem_types] at hmem hknown
    have hflags : (s.insert t).flags = s.flags ||| t.flag := by simp [insert, hnew]
    refine ⟨?_, ?_, ?_, ?_⟩
    · rw [hflags, latest_insert hnew, hs.flags]
      rfl
    · intro i
      rw [latest_insert hnew, List.mem_cons, ← hs.objects i]
      cases t with
      | object id =>
        obtain ⟨j⟩ := id
        simp [insert, hnew, or_comm]
      | _ => simp [insert, hnew]
    · rw [latest_insert hnew]
      exact List.nodup_cons.mpr ⟨hmem, hs.nodup⟩
    · rw [latest_insert hnew]
      exact hknown

theorem coherent_listen {s : TypeSet} (hs : s.Coherent) (k : ConstraintId) :
    (s.listen k).Coherent :=
  ⟨hs.flags, hs.objects, hs.nodup, hs.unknownLast⟩

theorem coherent_addTarget {s : TypeSet} (hs : s.Coherent) (target : SetId) :
    (s.addTarget target).Coherent :=
  ⟨hs.flags, hs.objects, hs.nodup, hs.unknownLast⟩

theorem coherent_universal : universal.Coherent := coherent_insert coherent_empty .unknown

theorem types_universal : universal.types = [.unknown] := by decide

/-- A type that is put into a set is in it. -/
theorem has_insert {s : TypeSet} (hs : s.Coherent) (t : Ty) : (s.insert t).has t = true := by
  by_cases h : s.has t = true
  · rwa [insert_of_has h]
  · refine (coherent_insert hs t).has_of_mem ?_
    rw [types_insert (by simpa using h)]
    simp

end TypeSet

end FlowTypes
