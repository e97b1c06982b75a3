import FlowTypes.Key
import Mathlib.Algebra.Group.Nat.Defs

/-!
# Names that spell array indexes

A key is made from nothing but a name, so whether it stands for the elements is a matter of how the
name is spelled.  A number has one canonical spelling: its digits, without a sign, and without a
zero in front of another digit.  The names that spell a number below `2³² - 1` in this way share the
key of the elements; every other name, such as `017`, `+1` or a number that is too large, has a key
of its own.

## Main results

* A text spells a number exactly if the number is written so (`Text.spells_iff`): every number has
  one spelling, and every text spells one number at most.
* The key of a name, and when two names have the same key (`Key.ofName_folds`).
-/

namespace FlowTypes

namespace Text

variable {cs ds : List Char} {c : Char} {m n : Nat}

/-- The text is the canonical spelling of the number. -/
structure Spells (cs : List Char) (n : Nat) : Prop where
  ne_nil : cs ≠ []
  digits : ∀ c ∈ cs, c.isDigit = true
  /-- A zero in front is the whole text. -/
  leading : ∀ ds, cs = '0' :: ds → ds = []
  value : Nat.ofDigitChars 10 cs 0 = n

/-! ## Writing digit by digit -/

theorem digit_lt_ten (hc : c.isDigit = true) : c.toNat - '0'.toNat < 10 := by
  have hle : c.toNat ≤ 57 := (Char.isDigit_iff_toNat.1 hc).2
  change c.toNat - 48 < 10
  omega

/-- A digit is written as it is. -/
theorem decimal_digit (hc : c.isDigit = true) : decimal (c.toNat - '0'.toNat) = [c] := by
  have hlt := digit_lt_ten hc
  rw [decimal, Nat.toDigits_of_lt_base hlt, List.singleton_inj, ← Char.toNat_inj,
    Nat.toNat_digitChar_of_lt_ten hlt]
  exact Nat.add_sub_of_le (Char.isDigit_iff_toNat.1 hc).1

/-- Digits behind a written number make it longer.  Behind a zero they do not, because a zero in
front of them is not written. -/
theorem decimal_append (hm : 0 < m) (hds : ∀ c ∈ ds, c.isDigit = true) :
    decimal m ++ ds = decimal (Nat.ofDigitChars 10 ds m) := by
  induction ds generalizing m with
  | nil => rw [List.append_nil, Nat.ofDigitChars_nil]
  | cons c ds ih =>
    obtain ⟨hc, hds⟩ := List.forall_mem_cons.1 hds
    have hlonger : decimal m ++ decimal (c.toNat - '0'.toNat) =
        decimal (10 * m + (c.toNat - '0'.toNat)) :=
      Nat.toDigits_append_toDigits (by decide) hm (digit_lt_ten hc)
    calc decimal m ++ c :: ds
        = decimal m ++ [c] ++ ds := by simp
      _ = decimal (10 * m + (c.toNat - '0'.toNat)) ++ ds := by rw [← decimal_digit hc, hlonger]
      _ = decimal (Nat.ofDigitChars 10 ds (10 * m + (c.toNat - '0'.toNat))) :=
        ih (by omega) hds
      _ = decimal (Nat.ofDigitChars 10 (c :: ds) m) := by rw [Nat.ofDigitChars_cons]

/-- Only zero is written with a zero in front. -/
theorem head?_decimal (hn : 0 < n) : (decimal n).head? ≠ some '0' := by
  induction n using Nat.strongRecOn with
  | _ n ih =>
    by_cases h : n < 10
    · rw [decimal, Nat.toDigits_of_lt_base h, List.head?_cons, ne_eq, Option.some_inj,
        Nat.digitChar_eq_zero]
      omega
    · -- The first digit stays when the last one is cut off.
      have hlast : decimal n = decimal (n / 10) ++ [(n % 10).digitChar] :=
        Nat.toDigits_of_base_le (by decide) (by omega)
      have hhead := ih (n / 10) (by omega) (by omega)
      cases hcs : decimal (n / 10) with
      | nil => exact absurd hcs (decimal_ne_nil _)
      | cons c cs =>
        rw [hcs] at hhead
        rwa [hlast, hcs]

/-! ## Spelling is writing -/

theorem spells_decimal (n : Nat) : Spells (decimal n) n where
  ne_nil := decimal_ne_nil n
  digits _ := isDigit_of_mem_decimal
  leading ds hds := by
    cases n with
    | zero => exact (List.cons.inj hds).2.symm
    | succ n => exact absurd (by rw [hds, List.head?_cons]) (head?_decimal n.succ_pos)
  value := Nat.ofDigitChars_ten_toDigits

theorem Spells.eq_decimal (h : Spells cs n) : cs = decimal n := by
  obtain ⟨hnil, hdigits, hleading, rfl⟩ := h
  cases cs with
  | nil => exact absurd rfl hnil
  | cons c ds =>
    obtain ⟨hc, hds⟩ := List.forall_mem_cons.1 hdigits
    by_cases hzero : c = '0'
    · subst hzero
      rw [hleading ds rfl]
      rfl
    · have hpos : 0 < c.toNat - '0'.toNat := by
        have hle := (Char.isDigit_iff_toNat.1 hc).1
        have hne := mt Char.toNat_inj.1 hzero
        omega
      calc c :: ds
          = decimal (c.toNat - '0'.toNat) ++ ds := by rw [decimal_digit hc, List.singleton_append]
        _ = decimal (Nat.ofDigitChars 10 ds (c.toNat - '0'.toNat)) := decimal_append hpos hds
        _ = decimal (Nat.ofDigitChars 10 (c :: ds) 0) := by
          rw [Nat.ofDigitChars_cons, Nat.mul_zero, Nat.zero_add]

/-- A text spells a number exactly if the number is written so. -/
theorem spells_iff : Spells cs n ↔ cs = decimal n :=
  ⟨Spells.eq_decimal, fun h => h ▸ spells_decimal n⟩

end Text

namespace Key

/-- The name is the canonical spelling of an array index. -/
def SpellsIndex (name : String) : Prop := ∃ n < 2 ^ 32 - 1, Text.Spells name.toList n

/-- The spelling of an index is what the index is written as. -/
theorem spellsIndex_iff {name : String} :
    SpellsIndex name ↔ ∃ n : Nat, n < 2 ^ 32 - 1 ∧ name = toString n := by
  have hwritten (n : Nat) : name.toList = Text.decimal n ↔ name = toString n := by
    rw [← String.toList_inj, Nat.toString_eq_repr, Nat.toList_repr, Text.decimal]
  simp only [SpellsIndex, Text.spells_iff, hwritten]

theorem isIndexName_iff {name : String} : isIndexName name = true ↔ SpellsIndex name := by
  unfold isIndexName SpellsIndex
  split
  case h_1 h =>
    -- Zero is the one index that is spelled with a zero in front.
    rw [h]
    exact iff_of_true rfl ⟨0, by decide, Text.spells_decimal 0⟩
  case h_2 rest hne h =>
    refine iff_of_false Bool.false_ne_true ?_
    rintro ⟨n, -, hspells⟩
    exact hne (hspells.leading rest h)
  case h_3 hzero hleading =>
    simp only [Option.isSome_iff_exists, Option.filter_eq_some_iff, Text.readDigits?_eq_some_iff,
      decide_eq_true_eq]
    constructor
    · rintro ⟨n, ⟨hnil, hdigits, hvalue⟩, hn⟩
      exact ⟨n, hn, hnil, hdigits, fun ds h => (hleading ds h).elim, hvalue⟩
    · rintro ⟨n, hn, hspells⟩
      exact ⟨n, ⟨hspells.ne_nil, hspells.digits, hspells.value⟩, hn⟩

theorem ofName_eq_index_iff {name : String} : ofName name = index ↔ SpellsIndex name := by
  rw [← isIndexName_iff]
  unfold ofName
  split
  case isTrue h => exact iff_of_true rfl h
  case isFalse h => exact iff_of_false Key.noConfusion h

theorem ofName_eq_named_iff {name text : String} :
    ofName name = named text ↔ name = text ∧ ¬ SpellsIndex name := by
  rw [← isIndexName_iff]
  unfold ofName
  split
  case isTrue h => exact iff_of_false Key.noConfusion fun hnot => hnot.2 h
  case isFalse h =>
    rw [named.injEq]
    exact (and_iff_left h).symm

theorem ofName_beq_iff {name other : String} : (ofName name == ofName other) = true ↔
    name = other ∨ (SpellsIndex name ∧ SpellsIndex other) := by
  rw [beq_iff_eq]
  cases hkey : ofName other with
  | index =>
    have hother := ofName_eq_index_iff.1 hkey
    rw [ofName_eq_index_iff]
    constructor
    · exact fun hname => Or.inr ⟨hname, hother⟩
    · rintro (rfl | ⟨hname, -⟩)
      · exact hother
      · exact hname
  | named text =>
    obtain ⟨rfl, hnot⟩ := ofName_eq_named_iff.1 hkey
    rw [ofName_eq_named_iff]
    constructor
    · exact fun hname => Or.inl hname.1
    · rintro (rfl | ⟨-, hother⟩)
      · exact ⟨rfl, hnot⟩
      · exact absurd hother hnot

/-- A name has the key of the elements exactly if it is the canonical spelling of an array index,
that is, what the index is written as; otherwise its key holds the name itself.  So two names have
the same key only if they are the same, or both spell array indexes. -/
theorem ofName_folds (name : String) :
    (ofName name = index ↔ SpellsIndex name) ∧
      (SpellsIndex name ↔ ∃ n : Nat, n < 2 ^ 32 - 1 ∧ name = toString n) ∧
      (ofName name = named name ↔ ¬ SpellsIndex name) ∧
      ∀ other, (ofName name == ofName other) = true ↔
        name = other ∨ (SpellsIndex name ∧ SpellsIndex other) :=
  ⟨ofName_eq_index_iff, spellsIndex_iff, ofName_eq_named_iff.trans (and_iff_right rfl),
    fun _ => ofName_beq_iff⟩

/-- The bound, a sign and a digit of another script. -/
example : ofName "4294967294" = index ∧ ofName "4294967295" = named "4294967295" ∧
    ofName "+1" = named "+1" ∧ ofName "١" = named "١" := by
  decide +kernel

end Key

end FlowTypes
