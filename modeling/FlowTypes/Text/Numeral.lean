/-!
# Numerals

Reading and writing whole numbers in decimal.  A numeral that is read may have a plus sign and
leading zeros; a number that is written has neither.

## Main results

`readDigits?` accepts exactly the texts that hold digits and nothing else
(`readDigits?_eq_some_iff`), and reads back what `decimal` writes (`readDigits?_decimal`); so does
`readNat?` below its bound (`readNat?_decimal`).
-/

namespace FlowTypes.Text

/-- The value of an ASCII digit. -/
def digitValue? (c : Char) : Option Nat :=
  if c.isDigit then some (c.toNat - '0'.toNat) else none

/-- Reads digits on from a number that was read before them. -/
def readOn? : Nat → List Char → Option Nat
  | n, [] => some n
  | n, c :: cs => (digitValue? c).bind fun d => readOn? (10 * n + d) cs

/-- The number written by one or more digits. -/
def readDigits? (cs : List Char) : Option Nat :=
  if cs.isEmpty then none else readOn? 0 cs

/-- A text without the plus sign in front of it, if there is one. -/
def dropPlus : List Char → List Char
  | '+' :: cs => cs
  | cs => cs

/-- Reads a number below a bound; a plus sign and leading zeros are allowed. -/
def readNat? (bound : Nat) (cs : List Char) : Option Nat :=
  (readDigits? (dropPlus cs)).filter (· < bound)

/-- Reads a whole number between `-2³¹` and `2³¹ - 1`, with a sign or without. -/
def readInt32? : List Char → Option Int
  | '-' :: cs => ((readDigits? cs).filter (· ≤ 1 <<< 31)).map fun n => -(n : Int)
  | cs => (readNat? (1 <<< 31) cs).map fun n => (n : Int)

/-- A number in decimal. -/
def decimal (n : Nat) : List Char :=
  Nat.toDigits 10 n

/-- A number in decimal with zeros in front up to a width. -/
def decimalPadded (width n : Nat) : List Char :=
  let ds := decimal n
  List.replicate (width - ds.length) '0' ++ ds

/-! ## What is read -/

theorem digitValue?_eq_some_iff {c : Char} {d : Nat} :
    digitValue? c = some d ↔ c.isDigit = true ∧ c.toNat - '0'.toNat = d := by
  simp [digitValue?]

/-- Nothing but digits is read, and each one counts ten times as much as the next. -/
theorem readOn?_eq_some_iff {m n : Nat} {cs : List Char} :
    readOn? m cs = some n ↔ (∀ c ∈ cs, c.isDigit = true) ∧ Nat.ofDigitChars 10 cs m = n := by
  induction cs generalizing m with
  | nil => simp [readOn?]
  | cons c cs ih =>
    simp only [readOn?, Option.bind_eq_some_iff, digitValue?_eq_some_iff, ih,
      Nat.ofDigitChars_cons, List.forall_mem_cons]
    constructor
    · rintro ⟨_, ⟨hc, rfl⟩, hcs, hn⟩
      exact ⟨⟨hc, hcs⟩, hn⟩
    · rintro ⟨⟨hc, hcs⟩, hn⟩
      exact ⟨_, ⟨hc, rfl⟩, hcs, hn⟩

theorem readDigits?_eq_some_iff {n : Nat} {cs : List Char} :
    readDigits? cs = some n ↔
      cs ≠ [] ∧ (∀ c ∈ cs, c.isDigit = true) ∧ Nat.ofDigitChars 10 cs 0 = n := by
  cases cs with
  | nil => simp [readDigits?]
  | cons c cs => simp [readDigits?, readOn?_eq_some_iff]

/-! ## What is written is read back -/

theorem decimal_ne_nil (n : Nat) : decimal n ≠ [] := by
  simp [decimal]

theorem isDigit_of_mem_decimal {n : Nat} {c : Char} (h : c ∈ decimal n) : c.isDigit = true :=
  Nat.isDigit_of_mem_toDigits (by decide) (by decide) h

/-- Reading a written number gives the number. -/
theorem readOn?_decimal (n : Nat) : readOn? 0 (decimal n) = some n :=
  readOn?_eq_some_iff.2 ⟨fun _ => isDigit_of_mem_decimal, Nat.ofDigitChars_ten_toDigits⟩

theorem readDigits?_decimal (n : Nat) : readDigits? (decimal n) = some n := by
  simp [readDigits?, decimal_ne_nil, readOn?_decimal]

/-- Zeros in front of a number make no difference. -/
theorem readOn?_replicate_zero (k : Nat) (cs : List Char) :
    readOn? 0 (List.replicate k '0' ++ cs) = readOn? 0 cs := by
  induction k with
  | zero => rfl
  | succ k ih =>
    rw [List.replicate_succ, List.cons_append, readOn?, show digitValue? '0' = some 0 from rfl]
    exact ih

theorem readOn?_decimalPadded (width n : Nat) : readOn? 0 (decimalPadded width n) = some n := by
  rw [decimalPadded, readOn?_replicate_zero, readOn?_decimal]

theorem isDigit_of_mem_decimalPadded {width n : Nat} {c : Char} (h : c ∈ decimalPadded width n) :
    c.isDigit = true := by
  obtain h | h := List.mem_append.mp h
  · rw [List.eq_of_mem_replicate h]
    rfl
  · exact isDigit_of_mem_decimal h

/-- Numbers that are written the same way are the same. -/
theorem decimal_inj {m n : Nat} (h : decimal m = decimal n) : m = n := by
  have hread := congrArg (readOn? 0) h
  rwa [readOn?_decimal, readOn?_decimal, Option.some.injEq] at hread

/-- Numbers that are written the same way with zeros in front are the same. -/
theorem decimalPadded_inj {width m n : Nat} (h : decimalPadded width m = decimalPadded width n) :
    m = n := by
  have hread := congrArg (readOn? 0) h
  rwa [readOn?_decimalPadded, readOn?_decimalPadded, Option.some.injEq] at hread

/-- No sign stands in front of a written number. -/
theorem dropPlus_decimal (n : Nat) : dropPlus (decimal n) = decimal n := by
  cases h : decimal n with
  | nil => rfl
  | cons c cs =>
    have hc : c.isDigit = true := isDigit_of_mem_decimal (n := n) (by simp [h])
    have : c ≠ '+' := by rintro rfl; exact absurd hc (by decide)
    simp [dropPlus]
    grind

theorem readNat?_decimal {bound n : Nat} (h : n < bound) :
    readNat? bound (decimal n) = some n := by
  simp [readNat?, dropPlus_decimal, readDigits?_decimal, h]

end FlowTypes.Text
