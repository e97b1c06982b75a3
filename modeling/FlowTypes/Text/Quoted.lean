import FlowTypes.Text.Shown

/-!
# Quoted texts

A text between double quotes.  A quote and a backslash are written with a backslash in front, a
few control characters by a letter, and every other character that is not shown by its code point
in hexadecimal between braces.

## Main result

A text of shown characters without quotes and backslashes stands between the quotes unchanged
(`quoted_of_plain`).
-/

namespace FlowTypes.Text

/-- How a character is written between quotes. -/
def escaped (c : Char) : List Char :=
  match c with
  | '"' => ['\\', '"']
  | '\\' => ['\\', '\\']
  | '\t' => ['\\', 't']
  | '\n' => ['\\', 'n']
  | '\r' => ['\\', 'r']
  | '\x00' => ['\\', '0']
  | c => if isShown c then [c] else ['\\', 'u', '\x7b'] ++ Nat.toDigits 16 c.toNat ++ ['\x7d']

/-- A text between double quotes. -/
def quoted (cs : List Char) : List Char :=
  '"' :: cs.flatMap escaped ++ ['"']

theorem escaped_of_shown {c : Char} (hq : c ≠ '"') (hb : c ≠ '\\') (h : isShown c = true)
    (hc : 0x20 ≤ c.toNat) : escaped c = [c] := by
  unfold escaped
  split <;> simp_all

/-- Shown characters that are no quotes and no backslashes stand for themselves. -/
theorem quoted_of_plain {cs : List Char}
    (h : ∀ c ∈ cs, c ≠ '"' ∧ c ≠ '\\' ∧ isShown c = true ∧ 0x20 ≤ c.toNat) :
    quoted cs = '"' :: cs ++ ['"'] := by
  have : cs.flatMap escaped = cs := by
    induction cs with
    | nil => rfl
    | cons c cs ih =>
      obtain ⟨hq, hb, hs, hc⟩ := h c List.mem_cons_self
      rw [List.flatMap_cons, escaped_of_shown hq hb hs hc,
        ih fun x hx => h x (List.mem_cons_of_mem _ hx)]
      rfl
  rw [quoted, this]

end FlowTypes.Text
