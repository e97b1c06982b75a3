/-!
# Blank characters and words

The characters with the Unicode property White_Space, and the cutting of a text into words at
them.  The property is used in full because names in a trace may be written in any script, so a
no-break space or an ideographic space separates words as a plain space does.

## Main results

A blank in front of a text is skipped (`words_blank`), a word in front of a blank or of the end is
cut off whole (`words_append`), and no word is empty or holds a blank (`ne_nil_of_mem_words`,
`not_isBlank_of_mem_words`).
-/

namespace FlowTypes.Text

/-- The characters with the Unicode property White_Space. -/
def isBlank (c : Char) : Bool :=
  let n := c.toNat
  (9 ≤ n && n ≤ 13) || n == 0x20 || n == 0x85 || n == 0xA0 || n == 0x1680 ||
    (0x2000 ≤ n && n ≤ 0x200A) || n == 0x2028 || n == 0x2029 || n == 0x202F || n == 0x205F ||
    n == 0x3000

/-- Every character that core calls whitespace is blank. -/
theorem isBlank_of_isWhitespace {c : Char} (h : c.isWhitespace = true) : isBlank c = true := by
  simp only [Char.isWhitespace, Bool.or_eq_true, decide_eq_true_eq] at h
  rcases h with ((rfl | rfl) | rfl) | rfl <;> decide

/-- Puts a character in front of the first word. -/
def pushChar (c : Char) : List (List Char) → List (List Char)
  | [] => [[c]]
  | w :: ws => (c :: w) :: ws

/-- A word ends in front of this text: it is empty or starts with a blank. -/
def endsWord : List Char → Bool
  | [] => true
  | c :: _ => isBlank c

/-- The maximal runs of characters that are not blank, in order. -/
def words : List Char → List (List Char)
  | [] => []
  | c :: cs =>
    if isBlank c then words cs
    else if endsWord cs then [c] :: words cs
    else pushChar c (words cs)

/-- A blank in front of a text is skipped. -/
theorem words_blank {c : Char} (h : isBlank c = true) (cs : List Char) :
    words (c :: cs) = words cs := by
  simp [words, h]

/-- A word in front of a text is cut off whole where a word ends. -/
theorem words_append {w : List Char} (hw : ∀ c ∈ w, isBlank c = false) (hne : w ≠ [])
    {rest : List Char} (hr : endsWord rest = true) : words (w ++ rest) = w :: words rest := by
  induction w with
  | nil => exact absurd rfl hne
  | cons c cs ih =>
    have hc : isBlank c = false := hw c List.mem_cons_self
    cases cs with
    | nil => simp [words, hc, hr]
    | cons d ds =>
      have hd : isBlank d = false := hw d (by simp)
      have step := ih (fun x hx => hw x (List.mem_cons_of_mem _ hx)) (by simp)
      rw [List.cons_append, words, step]
      simp [hc, hd, endsWord, pushChar]

/-- No word is empty. -/
theorem ne_nil_of_mem_words {cs w : List Char} (h : w ∈ words cs) : w ≠ [] := by
  induction cs generalizing w with
  | nil => simp [words] at h
  | cons c cs ih =>
    rw [words] at h
    split at h
    · exact ih h
    · split at h
      · rcases List.mem_cons.1 h with rfl | h
        · simp
        · exact ih h
      · cases hws : words cs with
        | nil => simp_all [pushChar]
        | cons v vs =>
          rw [hws, pushChar] at h
          rcases List.mem_cons.1 h with rfl | h
          · simp
          · exact ih (by rw [hws]; exact List.mem_cons_of_mem _ h)

/-- No character of a word is blank. -/
theorem not_isBlank_of_mem_words {cs w : List Char} (h : w ∈ words cs) :
    ∀ c ∈ w, isBlank c = false := by
  induction cs generalizing w with
  | nil => simp [words] at h
  | cons c cs ih =>
    rw [words] at h
    split at h
    · exact ih h
    · rename_i hc
      have hc : isBlank c = false := by simpa using hc
      split at h
      · rcases List.mem_cons.1 h with rfl | h
        · simpa using hc
        · exact ih h
      · cases hws : words cs with
        | nil => simp_all [pushChar]
        | cons v vs =>
          rw [hws, pushChar] at h
          rcases List.mem_cons.1 h with rfl | h
          · intro x hx
            rcases List.mem_cons.1 hx with rfl | hx
            · exact hc
            · exact ih (by rw [hws]; exact List.mem_cons_self) x hx
          · exact ih (by rw [hws]; exact List.mem_cons_of_mem _ h)

/-! ## Trimming and cutting at a character -/

/-- The text without the blanks at its two ends. -/
def trim (cs : List Char) : List Char :=
  ((cs.dropWhile isBlank).reverse.dropWhile isBlank).reverse

/-- The parts of a text between the occurrences of a character, also the empty ones; a text
without it is its own only part. -/
def splitAt (sep : Char) : List Char → List (List Char)
  | [] => [[]]
  | c :: cs => if c = sep then [] :: splitAt sep cs else pushChar c (splitAt sep cs)

/-- The texts before and after the first occurrence of a character. -/
def cutAt? (sep : Char) : List Char → Option (List Char × List Char)
  | [] => none
  | c :: cs => if c = sep then some ([], cs) else (cutAt? sep cs).map fun (a, b) => (c :: a, b)

/-- Cutting succeeds exactly when the character occurs, and loses only its first occurrence. -/
theorem cutAt?_eq_some_iff {sep : Char} {cs a b : List Char} :
    cutAt? sep cs = some (a, b) ↔ cs = a ++ sep :: b ∧ sep ∉ a := by
  induction cs generalizing a with
  | nil => simp [cutAt?]
  | cons c cs ih =>
    by_cases hc : c = sep
    · subst hc
      cases a with
      | nil => simp [cutAt?]
      | cons x xs => simp [cutAt?]; grind
    · cases a with
      | nil => simp [cutAt?, hc]
      | cons x xs =>
        simp only [cutAt?, hc, if_false, Option.map_eq_some_iff, Prod.exists, Prod.mk.injEq,
          List.cons.injEq, List.cons_append, List.mem_cons, not_or]
        constructor
        · rintro ⟨a', b', h, ⟨rfl, rfl⟩, rfl⟩
          obtain ⟨h1, h2⟩ := ih.1 h
          exact ⟨⟨rfl, h1⟩, fun h => hc h.symm, h2⟩
        · rintro ⟨⟨rfl, h1⟩, _, h2⟩
          exact ⟨xs, b, ih.2 ⟨h1, h2⟩, ⟨rfl, rfl⟩, rfl⟩

end FlowTypes.Text
