import FlowTypes.Trace.Reader
import Mathlib.Data.List.Infix

/-!
# The words of a line

Which words a line has in front of its comment, said without the functions that find them: `Laid`
says that a text holds these words with blanks around them, and `Holds` that a line has these words
in front of its first comment sign.

## Main results

* The words of a line in front of its comment are found (`holds_iff`), and no other line of the same
  words is read otherwise (`holds_of_laid`).
-/

namespace FlowTypes

/-! ## Words with blanks around them -/

namespace Text

structure IsWord (w : List Char) : Prop where
  ne_nil : w ≠ []
  not_blank : ∀ c ∈ w, isBlank c = false

/-- A text that holds these words, with blanks between them and perhaps around them. -/
inductive Laid : List (List Char) → List Char → Prop
  | nil : Laid [] []
  | blank {c : Char} {ws : List (List Char)} {text : List Char} (hc : isBlank c = true)
      (rest : Laid ws text) : Laid ws (c :: text)
  | word {w : List Char} {ws : List (List Char)} {text : List Char} (hw : IsWord w)
      (ends : endsWord text = true) (rest : Laid ws text) : Laid (w :: ws) (w ++ text)

theorem isWord_of_mem_words {text w : List Char} (h : w ∈ words text) : IsWord w :=
  ⟨ne_nil_of_mem_words h, not_isBlank_of_mem_words h⟩

theorem Laid.words_eq {ws : List (List Char)} {text : List Char} (h : Laid ws text) :
    words text = ws := by
  induction h with
  | nil => rfl
  | blank hc _ ih => rw [words_blank hc, ih]
  | word hw ends _ ih => rw [words_append hw.not_blank hw.ne_nil ends, ih]

/-- A character that is not blank begins a word, or goes on with the word behind it. -/
theorem Laid.push {c : Char} {ws : List (List Char)} {text : List Char} (h : Laid ws text)
    (hc : isBlank c = false) (hends : endsWord text = false) :
    Laid (pushChar c ws) (c :: text) := by
  cases h with
  | nil => cases hends
  | blank hd _ => cases hends.symm.trans hd
  | @word w ws text hw ends rest =>
    refine Laid.word (w := c :: w) ⟨List.cons_ne_nil c w, ?_⟩ ends rest
    intro d hd
    cases List.mem_cons.1 hd with
    | inl h => exact h ▸ hc
    | inr h => exact hw.not_blank d h

theorem laid_words (text : List Char) : Laid (words text) text := by
  induction text with
  | nil => exact Laid.nil
  | cons c text ih =>
    rw [words]
    split
    case isTrue hc => exact Laid.blank hc ih
    case isFalse hc =>
      have hc : isBlank c = false := by simpa using hc
      split
      case isTrue hends =>
        exact Laid.word (w := [c]) ⟨by simp, by simpa using hc⟩ hends ih
      case isFalse hends => exact ih.push hc (by simpa using hends)

/-- Which words a text holds. -/
theorem laid_iff {ws : List (List Char)} {text : List Char} : Laid ws text ↔ words text = ws :=
  ⟨Laid.words_eq, fun h => h ▸ laid_words text⟩

theorem Laid.trailing {c : Char} {ws : List (List Char)} {text : List Char} (h : Laid ws text)
    (hc : isBlank c = true) : Laid ws (text ++ [c]) := by
  induction h with
  | nil => exact Laid.blank hc Laid.nil
  | blank hd _ ih => exact Laid.blank hd ih
  | @word w ws text hw ends _ ih =>
    have ends : endsWord (text ++ [c]) = true := by
      cases text with
      | nil => exact hc
      | cons d text => exact ends
    rw [List.append_assoc]
    exact Laid.word hw ends ih

/-- Words with single spaces between them. -/
theorem laid_intercalate {ws : List (List Char)} (h : ∀ w ∈ ws, IsWord w) :
    Laid ws ([' '].intercalate ws) := by
  induction ws with
  | nil => exact Laid.nil
  | cons w ws ih =>
    have hw : IsWord w := h w List.mem_cons_self
    cases ws with
    | nil => simpa using Laid.word hw rfl Laid.nil
    | cons v ws =>
      have rest : Laid (v :: ws) (' ' :: [' '].intercalate (v :: ws)) :=
        Laid.blank (by decide) (ih fun u hu => h u (List.mem_cons_of_mem w hu))
      simpa [List.intercalate] using Laid.word hw (by rfl) rest

end Text

namespace Trace

/-! ## The words in front of a comment -/

/-- The text holds no comment sign. -/
def Bare (text : List Char) : Prop := ¬ ['/', '/'] <:+: text

instance (text : List Char) : Decidable (Bare text) := inferInstanceAs (Decidable (¬ _))

/-- The part of a line in front of its first comment sign. -/
def Uncommented (line front : List Char) : Prop :=
  (line = front ∧ Bare front) ∨
    ∃ comment, line = front ++ '/' :: '/' :: comment ∧ Bare (front ++ ['/'])

theorem bare_nil : Bare [] := by decide

theorem Bare.of_infix {a b : List Char} (h : Bare b) (hab : a <:+: b) : Bare a :=
  fun hsign => h (hsign.trans hab)

theorem Bare.tail {c : Char} {text : List Char} (h : Bare (c :: text)) : Bare text :=
  h.of_infix (List.infix_cons (List.infix_refl text))

/-- A character makes no sign with a text that does not go on with a second slash. -/
theorem Bare.cons {c : Char} {text : List Char} (h : Bare text)
    (hc : c = '/' → text.head? ≠ some '/') : Bare (c :: text) := by
  intro hsign
  cases List.infix_cons_iff.1 hsign with
  | inr hinfix => exact h hinfix
  | inl hprefix =>
    obtain ⟨hslash, rest, hrest⟩ := List.cons_prefix_cons.1 hprefix
    exact hc hslash.symm (by rw [← hrest]; rfl)

theorem Bare.head {text : List Char} (h : Bare ('/' :: text)) : text.head? ≠ some '/' := by
  cases text with
  | nil => simp
  | cons d text =>
    intro hd
    have hd : d = '/' := by simpa using hd
    exact h ⟨[], text, by rw [hd]; rfl⟩

theorem bare_of_not_mem {text : List Char} (h : '/' ∉ text) : Bare text :=
  fun hsign => h (hsign.subset List.mem_cons_self)

/-- Two bare texts make no sign where the second one begins with no slash. -/
theorem Bare.append {a b : List Char} (ha : Bare a) (hb : Bare b) (h : b.head? ≠ some '/') :
    Bare (a ++ b) := by
  induction a with
  | nil => exact hb
  | cons c a ih =>
    refine (ih ha.tail).cons fun hc => ?_
    subst hc
    cases a with
    | nil => exact h
    | cons d a => exact ha.head

theorem cutComment_of_bare {text : List Char} (h : Bare text) : cutComment text = text := by
  fun_induction cutComment text with
  | case1 => rfl
  | case2 rest => exact absurd ⟨[], rest, rfl⟩ h
  | case3 c cs _ ih => rw [ih h.tail]

theorem cutComment_append {front : List Char} (h : Bare (front ++ ['/'])) (comment : List Char) :
    cutComment (front ++ '/' :: '/' :: comment) = front := by
  induction front with
  | nil => rfl
  | cons c front ih =>
    have rest := ih h.tail
    rw [List.cons_append, cutComment, rest]
    rintro rest rfl hslash
    cases front with
    | nil => exact h.head rfl
    | cons d front =>
      have hd : d = '/' := (List.cons.inj hslash).1
      exact h.head (by rw [hd]; rfl)

theorem uncommented_cutComment (line : List Char) : Uncommented line (cutComment line) := by
  fun_induction cutComment line with
  | case1 => exact Or.inl ⟨rfl, bare_nil⟩
  | case2 rest => exact Or.inr ⟨rest, rfl, by decide⟩
  | case3 c cs hsign ih =>
    have second (hc : c = '/') : cs.head? ≠ some '/' := by
      intro hhead
      obtain ⟨rest, hrest⟩ := List.head?_eq_some_iff.1 hhead
      exact hsign rest hc hrest
    cases ih with
    | inl h => exact Or.inl ⟨by rw [← h.1], h.2.cons fun hc => h.1 ▸ second hc⟩
    | inr h =>
      obtain ⟨comment, hcs, hbare⟩ := h
      refine Or.inr ⟨comment, by rw [List.cons_append, ← hcs], hbare.cons fun hc => ?_⟩
      have head : (cutComment cs ++ ['/']).head? = cs.head? := by
        conv => rhs; rw [hcs]
        cases cutComment cs <;> rfl
      exact head ▸ second hc

/-- What is in front of the comment of a line. -/
theorem uncommented_iff {line front : List Char} :
    Uncommented line front ↔ cutComment line = front := by
  constructor
  · intro h
    cases h with
    | inl h => rw [h.1, cutComment_of_bare h.2]
    | inr h =>
      obtain ⟨comment, hline, hbare⟩ := h
      rw [hline, cutComment_append hbare]
  · intro h
    exact h ▸ uncommented_cutComment line

/-- The words of a line in front of its first comment sign. -/
def Holds (line : List Char) (ws : List String) : Prop :=
  ∃ front, Uncommented line front ∧ Text.Laid (ws.map String.toList) front

theorem holds_iff {line : List Char} {ws : List String} : Holds line ws ↔ lineWords line = ws := by
  have split (front : List Char) :
      Text.Laid (ws.map String.toList) front ↔ (Text.words front).map String.ofList = ws := by
    rw [Text.laid_iff]
    constructor
    · intro h
      simp [h]
    · rintro rfl
      simp
  simp only [Holds, uncommented_iff, split, exists_eq_left', lineWords]

/-- A word that can stand in a line: it holds no blank and no comment sign. -/
structure IsToken (w : String) : Prop where
  isWord : Text.IsWord w.toList
  bare : Bare w.toList

theorem isToken_iff {w : String} :
    IsToken w ↔ w.toList ≠ [] ∧ w.toList.any Text.isBlank = false ∧ Bare w.toList := by
  simp only [List.any_eq_false, Bool.not_eq_true]
  exact ⟨fun h => ⟨h.isWord.ne_nil, h.isWord.not_blank, h.bare⟩, fun h => ⟨⟨h.1, h.2.1⟩, h.2.2⟩⟩

instance (w : String) : Decidable (IsToken w) := decidable_of_iff _ isToken_iff.symm

theorem Laid.isInfix_of_mem {ws : List (List Char)} {text w : List Char} (h : Text.Laid ws text)
    (hw : w ∈ ws) : w <:+: text := by
  induction h with
  | nil => cases hw
  | blank _ _ ih => exact List.infix_cons (ih hw)
  | @word v ws text _ _ _ ih =>
    cases List.mem_cons.1 hw with
    | inl h => exact h ▸ (List.prefix_append v text).isInfix
    | inr h => exact (ih h).trans (List.suffix_append v text).isInfix

/-- Blanks between words that hold no sign keep a sign from coming about. -/
theorem Laid.bare {ws : List (List Char)} {text : List Char} (h : Text.Laid ws text)
    (hws : ∀ w ∈ ws, Bare w) : Bare text := by
  have slash {c : Char} (hc : Text.isBlank c = true) : c ≠ '/' := by
    rintro rfl
    exact absurd hc (by decide)
  induction h with
  | nil => exact bare_nil
  | blank hc _ ih => exact (ih hws).cons fun h => absurd h (slash hc)
  | @word w ws text _ ends _ ih =>
    have rest : Bare text := ih fun v hv => hws v (List.mem_cons_of_mem w hv)
    refine (hws w List.mem_cons_self).append rest fun hhead => ?_
    obtain ⟨tail, rfl⟩ := List.head?_eq_some_iff.1 hhead
    exact slash (c := '/') ends rfl

theorem Uncommented.bare {line front : List Char} (h : Uncommented line front) : Bare front := by
  cases h with
  | inl h => exact h.2
  | inr h =>
    obtain ⟨_, _, hbare⟩ := h
    exact hbare.of_infix (List.prefix_append front ['/']).isInfix

theorem Holds.isToken {line : List Char} {ws : List String} (h : Holds line ws) :
    ∀ w ∈ ws, IsToken w := by
  intro w hw
  obtain ⟨front, hfront, hlaid⟩ := h
  have hw : w.toList ∈ ws.map String.toList := List.mem_map_of_mem hw
  have hword : w.toList ∈ Text.words front := hlaid.words_eq ▸ hw
  exact ⟨Text.isWord_of_mem_words hword, hfront.bare.of_infix (Laid.isInfix_of_mem hlaid hw)⟩

/-- Words that can stand in a line are its words, with any blanks around them and any comment behind
them. -/
theorem holds_of_laid {ws : List String} {text comment : List Char} (h : ∀ w ∈ ws, IsToken w)
    (hlaid : Text.Laid (ws.map String.toList) text)
    (hcomment : comment = [] ∨
      ∃ blank rest, Text.isBlank blank = true ∧ comment = blank :: '/' :: '/' :: rest) :
    Holds (text ++ comment) ws := by
  have hbare : Bare text := by
    refine Laid.bare hlaid fun w hw => ?_
    obtain ⟨v, hv, rfl⟩ := List.mem_map.1 hw
    exact (h v hv).bare
  cases hcomment with
  | inl hnone => exact ⟨text, Or.inl ⟨by simp [hnone], hbare⟩, hlaid⟩
  | inr hsome =>
    obtain ⟨blank, rest, hblank, rfl⟩ := hsome
    have hslash : blank ≠ '/' := by
      rintro rfl
      exact absurd hblank (by decide)
    have hfront : Bare (text ++ [blank, '/']) :=
      hbare.append ((show Bare ['/'] by decide).cons fun h => absurd h hslash) (by simpa using hslash)
    exact ⟨text ++ [blank], Or.inr ⟨rest, by simp, by simpa using hfront⟩, hlaid.trailing hblank⟩

end Trace

end FlowTypes
