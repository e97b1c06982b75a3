import FlowTypes.Proofs.Tokens
import FlowTypes.Trace.Printer

/-!
# Reading back what is written

A command that was read from some line is written in one way only, and is read back from what is
written, also when there are more blanks around its words and a comment behind them.

Most commands are written with the very words that they were read from, the words that tell an
optional argument among them, and so the reader finds its way through them as it did before
(`Restated.same`).  This is why a set may be called `->` or `numeric`: what a word means hangs on its
place alone, and the places are as they were.  Only numbers change: a plus sign and leading zeros
are gone, and the options of a function stand once and in a fixed order.

## Main results

* Every command but an assignment of a double is read back from its words (`restated`).
* No keyword with its arguments is an unknown command (`Recognised.arguments`).
* Reading a command back, and which lines hold none or an unknown one (`readLine_line`).
-/

namespace FlowTypes.Trace

/-! ## Numerals and values -/

theorem exists_of_bind {ε α β : Type} {x : Except ε α} {f : α → Except ε β} {b : β}
    (h : x >>= f = .ok b) : ∃ a, x = .ok a ∧ f a = .ok b := by
  cases x with
  | error e => cases h
  | ok a => exact ⟨a, rfl, h⟩

theorem readNumber_lt {bound n : Nat} {w : String} (h : readNumber bound w = .ok n) :
    n < bound := by
  unfold readNumber Text.readNat? at h
  split at h
  case h_1 m hm =>
    obtain rfl := Except.ok.inj h
    exact of_decide_eq_true (Option.filter_eq_some_iff.1 hm).2
  case h_2 => cases h

theorem readNumber_number {bound n : Nat} (h : n < bound) : readNumber bound (number n) = .ok n := by
  simp [readNumber, number, Text.readNat?_decimal h]

theorem toList_number (n : Nat) : (number n).toList = Text.decimal n := String.toList_ofList

theorem readScript_lt {n : Nat} {w : String} (h : readScript w = .ok n) : n < wordBound := by
  unfold readScript at h
  split at h <;> exact readNumber_lt h

/-- No hash sign stands in front of a written number. -/
theorem readScript_number {n : Nat} (h : n < wordBound) : readScript (number n) = .ok n := by
  unfold readScript
  split
  case h_1 cs hcs =>
    have digit : '#'.isDigit = true :=
      Text.isDigit_of_mem_decimal (n := n) (by rw [← toList_number, hcs]; exact List.mem_cons_self)
    cases digit
  case h_2 => exact readNumber_number h

theorem readLocation_lt {script offset : Nat} {w : String}
    (h : readLocation w = .ok (script, offset)) : script < wordBound ∧ offset < wordBound := by
  unfold readLocation at h
  split at h
  case h_1 a b _ =>
    obtain ⟨s, hs, h⟩ := exists_of_bind h
    obtain ⟨o, ho, h⟩ := exists_of_bind h
    cases h
    exact ⟨readScript_lt hs, readNumber_lt ho⟩
  case h_2 => cases h

theorem readLocation_number {script offset : Nat} (hs : script < wordBound)
    (ho : offset < wordBound) :
    readLocation (number script ++ ":" ++ number offset) = .ok (script, offset) := by
  have colon : ':' ∉ Text.decimal script := fun h => by
    have digit : ':'.isDigit = true := Text.isDigit_of_mem_decimal h
    cases digit
  have cut : Text.cutAt? ':' (number script ++ ":" ++ number offset).toList =
      some (Text.decimal script, Text.decimal offset) :=
    Text.cutAt?_eq_some_iff.2 ⟨by simp [toList_number], colon⟩
  unfold readLocation
  rw [cut]
  show (do
    let s ← readScript (number script)
    let o ← readNumber wordBound (number offset)
    return (s, o)) = _
  rw [readScript_number hs, readNumber_number ho]
  rfl

/-- Digits make a word of a line. -/
theorem isToken_of_graphic {w : String} (hne : w.toList ≠ [])
    (h : ∀ c ∈ w.toList, Text.isBlank c = false ∧ c ≠ '/') : IsToken w :=
  ⟨⟨hne, fun c hc => (h c hc).1⟩, bare_of_not_mem fun hslash => (h '/' hslash).2 rfl⟩

theorem graphic_of_isDigit {c : Char} (h : c.isDigit = true) : Text.isBlank c = false ∧ c ≠ '/' := by
  have range : 48 ≤ c.toNat ∧ c.toNat ≤ 57 := by
    simpa [Char.isDigit, UInt32.le_iff_toNat_le] using h
  constructor
  · simp only [Text.isBlank, Bool.or_eq_false_iff, Bool.and_eq_false_iff, decide_eq_false_iff_not,
      beq_eq_false_iff_ne]
    omega
  · rintro rfl
    exact absurd range.1 (by decide)

theorem isToken_number (n : Nat) : IsToken (number n) := by
  refine isToken_of_graphic ?_ fun c hc => ?_
  · rw [toList_number]
    exact Text.decimal_ne_nil n
  · rw [toList_number] at hc
    exact graphic_of_isDigit (Text.isDigit_of_mem_decimal hc)

/-- The word of a type is the one that it was read from. -/
theorem TypeRef.word_ofWord (w : String) : (TypeRef.ofWord w).word = w := by
  unfold TypeRef.ofWord
  split
  case h_1 t ht =>
    have name : t.name? = some w := by simpa using List.find?_some ht
    simp [TypeRef.word, name]
  case h_2 => rfl

theorem readInt32?_minus (cs : List Char) :
    Text.readInt32? ('-' :: cs) =
      Option.map (fun n : Nat => -(n : Int)) ((Text.readDigits? cs).filter (· ≤ 1 <<< 31)) := by
  simp only [Text.readInt32?]
  cases (Text.readDigits? cs).filter (· ≤ 1 <<< 31) <;> rfl

theorem readInt32?_of_head {cs : List Char} (h : cs.head? ≠ some '-') :
    Text.readInt32? cs = Option.map (fun n : Nat => (n : Int)) (Text.readNat? (1 <<< 31) cs) := by
  unfold Text.readInt32?
  split
  case h_1 => exact absurd rfl h
  case h_2 => cases Text.readNat? (1 <<< 31) cs <;> rfl

/-- The whole numbers that are read have thirty-two bits. -/
theorem readInt32?_range {cs : List Char} {n : Int} (h : Text.readInt32? cs = some n) :
    -(1 <<< 31 : Nat) ≤ n ∧ n < (1 <<< 31 : Nat) := by
  by_cases hminus : cs.head? = some '-'
  · obtain ⟨tail, rfl⟩ := List.head?_eq_some_iff.1 hminus
    rw [readInt32?_minus] at h
    obtain ⟨m, hm, rfl⟩ := Option.map_eq_some_iff.1 h
    have bound : m ≤ 1 <<< 31 := of_decide_eq_true (Option.filter_eq_some_iff.1 hm).2
    omega
  · rw [readInt32?_of_head hminus] at h
    obtain ⟨m, hm, rfl⟩ := Option.map_eq_some_iff.1 h
    have bound : m < 1 <<< 31 := of_decide_eq_true (Option.filter_eq_some_iff.1 hm).2
    omega

/-- A written number begins with a digit. -/
theorem exists_decimal (n : Nat) : ∃ c cs, Text.decimal n = c :: cs ∧ c.isDigit = true := by
  cases h : Text.decimal n with
  | nil => exact absurd h (Text.decimal_ne_nil n)
  | cons c cs => exact ⟨c, cs, rfl, Text.isDigit_of_mem_decimal (n := n) (h ▸ List.mem_cons_self)⟩

theorem readInt32?_signed {n : Int} (h : -(1 <<< 31 : Nat) ≤ n ∧ n < (1 <<< 31 : Nat)) :
    Text.readInt32? (Decimal.signed n) = some n := by
  unfold Decimal.signed
  split
  case isTrue hneg =>
    have bound : n.natAbs ≤ 1 <<< 31 := by omega
    rw [readInt32?_minus, Text.readDigits?_decimal, Option.filter_some, if_pos (decide_eq_true bound)]
    simp only [Option.map_some, Option.some.injEq]
    omega
  case isFalse hpos =>
    have bound : n.natAbs < 1 <<< 31 := by omega
    have head : (Text.decimal n.natAbs).head? ≠ some '-' := by
      obtain ⟨c, cs, hcs, hc⟩ := exists_decimal n.natAbs
      rw [hcs]
      rintro hminus
      cases hminus
      cases hc
    rw [readInt32?_of_head head, Text.readNat?_decimal bound]
    simp only [Option.map_some, Option.some.injEq]
    omega

namespace Literal

theorem word_of_keyword? {w : String} {l : Literal} (h : keyword? w = some l) : l.word = w := by
  unfold keyword? at h
  split at h <;> cases h <;> rfl

theorem eq_of_quoted? {cs text : List Char} (h : quoted? cs = some text) :
    cs = '"' :: (text ++ ['"']) := by
  unfold quoted? at h
  split at h
  case h_1 cs =>
    split at h
    case h_1 hlast =>
      obtain rfl := Option.some.inj h
      rw [List.dropLast_append_getLast? '"' hlast]
    case h_2 => cases h
  case h_2 => cases h

/-- A value that is neither a whole number nor a double has the very word that it was read from. -/
theorem word_ofWord (w : String) :
    (ofWord w).word = w ∨
      (∃ n, ofWord w = int32 n ∧ -(1 <<< 31 : Nat) ≤ n ∧ n < (1 <<< 31 : Nat)) ∨
      ∃ x, ofWord w = double x := by
  generalize hl : ofWord w = l
  simp only [ofWord] at hl
  split at hl
  case h_1 l _ _ _ h => exact Or.inl (hl ▸ word_of_keyword? h)
  case h_2 text h _ =>
    refine Or.inl (String.toList_inj.1 ?_)
    rw [← hl, eq_of_quoted? h]
    simp [word]
  case h_3 n h _ _ => exact Or.inr (Or.inl ⟨n, hl.symm, readInt32?_range h⟩)
  case h_4 x _ _ _ _ => exact Or.inr (Or.inr ⟨x, hl.symm⟩)
  case h_5 => exact Or.inl (hl ▸ rfl)

/-- A written whole number begins with a digit or a minus sign, and holds nothing else but digits. -/
theorem exists_signed (n : Int) :
    ∃ c cs, Decimal.signed n = c :: cs ∧ (c = '-' ∨ c.isDigit = true) ∧
      ∀ d ∈ cs, d.isDigit = true := by
  unfold Decimal.signed
  split
  · exact ⟨'-', _, rfl, Or.inl rfl, fun d hd => Text.isDigit_of_mem_decimal hd⟩
  · obtain ⟨c, cs, hcs, hc⟩ := exists_decimal n.natAbs
    refine ⟨c, cs, hcs, Or.inr hc, fun d hd => ?_⟩
    exact Text.isDigit_of_mem_decimal (n := n.natAbs) (hcs ▸ List.mem_cons_of_mem c hd)

/-- Words that begin with a digit or a minus sign stand for numbers or names only. -/
theorem keyword?_signed (n : Int) : keyword? (String.ofList (Decimal.signed n)) = none := by
  obtain ⟨c, cs, hcs, hc, _⟩ := exists_signed n
  have letter : c ∉ ['u', 'n', 't', 'f', 'm'] := by
    intro hmem
    simp only [List.mem_cons, List.not_mem_nil, or_false] at hmem
    rcases hmem with rfl | rfl | rfl | rfl | rfl <;> exact absurd hc (by decide)
  rw [hcs]
  unfold keyword?
  split
  case h_6 => rfl
  all_goals
    rename_i heq
    have heq := congrArg String.toList heq
    simp only [String.toList_ofList] at heq
    exact absurd (by rw [(List.cons.inj heq).1]; decide) letter

theorem quoted?_signed (n : Int) : quoted? (Decimal.signed n) = none := by
  obtain ⟨c, cs, hcs, hc, _⟩ := exists_signed n
  rw [hcs]
  unfold quoted?
  split
  case h_1 heq =>
    rw [(List.cons.inj heq).1] at hc
    exact absurd hc (by decide)
  case h_2 => rfl

theorem ofWord_int32 {n : Int} (h : -(1 <<< 31 : Nat) ≤ n ∧ n < (1 <<< 31 : Nat)) :
    ofWord (int32 n).word = int32 n := by
  simp only [ofWord, word, String.toList_ofList, keyword?_signed, quoted?_signed,
    readInt32?_signed h]

theorem isToken_int32 (n : Int) : IsToken (int32 n).word := by
  obtain ⟨c, cs, hcs, hc, hdigits⟩ := exists_signed n
  have head : Text.isBlank c = false ∧ c ≠ '/' := by
    cases hc with
    | inl hminus => exact hminus ▸ by decide
    | inr hdigit => exact graphic_of_isDigit hdigit
  have letters : (int32 n).word.toList = c :: cs := by rw [← hcs]; exact String.toList_ofList
  refine isToken_of_graphic (by rw [letters]; exact List.cons_ne_nil c cs) fun d hd => ?_
  rw [letters] at hd
  cases List.mem_cons.1 hd with
  | inl h => exact h ▸ head
  | inr h => exact graphic_of_isDigit (hdigits d h)

/-- A value other than a double is read back from its word, and its word can stand in a line. -/
theorem ofWord_word {w : String} (h : ∀ x, ofWord w ≠ double x) :
    ofWord (ofWord w).word = ofWord w ∧ (IsToken w → IsToken (ofWord w).word) := by
  rcases word_ofWord w with same | ⟨n, hn, range⟩ | ⟨x, hx⟩
  · exact ⟨congrArg ofWord same, fun hw => same.symm ▸ hw⟩
  · rw [hn]
    exact ⟨ofWord_int32 range, fun _ => isToken_int32 n⟩
  · exact absurd hx (h x)

end Literal

/-! ## Arguments -/

theorem splitNumeric_eq {arguments rest : List String} {op : ArithOp}
    (h : splitNumeric arguments = (rest, op)) :
    arguments = rest ++ option (op = .numeric) "numeric" := by
  unfold splitNumeric at h
  split at h
  case h_1 tail hreverse =>
    cases h
    rw [List.reverse_eq_iff.1 hreverse]
    simp [option]
  case h_2 =>
    cases h
    simp [option]

theorem splitTarget_eq {arguments rest : List String} {target : Option String}
    (h : splitTarget arguments = (rest, target)) :
    arguments = rest ++ target.toList.flatMap fun t => ["->", t] := by
  unfold splitTarget at h
  split at h
  case h_1 t tail hreverse =>
    cases h
    rw [List.reverse_eq_iff.1 hreverse]
    simp
  case h_2 =>
    cases h
    simp

theorem readArith_ok {arguments : List String} {c : Command} (h : readArith arguments = .ok c) :
    c.keyword = .arith ∧ c.arguments = arguments := by
  unfold readArith at h
  split at h
  case h_1 lhs target op hsplit =>
    cases h
    exact ⟨rfl, (splitNumeric_eq hsplit).symm⟩
  case h_2 lhs rhs target op hsplit =>
    cases h
    exact ⟨rfl, (splitNumeric_eq hsplit).symm⟩
  case h_3 => cases h

theorem readCall_ok {isNew : Bool} {arguments : List String} {c : Command}
    (h : readCall isNew arguments = .ok c) :
    c.keyword = (if isNew then .new else .call) ∧ c.arguments = arguments := by
  unfold readCall at h
  split at h
  case h_1 callee rest target hsplit =>
    split at h
    case isTrue => cases h
    case isFalse =>
      cases h
      exact ⟨rfl, (splitTarget_eq hsplit).symm⟩
  case h_2 => cases h

/-- The options of a function as they are written. -/
def optionWords (script : Option Nat) (parameters : Nat) : List String :=
  script.toList.flatMap (fun s => ["script", number s]) ++
    if parameters = 0 then [] else ["nargs", number parameters]

/-- The numbers of a function that was read. -/
structure Counted (script : Option Nat) (parameters : Nat) : Prop where
  script : ∀ s ∈ script, s < wordBound
  parameters : parameters < countBound

theorem readOptions_counted {script script' : Option Nat} {parameters parameters' : Nat}
    {options : List String} (h : readOptions script parameters options = .ok (script', parameters'))
    (hc : Counted script parameters) : Counted script' parameters' := by
  fun_induction readOptions script parameters options with
  | case1 script parameters =>
    cases h
    exact hc
  | case2 script parameters word rest ih =>
    obtain ⟨n, hn, h⟩ := exists_of_bind h
    exact ih n h ⟨fun s hs => Option.some.inj hs ▸ readNumber_lt hn, hc.parameters⟩
  | case3 script parameters word rest ih =>
    obtain ⟨n, hn, h⟩ := exists_of_bind h
    exact ih n h ⟨hc.script, readNumber_lt hn⟩
  | case4 => cases h

theorem readOptions_optionWords {script : Option Nat} {parameters : Nat}
    (h : Counted script parameters) :
    readOptions none 0 (optionWords script parameters) = .ok (script, parameters) := by
  have tail (script : Option Nat) :
      readOptions script 0 (if parameters = 0 then [] else ["nargs", number parameters]) =
        .ok (script, parameters) := by
    split
    case isTrue hzero => rw [readOptions, hzero]
    case isFalse =>
      rw [readOptions, readNumber_number h.parameters]
      rfl
  cases script with
  | none => exact tail none
  | some s =>
    have step (rest : List String) : readOptions none 0 ("script" :: number s :: rest) =
        readOptions (some s) 0 rest := by
      rw [readOptions, readNumber_number (h.script s rfl)]
      rfl
    exact (step _).trans (tail (some s))

theorem isToken_optionWords {script : Option Nat} {parameters : Nat} :
    ∀ w ∈ optionWords script parameters, IsToken w := by
  have pair {label : String} (hlabel : IsToken label) (n : Nat) :
      ∀ w ∈ [label, number n], IsToken w := by
    simpa using ⟨hlabel, isToken_number n⟩
  intro w hw
  cases List.mem_append.1 hw with
  | inl hw =>
    obtain ⟨s, _, hw⟩ := List.mem_flatMap.1 hw
    exact pair (by decide) s w hw
  | inr hw =>
    split at hw
    case isTrue => cases hw
    case isFalse => exact pair (by decide) parameters w hw

/-- What became of words that were read: the command is read from its own words, and these can stand
in a line. -/
structure Restated (k : Keyword) (arguments : List String) (c : Command) : Prop where
  keyword : c.keyword = k
  again : readArguments k c.arguments = .ok c
  tokens : (∀ w ∈ arguments, IsToken w) → ∀ w ∈ c.arguments, IsToken w

/-- A command that is written with the words that it was read from. -/
theorem Restated.same {k : Keyword} {arguments : List String} {c : Command}
    (h : readArguments k arguments = .ok c) (hk : c.keyword = k) (hc : c.arguments = arguments) :
    Restated k arguments c :=
  ⟨hk, by rw [hc, h], fun hws => by rwa [hc]⟩

theorem restated_function {name : String} {options : List String} {c : Command}
    (h : readArguments .function (name :: options) = .ok c) :
    Restated .function (name :: options) c := by
  obtain ⟨⟨script, parameters⟩, hread, hc⟩ := exists_of_bind h
  cases hc
  have counted : Counted script parameters :=
    readOptions_counted hread ⟨fun s hs => (by cases hs), by decide⟩
  refine ⟨rfl, ?_, fun hws w hw => ?_⟩
  · show readOptions none 0 (optionWords script parameters) >>= _ = _
    rw [readOptions_optionWords counted]
    rfl
  · cases List.mem_cons.1 (show w ∈ name :: optionWords script parameters from hw) with
    | inl h => exact h ▸ hws name List.mem_cons_self
    | inr h => exact isToken_optionWords w h

theorem isToken_location (script offset : Nat) :
    IsToken (number script ++ ":" ++ number offset) := by
  have digit {n : Nat} {c : Char} (h : c ∈ Text.decimal n) : Text.isBlank c = false ∧ c ≠ '/' :=
    graphic_of_isDigit (Text.isDigit_of_mem_decimal h)
  refine isToken_of_graphic (by simp [toList_number]) fun c hc => ?_
  simp only [String.toList_append, toList_number, List.mem_append] at hc
  rcases hc with (hc | hc) | hc
  · exact digit hc
  · rw [List.mem_singleton.1 hc]
    decide
  · exact digit hc

theorem restated_push {location index type : String} {c : Command}
    (h : readArguments .push [location, index, type] = .ok c) :
    Restated .push [location, index, type] c := by
  obtain ⟨⟨script, offset⟩, hlocation, h⟩ := exists_of_bind h
  obtain ⟨n, hindex, h⟩ := exists_of_bind h
  cases h
  obtain ⟨hscript, hoffset⟩ := readLocation_lt hlocation
  refine ⟨rfl, ?_, fun hws => ?_⟩
  · show readLocation (number script ++ ":" ++ number offset) >>= _ = _
    rw [readLocation_number hscript hoffset]
    show readNumber wordBound (number n) >>= _ = _
    rw [readNumber_number (readNumber_lt hindex)]
    show Except.ok (Command.push script offset n (.ofWord (TypeRef.ofWord type).word)) = _
    rw [TypeRef.ofWord_word]
  · simp only [Command.arguments, TypeRef.word_ofWord]
    simpa using ⟨isToken_location script offset, isToken_number n, hws type (by simp)⟩

/-- A question about a set for which a script is to wait. -/
theorem restated_waiting {k : Keyword} {set script : String} {c : Command}
    (make : Option Nat → Command) (hk : ∀ n, (make n).keyword = k)
    (harguments : ∀ n, (make n).arguments = set :: n.toList.map number)
    (hread : ∀ w, readArguments k [set, w] = do return make (some (← readScript w)))
    (h : readArguments k [set, script] = .ok c) : Restated k [set, script] c := by
  rw [hread] at h
  obtain ⟨n, hn, h⟩ := exists_of_bind h
  cases h
  refine ⟨hk _, ?_, fun hws => ?_⟩
  · show readArguments k (make (some n)).arguments = _
    rw [harguments]
    show readArguments k [set, number n] = _
    rw [hread, readScript_number (readScript_lt hn)]
    rfl
  · rw [harguments]
    simpa using ⟨hws set (by simp), isToken_number n⟩

theorem restated_assign {object key value : String}
    (hdouble : ∀ x, Literal.ofWord value ≠ .double x) :
    Restated .assign [object, key, value] (.assign object key (.ofWord value)) := by
  obtain ⟨hread, htoken⟩ := Literal.ofWord_word hdouble
  refine ⟨rfl, ?_, fun hws => ?_⟩
  · show Except.ok (Command.assign object key (.ofWord (Literal.ofWord value).word)) = _
    rw [hread]
  · simpa [Command.arguments] using
      ⟨hws object (by simp), hws key (by simp), htoken (hws value (by simp))⟩

/-- Every command but an assignment of a double is read back from its words. -/
theorem restated {k : Keyword} {arguments : List String} {c : Command}
    (h : readArguments k arguments = .ok c)
    (hdouble : ∀ object key x, c ≠ .assign object key (.double x)) : Restated k arguments c := by
  have read := h
  unfold readArguments at h
  split at h
  case h_5 => exact restated_function read
  case h_8 set type =>
    cases h
    exact Restated.same read rfl (by simp [Command.arguments, TypeRef.word_ofWord])
  case h_14 =>
    obtain ⟨hk, hc⟩ := readArith_ok h
    exact Restated.same read hk hc
  case h_17 | h_18 =>
    obtain ⟨hk, hc⟩ := readCall_ok h
    exact Restated.same read hk hc
  case h_21 object key value =>
    cases h
    exact restated_assign fun x hx => hdouble object key x (by rw [hx])
  case h_22 => exact restated_push read
  case h_27 set script =>
    exact restated_waiting (.tag set) (fun _ => rfl) (fun _ => rfl) (fun _ => rfl) read
  case h_29 set script =>
    exact restated_waiting (.kind set) (fun _ => rfl) (fun _ => rfl) (fun _ => rfl) read
  case h_31 set script =>
    exact restated_waiting (.nonEmpty set) (fun _ => rfl) (fun _ => rfl) (fun _ => rfl) read
  case h_34 => cases h
  -- No other command holds a number or a value.
  all_goals
    cases h
    exact Restated.same read rfl rfl

/-! ## Which commands are unknown -/

/-- A reading that, if it fails, does so for another reason than an unknown command. -/
def Recognised {α : Type} (x : Except ParseError α) : Prop := ∀ w, x ≠ .error (.unknownCommand w)

namespace Recognised

variable {α β : Type}

theorem ok (a : α) : Recognised (.ok a) := fun _ h => by cases h

theorem bind {x : Except ParseError α} {f : α → Except ParseError β} (hx : Recognised x)
    (hf : ∀ a, Recognised (f a)) : Recognised (x >>= f) := by
  cases x with
  | error e => exact fun w h => hx w (congrArg Except.error (Except.error.inj h))
  | ok a => exact hf a

theorem number (bound : Nat) (w : String) : Recognised (readNumber bound w) := by
  unfold readNumber
  split
  · exact ok _
  · exact fun _ h => by cases h

theorem script (w : String) : Recognised (readScript w) := by
  unfold readScript
  split <;> exact number _ _

theorem location (w : String) : Recognised (readLocation w) := by
  unfold readLocation
  split
  · exact (script _).bind fun _ => (number _ _).bind fun _ => ok _
  · exact fun _ h => by cases h

theorem options (found : Option Nat) (parameters : Nat) (words : List String) :
    Recognised (readOptions found parameters words) := by
  fun_induction readOptions found parameters words with
  | case1 => exact ok _
  | case2 _ _ _ _ ih => exact (number _ _).bind ih
  | case3 _ _ _ _ ih => exact (number _ _).bind ih
  | case4 => exact fun _ h => by cases h

theorem arith (words : List String) : Recognised (readArith words) := by
  unfold readArith
  split <;> exact fun _ h => by cases h

theorem call (isNew : Bool) (words : List String) : Recognised (readCall isNew words) := by
  unfold readCall
  split
  · split <;> exact fun _ h => by cases h
  · exact fun _ h => by cases h

/-- Whatever stands behind a keyword, the command is not an unknown one. -/
theorem arguments (k : Keyword) (words : List String) : Recognised (readArguments k words) := by
  unfold readArguments
  split
  case h_5 => exact (options _ _ _).bind fun _ => ok _
  case h_14 => exact arith _
  case h_17 | h_18 => exact call _ _
  case h_22 => exact (location _).bind fun _ => (number _ _).bind fun _ => ok _
  case h_27 | h_29 | h_31 => exact (script _).bind fun _ => ok _
  all_goals exact fun _ h => by cases h

end Recognised

theorem ofWord?_eq_none_iff {w : String} : Keyword.ofWord? w = none ↔ ∀ k : Keyword, k.word ≠ w := by
  constructor
  · rintro h k rfl
    rw [Keyword.ofWord?_word] at h
    cases h
  · intro h
    exact List.find?_eq_none.2 fun k _ => by simpa using h k

theorem readWords_eq_none_iff {ws : List String} : readWords ws = .ok none ↔ ws = [] := by
  constructor
  · intro h
    cases ws with
    | nil => rfl
    | cons word arguments =>
      rw [readWords] at h
      split at h
      case h_1 k _ => cases hread : readArguments k arguments <;> rw [hread] at h <;> cases h
      case h_2 => cases h
  · rintro rfl
    rfl

theorem readWords_eq_unknown_iff {ws : List String} {word : String} :
    readWords ws = .error (.unknownCommand word) ↔
      (∃ rest, ws = word :: rest) ∧ ∀ k : Keyword, k.word ≠ word := by
  constructor
  · intro h
    cases ws with
    | nil => cases h
    | cons first arguments =>
      rw [readWords] at h
      split at h
      case h_1 k _ =>
        cases hread : readArguments k arguments with
        | ok c => rw [hread] at h; cases h
        | error e =>
          rw [hread] at h
          obtain rfl := Except.error.inj h
          exact absurd hread (Recognised.arguments k arguments word)
      case h_2 hnone =>
        obtain rfl := ParseError.unknownCommand.inj (Except.error.inj h)
        exact ⟨⟨arguments, rfl⟩, ofWord?_eq_none_iff.1 hnone⟩
  · rintro ⟨⟨rest, rfl⟩, h⟩
    rw [readWords, ofWord?_eq_none_iff.2 h]

/-! ## Lines -/

/-- The words of a command. -/
def Command.words (c : Command) : List String := c.keyword.word :: c.arguments

theorem Command.toList_line (c : Command) :
    c.line.toList = [' '].intercalate (c.words.map String.toList) := by
  simp [Command.line, Command.words, String.toList_intercalate]

theorem readLine_of_holds {line : List Char} {ws : List String} (h : Holds line ws) :
    readLine line = readWords ws := by
  rw [readLine, holds_iff.1 h]

theorem holds_lineWords (line : List Char) : Holds line (lineWords line) := holds_iff.2 rfl

theorem isToken_word (k : Keyword) : IsToken k.word := by cases k <;> decide

/-- A command is read from its own words, and these can stand in a line. -/
theorem readWords_words {ws : List String} {c : Command} (h : readWords ws = .ok (some c))
    (hdouble : ∀ object key x, c ≠ .assign object key (.double x)) (hws : ∀ w ∈ ws, IsToken w) :
    readWords c.words = .ok (some c) ∧ ∀ w ∈ c.words, IsToken w := by
  cases ws with
  | nil => cases h
  | cons word arguments =>
    rw [readWords] at h
    split at h
    case h_2 => cases h
    case h_1 k _ =>
      obtain ⟨c', hread, hc⟩ : ∃ c', readArguments k arguments = .ok c' ∧ c' = c := by
        cases hread : readArguments k arguments with
        | error e => rw [hread] at h; cases h
        | ok c' => rw [hread] at h; exact ⟨c', rfl, Option.some.inj (Except.ok.inj h)⟩
      subst hc
      have facts := restated hread hdouble
      have tokens := facts.tokens fun w hw => hws w (List.mem_cons_of_mem word hw)
      rw [Command.words, facts.keyword]
      refine ⟨?_, fun w hw => ?_⟩
      · rw [readWords, Keyword.ofWord?_word]
        simp only [facts.again]
        rfl
      · cases List.mem_cons.1 hw with
        | inl h => exact h ▸ isToken_word k
        | inr h => exact tokens w h

/-- **Reading is inverse to writing.**  A command that was read from some line, if it assigns no
double, is read back from its own line, and from its words with any blanks around them and any
comment behind a blank.  A line holds no command exactly when it has no word in front of its first
comment sign, and it is refused for an unknown command exactly when its first word there is the word
of none of the twenty-five keywords. -/
theorem readLine_line :
    (∀ (line : List Char) (c : Command), readLine line = .ok (some c) →
      (∀ object key x, c ≠ .assign object key (.double x)) →
      readLine c.line.toList = .ok (some c) ∧
      ∀ text comment : List Char, Text.Laid (c.words.map String.toList) text →
        (comment = [] ∨
          ∃ blank rest, Text.isBlank blank = true ∧ comment = blank :: '/' :: '/' :: rest) →
        readLine (text ++ comment) = .ok (some c)) ∧
    (∀ line, readLine line = .ok none ↔ Holds line []) ∧
    (∀ line word, readLine line = .error (.unknownCommand word) ↔
      (∃ ws, Holds line (word :: ws)) ∧ ∀ k : Keyword, k.word ≠ word) ∧
    Keyword.all.length = 25 ∧ (Keyword.all.map Keyword.word).Nodup ∧ ∀ k, k ∈ Keyword.all := by
  refine ⟨fun line c h hdouble => ?_, fun line => ?_, fun line word => ?_, Keyword.length_all,
    by decide, Keyword.mem_all⟩
  · have hline := holds_lineWords line
    rw [readLine_of_holds hline] at h
    obtain ⟨again, tokens⟩ := readWords_words h hdouble hline.isToken
    have read (text comment : List Char) (hlaid : Text.Laid (c.words.map String.toList) text)
        (hcomment : comment = [] ∨
          ∃ blank rest, Text.isBlank blank = true ∧ comment = blank :: '/' :: '/' :: rest) :
        readLine (text ++ comment) = .ok (some c) := by
      rw [readLine_of_holds (holds_of_laid tokens hlaid hcomment), again]
    refine ⟨?_, read⟩
    have laid : Text.Laid (c.words.map String.toList) c.line.toList := by
      rw [Command.toList_line]
      refine Text.laid_intercalate fun w hw => ?_
      obtain ⟨v, hv, rfl⟩ := List.mem_map.1 hw
      exact (tokens v hv).isWord
    simpa using read c.line.toList [] laid (Or.inl rfl)
  · rw [readLine_of_holds (holds_lineWords line), readWords_eq_none_iff, holds_iff]
  · simp only [readLine_of_holds (holds_lineWords line), readWords_eq_unknown_iff, holds_iff]

/-- Sets that are called like the words of optional arguments. -/
theorem readLine_line_numeric :
    readLine "arith numeric numeric numeric//last".toList =
        .ok (some (.arith "numeric" none "numeric" .numeric)) ∧
      readLine ("\tarith  numeric numeric\u2003numeric".toList ++ " // first".toList) =
        .ok (some (.arith "numeric" none "numeric" .numeric)) :=
  have first : readLine "arith numeric numeric numeric//last".toList =
      .ok (some (.arith "numeric" none "numeric" .numeric)) := by decide +kernel
  ⟨first,
    (readLine_line.1 _ _ first (by simp)).2 _ _ (Text.laid_iff.2 (by decide +kernel))
      (Or.inr ⟨' ', " first".toList, by decide, by decide +kernel⟩)⟩

end FlowTypes.Trace
