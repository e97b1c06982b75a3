import FlowTypes.Trace.Run
import Mathlib.Data.List.Basic
import Mathlib.Order.Basic

/-!
# What a trace reports

A trace is read before it is replayed, so a run ends in one of three ways.  Lines that are no
commands are all reported, in their order and with their own numbers, and then nothing has been
carried out and nothing printed.  A trace of which every line can be read runs up to the first
command that fails, which alone is reported; what was printed by then is what the same text prints
when it is cut off in front of that line.  Otherwise the run answers a compartment and reports
nothing.

That a command which fails has printed nothing of its own is a law of each command: it looks names
up and asks the compartment first, in silence, and only then prints, which cannot fail.  So the
commands in front of the failing one are all that was printed, and the text in front of its line
reads as just these commands.

## Main results

* A command that fails has printed nothing (`failsSilently_step`).
* The text in front of a line has the lines in front of it (`lines_firstLines`), hence its problems
  and its commands (`problems_cutBefore`, `commands_cutBefore`).
* How a run ends (`run_ends`).
-/

namespace FlowTypes

/-! ## Texts cut off at a line -/

namespace Text

/-- The first lines of a text, with the ends they have in it. -/
def firstLines : Nat → List Char → List Char
  | 0, _ => []
  | _ + 1, [] => []
  | n + 1, c :: cs => c :: firstLines (if c = '\n' then n else n + 1) cs

theorem take_pushToLine (c : Char) (ls : List (List Char)) (n : Nat) :
    (pushToLine c ls).take (n + 1) = pushToLine c (ls.take (n + 1)) := by
  cases ls <;> simp [pushToLine]

/-- The first lines of a text, read again. -/
theorem lines_firstLines (n : Nat) (cs : List Char) :
    lines (firstLines n cs) = (lines cs).take n := by
  induction cs using lines.induct generalizing n with
  | case1 => cases n <;> rfl
  | case2 cs ih =>
    cases n with
    | zero => rfl
    | succ n => simp only [firstLines, if_true, lines, List.take_succ_cons, ih]
  | case3 cs ih =>
    cases n with
    | zero => rfl
    | succ n =>
      simp only [firstLines, if_true, if_neg (show '\r' ≠ '\n' by decide), lines,
        List.take_succ_cons, ih]
  | case4 c cs hn hr ih =>
    cases n with
    | zero => rfl
    | succ n =>
      have hr' : ∀ ds, c = '\r' → firstLines (n + 1) cs = '\n' :: ds → False := by
        intro ds hc h
        cases cs with
        | nil => simp [firstLines] at h
        | cons d cs => exact hr cs hc (by simp only [firstLines, List.cons.injEq] at h; rw [h.1])
      rw [firstLines, if_neg hn, lines, lines, ih, take_pushToLine]
      all_goals assumption

end Text

namespace Trace

/-! ## Commands print last -/

theorem run_bind_step {α β : Type} (a : Step α) (f : α → Step β) (r : Replay) :
    (a >>= f) r =
      match a r with
      | (.ok x, r') => f x r'
      | (.error e, r') => (.error e, r') := by
  change (ExceptT.bindCont f (a r).1 (a r).2 : Except ReplayError β × Replay) = _
  rcases a r with ⟨_ | _, _⟩ <;> rfl

/-- A step that prints nothing. -/
def Silent {α : Type} (a : Step α) : Prop := ∀ r, (a r).2.printed = r.printed

/-- A step that prints nothing unless it succeeds. -/
def FailsSilently {α : Type} (a : Step α) : Prop :=
  ∀ r e, (a r).1 = .error e → (a r).2.printed = r.printed

/-- A step that succeeds. -/
def NeverFails {α : Type} (a : Step α) : Prop := ∀ r e, (a r).1 ≠ .error e

section Steps

variable {α β : Type} {a : Step α} {f : α → Step β}

theorem Silent.bind (ha : Silent a) (hf : ∀ x, Silent (f x)) : Silent (a >>= f) := by
  intro r
  rw [run_bind_step]
  have h := ha r
  generalize a r = out at h ⊢
  obtain ⟨e' | x, r'⟩ := out
  · exact h
  · exact (hf x r').trans h

theorem Silent.then (ha : Silent a) (hf : ∀ x, FailsSilently (f x)) : FailsSilently (a >>= f) := by
  intro r e
  rw [run_bind_step]
  have h := ha r
  generalize a r = out at h ⊢
  obtain ⟨e' | x, r'⟩ := out
  · exact fun _ => h
  · exact fun he => (hf x r' e he).trans h

theorem Silent.fails (h : Silent a) : FailsSilently a := fun r _ _ => h r

theorem NeverFails.fails (h : NeverFails a) : FailsSilently a := fun r e he => absurd he (h r e)

theorem NeverFails.bind (ha : NeverFails a) (hf : ∀ x, NeverFails (f x)) :
    NeverFails (a >>= f) := by
  intro r e
  rw [run_bind_step]
  have h := ha r
  generalize a r = out at h ⊢
  obtain ⟨e' | x, r'⟩ := out
  · exact absurd rfl (h e')
  · exact hf x r' e

theorem silent_pure (x : α) : Silent (pure x : Step α) := fun _ => rfl

theorem silent_throw (e : ReplayError) : Silent (throw e : Step α) := fun _ => rfl

theorem silent_get : Silent (get : Step Replay) := fun _ => rfl

theorem silent_act (action : Action α) : Silent (act action) := by
  intro r
  rw [act]
  rcases action r.compartment with ⟨_ | _, _⟩ <;> rfl

theorem Silent.map (ha : Silent a) (g : α → β) : Silent (g <$> a) :=
  ha.bind fun _ => silent_pure _

theorem silent_mapM {γ : Type} {g : γ → Step α} (hg : ∀ x, Silent (g x)) (xs : List γ) :
    Silent (xs.mapM g) := by
  induction xs with
  | nil => exact silent_pure _
  | cons x xs ih =>
    rw [List.mapM_cons]
    exact (hg x).bind fun _ => ih.bind fun _ => silent_pure _

theorem silent_option_mapM {γ : Type} {g : γ → Step α} (hg : ∀ x, Silent (g x)) :
    ∀ x : Option γ, Silent (x.mapM g)
  | none => silent_pure _
  | some x => (hg x).map some

end Steps

theorem neverFails_print (line : String) : NeverFails (print line) := fun _ _ h => by
  cases h

theorem neverFails_forM_print {α : Type} (text : α → String) (xs : List α) :
    NeverFails (xs.forM fun x => print (text x)) := by
  induction xs with
  | nil => exact fun _ _ h => by cases h
  | cons x xs ih => exact (neverFails_print _).bind fun _ => ih

theorem silent_findSet (name : String) : Silent (findSet name) := by
  refine silent_get.bind fun r => ?_
  cases r.set? name with
  | none => exact silent_throw _
  | some id => exact silent_pure id

theorem silent_bindSet (name : String) (id : SetId) : Silent (bindSet name id) := fun _ => rfl

theorem silent_declareSet (name : String) (id : SetId) : Silent (declareSet name id) := by
  refine silent_get.bind fun r => ?_
  split
  · exact silent_throw _
  · exact silent_bindSet name id

theorem silent_findObject (name : String) : Silent (findObject name) := by
  refine silent_get.bind fun r => ?_
  split
  · exact silent_pure _
  · exact silent_pure _
  · exact silent_act _
  · exact silent_throw _

theorem silent_declareObject (name : String) (isFunction : Bool) (proto : Option ObjectId) :
    Silent (declareObject name isFunction proto) := by
  refine silent_get.bind fun r => ?_
  split
  · exact silent_throw _
  · exact (silent_act _).bind fun id => Silent.bind (fun _ => rfl) fun _ => silent_pure id

theorem silent_declareFunction (name : String) : Silent (declareFunction name) :=
  (silent_act _).bind fun _ => (silent_declareObject _ _ _).bind fun _ => (silent_act _).bind fun _ =>
    (silent_declareSet _ _).bind fun _ => (silent_declareSet _ _).bind fun _ => silent_pure _

theorem silent_declareParameters (name : String) (i : Nat) (ps : List SetId) :
    Silent (declareParameters name i ps) := by
  induction ps generalizing i with
  | nil => exact silent_pure _
  | cons p ps ih => exact (silent_declareSet _ _).bind fun _ => ih (i + 1)

theorem silent_findType : ∀ t : TypeRef, Silent (findType t)
  | .plain _ => silent_pure _
  | .object name => (silent_findObject name).bind fun _ => silent_pure _

theorem silent_findValue : ∀ l : Literal, Silent (findValue l)
  | .undefined | .null | .boolean _ | .int32 _ | .double _ | .string _ | .magic => silent_pure _
  | .object name => (silent_findObject name).bind fun _ => silent_pure _

/-- A command that fails has printed nothing. -/
theorem failsSilently_step (line : Nat) (command : Command) : FailsSilently (step line command) := by
  cases command with
  | set name => exact ((silent_act _).bind fun _ => silent_declareSet _ _).fails
  | object name proto =>
    exact ((silent_option_mapM silent_findObject proto).bind fun _ =>
      (silent_declareObject _ _ _).map _).fails
  | array name => exact ((silent_act _).bind fun _ => (silent_declareObject _ _ _).map _).fails
  | function name script parameters =>
    refine (silent_declareFunction name).then fun id => ?_
    cases script with
    | none => exact (silent_pure _).fails
    | some script =>
      exact ((silent_act _).bind fun _ => (silent_act _).bind fun _ =>
        silent_declareParameters _ _ _).fails
  | native name isGeneric => exact ((silent_declareFunction name).bind fun _ => silent_act _).fails
  | add target type =>
    exact ((silent_findSet _).bind fun _ => (silent_findType _).bind fun _ => silent_act _).fails
  | subset source target | filter source target mode =>
    exact ((silent_findSet _).bind fun _ => (silent_findSet _).bind fun _ => silent_act _).fails
  | getProp objects key target | setProp objects key target =>
    exact ((silent_findSet _).bind fun _ => (silent_findSet _).bind fun _ => silent_act _).fails
  | getElem objects indexes target | setElem objects indexes target =>
    exact ((silent_findSet _).bind fun _ => (silent_findSet _).bind fun _ =>
      (silent_findSet _).bind fun _ => silent_act _).fails
  | arith lhs rhs target op =>
    exact ((silent_findSet _).bind fun _ => (silent_option_mapM silent_findSet rhs).bind fun _ =>
      (silent_findSet _).bind fun _ => silent_act _).fails
  | call isNew callee arguments target =>
    exact ((silent_findSet _).bind fun _ => (silent_mapM silent_findSet arguments).bind fun _ =>
      (silent_option_mapM silent_findSet target).bind fun _ => (silent_act _).bind fun _ =>
        silent_act _).fails
  | prop object key name own =>
    exact ((silent_findObject _).bind fun _ => (silent_act _).bind fun _ =>
      silent_bindSet _ _).fails
  | assign object key value =>
    exact ((silent_findObject _).bind fun _ => (silent_findValue _).bind fun _ =>
      silent_act _).fails
  | push script offset index type => exact ((silent_findType _).bind fun _ => silent_act _).fails
  | unknown object | notPacked object dense =>
    exact ((silent_findObject _).bind fun _ => silent_act _).fails
  | tag name script | kind name script | nonEmpty name script =>
    exact (silent_findSet _).then fun _ => (silent_act _).then fun _ =>
      (neverFails_print _).fails
  | print name =>
    exact (silent_findSet _).then fun _ => silent_get.then fun _ => (neverFails_print _).fails
  | recompile => exact (silent_act _).then fun _ => (neverFails_forM_print _ _).fails

/-- Commands of which none fails print what they print after what was printed before; those that
end in a failure have printed what the commands in front of the failure print. -/
theorem printed_of_failure {before : List (Nat × Command)} (after : List (Nat × Command))
    {line : Nat} {command : Command} {r r₁ r₂ : Replay} {e : ReplayError}
    (hb : replay before r = (none, r₁)) (hs : step line command r₁ = (.error e, r₂)) :
    replay (before ++ (line, command) :: after) r = (some (line, e), r₂) ∧
      r₂.printed = r₁.printed := by
  refine ⟨?_, ?_⟩
  · rw [replay_append, hb]
    simp only [replay, hs]
  · have := failsSilently_step line command r₁ e (by rw [hs])
    rwa [hs] at this

/-- Commands either all succeed, or there is a first one that fails. -/
theorem replay_cases (commands : List (Nat × Command)) (r : Replay) :
    (∃ r₁, replay commands r = (none, r₁)) ∨
      ∃ before line command after r₁ e r₂, commands = before ++ (line, command) :: after ∧
        replay before r = (none, r₁) ∧ step line command r₁ = (.error e, r₂) := by
  induction commands generalizing r with
  | nil => exact .inl ⟨r, rfl⟩
  | cons numbered commands ih =>
    obtain ⟨line, command⟩ := numbered
    rcases h : step line command r with ⟨e | x, r'⟩
    · exact .inr ⟨[], line, command, commands, r, e, r', rfl, rfl, h⟩
    · obtain ⟨r₁, h₁⟩ | ⟨before, line', command', after, r₁, e, r₂, rfl, hb, hs⟩ := ih r'
      · exact .inl ⟨r₁, by simp only [replay, h, h₁]⟩
      · exact .inr ⟨(line, command) :: before, line', command', after, r₁, e, r₂, rfl,
          by simp only [replay, h, hb], hs⟩

/-! ## Lines and their numbers -/

/-- The lines of a text with their numbers, which are counted from one. -/
def numbered (source : String) : List (List Char × Nat) := (Text.lines source.toList).zipIdx 1

/-- What is wrong with a line, if it is no command and not blank either. -/
def problem? : List Char × Nat → Option (Nat × ParseError)
  | (line, n) =>
    match readLine line with
    | .ok _ => none
    | .error e => some (n, e)

/-- The command of a line, if it has one. -/
def command? : List Char × Nat → Option (Nat × Command)
  | (line, n) =>
    match readLine line with
    | .ok (some command) => some (n, command)
    | .ok none => none
    | .error _ => none

/-- The lines of a text that cannot be read, with their numbers. -/
def problems (source : String) : List (Nat × ParseError) := (numbered source).filterMap problem?

/-- The commands of a text, with the numbers of their lines. -/
def commands (source : String) : List (Nat × Command) := (numbered source).filterMap command?

theorem readLines_eq (n : Nat) (ls : List (List Char)) :
    readLines n ls =
      { problems := (ls.zipIdx n).filterMap problem?
        commands := (ls.zipIdx n).filterMap command? } := by
  induction ls generalizing n with
  | nil => rfl
  | cons line ls ih =>
    rw [readLines, ih, List.zipIdx_cons, List.filterMap_cons, List.filterMap_cons, problem?,
      command?]
    rcases readLine line with e | _ | command <;> rfl

theorem read_eq (source : String) :
    read source = { problems := problems source, commands := commands source } :=
  readLines_eq 1 _

/-- What a reader of numbered lines makes of a line has the number of the line. -/
def KeepsNumber {α : Type} (reader : List Char × Nat → Option (Nat × α)) : Prop :=
  ∀ line found, reader line = some found → found.1 = line.2

theorem keepsNumber_problem? : KeepsNumber problem? := by
  rintro ⟨line, n⟩ found h
  rw [problem?] at h
  cases hl : readLine line with
  | ok _ => rw [hl] at h; cases h
  | error e => rw [hl] at h; cases h; rfl

theorem keepsNumber_command? : KeepsNumber command? := by
  rintro ⟨line, n⟩ found h
  rw [command?] at h
  rcases hl : readLine line with e | _ | command <;> rw [hl] at h <;> cases h
  rfl

theorem KeepsNumber.pairwise {α : Type} {reader : List Char × Nat → Option (Nat × α)}
    (hr : KeepsNumber reader) (source : String) :
    ((numbered source).filterMap reader).Pairwise (·.1 < ·.1) := by
  refine List.Pairwise.filterMap reader (R := (·.2 < ·.2)) ?_ ?_
  · intro a b hab x hx y hy
    rwa [hr a x hx, hr b y hy]
  · rw [← List.pairwise_map (f := Prod.snd) (R := (· < ·)), numbered, List.zipIdx_map_snd]
    exact List.pairwise_lt_range'

/-! ## The text in front of a line -/

/-- The text in front of the line with this number. -/
def cutBefore (line : Nat) (source : String) : String :=
  String.ofList (Text.firstLines (line - 1) source.toList)

/-- Numbered lines are cut off by their numbers. -/
theorem zipIdx_take {α : Type} (xs : List α) (n k : Nat) :
    (xs.take k).zipIdx n = (xs.zipIdx n).filter (·.2 < n + k) := by
  induction xs generalizing n k with
  | nil => simp
  | cons x xs ih =>
    cases k with
    | zero =>
      refine (List.filter_eq_nil_iff.mpr fun p hp => ?_).symm
      have := List.le_snd_of_mem_zipIdx hp
      simp only [decide_eq_true_eq]
      omega
    | succ k =>
      rw [List.take_succ_cons, List.zipIdx_cons, List.zipIdx_cons, List.filter_cons, ih]
      simp only [Nat.lt_add_right_iff_pos, Nat.succ_pos, decide_true, if_true, Nat.add_right_comm,
        Nat.add_assoc]

theorem numbered_cutBefore {line : Nat} (hl : 0 < line) (source : String) :
    numbered (cutBefore line source) = (numbered source).filter (·.2 < line) := by
  rw [numbered, cutBefore, String.toList_ofList, Text.lines_firstLines, zipIdx_take, numbered,
    Nat.add_sub_cancel' hl]

/-- What the text in front of a line reads as is what the whole text has in front of that line. -/
theorem KeepsNumber.cutBefore {α : Type} {reader : List Char × Nat → Option (Nat × α)}
    (hr : KeepsNumber reader) {line : Nat} (hl : 0 < line) (source : String) :
    (numbered (cutBefore line source)).filterMap reader =
      ((numbered source).filterMap reader).filter (·.1 < line) := by
  rw [numbered_cutBefore hl, List.filterMap_filter, List.filter_filterMap]
  refine List.filterMap_congr fun p _ => ?_
  cases hp : reader p with
  | none => simp
  | some found => simp [hr p found hp, Option.filter]

theorem problems_cutBefore {line : Nat} (hl : 0 < line) {source : String}
    (h : problems source = []) : problems (cutBefore line source) = [] := by
  rw [problems, keepsNumber_problem?.cutBefore hl, ← problems, h, List.filter_nil]

/-- The text in front of a command has just the commands in front of it. -/
theorem commands_cutBefore {source : String} {before after : List (Nat × Command)} {line : Nat}
    {command : Command} (h : commands source = before ++ (line, command) :: after) :
    0 < line ∧ commands (cutBefore line source) = before := by
  have hl : 0 < line := by
    have hmem : (line, command) ∈ commands source := by
      rw [h]
      exact List.mem_append_right _ List.mem_cons_self
    obtain ⟨p, hp, hc⟩ := List.mem_filterMap.mp hmem
    have := List.le_snd_of_mem_zipIdx hp
    have := keepsNumber_command? p _ hc
    simp only at this
    omega
  have hord := keepsNumber_command?.pairwise source
  rw [← commands, h, List.pairwise_append, List.pairwise_cons] at hord
  obtain ⟨-, ⟨hafter, -⟩, hbefore⟩ := hord
  refine ⟨hl, ?_⟩
  rw [commands, keepsNumber_command?.cutBefore hl, ← commands, h, List.filter_append,
    List.filter_eq_self.mpr, List.filter_eq_nil_iff.mpr, List.append_nil]
  · intro p hp
    rcases List.mem_cons.mp hp with rfl | hp
    · simp
    · simpa using Nat.le_of_lt (hafter p hp)
  · exact fun p hp => decide_eq_true (hbefore p hp _ List.mem_cons_self)

/-! ## How a run ends -/

variable (path : String) (options : Options) (source : String)

/-- A run of a text with lines that cannot be read.  All of them are reported, in their order and
with their numbers, and nothing else has happened. -/
structure Rejected : Prop where
  some_problem : problems source ≠ []
  in_order : (problems source).Pairwise (·.1 < ·.1)
  result : (run path options source).result = .error (problems source).length
  diagnostics : (run path options source).diagnostics =
    (problems source).map fun p => lineError path p.1 p.2.message
  printed : (run path options source).printed = []
  untouched : (run path options source).compartment = Compartment.fresh options

/-- A run that stopped at the command of a line.  The commands in front of it succeeded and it
failed, the compartment is the one that it left behind, it alone is reported, and the text cut off
in front of the line runs well and prints the same. -/
structure Stopped (line : Nat) : Prop where
  no_problem : problems source = []
  first_failure : ∃ before command after r e r',
    commands source = before ++ (line, command) :: after ∧
    replay before (Replay.start options) = (none, r) ∧ step line command r = (.error e, r') ∧
    (run path options source).compartment = r'.compartment ∧
    (run path options source).diagnostics = [lineError path line e.message]
  result : (run path options source).result = .error 1
  cut_succeeds : ∃ c, (run path options (cutBefore line source)).result = .ok c
  cut_silent : (run path options (cutBefore line source)).diagnostics = []
  printed : (run path options source).printed =
    (run path options (cutBefore line source)).printed

/-- A run that carried out every command of its text. -/
structure Completed : Prop where
  no_problem : problems source = []
  no_failure : (replay (commands source) (Replay.start options)).1 = none
  result : ∃ c, (run path options source).result = .ok c
  diagnostics : (run path options source).diagnostics = []

variable {path options source}

theorem run_of_replayed (path : String) (h : problems source = []) {r : Replay}
    (hr : replay (commands source) (Replay.start options) = (none, r)) :
    run path options source = { compartment := r.compartment, printed := r.printed.reverse } := by
  rw [run_of_no_problems (by rw [read_eq]; exact h), read_eq, hr]

theorem run_of_stopped (path : String) (h : problems source = []) {r : Replay} {line : Nat}
    {e : ReplayError}
    (hr : replay (commands source) (Replay.start options) = (some (line, e), r)) :
    run path options source =
      failed r.compartment r.printed.reverse [lineError path line e.message] := by
  rw [run_of_no_problems (by rw [read_eq]; exact h), read_eq, hr]

theorem rejected_of_problems (h : problems source ≠ []) : Rejected path options source := by
  have hread : (read source).problems ≠ [] := by rwa [read_eq]
  have hrun := run_of_problems path options hread
  rw [read_eq] at hrun
  exact {
    some_problem := h
    in_order := keepsNumber_problem?.pairwise source
    result := by rw [hrun, failed, Outcome.result, countErrors_lineErrors]
    diagnostics := by rw [hrun, failed]
    printed := by rw [hrun, failed]
    untouched := by rw [hrun, failed] }

theorem stopped_of_failure (h : problems source = []) {before after : List (Nat × Command)}
    {line : Nat} {command : Command} {r r' : Replay} {e : ReplayError}
    (hc : commands source = before ++ (line, command) :: after)
    (hb : replay before (Replay.start options) = (none, r))
    (hs : step line command r = (.error e, r')) : Stopped path options source line := by
  obtain ⟨hl, hbefore⟩ := commands_cutBefore hc
  obtain ⟨hreplay, hprinted⟩ := printed_of_failure after hb hs
  have hrun := run_of_stopped path h (by rw [hc]; exact hreplay)
  have hcut := run_of_replayed path (problems_cutBefore hl h) (by rw [hbefore]; exact hb)
  exact {
    no_problem := h
    first_failure := ⟨before, command, after, r, e, r', hc, hb, hs, by rw [hrun, failed],
      by rw [hrun, failed]⟩
    result := by rw [hrun]; rfl
    cut_succeeds := ⟨r.compartment, by rw [hcut]; rfl⟩
    cut_silent := by rw [hcut]
    printed := by rw [hrun, hcut, failed, hprinted] }

/-- A run rejects its text, or stops at the first command that fails, or carries out all. -/
theorem run_ends (path : String) (options : Options) (source : String) :
    Rejected path options source ∨ (∃ line, Stopped path options source line) ∨
      Completed path options source := by
  by_cases h : problems source = []
  · obtain ⟨r, hr⟩ | ⟨before, line, command, after, r, e, r', hc, hb, hs⟩ :=
      replay_cases (commands source) (Replay.start options)
    · have hrun := run_of_replayed path h hr
      exact .inr (.inr ⟨h, by rw [hr], ⟨r.compartment, by rw [hrun]; rfl⟩, by rw [hrun]⟩)
    · exact .inr (.inl ⟨line, stopped_of_failure h hc hb hs⟩)
  · exact .inl (rejected_of_problems h)

end Trace

end FlowTypes
