import FlowTypes.Proofs.Refusals
import FlowTypes.Proofs.Scripts

/-!
# What the set names of a trace stand for

Four commands give names to sets.  A declared set has a name of its own, and a function or a native
function gives names to the set of its `this` types, to its results and to its parameters.  These
three only take names that are free: they fail at the first one that is taken, and leave it as it is.
The command for a property takes any name, so that a trace may name the same property twice.  But the
name then stands for whatever set the property has by now, and the set that it stood for before has
no name any more.  A later line that uses the name talks about another set.

So a name keeps its set for as long as no property with another set is given that name.

## Main results

* `Declares`: the names that a step gives to sets, all of them free before; `declares_step`.
* `step_prop`: the command for a property gives one name to the set that the property has.
* `names_kept`: what a name stands for in every part of a trace that is replayed without an error.
* `names_moved`: a name can come to stand for another set.
-/

namespace FlowTypes.Trace

open Compartment

/-! ## The names that a step declares -/

/-- Why a declaration fails: a name is taken, or the compartment refuses what is declared. -/
def ReplayError.IsRefusal : ReplayError → Prop
  | .redeclared _ | .infer _ => True
  | .unknownSet _ | .unknownObject _ => False

/-- A step gives new names to sets from a replay on, and fails with an error of a certain kind.  A
name that was given before keeps its set, even if the step fails. -/
structure Declares {α : Type} (names : List String) (Fails : ReplayError → Prop) (a : Step α)
    (r : Replay) : Prop where
  /-- The names were free, and are taken now. -/
  taken : ∀ {x r'}, a r = (.ok x, r') → ∀ name ∈ names,
    r.set? name = none ∧ (r'.set? name).isSome = true
  /-- All other names are as before. -/
  others : ∀ {x r'}, a r = (.ok x, r') → ∀ name, name ∉ names → r'.set? name = r.set? name
  /-- A step that fails has not taken a set from its name. -/
  kept : ∀ {e r'}, a r = (.error e, r') → ∀ {name id}, r.set? name = some id →
    r'.set? name = some id
  fails : ∀ {e r'}, a r = (.error e, r') → Fails e

section Steps

variable {α β : Type} {a : Step α} {f : α → Step β} {names names' : List String}
  {Fails Fails' : ReplayError → Prop} {r r' : Replay}

theorem Declares.mono (h : Declares names Fails a r) (himp : ∀ e, Fails e → Fails' e) :
    Declares names Fails' a r :=
  ⟨h.taken, h.others, h.kept, fun hrun => himp _ (h.fails hrun)⟩

/-- What a step declares keeps every set at its name. -/
theorem Declares.keeps (h : Declares names Fails a r) {o : Except ReplayError α}
    (hrun : a r = (o, r')) {name : String} {id : SetId} (hbound : r.set? name = some id) :
    r'.set? name = some id := by
  cases o with
  | error e => exact h.kept hrun hbound
  | ok x =>
    have hother : name ∉ names := by
      intro hmem
      have hfree := (h.taken hrun name hmem).1
      rw [hbound] at hfree
      cases hfree
    rw [h.others hrun name hother, hbound]

/-- A step does not declare a name that is taken. -/
theorem Declares.fails_of_bound (h : Declares names Fails a r) {name : String} (hname : name ∈ names)
    {id : SetId} (hbound : r.set? name = some id) :
    ∃ e r', a r = (.error e, r') ∧ Fails e ∧ r'.set? name = some id := by
  rcases hrun : a r with ⟨e | x, r'⟩
  · exact ⟨e, r', rfl, h.fails hrun, h.kept hrun hbound⟩
  · have hfree := (h.taken hrun name hname).1
    rw [hbound] at hfree
    cases hfree

/-- One step after the other declares the names of both. -/
theorem Declares.bind (ha : Declares names Fails a r)
    (hf : ∀ x r', a r = (.ok x, r') → Declares names' Fails (f x) r') :
    Declares (names ++ names') Fails (a >>= f) r := by
  have hbind := run_bind_step a f r
  rcases hrun₁ : a r with ⟨e | y, r₁⟩
  · -- The second step is left out.
    rw [hrun₁] at hbind
    constructor
    · intro x r' hrun
      rw [hbind] at hrun
      cases hrun
    · intro x r' hrun
      rw [hbind] at hrun
      cases hrun
    · intro e' r' hrun
      rw [hbind] at hrun
      cases hrun
      exact ha.kept hrun₁
    · intro e' r' hrun
      rw [hbind] at hrun
      cases hrun
      exact ha.fails hrun₁
  · rw [hrun₁] at hbind
    have hsecond := hf y r₁ hrun₁
    constructor
    · intro x r' hrun name hname
      rw [hbind] at hrun
      by_cases hfirst : name ∈ names
      · obtain ⟨hfree, htaken⟩ := ha.taken hrun₁ name hfirst
        obtain ⟨id, hid⟩ := Option.isSome_iff_exists.mp htaken
        exact ⟨hfree, by rw [hsecond.keeps hrun hid]; rfl⟩
      · rw [← ha.others hrun₁ name hfirst]
        exact hsecond.taken hrun name ((List.mem_append.mp hname).resolve_left hfirst)
    · intro x r' hrun name hname
      rw [hbind] at hrun
      have hnot := fun hmem => hname (List.mem_append.mpr hmem)
      rw [hsecond.others hrun name fun hmem => hnot (.inr hmem)]
      exact ha.others hrun₁ name fun hmem => hnot (.inl hmem)
    · intro e' r' hrun name id hbound
      rw [hbind] at hrun
      exact hsecond.kept hrun (ha.keeps hrun₁ hbound)
    · intro e' r' hrun
      rw [hbind] at hrun
      exact hsecond.fails hrun

/-- A step without names of its own, in front of one that declares some. -/
theorem Declares.then (ha : Declares [] Fails a r)
    (hf : ∀ x r', a r = (.ok x, r') → Declares names Fails (f x) r') :
    Declares names Fails (a >>= f) r :=
  ha.bind hf

/-- A step that keeps the table of names. -/
theorem Declares.of_sets (hsets : (a r).2.sets = r.sets)
    (hfails : ∀ {e r'}, a r = (.error e, r') → Fails e) : Declares [] Fails a r where
  taken _ _ hname := absurd hname List.not_mem_nil
  others hrun name _ := by
    rw [hrun] at hsets
    rw [Replay.set?, Replay.set?, hsets]
  kept hrun name id hbound := by
    rw [hrun] at hsets
    rwa [Replay.set?, hsets]
  fails := hfails

theorem declares_pure (x : α) : Declares [] Fails (pure x : Step α) r :=
  .of_sets rfl fun hrun => by cases hrun

theorem declares_throw {e : ReplayError} (he : Fails e) : Declares [] Fails (throw e : Step α) r :=
  .of_sets rfl fun hrun => by
    cases hrun
    exact he

theorem declares_get : Declares [] Fails (get : Step Replay) r :=
  .of_sets rfl fun hrun => by cases hrun

theorem declares_print (line : String) : Declares [] Fails (print line) r :=
  .of_sets rfl fun hrun => by cases hrun

theorem act_cases (action : Action α) (r : Replay) :
    (∃ x c, action r.compartment = (.ok x, c) ∧
        act action r = (.ok x, { r with compartment := c })) ∨
      ∃ e c, action r.compartment = (.error e, c) ∧
        act action r = (.error (.infer e), { r with compartment := c }) := by
  rw [act]
  rcases action r.compartment with ⟨e | x, c⟩
  · exact .inr ⟨e, c, rfl, rfl⟩
  · exact .inl ⟨x, c, rfl, rfl⟩

/-- Whatever is done with the compartment, the names stay. -/
theorem declares_act (hfails : ∀ e, Fails (.infer e)) (action : Action α) :
    Declares [] Fails (act action) r := by
  obtain ⟨x, c, -, hrun⟩ | ⟨e, c, -, hrun⟩ := act_cases action r
  · refine .of_sets (by rw [hrun]) fun hrun' => ?_
    rw [hrun] at hrun'
    cases hrun'
  · refine .of_sets (by rw [hrun]) fun hrun' => ?_
    rw [hrun] at hrun'
    cases hrun'
    exact hfails e

theorem declares_mapM {γ : Type} {g : γ → Step α} (hg : ∀ x r, Declares [] Fails (g x) r)
    (xs : List γ) (r : Replay) : Declares [] Fails (xs.mapM g) r := by
  induction xs generalizing r with
  | nil => exact declares_pure _
  | cons x xs ih =>
    rw [List.mapM_cons]
    exact (hg x r).then fun _ _ _ => (ih _).then fun _ _ _ => declares_pure _

theorem declares_option_mapM {γ : Type} {g : γ → Step α} (hg : ∀ x r, Declares [] Fails (g x) r)
    (x : Option γ) (r : Replay) : Declares [] Fails (x.mapM g) r := by
  cases x with
  | none => exact declares_pure _
  | some x => exact (hg x r).then fun _ _ _ => declares_pure _

theorem declares_forM {γ : Type} {g : γ → Step PUnit} (hg : ∀ x r, Declares [] Fails (g x) r)
    (xs : List γ) (r : Replay) : Declares [] Fails (xs.forM g) r := by
  induction xs generalizing r with
  | nil => exact declares_pure _
  | cons x xs ih => exact (hg x r).then fun _ _ _ => ih _

/-! ## Looking names up -/

theorem declares_findSet (name : String) (hfails : Fails (.unknownSet name)) :
    Declares [] Fails (findSet name) r := by
  refine declares_get.then fun r₁ _ _ => ?_
  cases r₁.set? name with
  | none => exact declares_throw hfails
  | some id => exact declares_pure id

/-- A name is looked up in the table, and nothing else happens. -/
theorem findSet_of_bound {name : String} {id : SetId} (h : r.set? name = some id) :
    findSet name r = (.ok id, r) := by
  have hget : (get : Step Replay) r = (.ok r, r) := rfl
  unfold findSet
  rw [run_bind_step, hget]
  dsimp only
  rw [h]
  rfl

theorem declares_findObject (name : String) (hinfer : ∀ e, Fails (.infer e))
    (hfails : Fails (.unknownObject name)) : Declares [] Fails (findObject name) r := by
  refine declares_get.then fun r₁ _ _ => ?_
  split
  · exact declares_pure _
  · exact declares_pure _
  · exact declares_act hinfer _
  · exact declares_throw hfails

/-! ## Declarations -/

theorem run_declareSet (name : String) (id : SetId) (r : Replay) : declareSet name id r =
    if (r.set? name).isSome then (.error (.redeclared name), r)
    else (.ok (), r.nameSet name id) := by
  show ((get : Step Replay) >>= _) r = _
  rw [run_bind_step]
  show (if (r.set? name).isSome = true then _ else _ : Step Unit) r = _
  split <;> rfl

theorem declares_declareSet (name : String) (id : SetId) (hfails : Fails (.redeclared name)) :
    Declares [name] Fails (declareSet name id) r := by
  have hdeclare := run_declareSet name id r
  by_cases htaken : (r.set? name).isSome = true
  · rw [if_pos htaken] at hdeclare
    constructor <;> intro x r' hrun <;> rw [hdeclare] at hrun <;> cases hrun
    · exact fun hbound => hbound
    · exact hfails
  · rw [if_neg htaken] at hdeclare
    constructor <;> intro x r' hrun <;> rw [hdeclare] at hrun <;> cases hrun
    · intro name' hname
      obtain rfl := List.mem_singleton.mp hname
      exact ⟨Option.not_isSome_iff_eq_none.mp htaken, by rw [Replay.set?_nameSet, if_pos rfl]; rfl⟩
    · intro name' hname
      rw [Replay.set?_nameSet, if_neg fun heq => hname (List.mem_singleton.mpr heq.symm)]

theorem declares_declareObject (name : String) (isFunction : Bool) (proto : Option ObjectId)
    (hinfer : ∀ e, Fails (.infer e)) (hfails : Fails (.redeclared name)) :
    Declares [] Fails (declareObject name isFunction proto) r := by
  refine declares_get.then fun r₁ r' _ => ?_
  split
  · exact declares_throw hfails
  · refine (declares_act hinfer _).then fun id r₂ _ => ?_
    exact (Declares.of_sets rfl fun hrun => by cases hrun).then fun _ _ _ => declares_pure id

end Steps

/-! ## Functions -/

/-- The name of the set of a parameter. -/
def argName (name : String) (i : Nat) : String :=
  name ++ ".arg" ++ String.ofList (Text.decimal i)

/-- The names of the sets that every function has. -/
def functionNames (name : String) : List String := [name ++ ".this", name ++ ".return"]

theorem declares_declareFunction (name : String) (r : Replay) :
    Declares (functionNames name) ReplayError.IsRefusal (declareFunction name) r := by
  refine (declares_act (fun _ => trivial) _).then fun proto _ _ => ?_
  refine (declares_declareObject _ _ _ (fun _ => trivial) trivial).then fun id _ _ => ?_
  refine (declares_act (fun _ => trivial) _).then fun f _ _ => ?_
  refine (declares_declareSet (name ++ ".this") _ trivial).bind fun _ _ _ => ?_
  exact (declares_declareSet (name ++ ".return") _ trivial).bind fun _ _ _ => declares_pure id

theorem declares_declareParameters (name : String) (i : Nat) (ps : List SetId) (r : Replay) :
    Declares ((List.range' i ps.length).map (argName name)) ReplayError.IsRefusal
      (declareParameters name i ps) r := by
  induction ps generalizing i r with
  | nil => exact declares_pure _
  | cons p ps ih =>
    rw [List.length_cons, List.range'_succ, List.map_cons]
    exact (declares_declareSet (argName name i) p trivial).bind fun _ _ _ => ih (i + 1) _

/-- A function gets as many parameters as are asked for. -/
theorem length_parameters {c c' c'' : Compartment} {id : ObjectId} {script : ScriptId}
    {parameters : Nat} {f : FunctionInfo}
    (hset : setFunctionScript id script parameters c = (.ok (), c'))
    (hread : functionInfo id c' = (.ok f, c'')) : f.parameters.length = parameters := by
  cases hkind : (c.object id).isFunction with
  | false => exact absurd (setFunctionScript_of_none hkind script parameters) (ne_error_of_ok hset)
  | true =>
    obtain ⟨-, hrun⟩ | ⟨-, sets, c₁, hlength, hrun⟩ :=
      setFunctionScript_of_some hkind script parameters
    · exact absurd hrun (ne_error_of_ok hset)
    · obtain rfl : c' = _ := congrArg Prod.snd (hset.symm.trans hrun)
      rw [functionInfo_eq, function_changeFunction] at hread
      cases hfunction : (c₁.object id).function with
      | none =>
        rw [hfunction] at hread
        cases hread
      | some g =>
        rw [hfunction] at hread
        cases hread
        exact hlength

/-- A script of a function declares its parameters. -/
theorem declares_parameters (name : String) (id : ObjectId) (script : ScriptId) (parameters : Nat)
    (r : Replay) :
    Declares ((List.range parameters).map (argName name)) ReplayError.IsRefusal (do
      act (setFunctionScript id script parameters)
      let f ← act (functionInfo id)
      declareParameters name 0 f.parameters) r := by
  refine (declares_act (fun _ => trivial) _).then fun _ r₁ hset => ?_
  refine (declares_act (fun _ => trivial) _).then fun f r₂ hread => ?_
  have hlength : f.parameters.length = parameters := by
    obtain ⟨x, c, hset', hrun⟩ | ⟨e, c, -, hrun⟩ :=
      act_cases (setFunctionScript id script parameters) r
    · rw [hrun] at hset
      cases hset
      obtain ⟨x, c', hread', hrun⟩ | ⟨e, c, -, hrun⟩ :=
        act_cases (functionInfo id) { r with compartment := c }
      · rw [hrun] at hread
        cases hread
        exact length_parameters hset' hread'
      · rw [hrun] at hread
        cases hread
    · rw [hrun] at hset
      cases hset
  rw [List.range_eq_range', ← hlength]
  exact declares_declareParameters name 0 f.parameters r₂

/-! ## Commands -/

/-- The names that a command gives to sets of its own. -/
def Command.declares : Command → List String
  | .set name => [name]
  | .function name script parameters =>
    functionNames name ++
      if script.isSome then (List.range parameters).map (argName name) else []
  | .native name _ => functionNames name
  | _ => []

/-- A command that declares sets only fails because a name is taken or the compartment refuses what
is declared. -/
theorem declares_declaring (line : Nat) {command : Command} (h : command.declares ≠ [])
    (r : Replay) : Declares command.declares ReplayError.IsRefusal (step line command) r := by
  cases command with
  | set name =>
    exact (declares_act (fun _ => trivial) _).then fun id _ _ => declares_declareSet name id trivial
  | function name script parameters =>
    refine (declares_declareFunction name r).bind fun id r' _ => ?_
    cases script with
    | none => exact declares_pure _
    | some script => exact declares_parameters name id ⟨script⟩ parameters r'
  | native name isGeneric =>
    have hdeclares := (declares_declareFunction name r).bind fun id _ _ =>
      declares_act (fun _ => trivial) (setNativeHandler id none isGeneric)
    rwa [List.append_nil] at hdeclares
  | _ => exact absurd rfl h

/-- A command that gives no names leaves all names as they are. -/
theorem nameless_step (line : Nat) {command : Command} (h : command.declares = [])
    (hprop : ∀ object key name own, command ≠ .prop object key name own) (r : Replay) :
    Declares [] (fun _ => True) (step line command) r := by
  have hset : ∀ name r, Declares [] (fun _ => True) (findSet name) r :=
    fun name r => declares_findSet name trivial
  have hobject : ∀ name r, Declares [] (fun _ => True) (findObject name) r :=
    fun name r => declares_findObject name (fun _ => trivial) trivial
  have hact : ∀ {α : Type} (a : Action α) r, Declares [] (fun _ => True) (act a) r :=
    fun a r => declares_act (fun _ => trivial) a
  have hdeclare : ∀ name proto r,
      Declares [] (fun _ => True) (discard (declareObject name false proto)) r :=
    fun name proto r => (declares_declareObject name false proto (fun _ => trivial) trivial).then
      fun _ _ _ => declares_pure _
  have htype : ∀ t r, Declares [] (fun _ => True) (findType t) r := by
    intro t r
    cases t with
    | plain t => exact declares_pure t
    | object name => exact (hobject name r).then fun _ _ _ => declares_pure _
  have hvalue : ∀ l r, Declares [] (fun _ => True) (findValue l) r := by
    intro l r
    cases l with
    | object name => exact (hobject name r).then fun _ _ _ => declares_pure _
    | _ => exact declares_pure _
  cases command with
  | set | function | native => simp [Command.declares, functionNames] at h
  | object name proto =>
    exact (declares_option_mapM hobject proto r).then fun _ _ _ => hdeclare _ _ _
  | array name => exact (hact _ _).then fun _ _ _ => hdeclare _ _ _
  | add target type =>
    exact (hset _ _).then fun _ _ _ => (htype _ _).then fun _ _ _ => hact _ _
  | subset source target | filter source target mode =>
    exact (hset _ _).then fun _ _ _ => (hset _ _).then fun _ _ _ => hact _ _
  | getProp objects key target | setProp objects key target =>
    exact (hset _ _).then fun _ _ _ => (hset _ _).then fun _ _ _ => hact _ _
  | getElem objects indexes target | setElem objects indexes target =>
    exact (hset _ _).then fun _ _ _ => (hset _ _).then fun _ _ _ =>
      (hset _ _).then fun _ _ _ => hact _ _
  | arith lhs rhs target op =>
    exact (hset _ _).then fun _ _ _ => (declares_option_mapM hset rhs _).then fun _ _ _ =>
      (hset _ _).then fun _ _ _ => hact _ _
  | call isNew callee arguments target =>
    exact (hset _ _).then fun _ _ _ => (declares_mapM hset arguments _).then fun _ _ _ =>
      (declares_option_mapM hset target _).then fun _ _ _ => (hact _ _).then fun _ _ _ => hact _ _
  | prop object key name own => exact absurd rfl (hprop object key name own)
  | assign object key value =>
    exact (hobject _ _).then fun _ _ _ => (hvalue _ _).then fun _ _ _ => hact _ _
  | push script offset index type => exact (htype _ _).then fun _ _ _ => hact _ _
  | unknown object | notPacked object dense => exact (hobject _ _).then fun _ _ _ => hact _ _
  | tag name script | kind name script | nonEmpty name script =>
    exact (hset _ _).then fun _ _ _ => (hact _ _).then fun _ _ _ => declares_print _
  | print name =>
    exact (hset _ _).then fun _ _ _ => declares_get.then fun _ _ _ => declares_print _
  | recompile => exact (hact _ _).then fun _ _ _ => declares_forM (fun _ _ => declares_print _) _ _

/-- What a command declares; only the one for a property may replace what a name stands for. -/
theorem declares_step (line : Nat) {command : Command}
    (hprop : ∀ object key name own, command ≠ .prop object key name own) (r : Replay) :
    Declares command.declares (fun _ => True) (step line command) r := by
  by_cases h : command.declares = []
  · rw [h]
    exact nameless_step line h hprop r
  · exact (declares_declaring line h r).mono fun _ _ => trivial

/-- The command for a property gives one name to the set of the property, whatever the name stood for
before. -/
theorem step_prop {line : Nat} {object key name : String} {own : Bool} {r r' : Replay}
    (hrun : step line (.prop object key name own) r = (.ok (), r')) :
    ∃ o r₁ types c, findObject object r = (.ok o, r₁) ∧
      getProperty pass o (.ofName key) own r₁.compartment = (.ok types, c) ∧
      r' = ({ r₁ with compartment := c } : Replay).nameSet name types := by
  have hfind := run_bind_step (findObject object)
    (fun o => act (getProperty pass o (.ofName key) own) >>= bindSet name) r
  rw [show step line (.prop object key name own) r = _ from hfind] at hrun
  rcases hobject : findObject object r with ⟨e | o, r₁⟩
  · rw [hobject] at hrun
    cases hrun
  · rw [hobject] at hrun
    dsimp only at hrun
    rw [run_bind_step] at hrun
    obtain ⟨types, c, hproperty, hact⟩ | ⟨e, c, -, hact⟩ :=
      act_cases (getProperty pass o (.ofName key) own) r₁
    · rw [hact] at hrun
      cases hrun
      exact ⟨o, r₁, types, c, rfl, hproperty, rfl⟩
    · rw [hact] at hrun
      cases hrun

/-! ## Traces -/

/-- A command for a property gives the name to another set than this one. -/
def Retargets (commands : List (Nat × Command)) (r : Replay) (name : String) (id : SetId) : Prop :=
  ∃ before line object key own after r₁ o r₂ types c,
    commands = before ++ (line, .prop object key name own) :: after ∧
    replay before r = (none, r₁) ∧ findObject object r₁ = (.ok o, r₂) ∧
    getProperty pass o (.ofName key) own r₂.compartment = (.ok types, c) ∧ types ≠ id

theorem Retargets.cons {commands : List (Nat × Command)} {r r₁ : Replay} {name : String}
    {id : SetId} (h : Retargets commands r₁ name id) {line : Nat} {command : Command}
    (hstep : step line command r = (.ok (), r₁)) :
    Retargets ((line, command) :: commands) r name id := by
  obtain ⟨before, line', object, key, own, after, r₂, o, r₃, types, c, rfl, hbefore, hrest⟩ := h
  refine ⟨(line, command) :: before, line', object, key, own, after, r₂, o, r₃, types, c, rfl, ?_,
    hrest⟩
  rw [replay, hstep]
  exact hbefore

/-- One command keeps a name at its set, unless it gives the name to another set. -/
theorem set?_of_step {line : Nat} {command : Command} {r r' : Replay} {name : String} {id : SetId}
    (hstep : step line command r = (.ok (), r')) (hbound : r.set? name = some id)
    (commands : List (Nat × Command)) :
    r'.set? name = some id ∨ Retargets ((line, command) :: commands) r name id := by
  by_cases hprop : ∀ object key name own, command ≠ .prop object key name own
  · exact .inl ((declares_step line hprop r).keeps hstep hbound)
  · obtain ⟨object, key, name', own, rfl⟩ : ∃ object key name' own,
        command = .prop object key name' own := by
      by_contra hnone
      exact hprop fun object key name' own heq => hnone ⟨object, key, name', own, heq⟩
    obtain ⟨o, r₁, types, c, hobject, hproperty, rfl⟩ := step_prop hstep
    have hfind : Declares [] (fun _ => True) (findObject object) r :=
      declares_findObject object (fun _ => trivial) trivial
    have hkept : r₁.set? name = some id := hfind.keeps hobject hbound
    rw [Replay.set?_nameSet]
    by_cases hname : name' = name
    · subst hname
      rw [if_pos rfl]
      by_cases hsame : types = id
      · exact .inl (congrArg some hsame)
      · exact .inr ⟨[], line, object, key, own, commands, r, o, r₁, types, c, rfl, rfl, hobject,
          hproperty, hsame⟩
    · rw [if_neg hname]
      exact .inl hkept

/-- Commands keep a name at its set, unless one of them gives the name to another set. -/
theorem set?_of_replay {commands : List (Nat × Command)} {r r' : Replay} {name : String}
    {id : SetId} (hrun : replay commands r = (none, r')) (hbound : r.set? name = some id) :
    r'.set? name = some id ∨ Retargets commands r name id := by
  induction commands generalizing r with
  | nil =>
    cases hrun
    exact .inl hbound
  | cons first commands ih =>
    obtain ⟨line, command⟩ := first
    rw [replay] at hrun
    rcases hstep : step line command r with ⟨e | x, r₁⟩
    · rw [hstep] at hrun
      cases hrun
    · rw [hstep] at hrun
      obtain hkept | hmoved := set?_of_step hstep hbound commands
      · exact (ih hrun hkept).imp_right fun hlater => hlater.cons hstep
      · exact .inr hmoved

/-- In every part of a trace that is replayed without an error, a name that was given to a set is
looked up as that set for as long as no property with another set is given the name.  No other
command takes a name from its set: one that would declare it fails, and leaves it as it is. -/
theorem names_kept {options : Options} {first : List (Nat × Command)} {r : Replay}
    (hfirst : replay first (.start options) = (none, r)) {name : String} {id : SetId}
    (hbound : r.set? name = some id) :
    (∀ later r', replay (first ++ later) (.start options) = (none, r') →
      findSet name r' = (.ok id, r') ∨ Retargets later r name id) ∧
    (∀ line command, name ∈ command.declares →
      ∃ e r', step line command r = (.error e, r') ∧ e.IsRefusal ∧ r'.set? name = some id) ∧
    ∀ line, (step line (.set name) r).1 = .error (.redeclared name) := by
  refine ⟨?_, ?_, ?_⟩
  · intro later r' hrun
    rw [replay_append, hfirst] at hrun
    exact (set?_of_replay hrun hbound).imp_left findSet_of_bound
  · intro line command hdeclares
    have hsome : command.declares ≠ [] := List.ne_nil_of_mem hdeclares
    exact (declares_declaring line hsome r).fails_of_bound hdeclares hbound
  · intro line
    obtain ⟨types, c, -, hact⟩ | ⟨e, c, hnone, -⟩ := act_cases newSet r
    · have hset : step line (.set name) r = declareSet name types { r with compartment := c } := by
        show ((act newSet : Step SetId) >>= declareSet name) r = _
        rw [run_bind_step, hact]
      have hbound' : ({ r with compartment := c } : Replay).set? name = some id := hbound
      rw [hset, run_declareSet, hbound']
      rfl
    · cases hnone

/-- A function with a parameter, and what is done with it. -/
def parameterTrace : List (Nat × Command) :=
  [(1, .function "f" (some 1) 1), (2, .set "s"), (3, .subset "s" "f.arg0")]

theorem names_kept_parameter :
    ∃ id, (findSet "f.arg0" (replay parameterTrace (.start {})).2).1 = .ok id ∧
      (step 4 (.set "f.arg0") (replay (parameterTrace.take 1) (.start {})).2).1 =
        .error (.redeclared "f.arg0") := by
  have hfirst : replay (parameterTrace.take 1) (.start {}) =
      (none, (replay (parameterTrace.take 1) (.start {})).2) :=
    Prod.ext (by decide +kernel) rfl
  have hall : replay (parameterTrace.take 1 ++ parameterTrace.drop 1) (.start {}) =
      (none, (replay parameterTrace (.start {})).2) :=
    Prod.ext (by decide +kernel) rfl
  obtain ⟨id, hbound⟩ := Option.isSome_iff_exists.mp
    (show ((replay (parameterTrace.take 1) (.start {})).2.set? "f.arg0").isSome = true by
      decide +kernel)
  obtain ⟨hkept, -, hredeclared⟩ := names_kept hfirst hbound
  refine ⟨id, ?_, hredeclared 4⟩
  obtain hfound | ⟨before, line, object, key, own, after, r₁, o, r₂, types, c, hsplit, -⟩ :=
    hkept _ _ hall
  · rw [hfound]
  · have hmem : (line, Command.prop object key "f.arg0" own) ∈ parameterTrace.drop 1 := by
      rw [hsplit]
      exact List.mem_append_right _ List.mem_cons_self
    simp [parameterTrace] at hmem

/-- A name is given to one property of an object, and then to another one. -/
def movedTrace : String := "object o\nprop o p x\nprop o q x\n"

/-- A name can come to stand for another set, and nothing is reported. -/
theorem names_moved :
    let first := replay ((read movedTrace).commands.take 2) (.start {})
    let all := replay (read movedTrace).commands (.start {})
    first.1 = none ∧ all.1 = none ∧ (read movedTrace).problems = [] ∧
      first.2.set? "x" = some ⟨1⟩ ∧ all.2.set? "x" = some ⟨3⟩ := by
  decide +kernel

end FlowTypes.Trace
