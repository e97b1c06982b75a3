import FlowTypes.Proofs.Reasons

/-!
# The changes that everything is made of

Every request, every reaction of a constraint and every pass changes a compartment by a sequence of
a few single changes.  A single change says under which conditions it is made, and so it carries
what its invariants need: a type is added only if it is new, a property is made only if it is
missing, a prototype is set only if there is none.

Why a change is made is said along with it, in terms of a scope, so that what a compartment holds can
be traced back to what the host asked for.

## Main results

* `Change`: one single change; `Did`: a sequence of them.
* `Change.grows`: a change takes nothing back.
* `notifyKind_induction`: what one constraint may be told keeps, all of them may be told.
-/

namespace FlowTypes

/-- The script that relies on a freeze constraint, unless its recompilation has been asked for. -/
def Constraint.heldFor? : Constraint → Option ScriptId
  | .freezeTag script _ false => some script
  | .freezeKind script _ false => some script
  | .freezeEmpty script false => some script
  | .freezeElementKind script _ false => some script
  | _ => none

/-- The constraint holds an answer and carries no types. -/
def Constraint.isFreeze : Constraint → Bool
  | .freezeTag .. | .freezeKind .. | .freezeEmpty .. | .freezeElementKind .. => true
  | _ => false

theorem Constraint.isFreeze_of_heldFor {k : Constraint} {r : ScriptId} (h : k.heldFor? = some r) :
    k.isFreeze = true := by
  cases k <;> first | rfl | cases h

theorem Constraint.Evolves.isFreeze {k k' : Constraint} (h : k.Evolves k') :
    k'.isFreeze = k.isFreeze := by
  have hbare : ∀ k : Constraint, k.bare.isFreeze = k.isFreeze := fun k => by cases k <;> rfl
  rw [← hbare, h.bare, hbare]

/-- What a freeze constraint becomes is the same, or spent. -/
theorem Constraint.Evolves.of_freeze {k k' : Constraint} (h : k.Evolves k')
    (hk : k.isFreeze = true) : k' = k ∨ k' = k.spend := by
  obtain ⟨hbare, -, hspent⟩ := h
  cases k <;> cases hk <;> cases k' <;> cases hbare
  all_goals
    rename_i spent spent'
    cases spent' with
    | true => exact .inr rfl
    | false =>
      cases spent with
      | true => exact absurd (hspent rfl) Bool.false_ne_true
      | false => exact .inl rfl

/-- A constraint that holds an answer has always held it. -/
theorem Constraint.Evolves.eq_of_held {k k' : Constraint} {r : ScriptId} (h : k.Evolves k')
    (hheld : k'.heldFor? = some r) : k = k' := by
  have hfreeze : k.isFreeze = true := h.isFreeze ▸ Constraint.isFreeze_of_heldFor hheld
  obtain rfl | rfl := h.of_freeze hfreeze
  · rfl
  · -- What is spent holds nothing.
    cases k <;> cases hfreeze <;> cases hheld

/-- An event that may be written down at any time, since nothing in the tables goes with it. -/
def Event.isQuiet : Event → Bool
  | .typeAdded .. | .constraintAdded .. | .objectCreated .. | .propertyCreated ..
  | .prototypeLinked .. | .fired .. | .recompileQueued _ (.frozen _) | .recompiled _ => false
  | _ => true

/-- The event says something about deliveries. -/
def Event.isDelivery : Event → Bool
  | .typeAdded .. | .constraintAdded .. | .fired .. => true
  | _ => false

theorem Event.not_isDelivery_of_isQuiet {e : Event} (h : e.isQuiet = true) :
    e.isDelivery = false := by
  cases e <;> first | rfl | cases h

/-- The event adds to the scripts that are to be compiled again, or empties their queue. -/
def Event.requeues : Event → Bool
  | .recompileQueued .. | .recompiled _ => true
  | _ => false

/-- The scripts that a journal tells were queued and have not been handed out, newest first. -/
def queuedBy : List Event → List ScriptId
  | [] => []
  | .recompileQueued script _ :: journal => script :: queuedBy journal
  | .recompiled _ :: _ => []
  | _ :: journal => queuedBy journal

theorem queuedBy_append {es : List Event} (h : ∀ e ∈ es, e.requeues = false) (js : List Event) :
    queuedBy (es ++ js) = queuedBy js := by
  induction es with
  | nil => rfl
  | cons e es ih =>
    have he := h e List.mem_cons_self
    have ih := ih fun e he => h e (List.mem_cons_of_mem _ he)
    cases e <;> first | exact ih | cases he

/-- The event says that an object lost what was known about it. -/
def Event.marks (id : ObjectId) : Event → Prop
  | .markedUnknown o | .markedNotPacked o _ => o = id
  | _ => False

/-- Nobody relies on the object being an array without holes. -/
def ObjectInfo.isLoose (o : ObjectInfo) : Bool := !o.isDense && !o.isPacked

/-- The object loses what is known about it, and is otherwise the same. -/
structure ObjectInfo.Demoted (o o' : ObjectInfo) : Prop where
  name : o'.name = o.name
  properties : o'.properties = o.properties
  proto : o'.proto = o.proto
  instances : o'.instances = o.instances
  newObject : o'.newObject = o.newObject
  function : o'.function = o.function
  unknown : o.isUnknown = true → o'.isUnknown = true
  dense : o'.isDense = true → o.isDense = true
  packed : o'.isPacked = true → o.isPacked = true
  packedDense : o'.isPacked = true → o'.isDense = o.isDense
  /-- What becomes unknown is not an array without holes. -/
  loose : o'.isUnknown = true → o.isUnknown = true ∨ o'.isLoose = true

theorem ObjectInfo.Demoted.grows {o o' : ObjectInfo} (h : o.Demoted o') : o.Grows o' where
  properties := h.properties ▸ List.prefix_rfl
  proto _ hp := h.proto.trans hp
  instances := h.instances ▸ List.prefix_rfl
  newObject _ hn := h.newObject.trans hn
  unknown hu := ⟨h.unknown hu, h.properties⟩
  function f hf := ⟨f, h.function.trans hf, FunctionInfo.Grows.refl f⟩

/-- Nobody relies on it again. -/
theorem ObjectInfo.Demoted.isLoose {o o' : ObjectInfo} (h : o.Demoted o')
    (hloose : o.isLoose = true) : o'.isLoose = true := by
  have hdense := h.dense
  have hpacked := h.packed
  simp only [ObjectInfo.isLoose, Bool.and_eq_true, Bool.not_eq_true'] at hloose ⊢
  simp_all

namespace Compartment

/-! ## States after a change -/

variable (c : Compartment)

/-- One more type for a set, which its listeners have to hear of. -/
def insertType (target : SetId) (t : Ty) : Compartment :=
  ((c.changeSet target (·.insert t)).record (.typeAdded target t)).enqueue
    ((c.set target).constraints.map fun id => ⟨id, target, t⟩)

/-- One more constraint on a set, before it hears of anything. -/
def attach (source : SetId) (k : Constraint) (callExisting : Bool) : Compartment :=
  { c.changeSet source (·.listen ⟨c.constraints.size⟩) with
      constraints := c.constraints.push k }.record
    (.constraintAdded source ⟨c.constraints.size⟩ callExisting)

/-- One more constraint on a set. -/
def register (source : SetId) (k : Constraint) (callExisting : Bool) : Compartment :=
  if callExisting then
    (c.attach source k true).enqueue
      ((c.set source).types.map fun t => ⟨⟨c.constraints.size⟩, source, t⟩)
  else c.attach source k false

/-- One more subset edge, with its constraint. -/
def addEdge (source target : SetId) : Compartment :=
  (c.changeSet source (·.addTarget target)).register source (.subset target) true

/-- An element access is wired up: from now on the shared property of the elements is accessed. -/
def wireUp (id : ConstraintId) (objects : SetId) (k : Constraint) : Compartment :=
  (c.changeConstraint id Constraint.wire).register objects k true

/-- The next pending type is taken off the worklist, for its constraint to hear of. -/
def pop (work : Work) (rest : Worklist) : Compartment :=
  { c with worklist := rest }.record (.fired work)

def pushSet : Compartment := { c with sets := c.sets.push {} }

/-- One more object, without a prototype. -/
def pushObject (name : String) (function : Option FunctionInfo) : Compartment :=
  { c with objects := c.objects.push { name, function } }.record
    (.objectCreated ⟨c.objects.size⟩)

/-- The property that comes into being next, with the two sets that come next. -/
def nextProperty (key : Key) : Property := ⟨key, ⟨c.sets.size⟩, ⟨c.sets.size + 1⟩⟩

/-- One more property of an object, with its two sets. -/
def pushProperty (owner : ObjectId) (key : Key) : Compartment :=
  (c.pushSet.pushSet.changeObject owner (·.addProperty (c.nextProperty key))).record
    (.propertyCreated owner (c.nextProperty key))

/-- The object is an array without holes from now on. -/
def classify (id : ObjectId) : Compartment :=
  c.changeObject id fun o => { o with isDense := true, isPacked := true }

/-! ## Conditions of a change -/

/-- A later record of a function. -/
structure Retooled (sc : Scope) (id : ObjectId) (f f' : FunctionInfo) : Prop where
  grows : f.Grows f'
  valid : f'.Valid c.extent
  prototypeObject : ∀ p, f'.prototypeObject = some p →
    f.prototypeObject = some p ∨ c.objectName p = c.objectName id ++ ":prototype"
  kept : sc.choice ∨ f'.script = f.script ∧ f'.handler = f.handler
  handler : ∀ h, f'.handler = some h → f.handler = some h ∨ sc.handler c.extent h

/-- It was written down that the object loses what is known about it, and no delivery since. -/
def JustMarked (id : ObjectId) : Prop :=
  ∃ es e before, c.journal = es ++ e :: before ∧ e.marks id ∧ ∀ e' ∈ es, e'.isDelivery = false

/-- The queue of scripts is the one that the journal tells of. -/
def Tallied : Prop := c.queued = queuedBy c.journal

/-- The name of the object that an initializer makes. -/
def initializerName (code : Location) (isArray : Bool) : String :=
  scopedName (some code.script)
    (Location.offsetText code.offset ++ if isArray then ":Array" else ":Object")

/-- A change that leaves the sets, the constraints, the objects and the sites alone, and the pending
types too. -/
structure Aside (c' : Compartment) : Prop where
  sets : c'.sets = c.sets
  constraints : c'.constraints = c.constraints
  objects : c'.objects = c.objects
  sites : c'.sites = c.sites
  builtins : c'.builtins = c.builtins
  pending : c'.worklist.pending = c.worklist.pending
  monitored : ∀ code ∈ c.monitored, code ∈ c'.monitored
  journal : ∃ es, c'.journal = es ++ c.journal ∧ ∀ e ∈ es, e.isQuiet = true
  tallied : c.Tallied → c'.Tallied
  initializers : ∀ i ∈ c'.initializers, i ∈ c.initializers ∨
    i.2.In c.extent ∧ c.objectName i.2 = initializerName i.1.1 i.1.2
  scripts : ∀ s ∈ c'.scripts, s ∈ c.scripts ∨ s.2.Valid c.extent
  slotsWithin : c.stack.size ≤ c'.stack.size
  representatives : ∀ n ∈ c'.stack.representatives,
    n ∈ c.stack.representatives ∨ n.In c'.extent
  slots : ∀ s ∈ c'.stack.slots, s ∈ c.stack.slots ∨ s.Valid c'.extent
  slotCount : c.stack.slots.size = c.stack.size → c'.stack.slots.size = c'.stack.size

/-! ## Changes -/

/-- A change of what flows: types join sets, constraints begin to listen, pending types come and
go. -/
inductive Traffic (sc : Scope) : Compartment → Prop
  /-- A type joins a set. -/
  | insert {target : SetId} {t : Ty} (htarget : target.In c.extent) (ht : t.In c.extent)
      (hnew : (c.set target).has t = false) (hwarrant : c.Warranted sc target t) :
      Traffic sc (c.insertType target t)
  /-- The host has a constraint registered, or a pass has what a callee returns filtered. -/
  | register {source : SetId} {k : Constraint} {callExisting : Bool}
      (hasked : sc.grant.asks source k ∨ sc.passes ∧ c.Calls) (hsource : source.In c.extent)
      (hk : k.Valid c.extent)
      (hregular : (callExisting = true ∧ k.isWired = false ∨ k.isFreeze = true) ∨
        sc.direct ⟨c.constraints.size⟩) :
      Traffic sc (c.register source k callExisting)
  /-- A set begins to flow into another one. -/
  | edge {source target : SetId} (hsource : source.In c.extent) (htarget : target.In c.extent)
      (hne : source ≠ target) (hnew : (c.set source).flowsInto target = false)
      (hdrawn : c.Drawn sc source target) : Traffic sc (c.addEdge source target)
  /-- An element access hears of its first index. -/
  | wire {id : ConstraintId} {code : Option Location} {objects target : SetId} {access : Access}
      (hid : id.In c.extent) (hk : c.constraint id = .element code objects target access false)
      (hindex : ∃ w, .fired w ∈ c.journal ∧ w.constraint = id ∧ isIndexType w.type = true) :
      Traffic sc (c.wireUp id objects (.property code .index target access))
  /-- A pass takes the next pending type. -/
  | pop {work : Work} {rest : Worklist} (hpasses : sc.passes)
      (hnext : c.worklist.next? = some (work, rest)) :
      Traffic sc (c.pop work rest)
  | deliver {work : Work} (hredelivery : sc.redelivery) (hwork : work.Valid c.extent) :
      Traffic sc (c.enqueue [work])
  | abandon {e : InferError} (haborts : sc.aborts) : Traffic sc (c.abandon e)

/-- A single change within a scope. -/
inductive Change (sc : Scope) : Compartment → Prop
  | traffic {c' : Compartment} (h : c.Traffic sc c') : Change sc c'
  | aside {c' : Compartment} (h : c.Aside c') : Change sc c'
  | pushSet (hchoice : sc.choice) : Change sc c.pushSet
  | pushObject {name : String} {function : Option FunctionInfo}
      (hfresh : c.objectNamed? name = none) (hname : sc.choice ∨ c.Nameable name)
      (hfunction : ∀ f ∈ function, sc.choice ∧ f.Valid c.extent ∧ f.prototypeObject = none ∧
        f.handler = none) :
      Change sc (c.pushObject name function)
  /-- An object is asked for a property that it lacks. -/
  | pushProperty {owner : ObjectId} {key : Key} (howner : owner.In c.extent)
      (hknown : (c.object owner).isUnknown = false)
      (hlacks : (c.object owner).property? key = none) (hkey : sc.grant.keys key ∨ c.Keyed key) :
      Change sc (c.pushProperty owner key)
  /-- An object without a prototype gets one. -/
  | setProto {id proto : ObjectId} (hid : id.In c.extent) (hproto : proto.In c.extent)
      (hnone : (c.object id).proto = none) (hne : id ≠ proto) (hup : ¬ c.Inherits proto id)
      (hlinked : c.Linked sc id proto) : Change sc (c.setProto id proto)
  /-- The object for what is constructed with this one as its prototype is remembered. -/
  | memo {id new : ObjectId} (hid : id.In c.extent) (hnew : new.In c.extent)
      (hname : c.objectName new = c.objectName id ++ ":new")
      (hkept : ∀ n, (c.object id).newObject = some n → n = new) :
      Change sc (c.changeObject id fun o => { o with newObject := some new })
  | retool {id : ObjectId} {g : FunctionInfo → FunctionInfo} (hid : id.In c.extent)
      (hg : ∀ f, (c.object id).function = some f → c.Retooled sc id f (g f)) :
      Change sc (c.changeFunction id g)
  | possiblyPacked {id : ObjectId} (hchoice : sc.choice) (hid : id.In c.extent) :
      Change sc (c.changeObject id fun o => { o with isPossiblyPacked := true })
  /-- The object of a builtin is remembered. -/
  | builtin {b : Builtin} {id : ObjectId} (hid : id.In c.extent) (hname : c.objectName id = b.name)
      (hnone : c.builtin? b = none) (hdemanded : c.Demanded sc b)
      (hkind : (c.object id).isFunction = b.isFunction) :
      Change sc { c with builtins := c.builtins ++ [(b, id)] }
  /-- An object loses what is known about it, and those that rely on it are told. -/
  | demote {id : ObjectId} {f : ObjectInfo → ObjectInfo} (hid : id.In c.extent)
      (hf : (c.object id).Demoted (f (c.object id))) (hmarked : c.JustMarked id)
      (hforsaken : (f (c.object id)).isUnknown = true →
        (c.object id).isUnknown = true ∨ c.Forsaken sc id) :
      Change sc ((c.changeObject id f).notifyKind id)
  /-- A freeze constraint hears that its answer is no longer true. -/
  | spend {id : ConstraintId} {script : ScriptId}
      (hheld : (c.constraint id).heldFor? = some script) (hrefuted : c.Refuted id) :
      Change sc (c.spend id script)
  /-- The queued scripts are handed out, and the queue is empty. -/
  | handOut (hhands : sc.handsOut) : Change sc c.takeRecompiles.2
  | pushSite {s : CallSite} (hchoice : sc.choice) (hs : s.Valid c.extent) :
      Change sc { c with sites := c.sites.push s }
  | changeSite {id : SiteId} {f : CallSite → CallSite} (hchoice : sc.choice)
      (hid : id.In c.extent) (hgrows : (c.site id).Grows (f (c.site id)))
      (hf : (f (c.site id)).Valid c.extent) : Change sc (c.changeSite id f)

/-- A sequence of changes.  Unless the scope allows more, an object is taken for an array only if it
had no prototype at some point of the sequence. -/
inductive Did (sc : Scope) : Compartment → Compartment → Prop
  | refl (c : Compartment) : Did sc c c
  | step {c c' c'' : Compartment} (h : Did sc c c') (hchange : c'.Change sc c'') : Did sc c c''
  | classify {c c₁ c₂ : Compartment} {id : ObjectId} (h : Did sc c c₁)
      (hnone : sc.reclassifies ∨ (c₁.object id).proto = none) (h' : Did sc c₁ c₂)
      (hid : id.In c₂.extent)
      (harray : c₂.isArray id = true) (hknown : (c₂.object id).isUnknown = false) :
      Did sc c (c₂.classify id)

variable {c}

/-- Apart from events and monitored code, nothing changes. -/
theorem Aside.of_eq {c' : Compartment} (hsets : c'.sets = c.sets)
    (hconstraints : c'.constraints = c.constraints) (hobjects : c'.objects = c.objects)
    (hsites : c'.sites = c.sites) (hbuiltins : c'.builtins = c.builtins)
    (hinitializers : c'.initializers = c.initializers) (hscripts : c'.scripts = c.scripts)
    (hstack : c'.stack = c.stack) (hpending : c'.worklist.pending = c.worklist.pending)
    (hmonitored : ∀ code ∈ c.monitored, code ∈ c'.monitored)
    (hjournal : ∃ es, c'.journal = es ++ c.journal ∧ ∀ e ∈ es, e.isQuiet = true)
    (htallied : c.Tallied → c'.Tallied) : c.Aside c' where
  sets := hsets
  constraints := hconstraints
  objects := hobjects
  sites := hsites
  builtins := hbuiltins
  pending := hpending
  monitored := hmonitored
  journal := hjournal
  tallied := htallied
  initializers _ h := .inl (hinitializers ▸ h)
  scripts _ h := .inl (hscripts ▸ h)
  slotsWithin := Nat.le_of_eq (congrArg StackTable.size hstack).symm
  representatives _ h := .inl (hstack ▸ h)
  slots _ h := .inl (hstack ▸ h)
  slotCount h := hstack ▸ h

theorem aside_refl (c : Compartment) : c.Aside c :=
  .of_eq rfl rfl rfl rfl rfl rfl rfl rfl rfl (fun _ h => h)
    ⟨[], rfl, fun _ h => absurd h List.not_mem_nil⟩ fun h => h

/-- An event that changes no queue is written down without one. -/
theorem Tallied.record {e : Event} (he : e.requeues = false) (h : c.Tallied) :
    (c.record e).Tallied := by
  have hsame : queuedBy ([e] ++ c.journal) = queuedBy c.journal :=
    queuedBy_append (fun e' he' => by rwa [List.mem_singleton.mp he']) _
  exact Eq.trans h hsame.symm

theorem aside_record {e : Event} (h : e.isQuiet = true) (he : e.requeues = false) :
    c.Aside (c.record e) :=
  .of_eq rfl rfl rfl rfl rfl rfl rfl rfl rfl (fun _ h => h)
    ⟨[e], rfl, fun e' he' => by rwa [List.mem_singleton.mp he']⟩ (Tallied.record he)

/-- The counters of passes are no business of the tables. -/
theorem aside_changeWorklist {f : Worklist → Worklist}
    (h : (f c.worklist).pending = c.worklist.pending) : c.Aside (c.changeWorklist f) :=
  .of_eq rfl rfl rfl rfl rfl rfl rfl rfl h (fun _ h => h)
    ⟨[], rfl, fun _ h => absurd h List.not_mem_nil⟩ fun h => h

/-! ## Telling the constraints that rely on an object -/

/-- A constraint that holds an answer is in the table. -/
theorem in_of_isFreeze {id : ConstraintId} (h : (c.constraint id).isFreeze = true) :
    id.In c.extent := by
  by_cases hin : id.In c.extent
  · exact hin
  · rw [constraint_of_not_in hin] at h
    cases h

theorem in_of_heldFor {id : ConstraintId} {script : ScriptId}
    (h : (c.constraint id).heldFor? = some script) : id.In c.extent :=
  in_of_isFreeze (Constraint.isFreeze_of_heldFor h)

theorem heldFor_of_elementKind {id : ConstraintId} {script : ScriptId} {kind : Kind}
    (h : c.constraint id = .freezeElementKind script kind false) :
    (c.constraint id).heldFor? = some script := by
  rw [h]
  rfl

/-- What is kept by telling one constraint is kept by telling all that rely on an object. -/
theorem notifyKind_induction {P : Compartment → Prop}
    (hspend : ∀ (c : Compartment) id script kind,
      c.constraint id = .freezeElementKind script kind false → P c → P (c.spend id script))
    (id : ObjectId) (h : P c) : P (c.notifyKind id) := by
  have hone : ∀ (c : Compartment) listener kind, P c → P (c.kindChanged listener kind) := by
    intro c listener kind hc
    unfold kindChanged
    split
    · rename_i script frozen hk
      split
      · exact hc
      · exact hspend c listener script frozen hk hc
    · exact hc
  have hall : ∀ (listeners : List ConstraintId) (kind : Kind) (c : Compartment), P c →
      P (listeners.foldl (fun c listener => c.kindChanged listener kind) c) := by
    intro listeners kind
    induction listeners with
    | nil => exact fun c hc => hc
    | cons listener rest ih => exact fun c hc => ih _ (hone c listener kind hc)
  unfold notifyKind
  split
  · exact h
  · exact hall _ _ c h

/-! ## Growth -/

theorem grows_enqueue (works : List Work) : c.Grows (c.enqueue works) := grows_changeWorklist _

theorem grows_insertType {target : SetId} (htarget : target.In c.extent) (t : Ty) :
    c.Grows (c.insertType target t) :=
  (grows_changeSet htarget (TypeSet.grows_insert _ t)).trans
    ((grows_record _).trans (grows_enqueue _))

theorem grows_attach {source : SetId} (hsource : source.In c.extent) (k : Constraint)
    (callExisting : Bool) : c.Grows (c.attach source k callExisting) :=
  (grows_changeSet hsource (TypeSet.grows_listen _ ⟨c.constraints.size⟩)).trans
    ((grows_pushConstraint k).trans (grows_record _))

theorem grows_register {source : SetId} (hsource : source.In c.extent) (k : Constraint)
    (callExisting : Bool) : c.Grows (c.register source k callExisting) := by
  unfold register
  split
  · exact (grows_attach hsource k true).trans (grows_enqueue _)
  · exact grows_attach hsource k false

theorem grows_addEdge {source : SetId} (hsource : source.In c.extent) (target : SetId) :
    c.Grows (c.addEdge source target) := by
  have htarget : c.Grows (c.changeSet source (·.addTarget target)) :=
    grows_changeSet hsource (TypeSet.grows_addTarget _ target)
  exact htarget.trans (grows_register (hsource.mono htarget.extent) _ true)

theorem grows_wireUp {id : ConstraintId} (hid : id.In c.extent) {objects : SetId}
    (hobjects : objects.In c.extent) (k : Constraint) : c.Grows (c.wireUp id objects k) := by
  have hwire := grows_changeConstraint hid (Constraint.evolves_wire (c.constraint id))
  exact hwire.trans (grows_register (hobjects.mono hwire.extent) _ true)

theorem grows_spend {id : ConstraintId} (hid : id.In c.extent) (script : ScriptId) :
    c.Grows (c.spend id script) :=
  (grows_changeConstraint hid (Constraint.evolves_spend _)).trans (grows_queueRecompile _ _)

theorem grows_notifyKind (id : ObjectId) : c.Grows (c.notifyKind id) :=
  notifyKind_induction (P := c.Grows)
    (fun _ _ script _ hk h => h.trans (grows_spend (in_of_heldFor (heldFor_of_elementKind hk)) script)) id
    (Grows.refl c)

theorem grows_pushProperty {owner : ObjectId} {key : Key} (howner : owner.In c.extent)
    (hknown : (c.object owner).isUnknown = false) : c.Grows (c.pushProperty owner key) := by
  have hsets : c.Grows c.pushSet.pushSet := grows_pushSet.trans grows_pushSet
  refine hsets.trans (Grows.trans ?_ (grows_record _))
  refine grows_changeObject (howner.mono hsets.extent) ?_ rfl rfl
  constructor
  · exact List.prefix_append _ _
  · exact fun _ hp => hp
  · exact List.prefix_rfl
  · exact fun _ hn => hn
  · intro hu
    have hknown' : (c.pushSet.pushSet.object owner).isUnknown = false := hknown
    rw [hknown'] at hu
    cases hu
  · exact fun f hf => ⟨f, hf, FunctionInfo.Grows.refl f⟩

theorem grows_setProto {id proto : ObjectId} (hid : id.In c.extent) (hproto : proto.In c.extent)
    (hnone : (c.object id).proto = none) (hne : id ≠ proto) : c.Grows (c.setProto id proto) := by
  have hinstances : c.Grows (c.changeObject proto fun o =>
      { o with instances := o.instances ++ [id] }) := by
    refine grows_changeObject hproto ?_ rfl rfl
    exact ⟨List.prefix_rfl, fun _ hp => hp, List.prefix_append _ _, fun _ hn => hn,
      fun hu => ⟨hu, rfl⟩, fun f hf => ⟨f, hf, FunctionInfo.Grows.refl f⟩⟩
  refine hinstances.trans (Grows.trans ?_ (grows_record _))
  refine grows_changeObject (hid.mono hinstances.extent) ?_ rfl rfl
  have hnone' : ((c.changeObject proto fun o =>
      { o with instances := o.instances ++ [id] }).object id).proto = none := by
    rw [object_changeObject hproto, if_neg (Ne.symm hne)]
    exact hnone
  refine ⟨List.prefix_rfl, ?_, List.prefix_rfl, fun _ hn => hn, fun hu => ⟨hu, rfl⟩,
    fun f hf => ⟨f, hf, FunctionInfo.Grows.refl f⟩⟩
  intro p hp
  rw [hnone'] at hp
  cases hp

theorem grows_classify {id : ObjectId} (hid : id.In c.extent) : c.Grows (c.classify id) :=
  grows_changeObject hid ⟨List.prefix_rfl, fun _ hp => hp, List.prefix_rfl, fun _ hn => hn,
    fun hu => ⟨hu, rfl⟩, fun f hf => ⟨f, hf, FunctionInfo.Grows.refl f⟩⟩ rfl rfl

theorem Aside.grows {c' : Compartment} (h : c.Aside c') : c.Grows c' := by
  obtain ⟨es, hes, -⟩ := h.journal
  refine grows_of_eq h.sets h.constraints h.objects h.sites h.slotsWithin h.builtins h.monitored ?_
  rw [hes]
  exact List.suffix_append _ _

theorem Traffic.grows {sc : Scope} {c' : Compartment} (hc : c.Valid) (h : c.Traffic sc c') :
    c.Grows c' := by
  cases h with
  | insert htarget => exact grows_insertType htarget _
  | register _ hsource => exact grows_register hsource _ _
  | edge hsource => exact grows_addEdge hsource _
  | wire hid hk => exact grows_wireUp hid (hc.in_of_element hk) _
  | @pop _ rest => exact (grows_changeWorklist fun _ => rest).trans (grows_record _)
  | deliver => exact grows_enqueue _
  | abandon =>
    exact grows_of_eq rfl rfl rfl rfl (Nat.le_refl _) rfl (fun _ h => h) (List.suffix_cons _ _)

/-- A change takes nothing back. -/
theorem Change.grows {sc : Scope} {c' : Compartment} (hc : c.Valid) (h : c.Change sc c') :
    c.Grows c' := by
  cases h with
  | traffic h => exact h.grows hc
  | aside h => exact h.grows
  | pushSet => exact grows_pushSet
  | pushObject => exact (grows_pushObject _).trans (grows_record _)
  | pushProperty howner hknown => exact grows_pushProperty howner hknown
  | setProto hid hproto hnone hne => exact grows_setProto hid hproto hnone hne
  | memo hid _ _ hkept =>
    refine grows_changeObject hid ?_ rfl rfl
    refine ⟨List.prefix_rfl, fun _ hp => hp, List.prefix_rfl, ?_, fun hu => ⟨hu, rfl⟩,
      fun f hf => ⟨f, hf, FunctionInfo.Grows.refl f⟩⟩
    intro n hn
    rw [hkept n hn]
  | retool hid hg =>
    refine grows_changeObject hid ?_ rfl ?_
    · refine ⟨List.prefix_rfl, fun _ hp => hp, List.prefix_rfl, fun _ hn => hn,
        fun hu => ⟨hu, rfl⟩, ?_⟩
      intro f hf
      refine ⟨_, ?_, (hg f hf).grows⟩
      rw [hf]
      rfl
    · simp [ObjectInfo.isFunction]
  | possiblyPacked _ hid =>
    refine grows_changeObject hid ?_ rfl rfl
    exact ⟨List.prefix_rfl, fun _ hp => hp, List.prefix_rfl, fun _ hn => hn,
      fun hu => ⟨hu, rfl⟩, fun f hf => ⟨f, hf, FunctionInfo.Grows.refl f⟩⟩
  | builtin => exact grows_builtin _ _
  | demote hid hf =>
    refine Grows.trans ?_ (grows_notifyKind _)
    refine grows_changeObject hid hf.grows hf.name ?_
    rw [ObjectInfo.isFunction, hf.function]
    rfl
  | spend hheld => exact grows_spend (in_of_heldFor hheld) _
  | handOut =>
    exact grows_of_eq rfl rfl rfl rfl (Nat.le_refl _) rfl (fun _ h => h) (List.suffix_cons _ _)
  | pushSite => exact grows_pushSite _
  | changeSite _ hid hgrows => exact grows_changeSite hid hgrows

/-! ## Wider scopes -/

section Mono

variable {sc sc' : Scope} (hsc : sc.Within sc') {c' : Compartment}
include hsc

theorem Traffic.mono (h : c.Traffic sc c') : c.Traffic sc' c' := by
  cases h with
  | insert htarget ht hnew hwarrant => exact .insert htarget ht hnew (hwarrant.mono hsc)
  | register hasked hsource hk hregular =>
    exact .register (hasked.imp (hsc.grant.asks _ _) (And.imp_left hsc.passes)) hsource hk
      (hregular.imp_right (hsc.direct _))
  | edge hsource htarget hne hnew hdrawn =>
    exact .edge hsource htarget hne hnew (hdrawn.mono hsc)
  | wire hid hk hindex => exact .wire hid hk hindex
  | pop hpasses hnext => exact .pop (hsc.passes hpasses) hnext
  | deliver hredelivery hwork => exact .deliver (hsc.redelivery hredelivery) hwork
  | abandon haborts => exact .abandon (hsc.aborts haborts)

theorem Change.mono (h : c.Change sc c') : c.Change sc' c' := by
  cases h with
  | traffic h => exact .traffic (h.mono hsc)
  | aside h => exact .aside h
  | pushSet hchoice => exact .pushSet (hsc.choice hchoice)
  | pushObject hfresh hname hfunction =>
    exact .pushObject hfresh (hname.imp_left hsc.choice)
      fun f hf => (hfunction f hf).imp_left hsc.choice
  | pushProperty howner hknown hlacks hkey =>
    exact .pushProperty howner hknown hlacks (hkey.imp_left (hsc.grant.keys _))
  | setProto hid hproto hnone hne hup hlinked =>
    exact .setProto hid hproto hnone hne hup (hlinked.mono hsc)
  | memo hid hnew hname hkept => exact .memo hid hnew hname hkept
  | retool hid hg =>
    refine .retool hid fun f hf => ?_
    have hf' := hg f hf
    exact ⟨hf'.grows, hf'.valid, hf'.prototypeObject, hf'.kept.imp_left hsc.choice,
      fun h hh => (hf'.handler h hh).imp_right (hsc.handler _ h)⟩
  | possiblyPacked hchoice hid => exact .possiblyPacked (hsc.choice hchoice) hid
  | builtin hid hname hnone hdemanded hkind =>
    exact .builtin hid hname hnone (hdemanded.mono hsc) hkind
  | demote hid hf hmarked hforsaken =>
    exact .demote hid hf hmarked fun hunknown => (hforsaken hunknown).imp_right (.mono hsc)
  | spend hheld hrefuted => exact .spend hheld hrefuted
  | handOut hhands => exact .handOut (hsc.handsOut hhands)
  | pushSite hchoice hs => exact .pushSite (hsc.choice hchoice) hs
  | changeSite hchoice hid hgrows hf => exact .changeSite (hsc.choice hchoice) hid hgrows hf

theorem Did.mono (h : Did sc c c') : Did sc' c c' := by
  induction h with
  | refl => exact .refl _
  | step _ hchange ih => exact .step ih (hchange.mono hsc)
  | classify _ hnone _ hid harray hknown ih ih' =>
    exact .classify ih (hnone.imp_left hsc.reclassifies) ih' hid harray hknown

end Mono

end Compartment

end FlowTypes
