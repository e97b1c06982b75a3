import FlowTypes.Proofs.Actions.Freeze
import FlowTypes.Proofs.Actions.Instance
import FlowTypes.Proofs.Actions.Slots
import FlowTypes.Request

/-!
# What every request does

A request whose handles belong to the compartment obeys every law whose scope lets the host ask for
it.  What it answers is a handle of the compartment too, and what was asked for is done afterwards
and stays so.

## Main results

* `Request.Valid`: the handles of a request; `Request.Allowed`: what it needs of a scope;
  `Request.Done`: what it brings about.
* `Request.moves`: a valid request obeys the law that it is allowed by.
-/

namespace FlowTypes

open Compartment

/-- The handles in a request belong to a compartment with tables of these sizes. -/
def Request.Valid (e : Extent) : Request → Prop
  | newSet | builtin _ | variableTypes .. | pushedTypes .. | monitor _ | queueRecompile _
  | takeRecompiles | finish => True
  | addType target t | observeType target t => target.In e ∧ t.In e
  | addSubset a b | boxThis a b | addFilter a b _ | monitorRead a _ b
  | readProperty a _ b _ | writeProperty a _ b _ => a.In e ∧ b.In e
  | readElement objects indexes _ target | writeElement objects indexes _ target =>
    objects.In e ∧ indexes.In e ∧ target.In e
  | addArith lhs rhs target _ => lhs.In e ∧ (∀ s ∈ rhs, s.In e) ∧ target.In e
  | addConstraint source k _ => source.In e ∧ k.Valid e
  | deliver id source t => Work.Valid e ⟨id, source, t⟩
  | typeObject _ _ _ proto => ∀ p ∈ proto, p.In e
  | setFunctionScript o .. | setNativeHandler o .. | property o .. | storeToInstances o _
  | markUnknown o | markNotPacked o _ | newObjectOf o | prototypeObjectOf o => o.In e
  | addPrototype o proto => o.In e ∧ proto.In e
  | initializerObject site _ | forceThisTypes site | forceResult site => site.In e
  | observeAssignment o _ value => o.In e ∧ ∀ t ∈ value.type?, t.In e
  | knownTag s _ | knownKind s _ | knownNonEmpty s _ => s.In e
  | observePush _ _ t => t.In e
  | newCallSite site => site.Valid e
  | addCall callees site => callees.In e ∧ site.In e
  | newStackNode inner => ∀ n ∈ inner, n.In e
  | setInnerStack a b | mergeStacks a b => a.In e ∧ b.In e
  | setSlotFlags node _ => node.In e

instance (e : Extent) (r : Request) : Decidable (r.Valid e) :=
  match r with
  | .newSet | .builtin _ | .variableTypes .. | .pushedTypes .. | .monitor _ | .queueRecompile _
  | .takeRecompiles | .finish => isTrue trivial
  | .addType target t | .observeType target t => inferInstanceAs (Decidable (target.In e ∧ t.In e))
  | .addSubset a b | .boxThis a b | .addFilter a b _ | .monitorRead a _ b
  | .readProperty a _ b _ | .writeProperty a _ b _ =>
    inferInstanceAs (Decidable (a.In e ∧ b.In e))
  | .readElement objects indexes _ target | .writeElement objects indexes _ target =>
    inferInstanceAs (Decidable (objects.In e ∧ indexes.In e ∧ target.In e))
  | .addArith lhs rhs target _ =>
    inferInstanceAs (Decidable (lhs.In e ∧ (∀ s ∈ rhs, s.In e) ∧ target.In e))
  | .addConstraint source k _ => inferInstanceAs (Decidable (source.In e ∧ k.Valid e))
  | .deliver id source t => inferInstanceAs (Decidable (Work.Valid e ⟨id, source, t⟩))
  | .typeObject _ _ _ proto => inferInstanceAs (Decidable (∀ p ∈ proto, p.In e))
  | .setFunctionScript o .. | .setNativeHandler o .. | .property o .. | .storeToInstances o _
  | .markUnknown o | .markNotPacked o _ | .newObjectOf o | .prototypeObjectOf o =>
    inferInstanceAs (Decidable (o.In e))
  | .addPrototype o proto => inferInstanceAs (Decidable (o.In e ∧ proto.In e))
  | .initializerObject site _ | .forceThisTypes site | .forceResult site =>
    inferInstanceAs (Decidable (site.In e))
  | .observeAssignment o _ value =>
    inferInstanceAs (Decidable (o.In e ∧ ∀ t ∈ value.type?, t.In e))
  | .knownTag s _ | .knownKind s _ | .knownNonEmpty s _ => inferInstanceAs (Decidable (s.In e))
  | .observePush _ _ t => inferInstanceAs (Decidable (t.In e))
  | .newCallSite site => inferInstanceAs (Decidable (site.Valid e))
  | .addCall callees site => inferInstanceAs (Decidable (callees.In e ∧ site.In e))
  | .newStackNode inner => inferInstanceAs (Decidable (∀ n ∈ inner, n.In e))
  | .setInnerStack a b | .mergeStacks a b => inferInstanceAs (Decidable (a.In e ∧ b.In e))
  | .setSlotFlags node _ => inferInstanceAs (Decidable (node.In e))

/-- What a request needs of a scope. -/
def Request.Allowed (sc : Scope) (c : Compartment) : Request → Prop
  | newSet | variableTypes .. | pushedTypes .. | newCallSite _ | forceThisTypes _ | forceResult _
  | newStackNode _ | setFunctionScript .. => sc.choice
  | addType target t | observeType target t => sc.grant.adds target t
  | addSubset source target => sc.grant.joins source target
  | readProperty objects code target key => sc.grant.asks objects (.property code key target .read)
  | writeProperty objects code values key => sc.grant.asks objects (.property code key values .write)
  | readElement objects indexes code target =>
    sc.grant.asks indexes (.element code objects target .read false)
  | writeElement objects indexes code values =>
    sc.grant.asks indexes (.element code objects values .write false)
  | addArith lhs rhs target op => sc.grant.asks lhs (.arith op target rhs) ∧
    ∀ r ∈ rhs, sc.grant.asks r (.arith op target (some lhs))
  | boxThis source target => sc.grant.asks source (.boxThis target)
  | addFilter source target mode => sc.grant.asks source (.filter target mode)
  | monitorRead source code target => sc.grant.asks source (.monitorRead code target)
  | addCall callees site => sc.grant.asks callees (.call site)
  | addConstraint source k _ => sc.grant.asks source k ∧ sc.direct ⟨c.constraints.size⟩
  | deliver .. => sc.redelivery
  | typeObject _ _ _ proto => sc.choice ∧ ∀ p ∈ proto, sc.grant.links ⟨c.objects.size⟩ p
  | builtin b => sc.choice ∧ ∀ p ∈ b :: b.lineage, sc.grant.builds p
  | property _ key _ => sc.grant.keys key
  | addPrototype o proto => sc.grant.links o proto
  | markUnknown o => sc.grant.marks o
  | newObjectOf _ | prototypeObjectOf _ | initializerObject .. => sc.choice ∧ sc.grant.Makes
  | observeAssignment o key value => sc.grant.Assigns o key value
  | observePush _ _ t => sc.choice ∧ ∀ target, sc.grant.adds target t
  | knownTag .. | knownKind .. | knownNonEmpty .. => sc.grant.Freezes
  | setInnerStack .. | mergeStacks .. => ∀ a b, sc.grant.joins a b
  | setNativeHandler _ handler _ =>
    sc.choice ∧ ∀ name, handler = some name → sc.handler c.extent name
  | takeRecompiles => sc.handsOut
  | storeToInstances .. | markNotPacked .. | monitor _ | queueRecompile _ | setSlotFlags ..
  | finish => True

theorem Compartment.Grant.full_assigns (o : ObjectId) (key : Key) (value : Value) :
    Grant.full.Assigns o key value := by
  unfold Grant.Assigns
  split
  · trivial
  · exact ⟨trivial, fun _ _ => trivial⟩

/-- What a host may ask for that chooses freely, but for the constraints of its own making, the types
that are delivered once more, and the handlers. -/
theorem Request.allowed_of_full {sc : Scope} {c : Compartment} {r : Request} (hchoice : sc.choice)
    (hgrant : sc.grant = Grant.full) (hhands : r = .takeRecompiles → sc.handsOut)
    (hdirect : ∀ source k ce, r = .addConstraint source k ce → sc.direct ⟨c.constraints.size⟩)
    (hredelivery : ∀ id s t, r = .deliver id s t → sc.redelivery)
    (hhandler : ∀ o handler g name, r = .setNativeHandler o handler g → handler = some name →
      sc.handler c.extent name) : r.Allowed sc c := by
  obtain ⟨choice, grant, passes, direct, redelivery, handler, aborts, reclassifies, hands⟩ := sc
  obtain rfl : grant = Grant.full := hgrant
  cases r with
  | addConstraint => exact ⟨trivial, hdirect _ _ _ rfl⟩
  | deliver => exact hredelivery _ _ _ rfl
  | takeRecompiles => exact hhands rfl
  | setNativeHandler => exact ⟨hchoice, fun name hname => hhandler _ _ _ name rfl hname⟩
  | newSet | variableTypes | pushedTypes | newCallSite | forceThisTypes | forceResult | newStackNode
  | setFunctionScript => exact hchoice
  | addArith => exact ⟨trivial, fun _ _ => trivial⟩
  | typeObject | builtin => exact ⟨hchoice, fun _ _ => trivial⟩
  | observePush => exact ⟨hchoice, fun _ => trivial⟩
  | newObjectOf | prototypeObjectOf | initializerObject =>
    exact ⟨hchoice, fun _ _ => trivial, fun _ _ => trivial⟩
  | observeAssignment o key value => exact Grant.full_assigns o key value
  | knownTag | knownKind | knownNonEmpty => exact ⟨trivial, fun _ _ _ => trivial⟩
  | setInnerStack | mergeStacks => exact fun _ _ => trivial
  | _ => trivial

/-- What a request brings about.  None of it is taken back. -/
def Request.Done (c : Compartment) : Request → Prop
  | addType target t | observeType target t => (c.set target).has t = true
  | addSubset source target => c.Flows source target
  | readProperty objects code target key => c.Asked objects (.property code key target .read)
  | writeProperty objects code values key => c.Asked objects (.property code key values .write)
  | readElement objects indexes code target =>
    c.Asked indexes (.element code objects target .read false)
  | writeElement objects indexes code values =>
    c.Asked indexes (.element code objects values .write false)
  | addArith lhs rhs target op => c.Asked lhs (.arith op target rhs) ∧
    ∀ r ∈ rhs, c.Asked r (.arith op target (some lhs))
  | boxThis source target => c.Asked source (.boxThis target)
  | addFilter source target mode => c.Asked source (.filter target mode)
  | monitorRead source code target => c.Asked source (.monitorRead code target)
  | addCall callees site => c.Asked callees (.call site)
  | builtin b => ∃ id, c.builtin? b = some id
  | addPrototype o proto => (c.object o).proto = some proto
  | markUnknown o => (c.object o).isUnknown = true
  | observeAssignment o key value => c.Assigned o key value
  | _ => True

theorem Request.Done.mono {c c' : Compartment} (hgrows : c.Grows c') (hc : c.Valid) (hc' : c'.Valid)
    {r : Request} (h : r.Done c) : r.Done c' := by
  cases r with
  | addType | observeType => exact hgrows.has hc hc' h
  | addSubset => exact hgrows.flows h
  | readProperty | writeProperty | readElement | writeElement | boxThis | addFilter | monitorRead
  | addCall => exact Asked.mono hgrows h
  | addArith => exact ⟨h.1.mono hgrows, fun r hr => (h.2 r hr).mono hgrows⟩
  | builtin => exact h.imp fun _ => hgrows.builtin?
  | addPrototype => exact (hgrows.object _).proto _ h
  | markUnknown => exact hgrows.isUnknown h
  | observeAssignment => exact Assigned.mono hgrows hc hc' h
  | _ => trivial

/-- The handles in an answer belong to a compartment with tables of these sizes. -/
def Answer.Valid (e : Extent) : Answer → Prop
  | set id => id.In e
  | object id => id.In e
  | constraint id => id.In e
  | site id => id.In e
  | stack id => id.In e
  | done | tag _ | kind _ | truth _ | scripts _ | stats _ => True

theorem Answer.Valid.mono {e e' : Extent} (h : e.Within e') {x : Answer} (hx : x.Valid e) :
    x.Valid e' := by
  cases x with
  | set => exact SetId.In.mono h hx
  | object => exact ObjectId.In.mono h hx
  | constraint => exact ConstraintId.In.mono h hx
  | site => exact SiteId.In.mono h hx
  | stack => exact StackId.In.mono h hx
  | done | tag | kind | truth | scripts | stats => trivial

/-- The host asks for a constraint of its own making. -/
def Request.isDirect : Request → Bool
  | addConstraint .. => true
  | _ => false

/-- What an answer says about the compartment before and after. -/
structure Request.Answered (sc : Scope) (c : Compartment) (r : Request) (x : Answer)
    (c' : Compartment) : Prop where
  valid : x.Valid c'.extent
  done : r.Done c'
  direct : ∀ id, x = .constraint id → r.isDirect = true ∧ id = ⟨c.constraints.size⟩
  property : ∀ o key own s, r = .property o key own → x = .set s → c'.Answers o key own s
  kind : ∀ s script kind, r = .knownKind s (some script) → x = .kind kind →
    kind = c.setKind s ∧ (kind ≠ .unknown →
      Did sc (c.register s (.freezeKind script kind false) false) c' ∧
        ∀ o ∈ (c.set s).objectTypes, c'.Held c.journal script kind o)

theorem Request.Answered.of_valid {sc : Scope} {c c' : Compartment} {r : Request} {x : Answer}
    (h : x.Valid c'.extent) (hdone : r.Done c') (hdirect : ∀ id, x ≠ .constraint id := by nofun)
    (hkind : ∀ kind, x ≠ .kind kind := by nofun)
    (hproperty : ∀ o key own s, r = .property o key own → x = .set s → c'.Answers o key own s := by
      nofun) : r.Answered sc c x c' :=
  ⟨h, hdone, fun id hid => absurd hid (hdirect id), hproperty,
    fun _ _ kind _ hx => absurd hx (hkind kind)⟩

namespace Compartment

variable {L : Law} {c : Compartment}

/-! ## Requests that change little -/

theorem calm_takeRecompiles (c : Compartment) : c.Calm c.takeRecompiles.2 :=
  .of_objects rfl rfl ⟨[_], rfl, fun w hw => by cases List.mem_singleton.mp hw⟩

/-- The lines of the report are written down one by one. -/
theorem report_eq (c : Compartment) (lines : List String) : ∃ es,
    lines.foldl (fun c line => c.record (.resultLine line)) c =
      { c with journal := es ++ c.journal } ∧ ∀ e ∈ es, e.isQuiet = true ∧ e.requeues = false := by
  induction lines generalizing c with
  | nil => exact ⟨[], rfl, fun _ h => absurd h List.not_mem_nil⟩
  | cons line lines ih =>
    obtain ⟨es, hes, hquiet⟩ := ih (c.record (.resultLine line))
    refine ⟨es ++ [.resultLine line], ?_, ?_⟩
    · rw [List.foldl_cons, hes, List.append_assoc]
      rfl
    · intro e he
      obtain he | he := List.mem_append.mp he
      · exact hquiet e he
      · rw [List.mem_singleton.mp he]
        exact ⟨rfl, rfl⟩

theorem finish_eq (c : Compartment) : ∃ es, c.finish.2 =
    { c.countPushed with journal := es ++ c.journal } ∧
      ∀ e ∈ es, e.isQuiet = true ∧ e.requeues = false := by
  obtain ⟨es, hes, hquiet⟩ := report_eq c.countPushed (if c.countPushed.options.spew.result then
    (Text.lines c.countPushed.describe.toList).map String.ofList else [])
  unfold finish
  dsimp only
  rw [hes]
  refine ⟨.finished _ :: es, rfl, ?_⟩
  intro e he
  obtain rfl | he := List.mem_cons.mp he
  · exact ⟨rfl, rfl⟩
  · exact hquiet e he

theorem aside_finish (c : Compartment) :
    c.Aside c.finish.2 ∧ c.finish.2.worklist = c.worklist := by
  obtain ⟨es, hes, hquiet⟩ := finish_eq c
  rw [hes]
  refine ⟨.of_eq rfl rfl rfl rfl rfl rfl rfl rfl rfl (fun _ h => h)
    ⟨es, rfl, fun e he => (hquiet e he).1⟩ fun h => ?_, rfl⟩
  exact Eq.trans h (queuedBy_append (fun e he => (hquiet e he).2) c.journal).symm

/-- A step that answers what it finds and changes nothing that flows. -/
theorem moves_take (h : L.At c) {α : Type} {f : Compartment → α × Compartment}
    (hchange : c.Change L.scope (f c).2) (hcalm : c.Calm (f c).2)
    (hworklist : (f c).2.worklist = c.worklist) :
    L.Moves (fun c => (.ok (f c).1, (f c).2) : Action α) c fun _ _ => True := by
  refine outcome_of_ok rfl ⟨.of_calm hchange hcalm, ?_, trivial⟩
  rw [hworklist]
  exact h.rest

section Lawful

variable (hL : L.Lawful)
include hL

/-- An action that answers nothing. -/
theorem moves_quietly (h : L.At c) {a : Action Unit} {r : Request}
    (ha : L.Moves a c fun _ c' => r.Done c') :
    L.Moves (do
      a
      return Answer.done) c (r.Answered L.scope c) :=
  .bind hL.within h ha fun _ _ h' _ hdone => .pure h' (.of_valid trivial hdone)

/-- An action whose answer is passed on. -/
theorem moves_passOn (h : L.At c) {α : Type} {a : Action α} {Q : α → Compartment → Prop}
    {answer : α → Answer} {r : Request} (ha : L.Moves a c Q)
    (hanswer : ∀ x c', L.At c' → L.Good c c' → Q x c' → r.Answered L.scope c (answer x) c') :
    L.Moves (do return answer (← a)) c (r.Answered L.scope c) :=
  .bind hL.within h ha fun x c' h' hgood hx => .pure h' (hanswer x c' h' hgood hx)

theorem moves_deliver (h : L.At c) (hredelivery : L.scope.redelivery) {w : Work}
    (hw : w.Valid c.extent) :
    L.Moves (deliver L.pass w.constraint w.source w.type) c fun _ _ => True := by
  have hgood : L.Good c (c.enqueue [w]) := .of_calm (.traffic (.deliver hredelivery hw))
    (.of_objects rfl rfl ⟨[], rfl, fun _ => List.not_mem_nil⟩)
  refine outcome_modify.mpr (Law.Moves.after hL.within h.sound hgood ?_)
  exact hL.requestPass _ (h.toStanding.did hgood.did) (hL.ready _ _ h.rest)

theorem moves_addArith (h : L.At c) {lhs target : SetId} {rhs : Option SetId} {op : ArithOp}
    (hasked : L.scope.grant.asks lhs (.arith op target rhs) ∧
      ∀ r ∈ rhs, L.scope.grant.asks r (.arith op target (some lhs)))
    (hlhs : lhs.In c.extent) (hrhs : ∀ s ∈ rhs, s.In c.extent) (htarget : target.In c.extent) :
    L.Moves (addArith L.pass lhs rhs target op) c fun _ c' => c'.Asked lhs (.arith op target rhs) ∧
      ∀ r ∈ rhs, c'.Asked r (.arith op target (some lhs)) := by
  refine .bind hL.within h (moves_discard_addConstraint hL h hasked.1 hlhs
    (k := .arith op target rhs) ⟨htarget, hrhs⟩ rfl) ?_
  intro _ c' h' hgood hfirst
  have hwithin := (hgood.grows h.sound).extent
  cases rhs with
  | none => exact .pure h' ⟨hfirst, nofun⟩
  | some rhs =>
    refine .imp h' (moves_discard_addConstraint hL h' (hasked.2 rhs rfl)
      ((hrhs rhs rfl).mono hwithin) (k := .arith op target (some lhs)) ⟨htarget.mono hwithin, ?_⟩
      rfl) ?_
    · rintro s ⟨⟩
      exact hlhs.mono hwithin
    · rintro _ c'' - hgood' hsecond
      refine ⟨hfirst.mono (hgood'.grows h'.sound), ?_⟩
      rintro r ⟨⟩
      exact hsecond

end Lawful

end Compartment

/-! ## All requests -/

/-- What a law has to put up with in a request: that it is turned down, or that it runs out of
room. -/
def Request.Supported (L : Law) : Request → Prop
  | property .. | storeToInstances .. | markUnknown _ | observeAssignment ..
  | knownKind .. => L.Roomy
  | typeObject .. | builtin _ | setNativeHandler .. | addPrototype .. | newObjectOf _
  | prototypeObjectOf _ | initializerObject .. => L.Refuses
  | setFunctionScript .. | setInnerStack .. | mergeStacks .. => L.Free
  | _ => True

theorem Compartment.Law.Free.supported {L : Law} (h : L.Free) (r : Request) : r.Supported L := by
  cases r <;> first | exact h | exact h.refuses | exact h.refuses.roomy | trivial

/-- A valid request obeys the law that it is allowed by. -/
theorem Request.moves {L : Law} {c : Compartment} (hL : L.Lawful) (h : L.At c) {r : Request}
    (hsupported : r.Supported L) (hvalid : r.Valid c.extent) (hallowed : r.Allowed L.scope c) :
    L.Moves (r.perform L.pass) c (r.Answered L.scope c) := by
  have hforget : ∀ {a : Action Unit} {Q : Unit → Compartment → Prop}, L.Moves a c Q →
      L.Moves a c fun _ _ => True := fun ha => ha.imp h fun _ _ _ _ _ => trivial
  cases r with
  | newSet =>
    exact moves_passOn hL h (moves_newSet h hallowed) fun _ _ _ _ hs => .of_valid hs.1 trivial
  | addType =>
    exact moves_quietly hL h (moves_addType hL h hvalid.1 hvalid.2 (.given hallowed))
  | observeType =>
    exact moves_quietly hL h (moves_observeType hL h hvalid.1 hvalid.2 hallowed)
  | addSubset =>
    exact moves_quietly hL h (moves_addSubset hL h hvalid.1 hvalid.2 (.given hallowed))
  | readProperty | writeProperty =>
    exact moves_quietly hL h (moves_discard_addConstraint hL h hallowed hvalid.1 hvalid.2 rfl)
  | readElement | writeElement =>
    exact moves_quietly hL h (moves_discard_addConstraint hL h hallowed hvalid.2.1
      ⟨hvalid.1, hvalid.2.2⟩ rfl)
  | addArith =>
    exact moves_quietly hL h (moves_addArith hL h hallowed hvalid.1 hvalid.2.1 hvalid.2.2)
  | boxThis | addFilter | monitorRead | addCall =>
    exact moves_quietly hL h (moves_discard_addConstraint hL h hallowed hvalid.1 hvalid.2 rfl)
  | addConstraint source k callExisting =>
    refine moves_passOn hL h (moves_addConstraint hL h hallowed.1 hvalid.1 hvalid.2
      (.inr hallowed.2)) ?_
    rintro _ c' - - ⟨rfl, hin, -⟩
    refine ⟨hin, trivial, ?_, nofun, nofun⟩
    rintro id ⟨⟩
    exact ⟨rfl, rfl⟩
  | deliver id source t => exact moves_quietly hL h (hforget (moves_deliver hL h hallowed hvalid))
  | typeObject _ _ _ proto =>
    refine moves_passOn hL h (moves_typeObject hL hsupported h (.inl hallowed.1) (fun _ => hallowed.1)
      hvalid fun p hp => .inl (hallowed.2 p hp)) ?_
    exact fun _ _ _ _ hnamed => .of_valid hnamed.1.1 trivial
  | builtin =>
    refine moves_passOn hL h (moves_builtin hL hsupported h (.inl hallowed.1)
      fun p hp => .given (hallowed.2 p hp)) ?_
    rintro id _ h' - ⟨hid⟩
    exact .of_valid (in_of_builtin? h'.sound.valid hid) ⟨id, hid⟩
  | setFunctionScript =>
    exact moves_quietly hL h (moves_setFunctionScript hL hsupported h hallowed hvalid _ _)
  | setNativeHandler =>
    exact moves_quietly hL h (moves_setNativeHandler hL hsupported h hallowed.1 hvalid _ hallowed.2)
  | property =>
    refine moves_passOn hL h (moves_getProperty hL hsupported h hvalid (.inl hallowed) _) ?_
    rintro s c' h' - hs
    refine .of_valid (hs.in h'.sound.valid) trivial nofun nofun ?_
    rintro _ _ _ _ ⟨⟩ ⟨⟩
    exact hs
  | storeToInstances => exact moves_quietly hL h (moves_storeToInstances hL hsupported h _ _)
  | addPrototype =>
    exact moves_quietly hL h (moves_addPrototype hL hsupported h hvalid.1 hvalid.2 (.given hallowed))
  | markUnknown =>
    exact moves_quietly hL h (moves_markUnknown hL hsupported h hvalid (.given hallowed))
  | markNotPacked => exact moves_quietly hL h (hforget (moves_markNotPacked h hvalid _))
  | newObjectOf =>
    refine moves_passOn hL h (moves_newObjectOf hL hsupported h (.inl hallowed.2) hvalid
      (.inl hallowed.1)) ?_
    exact fun _ _ _ _ hnew => .of_valid hnew.1 trivial
  | prototypeObjectOf =>
    refine moves_passOn hL h (moves_prototypeObjectOf hL hsupported h (.inl hallowed.2) hvalid) ?_
    rintro p c' h' - ⟨f, hf, hp⟩
    exact .of_valid (((h'.sound.valid.objects _).function f hf).prototypeObject p hp) trivial
  | initializerObject =>
    refine .get ?_
    refine moves_passOn hL h (moves_initializerObject hL hsupported h hallowed.1 hallowed.2 _ _) ?_
    exact fun _ _ _ _ hmade => .of_valid hmade.1 trivial
  | observeAssignment =>
    exact moves_quietly hL h
      (moves_observeAssignment hL hsupported h hvalid.1 _ hvalid.2 hallowed)
  | knownTag =>
    refine moves_passOn hL h (moves_knownTag hL hallowed h hvalid _) ?_
    exact fun _ _ _ _ _ => .of_valid trivial trivial
  | knownKind s script =>
    refine moves_passOn hL h (moves_knownKind hL hsupported hallowed h hvalid script) ?_
    rintro kind c' - - ⟨hkind, hfrozen⟩
    refine ⟨trivial, trivial, nofun, nofun, ?_⟩
    rintro s' script' kind' ⟨⟩ ⟨⟩
    exact ⟨hkind, hfrozen script' rfl⟩
  | knownNonEmpty =>
    refine moves_passOn hL h (moves_knownNonEmpty hL hallowed h hvalid _) ?_
    exact fun _ _ _ _ _ => .of_valid trivial trivial
  | variableTypes =>
    exact moves_passOn hL h (moves_variableTypes hL h hallowed _ _)
      fun _ _ _ _ hs => .of_valid hs trivial
  | pushedTypes =>
    exact moves_passOn hL h (moves_pushedTypes hL h hallowed _ _)
      fun _ _ _ _ hs => .of_valid hs trivial
  | observePush =>
    exact moves_quietly hL h (moves_observePush hL h hallowed.1 _ _ hvalid hallowed.2)
  | monitor => exact moves_quietly hL h (hforget (moves_monitor h _))
  | queueRecompile =>
    exact moves_quietly hL h (hforget (.aside h (aside_queueRecompile nofun) rfl))
  | takeRecompiles =>
    exact moves_passOn hL h (moves_take h (.handOut hallowed) (calm_takeRecompiles c) rfl)
      fun _ _ _ _ _ => .of_valid trivial trivial
  | newCallSite =>
    exact moves_passOn hL h (moves_newCallSite h hallowed hvalid)
      fun _ _ _ _ hs => .of_valid hs trivial
  | forceThisTypes =>
    exact moves_passOn hL h (moves_forceThisTypes hL h hallowed hvalid)
      fun _ _ _ _ hs => .of_valid hs trivial
  | forceResult =>
    exact moves_passOn hL h (moves_forceResult hL h hallowed hvalid)
      fun _ _ _ _ hs => .of_valid hs trivial
  | newStackNode =>
    exact moves_passOn hL h (moves_newStackNode hL h hallowed hvalid)
      fun _ _ _ _ hs => .of_valid hs trivial
  | setInnerStack =>
    exact moves_quietly hL h (moves_setInnerStack hL hsupported hallowed h hvalid.1 hvalid.2)
  | mergeStacks =>
    exact moves_quietly hL h (moves_mergeStacks hL hsupported hallowed h hvalid.1 hvalid.2)
  | setSlotFlags => exact moves_quietly hL h (moves_setSlotFlags h hvalid _)
  | finish =>
    obtain ⟨haside, hworklist⟩ := aside_finish c
    exact moves_passOn hL h (moves_take h (.aside haside) haside.calm hworklist)
      fun _ _ _ _ _ => .of_valid trivial trivial

end FlowTypes
