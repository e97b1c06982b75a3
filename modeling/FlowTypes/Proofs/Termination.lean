import FlowTypes.Proofs.Bounds

/-!
# Passes come to an end

A pass stops at its bound, but a host without handlers never sees that happen.  So the loop that
takes types off the worklist until there are none comes to an end by itself, from every compartment
that requests lead to, whether they succeeded or failed: the worklist runs empty, or a constraint
fails and the pass is given up.

## Main results

* `Drains`: the loop of a pass, without a bound; `drains_of_drain`.
* `lawful_ending`: a host without handlers obeys a law in which no pass gets to its bound.
* `passes_end`: no request fails because of a bound, and every pass ends.
-/

namespace FlowTypes

namespace Compartment

variable {host : Host} {b c c' : Compartment}

/-! ## The loop without a bound -/

/-- Pending types are delivered until there are none or one of them fails, after so many deliveries. -/
inductive Drains (host : Host) : Compartment → Nat → Except InferError Unit → Compartment → Prop
  | empty {c : Compartment} (h : c.worklist.next? = none) :
    Drains host c 0 (.ok ()) (c.changeWorklist Worklist.stop)
  | failed {c c' : Compartment} {work : Work} {rest : Worklist} {e : InferError}
      (h : c.worklist.next? = some (work, rest))
      (hfire : fire host work { c with worklist := rest } = (.error e, c')) :
    Drains host c 1 (.error e) (c'.abandon e)
  | delivery {c c' c'' : Compartment} {work : Work} {rest : Worklist} {n : Nat}
      {o : Except InferError Unit} (h : c.worklist.next? = some (work, rest))
      (hfire : fire host work { c with worklist := rest } = (.ok (), c'))
      (hrest : Drains host c' n o c'') : Drains host c (n + 1) o c''

/-- A pass that does not get to its bound is the loop without one. -/
theorem drains_of_drain {fuel : Nat} {o : Except InferError Unit}
    (h : drain host fuel c = (o, c')) (hends : o ≠ .error (.outOfMemory "worklist")) :
    ∃ n, n ≤ fuel ∧ Drains host c n o c' := by
  induction fuel generalizing c with
  | zero =>
    cases h
    exact absurd rfl hends
  | succ fuel ih =>
    cases hnext : c.worklist.next? with
    | none =>
      rw [drain_of_empty fuel hnext] at h
      cases h
      exact ⟨0, Nat.zero_le _, .empty hnext⟩
    | some next =>
      obtain ⟨work, rest⟩ := next
      cases hfire : fire host work { c with worklist := rest } with
      | mk r c₁ =>
        cases r with
        | ok =>
          rw [drain_of_delivered fuel hnext hfire] at h
          obtain ⟨n, hn, hdrains⟩ := ih h
          exact ⟨n + 1, Nat.succ_le_succ hn, .delivery hnext hfire hdrains⟩
        | error e =>
          rw [drain_of_failed fuel hnext hfire] at h
          cases h
          exact ⟨1, Nat.succ_le_succ (Nat.zero_le _), .failed hnext hfire⟩

/-! ## Hosts without handlers -/

/-- What a host may bring about that has no handlers and whose requests may fail. -/
def Scope.unhandled : Scope :=
  { Scope.ofHost (fun _ => True) True fun _ _ => False with aborts := True }

/-- Such a host may ask for anything but a handler. -/
theorem allowed_unhandled {r : Request} (hnative : r.isNative = false) :
    r.Allowed .unhandled c := by
  refine Request.allowed_of_full trivial rfl (fun _ => trivial) (fun _ _ _ _ => trivial)
    (fun _ _ _ _ => trivial) ?_
  rintro o handler g name rfl rfl
  cases hnative

/-- What the bound of a pass relies on. -/
def countable : Scope.unhandled.Invariant where
  Holds c := c.Listed ∧ c.SetsApart
  kept _ _ hc hdid h := ⟨hdid.listedOnce hc h.1, hdid.setsApart hc h.2⟩

/-- The law of such a host, in which no pass gets to its bound. -/
def ending (host : Host) : Law :=
  between host .unhandled countable fun e => e ≠ .outOfMemory "worklist"

theorem moves_solve_ending (h : (ending host).Standing c) :
    (ending host).Moves (solve host) c fun _ _ => True :=
  moves_solve (Scope.inside_engine trivial fun _ _ => id) (Law.Free.refuses fun _ he => he).lenient
    (fun _ => obeyed_of_not_handled (fun _ _ => id) host)
    (.inr fun _ _ _ hb (hkept : countable.Holds _) hran =>
      hran.le_deliveryBound hb hkept.1 hkept.2) _ h

theorem lawful_ending (host : Host) : (ending host).Lawful :=
  lawful_outer fun _ h _ => moves_solve_ending h

/-- Every pass is the loop without a bound. -/
theorem drains_solve (h : (ending host).Standing c) : ∃ n o c', n ≤ c.deliveryBound + 1 ∧
    Drains host (c.changeWorklist Worklist.start) n o c' ∧ solve host c = (o, c') := by
  have hends : (solve host c).1 ≠ .error (.outOfMemory "worklist") :=
    fun hrun => ((moves_solve_ending h).error hrun).2.2 rfl
  obtain ⟨n, hn, hdrains⟩ := drains_of_drain rfl hends
  exact ⟨n, _, _, hn, hdrains, rfl⟩

/-- A run of requests of a host without handlers, whatever fails in it, leaves a compartment at
rest. -/
theorem at_ending {options : Options} {rs : List Request}
    (hrun : (Request.runAll host rs (fresh options)).2 = c)
    (hvalid : Request.ValidAlong host rs (fresh options)) (hnative : ∀ r ∈ rs, r.isNative = false) :
    (ending host).At c := by
  have hreaches : Request.Reaches (fun _ _ => False) host rs (fresh options) c :=
    ⟨fun _ _ _ _ h => h.elim, hrun, hvalid.safe hnative⟩
  obtain ⟨hat, hdid⟩ := hreaches.moves (at_fresh options _ trivial _ _)
  exact ⟨⟨hat.sound, hat.handled, countable.kept _ _ (sound_fresh options) hdid
    ⟨listed_fresh options, setsApart_fresh options⟩⟩, hat.rest⟩

/-- A request that gives a function a handler starts no pass. -/
theorem outcome_setNativeHandler {o : ObjectId} {handler : Option String} {isGeneric : Bool} :
    Outcome ((Request.setNativeHandler o handler isGeneric).run host) c (fun _ _ => True)
      fun e _ => e = .notAFunction (c.object o).name := by
  have hrun : (Request.setNativeHandler o handler isGeneric).run host =
      (do
        setNativeHandler o handler isGeneric
        return .done) := rfl
  rw [hrun, outcome_bind, setNativeHandler, outcome_bind, outcome_discard, functionInfo, outcome_get]
  dsimp only
  split
  · exact outcome_pure.mpr (outcome_of_ok rfl (outcome_pure.mpr trivial))
  · exact outcome_of_error rfl rfl

/-- No request of a host without handlers fails because a pass got to its bound. -/
theorem run_ne_worklist (h : (ending host).At c) {r : Request} (hvalid : r.Valid c.extent) :
    (r.run host c).1 ≠ .error (.outOfMemory "worklist") := by
  intro hrun
  by_cases hnative : r.isNative = true
  · cases r with
    | setNativeHandler o handler isGeneric => cases outcome_setNativeHandler.error hrun
    | _ => cases hnative
  · have hallowed := allowed_unhandled (c := c) (eq_false_of_ne_true hnative)
    have hfree : (ending host).Free := fun _ he => he
    have hmoves := Request.moves (lawful_ending host) h (hfree.supported r) hvalid hallowed
    exact (Outcome.error hmoves hrun).2.2 rfl

/-- In every compartment that a host without handlers gets to, whatever fails on the way, every
request ends without getting to the bound of a pass; and so does a pass that begins at any moment of
it: it delivers types until there are none or one of them fails. -/
theorem passes_end {options : Options} {rs : List Request}
    (hrun : (Request.runAll host rs (fresh options)).2 = c)
    (hvalid : Request.ValidAlong host rs (fresh options)) (hnative : ∀ r ∈ rs, r.isNative = false)
    {r : Request} (hr : r.Valid c.extent) :
    (r.run host c).1 ≠ .error (.outOfMemory "worklist") ∧
      ∀ b, Did .unhandled c b → ∃ n o b', n ≤ b.deliveryBound + 1 ∧
        Drains host (b.changeWorklist Worklist.start) n o b' ∧ solve host b = (o, b') := by
  have hat := at_ending hrun hvalid hnative
  exact ⟨run_ne_worklist hat hr, fun b hdid => drains_solve (hat.toStanding.did hdid)⟩

/-- Two sets that flow into each other, a third that gets a property of their objects, and an object that
has no such property yet. -/
def circularRun : List Request :=
  [.newSet, .newSet, .newSet, .addSubset ⟨1⟩ ⟨2⟩, .addSubset ⟨2⟩ ⟨1⟩,
    .readProperty ⟨2⟩ none ⟨3⟩ (.named "x"), .typeObject none "o" false none]

/-- The object goes around in the circle, and its property is made on the way. -/
theorem passes_end_circular :
    ((Request.addType ⟨1⟩ (.object ⟨1⟩)).run .silent
      (Request.runAll .silent circularRun (fresh {})).2).1 ≠ .error (.outOfMemory "worklist") ∧
    ∃ n o b', n ≤ (Request.runAll .silent circularRun (fresh {})).2.deliveryBound + 1 ∧
      Drains .silent ((Request.runAll .silent circularRun (fresh {})).2.changeWorklist
        Worklist.start) n o b' ∧
      solve .silent (Request.runAll .silent circularRun (fresh {})).2 = (o, b') := by
  have hr : (Request.addType ⟨1⟩ (.object ⟨1⟩)).Valid
      (Request.runAll .silent circularRun (fresh {})).2.extent := by decide +kernel
  have hrun : (Request.runAll .silent circularRun (fresh {})).2 =
      (Request.runAll .silent circularRun (fresh {})).2 := rfl
  obtain ⟨hends, hdrains⟩ := passes_end hrun (by decide +kernel) (by decide +kernel) hr
  exact ⟨hends, hdrains _ (.refl _)⟩

end Compartment

end FlowTypes
