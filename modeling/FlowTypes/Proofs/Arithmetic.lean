import FlowTypes.Proofs.Operations
import FlowTypes.Proofs.Solution

/-!
# Results of arithmetic after a run

Whatever the order in which the types of the operands came, and the request for the operation among
them, a set that only this operation fills has exactly the results of the operation on the types
that the operands have by now.

Nothing is missing because of two types, one of each operand, the one that is delivered last finds
the other one there.  Nothing is too much because an operand has by now whatever it had when a type
of the other one was delivered.

## Main results

* `Delivers`, `FedBy`: a delivery in the course of a run, and a set that only certain deliveries fill.
* `Delivers.arith`: what a delivery to an operation adds to its target.
* `arith_exact`: the results of an operation after every run.
-/

namespace FlowTypes

namespace Compartment

variable {host : Host} {c : Compartment} {op : ArithOp} {lhs target : SetId} {rhs : Option SetId}

/-! ## Deliveries -/

/-- A type is delivered in the course of a run that ends in a compartment: the constraint hears of it
in `b`, and `b'` is what it leaves behind.  Of these two moments of the run it only matters that the
compartment has grown since. -/
structure Delivers (host : Host) (c : Compartment) (w : Work) (b b' : Compartment) : Prop where
  sound : b.Sound
  valid : w.Valid b.extent
  fired : fire host w b = (.ok (), b')
  before : b.Grows c
  after : b'.Grows c

/-- The types of a set came in by deliveries of this kind, and in no other way. -/
def FedBy (host : Host) (c : Compartment) (target : SetId) (feeds : Work → Prop) : Prop :=
  ∀ t ∈ (c.set target).types, ∃ w b b', Delivers host c w b b' ∧ feeds w ∧
    t ∉ (b.set target).types ∧ t ∈ (b'.set target).types

/-- A type of an operand is delivered to the operation. -/
def Operand (c : Compartment) (op : ArithOp) (lhs : SetId) (rhs : Option SetId) (target : SetId)
    (w : Work) : Prop :=
  (w.source = lhs ∧ c.constraint w.constraint = .arith op target rhs) ∨
    (some w.source = rhs ∧ c.constraint w.constraint = .arith op target (some lhs))

/-- Within a pass, a type that is added joins this set and no other one. -/
theorem outcome_addType_idle {b : Compartment} {s : SetId} (hs : s.In b.extent) (t : Ty) :
    Outcome (addType idle s t) b (fun _ b' => b'.extent = b.extent ∧ b.journal <:+ b'.journal ∧
      ∀ u ∈ (b'.set s).types, u ∈ (b.set s).types ∨ u = t) fun _ _ => False := by
  by_cases hhas : (b.set s).has t = true
  · exact outcome_of_ok (addType_of_has idle hhas)
      ⟨rfl, List.suffix_rfl, fun u hu => .inl hu⟩
  · have hnew : (b.set s).has t = false := by simpa using hhas
    have hrun : addType idle s t b = requestPass idle (b.insertType s t) := by
      show (if (b.set s).has t = true then _ else _ : Action Unit) b = _
      rw [if_neg hhas]
      rfl
    refine (outcome_congr hrun).mpr ?_
    have hpass : requestPass idle (b.insertType s t) = (.ok (),
        ((b.insertType s t).changeWorklist Worklist.enter).changeWorklist Worklist.leave) := by
      unfold requestPass
      dsimp only
      split <;> rfl
    refine outcome_of_ok hpass ⟨extent_changeSet .., List.suffix_cons .., fun u hu => ?_⟩
    have hu : u ∈ ((b.insertType s t).set s).types := hu
    rw [types_insertType hs t hnew, if_pos rfl] at hu
    exact (List.mem_append.mp hu).imp_right List.mem_singleton.mp

/-- A delivery to an operation adds the results of the operation to its target. -/
theorem Delivers.arith {w : Work} {b b' : Compartment} (h : Delivers host c w b b')
    {other : Option SetId} (hk : c.constraint w.constraint = .arith op target other) :
    .fired w ∈ c.journal ∧ ∀ u ∈ (b'.set target).types, u ∈ (b.set target).types ∨
      u ∈ Arith.results op w.type (other.map b.set) := by
  have hbare := (h.before.constraint w.constraint h.valid.constraint).bare
  rw [hk] at hbare
  have hk' : b.constraint w.constraint = .arith op target other :=
    Constraint.eq_of_bare_eq hbare.symm rfl
  have hvalid := h.sound.valid.constraints w.constraint
  rw [hk'] at hvalid
  have hrun : fire host w b = ((Arith.results op w.type (other.map b.set)).forM
      fun t => addType idle target t) (b.record (.fired w)) := by
    show react host w (b.constraint w.constraint) (b.record (.fired w)) = _
    rw [hk']
    rfl
  have houtcome : Outcome (fire host w) b (fun _ b' => b'.extent = b.extent ∧
      .fired w ∈ b'.journal ∧ ∀ u ∈ (b'.set target).types, u ∈ (b.set target).types ∨
        u ∈ Arith.results op w.type (other.map b.set)) fun _ _ => False := by
    refine (outcome_congr hrun).mpr (outcome_forM ⟨rfl, List.mem_cons_self, fun _ => .inl⟩ ?_)
    rintro t ht b₁ ⟨hextent, hfired, htypes⟩
    refine Outcome.imp (outcome_addType_idle (hextent ▸ hvalid.1) t) ?_ fun _ _ => id
    rintro _ b₂ ⟨hextent', hjournal, hadded⟩
    refine ⟨hextent'.trans hextent, hjournal.subset hfired, fun u hu => ?_⟩
    obtain hu | rfl := hadded u hu
    · exact htypes u hu
    · exact .inr ht
  obtain ⟨-, hfired, hadded⟩ := houtcome.of_run h.fired
  exact ⟨h.after.journal.subset hfired, hadded⟩

/-! ## Between two requests -/

/-- Whatever is to be heard of has been heard of, and at the moment of each delivery a constraint had
what it asks for. -/
structure Quiescent (c : Compartment) : Prop where
  sound : c.Sound
  genuine : c.Genuine
  heard : ∀ s id t, c.Hears s id → t ∈ (c.set s).types → .fired ⟨id, s, t⟩ ∈ c.journal
  moment : ∀ after before w, c.journal = after ++ .fired w :: before →
    ∃ m, m.journal = .fired w :: before ∧ m.Genuine ∧ (m.Sound ∧ m.Grows c) ∧
      Settled m c w (c.constraint w.constraint)

/-- The types that an operand had yield no more than those that it has. -/
theorem yields_of_grows {b : Compartment} (hb : b.Sound) (hgrows : b.Grows c) {s other : SetId} {t u : Ty}
    (ht : t ∈ (c.set s).types) (hu : u ∈ Arith.binary op t (b.set other)) :
    Arith.Yields op (c.set s) (c.set other) u := by
  obtain hu | ⟨v, hv, hu⟩ := (Arith.mem_binary (hb.valid.sets other).coherent).mp hu
  · exact ⟨t, ht, .inl hu⟩
  · exact ⟨t, ht, .inr ⟨v, (hgrows.set other).types.subset hv, hu⟩⟩

/-- Between two requests of a run in which no type is delivered twice. -/
theorem quiescent {safe : Extent → String → Prop} {options : Options}
    (hat : (handledOnce host safe).At c)
    (hgood : (handledOnce host safe).Good (fresh options) c) : c.Quiescent := by
  have hfresh := sound_fresh options
  have hattended := (hgood.did.attended (fun haborts => haborts) hfresh (attended_fresh options)
    (edgesHeard_fresh options)).1
  refine ⟨hat.sound, hgood.did.genuine id hfresh (genuine_fresh options), ?_, ?_⟩
  · intro s id t hhears ht
    refine (hattended.heard s id t hhears ht).resolve_left ?_
    rw [show c.worklist.pending = [] from hat.rest.1]
    exact List.not_mem_nil
  · intro after before w hjournal
    obtain ⟨m, c₁, hsettled⟩ := hgood.delivered after before w hjournal (Nat.zero_le _)
    obtain ⟨hm, hgrows, hkept⟩ := hsettled.kept hfresh hat.sound
    exact ⟨m, hsettled.journal, hsettled.upTo.genuine id hfresh (genuine_fresh options),
      ⟨hm, hgrows⟩, hkept⟩

namespace Quiescent

variable (h : c.Quiescent)
include h

theorem fired_of_asked {s : SetId} {k : Constraint} (hasked : c.Asked s k) (hplain : k.isPlain = true)
    {t : Ty} (ht : t ∈ (c.set s).types) :
    ∃ id, .fired ⟨id, s, t⟩ ∈ c.journal ∧ c.constraint id = k := by
  obtain ⟨id, -, hhears, hbare⟩ := hasked
  exact ⟨id, h.heard s id t hhears ht, Constraint.eq_of_bare_eq hbare hplain⟩

/-- The target has what a type of an operand yields with the types that the other one had. -/
theorem has_results {s : SetId} {other : Option SetId} (hasked : c.Asked s (.arith op target other))
    {t : Ty} (ht : t ∈ (c.set s).types) : ∃ m : Compartment, m.Sound ∧
      ∀ u ∈ Arith.results op t (other.map m.set), (c.set target).has u = true := by
  obtain ⟨id, hfired, hk⟩ := h.fired_of_asked hasked rfl ht
  obtain ⟨after, before, hjournal⟩ := List.append_of_mem hfired
  obtain ⟨m, -, -, ⟨hm, -⟩, hsettled⟩ := h.moment after before _ hjournal
  rw [hk] at hsettled
  exact ⟨m, hm, hsettled⟩

/-- The target has what a type of an operand yields in any case. -/
theorem has_binary {s other : SetId} (hasked : c.Asked s (.arith op target (some other))) {t u : Ty}
    (ht : t ∈ (c.set s).types) (hu : u ∈ Arith.binary op t {}) : (c.set target).has u = true := by
  obtain ⟨m, hm, hall⟩ := h.has_results hasked ht
  exact hall u ((Arith.mem_binary (hm.valid.sets other).coherent).mpr (.inl hu))

/-- The target has what two types yield, as it is seen from the one that was delivered last. -/
theorem has_pair {s r : SetId} (hs : c.Asked s (.arith op target (some r)))
    (hr : c.Asked r (.arith op target (some s))) {a b : Ty} (ha : a ∈ (c.set s).types)
    (hb : b ∈ (c.set r).types) : (∀ u ∈ Arith.pair op a b, (c.set target).has u = true) ∨
      ∀ u ∈ Arith.pair op b a, (c.set target).has u = true := by
  have hseen : ∀ {m : Compartment} {id : ConstraintId} {x y : SetId} {t v : Ty}, m.Sound →
      c.constraint id = .arith op target (some y) → Settled m c ⟨id, x, t⟩ (c.constraint id) →
        v ∈ (m.set y).types → ∀ u ∈ Arith.pair op t v, (c.set target).has u = true := by
    intro m id x y t v hm hk hsettled hv u hu
    rw [hk] at hsettled
    exact hsettled u ((Arith.mem_binary (hm.valid.sets y).coherent).mpr (.inr ⟨v, hv, hu⟩))
  obtain ⟨id, hfired, hk⟩ := h.fired_of_asked hs rfl ha
  obtain ⟨id', hfired', hk'⟩ := h.fired_of_asked hr rfl hb
  obtain ⟨m, ⟨hm, -⟩, hsettled, hmem⟩ | ⟨m, ⟨hm, -⟩, hsettled, hmem⟩ :=
    last_sees h.moment hfired hfired'
  · exact .inl (hseen hm hk hsettled hmem)
  · exact .inr (hseen hm hk' hsettled hmem)

/-- What an operation that alone fills its target put there. -/
theorem results_of_fedBy (hfed : c.FedBy host target (c.Operand op lhs rhs target)) {u : Ty}
    (hu : u ∈ (c.set target).types) : ∃ (s : SetId) (other : Option SetId) (b : Compartment),
      (s = lhs ∧ other = rhs ∨ some s = rhs ∧ other = some lhs) ∧ b.Sound ∧ b.Grows c ∧
        ∃ t ∈ (c.set s).types, u ∈ Arith.results op t (other.map b.set) := by
  obtain ⟨w, b, b', hdelivers, hoperand, hnot, hmem⟩ := hfed u hu
  have hresult : ∀ other, c.constraint w.constraint = .arith op target other →
      ∃ t ∈ (c.set w.source).types, u ∈ Arith.results op t (other.map b.set) := by
    intro other hk
    obtain ⟨hfired, hadded⟩ := hdelivers.arith hk
    exact ⟨w.type, (h.genuine w (.inr hfired)).2, (hadded u hmem).resolve_left hnot⟩
  obtain ⟨hs, hk⟩ | ⟨hs, hk⟩ := hoperand
  · exact ⟨w.source, rhs, b, .inl ⟨hs, rfl⟩, hdelivers.sound, hdelivers.before, hresult _ hk⟩
  · exact ⟨w.source, some lhs, b, .inr ⟨hs, rfl⟩, hdelivers.sound, hdelivers.before, hresult _ hk⟩

end Quiescent

/-! ## Runs -/

/-- The target has the results of an operation on one or two operands. -/
def HasResults (c : Compartment) (op : ArithOp) (lhs : SetId) (rhs : Option SetId)
    (target : SetId) : Prop :=
  match rhs with
  | none => Arith.ExactUnary (c.set lhs) (c.set target)
  | some rhs => Arith.Exact op (c.set lhs) (c.set rhs) (c.set target)

/-- Between two requests, a set that only an operation fills has its results for all the types of the
operands, whatever the order in which these came, and the request for the operation among them. -/
theorem arith_exact {safe : Extent → String → Prop} {options : Options} {rs : List Request}
    (hrun : Request.Proper safe host rs (fresh options) c) (honce : Request.DeliversOnce host rs)
    (hcalled : .addArith lhs rhs target op ∈ rs ∨ (Request.addArith lhs rhs target op).Done c)
    (hfed : c.FedBy host target (c.Operand op lhs rhs target)) : c.HasResults op lhs rhs target := by
  obtain ⟨hat, hgood, hdone⟩ := hrun.good_once honce (at_fresh options _ trivial _ _)
  have h := quiescent hat hgood
  obtain ⟨hleft, hright⟩ : (Request.addArith lhs rhs target op).Done c :=
    hcalled.elim (hdone _) id
  have hcoherent := (h.sound.valid.sets target).coherent
  cases rhs with
  | none =>
    refine Arith.exactUnary_of_types hcoherent (fun u hu => ?_) fun t ht => ?_
    · obtain ⟨s, other, b, ⟨rfl, rfl⟩ | ⟨hs, -⟩, -, -, t, ht, hresult⟩ := h.results_of_fedBy hfed hu
      · exact ⟨t, ht, List.mem_singleton.mp hresult⟩
      · cases hs
    · obtain ⟨m, -, hall⟩ := h.has_results hleft ht
      exact hall _ List.mem_cons_self
  | some rhs =>
    have hright := hright rhs rfl
    refine Arith.exact_of_pairs hcoherent (fun u hu => ?_) (fun t ht u => h.has_binary hleft ht)
      (fun t ht u => h.has_binary hright ht) fun a ha b hb => h.has_pair hleft hright ha hb
    obtain ⟨s, other, b, ⟨rfl, rfl⟩ | ⟨hs, rfl⟩, hb, hgrows, t, ht, hresult⟩ :=
      h.results_of_fedBy hfed hu
    · exact .inl (yields_of_grows hb hgrows ht hresult)
    · cases hs
      exact .inr (yields_of_grows hb hgrows ht hresult)

/-- An integer is in the one operand before a double joins the other one. -/
def earlySumRun : List Request :=
  [.newSet, .newSet, .newSet, .addType ⟨1⟩ .int32, .addArith ⟨1⟩ (some ⟨2⟩) ⟨3⟩ .add]

def sumRun : List Request := earlySumRun ++ [.addType ⟨2⟩ .double]

/-- The state in which the operation hears of the double. -/
def sumState : Compartment :=
  (Request.runAll .silent earlySumRun (fresh {})).2.insertType ⟨2⟩ .double

theorem sound_sumState : sumState.Sound := by
  have hvalid : Request.ValidAlong .silent earlySumRun (fresh {}) := by decide +kernel
  have hearly := (Request.reaches_silent hvalid (by decide +kernel)).resting rfl
  have hjoins : Change (Request.runAll .silent earlySumRun (fresh {})).2 .plain sumState :=
    .traffic (.insert (by decide +kernel) nofun (by decide +kernel) (.given trivial))
  exact hjoins.sound hearly.sound

theorem delivers_sum : Delivers .silent (Request.runAll .silent sumRun (fresh {})).2
    ⟨⟨1⟩, ⟨2⟩, .double⟩ sumState (fire .silent ⟨⟨1⟩, ⟨2⟩, .double⟩ sumState).2 where
  sound := sound_sumState
  valid := by decide +kernel
  fired := Prod.ext (by decide +kernel) rfl
  before := by
    have hlast : Grows ((sumState.record (.fired ⟨⟨1⟩, ⟨2⟩, .double⟩)).insertType ⟨3⟩ .double)
        (Request.runAll .silent sumRun (fresh {})).2 := by
      apply grows_of_eq <;> decide +kernel
    exact (grows_record _).trans ((grows_insertType (by decide +kernel) _).trans hlast)
  after := by
    apply grows_of_eq <;> decide +kernel

theorem arith_exact_sum :
    ((Request.runAll .silent sumRun (fresh {})).2.set ⟨3⟩).types = [.double] ∧
      (Request.runAll .silent sumRun (fresh {})).2.HasResults .add ⟨1⟩ (some ⟨2⟩) ⟨3⟩ := by
  have hvalid : Request.ValidAlong .silent sumRun (fresh {}) := by decide +kernel
  have hrun : Request.Proper (fun _ _ => True) .silent sumRun (fresh {})
      (Request.runAll .silent sumRun (fresh {})).2 :=
    ⟨fun _ _ _ _ _ _ _ _ => trivial, rfl, hvalid.safe (by decide +kernel), by decide +kernel⟩
  have honce : Request.DeliversOnce .silent sumRun := ⟨by decide +kernel, fun _ _ _ => trivial⟩
  have htypes : ((Request.runAll .silent sumRun (fresh {})).2.set ⟨3⟩).types = [.double] := by
    decide +kernel
  refine ⟨htypes, arith_exact hrun honce (.inl (by decide +kernel)) fun t ht => ?_⟩
  rw [htypes, List.mem_singleton] at ht
  subst ht
  exact ⟨_, _, _, delivers_sum, .inr ⟨rfl, by decide +kernel⟩, by decide +kernel, by decide +kernel⟩

end Compartment

end FlowTypes
