import FlowTypes.Proofs.Runs

/-!
# Prototypes and names in every reachable compartment

Whatever a host asks for, and whatever fails on the way, following the prototypes of an object comes
to an end, every object lists those that have it as their prototype, and a name is the name of one
object.  So the walks along a chain of prototypes, which the compartment cuts off after as many steps
as it has objects, are never cut off.

A prototype is set once.  A request for a prototype that would close a circle is turned down before
anything is changed; every other one has set the prototype by the time it fails, if it does.

## Main results

* `Ordered`: the prototypes make a forest, and objects are told apart by their names;
  `ordered_of_sound`.
* `proto_addPrototype`: what a request for a prototype brings about.
* `lineage_kept`: all of this for every run of requests.
-/

namespace FlowTypes

namespace Compartment

variable {c : Compartment}

/-! ## The end of a chain -/

/-- The object that is reached by following so many prototypes. -/
def ancestor (c : Compartment) : ObjectId → Nat → Option ObjectId
  | o, 0 => some o
  | o, n + 1 => (c.object o).proto.bind fun p => c.ancestor p n

/-- The chain of an object has every prototype at its place. -/
theorem ancestor_succ (hc : c.Valid) (h : c.Forest) (o : ObjectId) (n : Nat) :
    c.ancestor o (n + 1) = (c.chain o)[n]? := by
  induction n generalizing o with
  | zero =>
    cases hp : (c.object o).proto with
    | none => simp [ancestor, hp, chain_of_no_proto hp]
    | some p => simp [ancestor, hp, chain_of_proto hc h hp]
  | succ n ih =>
    rw [ancestor]
    cases hp : (c.object o).proto with
    | none => simp [chain_of_no_proto hp]
    | some p => rw [Option.bind_some, ih, chain_of_proto hc h hp, List.getElem?_cons_succ]

/-- The chain of an object is shorter than the table of objects. -/
theorem length_chain_lt (hc : c.Valid) (h : c.Forest) (o : ObjectId) :
    (c.chain o).length < c.objects.size := by
  by_cases ho : o.In c.extent
  · have hall : ∀ x ∈ o :: c.chain o, x.In c.extent := by
      intro x hx
      obtain rfl | hx := List.mem_cons.mp hx
      · exact ho
      · exact (inherits_of_mem_chain hx).target_in hc
    have hle := length_le_of_nodup hall (nodup_chain h o)
    rwa [List.length_cons] at hle
  · have hnone : (c.object o).proto = none := by
      rw [object_of_not_in ho]
      rfl
    have hglobal : 0 < c.objects.size := hc.global
    rw [chain_of_no_proto hnone]
    exact hglobal

/-! ## Reachable compartments -/

/-- The prototypes make a forest, and objects are told apart by their names. -/
structure Ordered (c : Compartment) : Prop where
  /-- Following prototypes ends after as many steps as there are objects. -/
  ends : ∀ o, c.ancestor o c.objects.size = none
  /-- The chain that properties, arrays and prototypes are looked up along is not cut off. -/
  chain : ∀ o n, c.ancestor o (n + 1) = (c.chain o)[n]?
  instances : ∀ o p, o ∈ (c.object p).instances ↔ (c.object o).proto = some p
  once : ∀ p, (c.object p).instances.Nodup
  names : ∀ a b : ObjectId, a.In c.extent → b.In c.extent → c.objectName a = c.objectName b → a = b
  named : ∀ name o, c.objectNamed? name = some o ↔ o.In c.extent ∧ c.objectName o = name

theorem ordered_of_sound (h : c.Sound) : c.Ordered where
  ends o := by
    have hlength := length_chain_lt h.valid h.forest o
    obtain ⟨n, hn⟩ := Nat.exists_eq_succ_of_ne_zero (Nat.ne_zero_of_lt hlength)
    rw [hn] at hlength ⊢
    rw [ancestor_succ h.valid h.forest, List.getElem?_eq_none (by omega)]
  chain := ancestor_succ h.valid h.forest
  instances := h.forest.instances
  once := h.forest.nodup
  names := h.names.unique
  named name o := by
    refine ⟨objectNamed?_some, ?_⟩
    rintro ⟨ho, hname⟩
    cases hfound : c.objectNamed? name with
    | none => exact absurd hname (objectNamed?_none hfound ho)
    | some a =>
      obtain ⟨ha, hname'⟩ := objectNamed?_some hfound
      rw [h.names.unique a o ha ho (hname'.trans hname.symm)]

/-! ## Requests for a prototype -/

section AddPrototype

variable {id proto : ObjectId} (hnone : (c.object id).proto = none)
include hnone

/-- A prototype that would close a circle is turned down, and nothing is changed. -/
theorem addPrototype_of_cycle (hc : c.Valid) (h : c.Forest) (pass : Action Unit)
    (hcycle : id = proto ∨ c.Inherits proto id) : addPrototype pass id proto c =
      (.error (.prototypeCycle (c.objectName id) (c.objectName proto)), c) := by
  have hmem : (proto :: c.chain proto).contains id = true := by
    rw [List.contains_iff_mem, List.mem_cons, mem_chain_iff hc h]
    exact hcycle
  unfold addPrototype
  rw [run_get]
  simp only [hnone, Option.isSome_none, Bool.false_eq_true, if_false, hmem, if_true]
  rfl

/-- Every other prototype is set, even if what has to be wired up for it fails. -/
theorem proto_addPrototype {L : Law} (hL : L.Lawful) (hrefuses : L.Refuses) (h : L.At c)
    (hid : id.In c.extent) (hproto : proto.In c.extent) (hlinked : c.Linked L.scope id proto)
    (hne : id ≠ proto) (hup : ¬ c.Inherits proto id) :
    ((addPrototype L.pass id proto c).2.object id).proto = some proto := by
  have hcontains : ¬ (proto :: c.chain proto).contains id = true := by
    rw [List.contains_iff_mem, List.mem_cons, mem_chain_iff h.sound.valid h.sound.forest]
    exact fun hcycle => hcycle.elim hne hup
  have hrun : addPrototype L.pass id proto c = link L.pass id proto c := by
    unfold addPrototype
    rw [run_get]
    simp only [hnone, Option.isSome_none, Bool.false_eq_true, if_false, hcontains]
  have hlink := outcome_link hL hrefuses.roomy h hid hproto hnone hne hup hlinked
  rw [hrun]
  refine Outcome.either (P := fun c' => (c'.object id).proto = some proto)
    (Outcome.imp hlink (fun _ _ hlinked => hlinked.2.2) ?_)
  rintro e c' ⟨hdid, -⟩
  have hset : Did L.scope c (c.setProto id proto) :=
    .single (.setProto hid hproto hnone hne hup hlinked)
  refine ((hdid.grows (hset.sound h.sound)).object id).proto proto ?_
  rw [proto_setProto hid hproto hne, if_pos rfl]

end AddPrototype

/-- In every compartment that a run leaves behind, whatever failed in it, the prototypes make a
forest and names are names of one object; a prototype stays the same in all later runs; and a
request for a prototype is turned down because of a circle exactly if there would be one. -/
theorem lineage_kept {safe : Extent → String → Prop} {host : Host} {options : Options}
    {rs : List Request} {c : Compartment} (hrun : Request.Reaches safe host rs (fresh options) c) :
    c.Ordered ∧
      (∀ rs' c', Request.Reaches safe host rs' c c' → ∀ o p, (c.object o).proto = some p →
        (c'.object o).proto = some p) ∧
      ∀ o p : ObjectId, o.In c.extent → p.In c.extent → (c.object o).proto = none →
        (addPrototype (solve host) o p c =
          (.error (.prototypeCycle (c.objectName o) (c.objectName p)), c) ↔
            o = p ∨ c.Inherits p o) := by
  have hat := hrun.resting rfl
  refine ⟨ordered_of_sound hat.sound, ?_, ?_⟩
  · intro rs' c' hlater o p hp
    exact (((hlater.moves hat).2.grows hat.sound).object o).proto p hp
  · intro o p ho hp hnone
    refine ⟨fun hturned => ?_, addPrototype_of_cycle hnone hat.sound.valid hat.sound.forest _⟩
    by_contra hcycle
    obtain ⟨hne, hup⟩ := not_or.mp hcycle
    have hrefuses := Law.Free.refuses (L := handled host safe) fun _ _ => trivial
    have hset := proto_addPrototype hnone (lawful_handled hrun.handlers) hrefuses hat ho hp
      (.given trivial) hne hup
    have hsame : (addPrototype (handled host safe).pass o p c).2 = c := congrArg Prod.snd hturned
    rw [hsame, hnone] at hset
    cases hset

/-- An object and one below it; a circle and a wrong kind of object are asked for, and both fail. -/
def quarrellingRun : List Request :=
  [.typeObject none "above" false none, .typeObject none "below" false (some ⟨1⟩),
    .addPrototype ⟨1⟩ ⟨2⟩, .typeObject none "above" true none]

theorem lineage_kept_quarrelling :
    (Request.runAll .silent quarrellingRun (fresh {})).2.Ordered ∧
      addPrototype (solve .silent) ⟨1⟩ ⟨2⟩ (Request.runAll .silent quarrellingRun (fresh {})).2 =
        (.error (.prototypeCycle "above" "below"),
          (Request.runAll .silent quarrellingRun (fresh {})).2) := by
  have hrun : Request.Reaches (fun _ _ => True) .silent quarrellingRun (fresh {})
      (Request.runAll .silent quarrellingRun (fresh {})).2 :=
    ⟨fun _ _ _ _ _ _ _ _ => trivial, rfl,
      Request.ValidAlong.safe (by decide +kernel) (by decide +kernel)⟩
  obtain ⟨hordered, -, hcycle⟩ := lineage_kept hrun
  have hbelow : ((Request.runAll .silent quarrellingRun (fresh {})).2.object ⟨2⟩).proto =
      some ⟨1⟩ := by decide +kernel
  have habove : (Request.runAll .silent quarrellingRun (fresh {})).2.objectName ⟨1⟩ = "above" ∧
      (Request.runAll .silent quarrellingRun (fresh {})).2.objectName ⟨2⟩ = "below" := by
    decide +kernel
  have hturned := (hcycle ⟨1⟩ ⟨2⟩ (by decide +kernel) (by decide +kernel)
    (by decide +kernel)).mpr (.inr (.proto hbelow))
  rw [habove.1, habove.2] at hturned
  exact ⟨hordered, hturned⟩

end Compartment

end FlowTypes
