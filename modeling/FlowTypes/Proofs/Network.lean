import FlowTypes.Proofs.Carrying
import FlowTypes.Proofs.Origins
import FlowTypes.Proofs.Solution
import Mathlib.Logic.Relation

/-!
# Networks of sets

A host that only makes sets, adds types to them and connects them by subset edges and filters gets
what it can read off its requests: a set has a type if there is a way to it that lets the type
through, from a set that the type was added to.  The order of the requests does not matter, because
a set of requests has no order.

The unknown type stands for every type, and no filter holds it back.  So a set has a type also if
there is a way for the unknown type, and a set that has the unknown type may well drop what is added
later: where the later types would go, the unknown type has gone before.

## Main results

* `Network.Arrives`: there is a way for a type from where it was added.
* `network_reaches`: every request succeeds, and the types of a set are those that arrive.
-/

namespace FlowTypes

open Compartment

/-! ## Ways -/

/-- The request makes a set, adds a type to one, or connects two. -/
def Request.isFlow : Request → Bool
  | newSet | addType .. | observeType .. | addSubset .. | addFilter .. => true
  | _ => false

namespace Network

variable (rs : List Request)

/-- A type was added to a set.  The set that stands for every type has the unknown type. -/
def Seeded (s : SetId) (t : Ty) : Prop :=
  .addType s t ∈ rs ∨ .observeType s t ∈ rs ∨ s = universal ∧ t = .unknown

/-- Two sets were connected, and the type is not held back. -/
def Edge (t : Ty) (a b : SetId) : Prop :=
  .addSubset a b ∈ rs ∨ ∃ mode, .addFilter a b mode ∈ rs ∧ mode.passes t = true

/-- There is a way for a type to a set, from one that it was added to. -/
def Arrives (s : SetId) (t : Ty) : Prop :=
  ∃ source, Seeded rs source t ∧ Relation.ReflTransGen (Edge rs t) source s

variable {rs}

theorem Arrives.seed {s : SetId} {t : Ty} (h : Seeded rs s t) : Arrives rs s t := ⟨s, h, .refl⟩

theorem Arrives.edge {a b : SetId} {t : Ty} (h : Arrives rs a t) (hedge : Edge rs t a b) :
    Arrives rs b t := by
  obtain ⟨source, hsource, hway⟩ := h
  exact ⟨source, hsource, hway.tail hedge⟩

/-- Only which requests there are matters. -/
theorem Arrives.congr {rs' : List Request} (hsame : ∀ r, r ∈ rs ↔ r ∈ rs') {s : SetId} {t : Ty}
    (h : Arrives rs s t) : Arrives rs' s t := by
  obtain ⟨source, hsource, hway⟩ := h
  refine ⟨source, ?_, hway.lift id fun a b hedge => ?_⟩
  · exact hsource.imp (hsame _).mp (Or.imp_left (hsame _).mp)
  · exact hedge.imp (hsame _).mp (Exists.imp fun mode => And.imp_left (hsame _).mp)

end Network

namespace Compartment

variable {sc : Scope} {host : Host} {c c' : Compartment} {rs : List Request}

/-! ## The law of a network -/

/-- What a host asks for that only makes these requests. -/
def Grant.network (rs : List Request) : Grant :=
  { Grant.none with
    adds := fun s t => .addType s t ∈ rs ∨ .observeType s t ∈ rs
    joins := fun a b => .addSubset a b ∈ rs
    asks := fun s k => ∃ target mode, k = .filter target mode ∧ .addFilter s target mode ∈ rs }

/-- What a host may bring about that only makes these requests. -/
def Scope.network (rs : List Request) : Scope :=
  .granting (.network rs) (fun _ => False) False fun _ _ => False

theorem Scope.carries_network (rs : List Request) : (Scope.network rs).Carries where
  asks := by
    rintro s k ⟨target, mode, rfl, -⟩
    rfl
  passes := trivial
  handler _ _ := id

/-- Nobody asks for a property, so no object has one. -/
theorem Did.bare (hkeys : ∀ key, ¬ sc.grant.keys key)
    (hasks : ∀ s k, sc.grant.asks s k → k.isCarrier = true) (hc : c.Sound) (h : Did sc c c')
    (hcarrying : c.Carrying) (hbare : ∀ o, (c.object o).properties = []) :
    ∀ o, (c'.object o).properties = [] := by
  refine (h.change_induction (P := fun b => b.Carrying ∧ ∀ o, (b.object o).properties = [])
    hc ?_ ?_ ⟨hcarrying, hbare⟩).2
  · rintro a b ha hchange ⟨hcarrying, hbare⟩
    refine ⟨(Did.single hchange).carrying hasks ha hcarrying, fun o => ?_⟩
    obtain hbarren | ⟨-, rfl⟩ | ⟨name, function, -, -, rfl⟩ |
      ⟨owner, key, -, -, -, hkey, rfl⟩ | htraffic := hchange.barren_or
    · rw [hbarren.properties, hbare]
    · exact hbare o
    · rw [properties_pushObject, hbare]
    · exact absurd (hkey.resolve_left (hkeys key)) (hcarrying.not_keyed hbare key)
    · rw [object, htraffic.objects_eq.1, ← object, hbare]
  · rintro a id ha hid ⟨hcarrying, hbare⟩
    exact ⟨hcarrying, fun o => by rw [(barren_classify hid).properties, hbare]⟩

/-- Every request of a network succeeds. -/
theorem moves_network (h : (carrying (Scope.carries_network rs) host).At c) {r : Request}
    (hr : r ∈ rs) (hflow : r.isFlow = true) (hvalid : r.Valid c.extent) :
    (carrying (Scope.carries_network rs) host).Moves (r.run host) c fun _ c' => r.Done c' := by
  have hallowed : r.Allowed (.network rs) c ∧
      r.Supported (carrying (Scope.carries_network rs) host) := by
    cases r with
    | newSet => exact ⟨trivial, trivial⟩
    | addType => exact ⟨.inl hr, trivial⟩
    | observeType => exact ⟨.inr hr, trivial⟩
    | addSubset => exact ⟨hr, trivial⟩
    | addFilter _ target mode => exact ⟨⟨target, mode, rfl, hr⟩, trivial⟩
    | _ => cases hflow
  refine .imp h (Request.moves (lawful_carrying _ host) h hallowed.2 hvalid hallowed.1) ?_
  exact fun _ _ _ _ hanswered => hanswered.done

/-! ## What arrives, and nothing else -/

/-- A type joins a set of a network only where there is a way for it. -/
theorem arrives_of_sources (hcarrying : c.Carrying) (hbare : ∀ o, (c.object o).properties = [])
    {target : SetId} {t : Ty} (hold : ∀ s, ∀ t ∈ (c.set s).types, Network.Arrives rs s t)
    (h : Sources (.network rs) c target t) : Network.Arrives rs target t := by
  have hnone : ∀ {o p}, p ∉ (c.object o).properties := by
    intro o p hp
    rw [hbare] at hp
    exact absurd hp List.not_mem_nil
  have hheard : ∀ {w k}, k.isCarrier = false → ¬ c.Hearing w k := by
    intro w k hk hw
    rw [hcarrying.hearing hw] at hk
    cases hk
  cases h with
  | given h => exact .seed (h.imp_right .inl)
  | assigned h => exact h.elim
  | forgotten _ hp => exact absurd hp hnone
  | @emitted source _ k u _ hk hu hemits =>
    cases hk with
    | asked h =>
      obtain ⟨target', mode, rfl, hasked⟩ := h
      obtain ⟨rfl, hpasses, rfl⟩ := hemits
      exact (hold source _ hu).edge (.inr ⟨mode, hasked, hpasses⟩)
    | edge hdrawn =>
      obtain ⟨rfl, rfl⟩ := hemits
      cases hdrawn with
      | given h => exact (hold source _ hu).edge (.inl h)
      | own hp | inherited _ hp => exact absurd hp hnone
      | read hw | write hw => exact absurd hw (hheard rfl)
      | called h => exact absurd h hcarrying.not_calls
    | wired hw => exact absurd hw (hheard rfl)
    | called h => exact absurd h hcarrying.not_calls
  | called h => exact absurd h hcarrying.not_calls

/-- Whatever is in a set of a network has a way to it. -/
theorem Did.arrives {options : Options} (h : Did (.network rs) (fresh options) c) :
    ∀ s, ∀ t ∈ (c.set s).types, Network.Arrives rs s t := by
  have hasks := (Scope.carries_network rs).asks
  have hcarrying := h.carrying hasks (sound_fresh options) (carrying_fresh options)
  have hbare : ∀ o, (c.object o).properties = [] := by
    refine h.bare (fun _ => id) hasks (sound_fresh options) (carrying_fresh options) ?_
    rintro ⟨i⟩
    cases i <;> rfl
  refine h.origins id (sound_fresh options) (genuine_fresh options) (explained_fresh _ options) ?_
    (.refl c) ?_
  · exact fun s t ht => .seed (.inr (.inr (mem_types_fresh.mp ht)))
  · intro b hb hgrows _ _ hold target t hsources _
    refine arrives_of_sources (hcarrying.earlier hgrows) (fun o => ?_) hold hsources
    exact List.prefix_nil.mp (hbare o ▸ (hgrows.object o).properties)

/-- A type that has a way to a set is in it, once all requests are done. -/
theorem Resolved.has_of_arrives {options : Options} (h : c.Resolved)
    (hgrows : (fresh options).Grows c) (hdone : ∀ r ∈ rs, r.Done c) {s : SetId} {t : Ty}
    (harrives : Network.Arrives rs s t) : (c.set s).has t = true := by
  have hcoherent : ∀ s, (c.set s).Coherent := fun s => (h.sound.valid.sets s).coherent
  obtain ⟨source, hseeded, hway⟩ := harrives
  induction hway with
  | refl =>
    obtain hadded | hobserved | ⟨rfl, rfl⟩ := hseeded
    · exact hdone _ hadded
    · exact hdone _ hobserved
    · exact h.has_universal hgrows _
  | @tail a b _ hedge ih =>
    obtain hjoined | ⟨mode, hfiltered, hpasses⟩ := hedge
    · exact h.has_of_flows (hdone _ hjoined) ih
    · obtain ⟨id, -, hhears, hbare⟩ := hdone _ hfiltered
      have hid : c.constraint id = .filter b mode := Constraint.eq_of_bare_eq hbare rfl
      have harrived : ∀ u ∈ (c.set a).types, mode.passes u = true → (c.set b).has u = true := by
        intro u hu
        obtain ⟨_, hsettled⟩ := h.settled_of_hears hhears hu
        rw [hid] at hsettled
        exact hsettled
      obtain ht | hunknown := ((hcoherent a).has_iff t).mp ih
      · exact harrived t ht hpasses
      · -- No filter holds the unknown type back.
        exact (hcoherent b).has_of_has_unknown (harrived .unknown hunknown (by cases mode <;> rfl)) t

/-- Every request of a network succeeds, and a set has the types that arrive, those that the unknown
type stands for among them. -/
theorem network_solved {options : Options} (hflow : ∀ r ∈ rs, r.isFlow = true)
    (hvalid : Request.ValidAlong host rs (fresh options)) :
    (∀ o ∈ (Request.runAll host rs (fresh options)).1, o.isOk = true) ∧
      ∀ s t, (((Request.runAll host rs (fresh options)).2.set s).has t = true ↔
        ∃ u, (u = t ∨ u = .unknown) ∧ Network.Arrives rs s u) := by
  obtain ⟨hok, hat, hgood, hdone⟩ := Request.runAll_never_fails
    (L := carrying (Scope.carries_network rs) host) (fun _ => id) hvalid (fun r hr b hr' hb => moves_network hb hr (hflow r hr) hr')
    (at_carrying _ host options)
  have hresolved := resolved_of_good id hat hgood
  have hgrows := hgood.grows (sound_fresh options)
  refine ⟨hok, fun s t => ⟨fun ht => ?_, ?_⟩⟩
  · obtain ht | hunknown := ((hresolved.sound.valid.sets s).coherent.has_iff t).mp ht
    · exact ⟨t, .inl rfl, hgood.did.arrives s t ht⟩
    · exact ⟨.unknown, .inr rfl, hgood.did.arrives s _ hunknown⟩
  · rintro ⟨u, rfl | rfl, harrives⟩
    · exact hresolved.has_of_arrives hgrows hdone harrives
    · exact (hresolved.sound.valid.sets s).coherent.has_of_has_unknown
        (hresolved.has_of_arrives hgrows hdone harrives) t

/-- Every request of a network succeeds, a set has the types that arrive, and in whatever order the
requests are made, it has the same types. -/
theorem network_reaches {options : Options} (hflow : ∀ r ∈ rs, r.isFlow = true)
    (hvalid : Request.ValidAlong host rs (fresh options)) :
    (∀ o ∈ (Request.runAll host rs (fresh options)).1, o.isOk = true) ∧
      (∀ s t, (((Request.runAll host rs (fresh options)).2.set s).has t = true ↔
        ∃ u, (u = t ∨ u = .unknown) ∧ Network.Arrives rs s u)) ∧
      ∀ rs', rs.Perm rs' → Request.ValidAlong host rs' (fresh options) → ∀ s t,
        ((Request.runAll host rs' (fresh options)).2.set s).has t =
          ((Request.runAll host rs (fresh options)).2.set s).has t := by
  obtain ⟨hok, hreaches⟩ := network_solved hflow hvalid
  refine ⟨hok, hreaches, fun rs' hperm hvalid' s t => ?_⟩
  obtain ⟨-, hreaches'⟩ :=
    network_solved (fun r hr => hflow r (hperm.mem_iff.mpr hr)) hvalid'
  rw [Bool.eq_iff_iff, hreaches, hreaches']
  refine exists_congr fun u => and_congr_right fun _ => ⟨?_, ?_⟩
  · exact Network.Arrives.congr fun r => hperm.mem_iff.symm
  · exact Network.Arrives.congr fun r => hperm.mem_iff

/-- Two sets that flow into each other, and a third one behind a filter. -/
def circularNetwork : List Request :=
  [.newSet, .newSet, .newSet, .addType ⟨1⟩ .null, .addSubset ⟨1⟩ ⟨2⟩, .addSubset ⟨2⟩ ⟨1⟩,
    .addFilter ⟨2⟩ ⟨3⟩ .primitives, .addType ⟨2⟩ .string, .addType ⟨2⟩ .unknown]

theorem network_reaches_circular :
    (∀ r ∈ circularNetwork, r.isFlow = true) ∧
      Request.ValidAlong .silent circularNetwork (fresh {}) ∧
      ∃ u, (u = .null ∨ u = .unknown) ∧ Network.Arrives circularNetwork ⟨3⟩ u := by
  have hflow : ∀ r ∈ circularNetwork, r.isFlow = true := by decide
  have hvalid : Request.ValidAlong .silent circularNetwork (fresh {}) := by decide +kernel
  exact ⟨hflow, hvalid, ((network_reaches hflow hvalid).2.1 ⟨3⟩ .null).mp (by decide +kernel)⟩

end Compartment

end FlowTypes
