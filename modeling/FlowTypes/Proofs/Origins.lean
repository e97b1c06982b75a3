import FlowTypes.Proofs.Deliveries

/-!
# Where types come from

A type joins a set for a reason, a set flows into another one for a reason, and so does a
constraint come to listen.  The reasons speak of what was there before, so a property of types and
sets that every reason passes on belongs to whatever a run brings about.

## Main results

* `Placed`, `Did.explained`: every listener has a reason to listen.
* `Warranted.sources`: where a type comes from that joins a set.
* `Did.origins`: what every reason passes on holds for every type of every set.
-/

namespace FlowTypes

namespace Compartment

variable {sc : Scope} {c c' : Compartment}

/-! ## Reasons stay -/

section Later

variable (hgrows : c.Grows c')
include hgrows

theorem Drawn.later {source target : SetId} (h : c.Drawn sc source target) :
    c'.Drawn sc source target := by
  cases h with
  | given h => exact .given h
  | own hp => exact .own ((hgrows.object _).properties.subset hp)
  | inherited ha hp hs =>
    exact .inherited (ha.mono hgrows) ((hgrows.object _).properties.subset hp) (hs.mono hgrows)
  | read hw ho hs => exact .read (hw.mono hgrows) (ho.mono hgrows) (hs.mono hgrows)
  | write hw ho hp => exact .write (hw.mono hgrows) ho (hgrows.property? hp)
  | called h => exact .called (h.mono hgrows)

end Later

/-- Why a constraint listens to a set. -/
inductive Placed (sc : Scope) (c : Compartment) : SetId → Constraint → Prop
  | asked {source : SetId} {k : Constraint} (h : sc.grant.asks source k) : Placed sc c source k
  | edge {source target : SetId} (h : c.Drawn sc source target) :
    Placed sc c source (.subset target)
  | wired {w : Work} {code : Option Location} {objects target : SetId} {access : Access}
      (hw : c.Hearing w (.element code objects target access false))
      (hindex : isIndexType w.type = true) :
    Placed sc c objects (.property code .index target access)
  | called {source : SetId} {k : Constraint} (h : c.Calls) : Placed sc c source k

theorem Placed.later (hgrows : c.Grows c') {source : SetId} {k : Constraint}
    (h : Placed sc c source k) : Placed sc c' source k := by
  cases h with
  | asked h => exact .asked h
  | edge h => exact .edge (h.later hgrows)
  | wired hw hindex => exact .wired (hw.mono hgrows) hindex
  | called h => exact .called (h.mono hgrows)

/-- Every listener has a reason to listen. -/
def Explained (sc : Scope) (c : Compartment) : Prop :=
  ∀ s, ∀ id ∈ (c.set s).constraints, ∃ k, (c.constraint id).bare = k.bare ∧ Placed sc c s k

theorem explained_fresh (sc : Scope) (options : Options) : Explained sc (fresh options) := by
  intro s id hid
  have hnone : ((fresh options).set s).constraints = [] := by
    obtain ⟨i⟩ := s
    cases i <;> rfl
  rw [hnone] at hid
  exact absurd hid List.not_mem_nil

/-- A listener that was there keeps its reason. -/
theorem Explained.later (hc : c.Valid) (hgrows : c.Grows c') (h : Explained sc c) {s : SetId}
    {id : ConstraintId} (hid : id ∈ (c.set s).constraints) :
    ∃ k, (c'.constraint id).bare = k.bare ∧ Placed sc c' s k := by
  obtain ⟨k, hk, hplaced⟩ := h s id hid
  have hin := (hc.sets s).constraints id hid
  exact ⟨k, (hgrows.constraint id hin).bare.trans hk, hplaced.later hgrows⟩

/-- Every sequence of changes gives a new listener a reason. -/
theorem Did.explained (hc : c.Sound) (h : Did sc c c') (hexplained : Explained sc c) :
    Explained sc c' := by
  refine h.flow_induction (P := Explained sc) hc ?_ ?_ hexplained
  · intro a b ha hgrows hquiet h s id hid
    rw [hquiet.listeners] at hid
    exact h.later ha.valid hgrows hid
  · intro a b ha hgrows htraffic h s id hid
    cases htraffic with
    | insert htarget =>
      rw [constraints_insertType htarget] at hid
      exact h.later ha.valid hgrows hid
    | @register source k _ hasked hsource =>
      rw [mem_listeners_register hsource] at hid
      obtain hid | ⟨rfl, rfl⟩ := hid
      · exact h.later ha.valid hgrows hid
      · refine ⟨k, by rw [constraint_register, if_pos rfl], ?_⟩
        exact hasked.elim .asked fun hcalls => .called (hcalls.2.mono hgrows)
    | @edge source target hsource _ _ _ hdrawn =>
      obtain hid | ⟨rfl, rfl⟩ := (mem_listeners_addEdge hsource _ s id).mp hid
      · exact h.later ha.valid hgrows hid
      · refine ⟨.subset target, ?_, .edge (hdrawn.later hgrows)⟩
        rw [constraint_addEdge, if_pos rfl]
    | @wire wid code objects target access hwid hk hindex =>
      rw [mem_listeners_wireUp (ha.valid.in_of_element hk)] at hid
      obtain hid | ⟨rfl, rfl⟩ := hid
      · exact h.later ha.valid hgrows hid
      · obtain ⟨w, hfired, rfl, hindex⟩ := hindex
        have hw : a.Hearing w (.element code objects target access false) :=
          ⟨hfired, hwid, by rw [hk]; rfl⟩
        refine ⟨.property code .index target access, ?_, .wired (hw.mono hgrows) hindex⟩
        rw [constraint_wireUp hwid, if_pos rfl]
    | pop | deliver | abandon => exact h.later ha.valid hgrows hid

/-! ## Sources -/

/-- A constraint that heard of a type was placed where the type is. -/
theorem Hearing.source (hgenuine : c.Genuine) (hexplained : Explained sc c) {w : Work}
    {k : Constraint} (h : c.Hearing w k) :
    ∃ k', k'.bare = k ∧ Placed sc c w.source k' ∧ w.type ∈ (c.set w.source).types := by
  obtain ⟨hfired, -, hbare⟩ := h
  obtain ⟨hlistens, ht⟩ := hgenuine w (.inr hfired)
  obtain ⟨k', hk', hplaced⟩ := hexplained w.source w.constraint hlistens
  exact ⟨k', hk'.symm.trans hbare, hplaced, ht⟩

/-- Where a type comes from that joins a set. -/
inductive Sources (sc : Scope) (c : Compartment) : SetId → Ty → Prop
  | given {target : SetId} {t : Ty} (h : sc.grant.adds target t) : Sources sc c target t
  | assigned {o : ObjectId} {key : Key} {t : Ty} {p : Property} (h : sc.grant.assigns o key t)
      (hp : (c.object o).property? key = some p) : Sources sc c p.ownTypes t
  | forgotten {o : ObjectId} {p : Property} {s : SetId} (ho : (c.object o).isUnknown = true)
      (hp : p ∈ (c.object o).properties) (hs : s = p.types ∨ s = p.ownTypes) :
      Sources sc c s .unknown
  | emitted {source target : SetId} {k : Constraint} {t u : Ty} (hk : Placed sc c source k)
      (ht : t ∈ (c.set source).types) (hu : c.Emits k.bare t target u) : Sources sc c target u
  | called {target : SetId} {t : Ty} (h : c.Calls) : Sources sc c target t

theorem Warranted.sources (hgenuine : c.Genuine) (hexplained : Explained sc c) {target : SetId}
    {t : Ty} (h : c.Warranted sc target t) : Sources sc c target t := by
  cases h with
  | given h => exact .given h
  | assigned h hp => exact .assigned h hp
  | forgotten ho hp hs => exact .forgotten ho hp hs
  | emitted hw ht =>
    obtain ⟨k', rfl, hplaced, hmem⟩ := hw.source hgenuine hexplained
    exact .emitted hplaced hmem ht
  | called h => exact .called h

/-- A type that joins a set comes from the types that were there. -/
theorem Traffic.origins {R : SetId → Ty → Prop} (hc : c.Valid) (h : c.Traffic sc c')
    (hpasses : ∀ target t, c.Warranted sc target t → t ∈ (c'.set target).types → R target t)
    (hold : ∀ s, ∀ t ∈ (c.set s).types, R s t) : ∀ s, ∀ t ∈ (c'.set s).types, R s t := by
  intro s t ht
  cases h with
  | insert htarget _ hnew hwarrant =>
    have hjoins := ht
    rw [types_insertType htarget _ hnew] at ht
    split at ht
    · rename_i hs
      subst hs
      obtain ht | ht := List.mem_append.mp ht
      · exact hold _ t ht
      · obtain rfl := List.mem_singleton.mp ht
        exact hpasses _ _ hwarrant hjoins
    · exact hold s t ht
  | register _ hsource =>
    rw [types_register hsource] at ht
    exact hold s t ht
  | edge hsource =>
    rw [types_addEdge hsource] at ht
    exact hold s t ht
  | wire hid hk =>
    rw [types_wireUp (hc.in_of_element hk)] at ht
    exact hold s t ht
  | pop | deliver | abandon => exact hold s t ht

/-- What every reason passes on holds for every type of every set. -/
theorem Did.origins {R : SetId → Ty → Prop} (hredelivery : ¬ sc.redelivery) (hc : c.Sound)
    (h : Did sc c c') (hgenuine : c.Genuine) (hexplained : Explained sc c)
    (hstart : ∀ s, ∀ t ∈ (c.set s).types, R s t) {f : Compartment} (hlast : c'.Grows f)
    (hpasses : ∀ b : Compartment, b.Sound → b.Grows f → b.Genuine → Explained sc b →
      (∀ s, ∀ t ∈ (b.set s).types, R s t) → ∀ target t, Sources sc b target t →
        t ∈ (f.set target).types → R target t) :
    ∀ s, ∀ t ∈ (c'.set s).types, R s t := by
  induction h with
  | refl => exact hstart
  | @step c a b h hchange ih =>
    have hsound := h.sound hc
    have hgrows := (hchange.grows hsound.valid).trans hlast
    have ha := ih hc hgenuine hexplained hstart hgrows
    obtain hquiet | htraffic := hchange.quiet_or_traffic
    · intro s t ht
      rw [hquiet.types] at ht
      exact ha s t ht
    · have hgenuine' := h.genuine hredelivery hc hgenuine
      have hexplained' := h.explained hc hexplained
      refine htraffic.origins hsound.valid (fun target t hwarrant hjoins => ?_) ha
      exact hpasses a hsound hgrows hgenuine' hexplained' ha target t
        (hwarrant.sources hgenuine' hexplained') ((hlast.set target).types.subset hjoins)
  | @classify c c₁ c₂ id h _ h' hid _ _ ih ih' =>
    have hgrows := (grows_classify hid).trans hlast
    have hsound := h.sound hc
    have hfirst := ih hc hgenuine hexplained hstart ((h'.grows hsound).trans hgrows)
    have hlater := ih' hsound (h.genuine hredelivery hc hgenuine) (h.explained hc hexplained)
      hfirst hgrows
    exact fun s t ht => hlater s t ((c₂.quiet_classify id).types s ▸ ht)

end Compartment

end FlowTypes
