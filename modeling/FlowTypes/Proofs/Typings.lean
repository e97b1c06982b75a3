import FlowTypes.Proofs.Carrying
import FlowTypes.Proofs.Origins
import Mathlib.Logic.Relation

/-!
# What properties and elements are filled with

Constraints on properties and elements bring types to where an object found in a set has its
property, so which edges there are depends on the types that have arrived.  What comes of that is
said without mention of any order: a typing gives types to sets and to the properties of objects, and
it solves what a host asks for if it is closed under what each of the constraints brings about.

The objects that the engine makes on the way have other places in the tables each time, so a typing
calls objects by their names.

## Main results

* `Typing`, `Typing.Solves`: what is closed under what a host asks for.
* `Covered`, `Did.covered`: whatever a run brings about is part of every typing that solves what
  the host asks for.
-/

namespace FlowTypes

/-- The constraint makes types, properties or elements flow. -/
def Constraint.isFlow : Constraint → Bool
  | subset _ | property .. | element .. | arith .. | filter .. => true
  | _ => false

theorem Constraint.confined_isFlow : Constraint.Confined isFlow where
  bare k := by cases k <;> rfl
  subset _ := rfl
  call _ := rfl
  wired _ := rfl

namespace Compartment

/-! ## Typings -/

/-- Types of the sets that a host has, own types of the properties of objects, and which objects
inherit from which. -/
structure Typing where
  types : SetId → Ty → Prop
  own : String → Key → Ty → Prop
  links : String → String → Prop

/-- The properties that are read where a type is are those of the object of this name. -/
def ReadsAs (b : Compartment) (t : Ty) (name : String) : Prop :=
  (∃ o, t = .object o ∧ name = b.objectName o) ∨ ∃ w, wrapper? t = some w ∧ name = w.name

namespace Typing

variable (σ : Typing) (g : Grant)

/-- A type of a property: it is assigned on the object, or on one that the object inherits from. -/
def All (name : String) (key : Key) (t : Ty) : Prop :=
  ∃ above, Relation.ReflTransGen σ.links name above ∧ σ.own above key t

/-- A type that comes to a set is in it; the set that stands for every type needs no more. -/
def Gets (s : SetId) (t : Ty) : Prop := s = universal ∨ σ.types s t

/-- A property is accessed on the types of a set: it was asked for, or it is the one of the elements
and an index has come up. -/
def Accesses (s : SetId) (key : Key) (target : SetId) (access : Access) : Prop :=
  (∃ code, g.asks s (.property code key target access)) ∨
    key = .index ∧ ∃ indexes code t, g.asks indexes (.element code s target access false) ∧
      σ.types indexes t ∧ isIndexType t = true

/-- A property is read of a primitive value of this wrapper. -/
def Unwraps (w : Builtin) : Prop :=
  ∃ s key target t, σ.Accesses g s key target .read ∧ σ.types s t ∧ wrapper? t = some w

/-- The typing is closed under what a host asks for, in a compartment with the sets and objects that
it asks about. -/
structure Solves (b : Compartment) : Prop where
  start : ∀ s, ∀ t ∈ (b.set s).types, σ.types s t
  adds : ∀ {s t}, g.adds s t → σ.Gets s t
  joins : ∀ {a s t}, g.joins a s → σ.types a t → σ.Gets s t
  filters : ∀ {a s mode t}, g.asks a (.filter s mode) → σ.types a t → mode.passes t = true →
    σ.Gets s t
  ariths : ∀ {a op s other t u} {f : SetId → TypeSet}, g.asks a (.arith op s other) →
    σ.types a t → (∀ o ∈ other, (f o).Coherent ∧ ∀ v ∈ (f o).types, σ.types o v) →
      u ∈ Arith.results op t (other.map f) → σ.Gets s u
  reads : ∀ {s key target t name u}, σ.Accesses g s key target .read → σ.types s t →
    b.ReadsAs t name → σ.All name key u → σ.Gets target u
  unknowns : ∀ {s key target}, σ.Accesses g s key target .read → σ.types s .unknown →
    σ.Gets target .unknown
  indexes : ∀ {i code s target t}, g.asks i (.element code s target .read false) → σ.types i t →
    isIndexType t = false → σ.Gets target .unknown
  writes : ∀ {s key values o t}, σ.Accesses g s key values .write → σ.types s (.object o) →
    σ.types values t → σ.own (b.objectName o) key t
  assigns : ∀ {o key t}, g.assigns o key t → σ.own (b.objectName o) key t
  protos : ∀ {o p}, (b.object o).proto = some p → σ.links (b.objectName o) (b.objectName p)
  wrapped : ∀ {w p}, σ.Unwraps g w → w.prototype? = some p →
    (∀ o, b.objectName o = w.name → (b.object o).proto = none) → σ.links w.name p.name

end Typing

/-! ## Hosts that ask for flows only -/

/-- A host asks only for what flows, between the sets and objects of a compartment with tables of
these sizes. -/
structure Grant.Fluent (g : Grant) (e : Extent) : Prop where
  adds : ∀ {s t}, g.adds s t → s.In e ∧ t.In e
  joins : ∀ {a s}, g.joins a s → a.In e ∧ s.In e
  asks : ∀ {s k}, g.asks s k → k.isFlow = true ∧ k.bare = k ∧ s.In e ∧ k.Valid e
  subsets : ∀ s target, ¬ g.asks s (.subset target)
  operands : ∀ {a op s other}, g.asks a (.arith op s (some other)) →
    g.asks other (.arith op s (some a))
  assigns : ∀ {o key t}, g.assigns o key t → o.In e ∧ t.In e
  marks : ∀ o, ¬ g.marks o
  links : ∀ o p, ¬ g.links o p
  builds : ∀ d, ¬ g.builds d

/-- What such a host may bring about. -/
def Scope.fluent (g : Grant) : Scope :=
  { Scope.granting g (fun _ => False) False fun _ _ => False with choice := False }

/-- Nothing has been asked for yet, but sets, objects and prototypes. -/
structure Blank (b : Compartment) : Prop where
  universal : [.unknown] <+: (b.set universal).types
  constraints : b.constraints.size = 0
  properties : ∀ o, (b.object o).properties = []
  builtins : ∀ d, b.builtin? d = none
  known : ∀ o, (b.object o).isUnknown = false
  pending : b.worklist.pending = []
  unheard : ∀ w, .fired w ∉ b.journal

variable {g : Grant} {σ : Typing} {a b c : Compartment}

/-- What is known of every moment of a run of such a host. -/
structure Traced (g : Grant) (b a : Compartment) : Prop where
  sound : a.Sound
  grows : b.Grows a
  genuine : a.Genuine
  explained : Explained (.fluent g) a
  flowing : a.Limited Constraint.isFlow
  apart : a.SetsApart
  fresh : ∀ o, ∀ p ∈ (a.object o).properties, ¬ p.types.In b.extent ∧ ¬ p.ownTypes.In b.extent

theorem Blank.traced (h : b.Blank) (hb : b.Sound) : Traced g b b where
  sound := hb
  grows := .refl b
  genuine w hw := by
    rw [h.pending] at hw
    exact absurd (hw.resolve_left List.not_mem_nil) (h.unheard w)
  explained s id hid := by
    have hin : id.index < b.constraints.size := (hb.valid.sets s).constraints id hid
    rw [h.constraints] at hin
    exact absurd hin (Nat.not_lt_zero _)
  flowing id hid := by
    have hin : id.index < b.constraints.size := hid
    rw [h.constraints] at hin
    exact absurd hin (Nat.not_lt_zero _)
  apart := by
    have hnone : ∀ {o p}, p ∉ (b.object o).properties := by
      intro o p hp
      rw [h.properties] at hp
      exact absurd hp List.not_mem_nil
    exact ⟨fun hp => absurd hp hnone, fun hp => absurd hp hnone, fun hp => absurd hp hnone⟩
  fresh o p hp := by
    rw [h.properties] at hp
    exact absurd hp List.not_mem_nil

theorem Did.traced (hg : g.Fluent b.extent) (h : Did (.fluent g) a c) (ha : Traced g b a) :
    Traced g b c where
  sound := h.sound ha.sound
  grows := ha.grows.trans (h.grows ha.sound)
  genuine := h.genuine id ha.sound ha.genuine
  explained := h.explained ha.sound ha.explained
  flowing := h.limited Constraint.confined_isFlow (fun _ _ hk => (hg.asks hk).1) ha.sound ha.flowing
  apart := h.setsApart ha.sound ha.apart
  fresh o p hp := by
    obtain hold | ⟨htypes, hown⟩ := h.mem_properties ha.sound hp
    · exact ha.fresh o p hold
    · exact ⟨fun hin => htypes (hin.mono ha.grows.extent), fun hin => hown (hin.mono ha.grows.extent)⟩

/-! ## What a typing covers -/

/-- A type of a set is in a typing: the set is one that the host has, or it is one of a property. -/
structure Backed (σ : Typing) (b a : Compartment) (s : SetId) (t : Ty) : Prop where
  within : t.In b.extent
  place : s.In b.extent ∨ ∃ o, ∃ p ∈ (a.object o).properties, s = p.types ∨ s = p.ownTypes
  base : s.In b.extent → σ.types s t
  own : ∀ o, ∀ p ∈ (a.object o).properties, s = p.ownTypes → σ.own (a.objectName o) p.key t
  all : ∀ o, ∀ p ∈ (a.object o).properties, s = p.types → σ.All (a.objectName o) p.key t

/-- What a compartment holds is in a typing. -/
structure Covered (σ : Typing) (g : Grant) (b a : Compartment) : Prop where
  types : ∀ s, ∀ t ∈ (a.set s).types, Backed σ b a s t
  links : ∀ o p, (a.object o).proto = some p → σ.links (a.objectName o) (a.objectName p)
  builtins : ∀ d id, a.builtin? d = some id → ∃ w, σ.Unwraps g w ∧ d ∈ w :: w.lineage
  known : ∀ o, (a.object o).isUnknown = false

section Backed

variable (ha : Traced g b a)
include ha

/-- The name of an object stays. -/
theorem Traced.name {o : ObjectId} (ho : o.In b.extent) : a.objectName o = b.objectName o :=
  ha.grows.name o ho

/-- Nothing joins the unknown type. -/
theorem Traced.unknown_of_mem (hblank : b.Blank) {t : Ty} (ht : t ∈ (a.set universal).types) :
    t = .unknown := by
  obtain ⟨rest, hrest⟩ := hblank.universal.trans (ha.grows.set universal).types
  rw [← hrest] at ht
  obtain ht | hlate := List.mem_append.mp ht
  · exact List.mem_singleton.mp ht
  · obtain ⟨before, after, rfl⟩ := List.append_of_mem hlate
    rw [← List.append_assoc] at hrest
    exact absurd (List.mem_append_left _ List.mem_cons_self)
      ((ha.sound.valid.sets universal).coherent.unknown_not_mem hrest.symm)

/-- A type comes to a set that the host has. -/
theorem Backed.of_gets (hσ : σ.Solves g b) (hblank : b.Blank) {s : SetId} {t : Ty}
    (ht : t.In b.extent) (hs : s.In b.extent) (hgets : σ.Gets s t)
    (hcomes : s = universal → t = .unknown) : Backed σ b a s t where
  within := ht
  place := .inl hs
  base _ := by
    obtain rfl | hgets := hgets
    · rw [hcomes rfl]
      exact hσ.start universal _ (hblank.universal.subset List.mem_cons_self)
    · exact hgets
  own o p hp heq := absurd (heq ▸ hs) (ha.fresh o p hp).2
  all o p hp heq := absurd (heq ▸ hs) (ha.fresh o p hp).1

theorem Backed.of_own {o : ObjectId} {p : Property} {t : Ty} (ht : t.In b.extent)
    (hp : p ∈ (a.object o).properties) (hown : σ.own (a.objectName o) p.key t) :
    Backed σ b a p.ownTypes t where
  within := ht
  place := .inr ⟨o, p, hp, .inr rfl⟩
  base hs := absurd hs (ha.fresh o p hp).2
  own o' p' hp' heq := by
    obtain ⟨rfl, rfl⟩ := ha.apart.ownTypes hp hp' heq
    exact hown
  all o' p' hp' heq := absurd heq.symm (ha.apart.mixed hp' hp)

theorem Backed.of_all {o : ObjectId} {p : Property} {t : Ty} (ht : t.In b.extent)
    (hp : p ∈ (a.object o).properties) (hall : σ.All (a.objectName o) p.key t) :
    Backed σ b a p.types t where
  within := ht
  place := .inr ⟨o, p, hp, .inl rfl⟩
  base hs := absurd hs (ha.fresh o p hp).1
  own o' p' hp' heq := absurd heq (ha.apart.mixed hp hp')
  all o' p' hp' heq := by
    obtain ⟨rfl, rfl⟩ := ha.apart.types hp hp' heq
    exact hall

end Backed

section Covered

variable (hg : g.Fluent b.extent) (ha : Traced g b a) (h : Covered σ g b a)

section Typed

include h

/-- Inheritance is in the typing. -/
theorem Covered.path {o p : ObjectId} (hp : a.Inherits o p) :
    Relation.ReflTransGen σ.links (a.objectName o) (a.objectName p) := by
  induction hp with
  | proto hp => exact .single (h.links _ _ hp)
  | step _ hq ih => exact ih.tail (h.links _ _ hq)

/-- What is answered for a property is in the typing. -/
theorem Covered.all_of_answers {o : ObjectId} {key : Key} {s : SetId} {t : Ty}
    (hs : a.Answers o key false s) (ht : t ∈ (a.set s).types) : σ.All (a.objectName o) key t := by
  obtain ⟨hunknown, -⟩ | ⟨p, hp, rfl⟩ := hs
  · rw [h.known] at hunknown
    cases hunknown
  · have hall := (h.types _ t ht).all o p (List.mem_of_find?_eq_some hp) rfl
    rwa [ObjectInfo.key_of_property? hp] at hall

end Typed

include ha

/-- Only what was asked for is an element access. -/
theorem Traced.asked_element {s : SetId} {k : Constraint} {code : Option Location}
    {objects target : SetId} {access : Access} (hg : g.Fluent b.extent)
    (hk : Placed (.fluent g) a s k) (hbare : k.bare = .element code objects target access false) :
    g.asks s (.element code objects target access false) := by
  cases hk with
  | asked hasks =>
    rw [(hg.asks hasks).2.1] at hbare
    exact hbare ▸ hasks
  | edge => cases hbare
  | wired => cases hbare
  | called hcalls => exact absurd hcalls (ha.flowing.not_calls Constraint.confined_isFlow)

include h hg

/-- A property access that listens is in the typing. -/
theorem Covered.accesses {s : SetId} {code : Option Location} {key : Key} {target : SetId}
    {access : Access} (hk : Placed (.fluent g) a s (.property code key target access)) :
    σ.Accesses g s key target access ∧ s.In b.extent ∧ target.In b.extent := by
  cases hk with
  | asked hasks =>
    obtain ⟨-, -, hs, htarget⟩ := hg.asks hasks
    exact ⟨.inl ⟨code, hasks⟩, hs, htarget⟩
  | wired hw hindex =>
    obtain ⟨k, hbare, hplaced, ht⟩ := hw.source ha.genuine ha.explained
    have hasks := ha.asked_element hg hplaced hbare
    obtain ⟨-, -, hin, hobjects, htarget⟩ := hg.asks hasks
    exact ⟨.inr ⟨rfl, _, code, _, hasks, (h.types _ _ ht).base hin, hindex⟩, hobjects, htarget⟩
  | called hcalls => exact absurd hcalls (ha.flowing.not_calls Constraint.confined_isFlow)

/-- What a property access heard of is in the typing. -/
theorem Covered.heard {w : Work} {code : Option Location} {key : Key} {target : SetId}
    {access : Access} (hw : a.Hearing w (.property code key target access)) :
    σ.Accesses g w.source key target access ∧ σ.types w.source w.type ∧ w.type.In b.extent ∧
      target.In b.extent := by
  obtain ⟨k, hbare, hplaced, ht⟩ := hw.source ha.genuine ha.explained
  obtain rfl : k = .property code key target access := Constraint.eq_of_bare_eq hbare rfl
  obtain ⟨haccess, hs, htarget⟩ := h.accesses hg ha hplaced
  exact ⟨haccess, (h.types _ _ ht).base hs, (h.types _ _ ht).within, htarget⟩

omit h hg in
/-- The object whose properties are read stands for the type. -/
theorem Traced.readsAs {t : Ty} (ht : t.In b.extent) {o : ObjectId} (ho : a.Reached t o) :
    b.ReadsAs t (a.objectName o) := by
  obtain rfl | ⟨w, hw, ho⟩ := ho
  · exact .inl ⟨o, rfl, ha.name (ht o rfl)⟩
  · exact .inr ⟨w, hw, ha.sound.names.builtins _ (builtin?_some ho)⟩

variable (hσ : σ.Solves g b) (hblank : b.Blank)
include hσ hblank

/-- What flows to another set is in the typing there. -/
theorem Covered.drawn {source target : SetId} {t : Ty} (hdrawn : a.Drawn (.fluent g) source target)
    (ht : t ∈ (a.set source).types) (hcomes : target = universal → t = .unknown) :
    Backed σ b a target t := by
  have hbacked := h.types source t ht
  cases hdrawn with
  | given hjoins =>
    obtain ⟨hsource, htarget⟩ := hg.joins hjoins
    exact .of_gets ha hσ hblank hbacked.within htarget (hσ.joins hjoins (hbacked.base hsource)) hcomes
  | own hp => exact .of_all ha hbacked.within hp ⟨_, .refl, hbacked.own _ _ hp rfl⟩
  | inherited hinherits hp hs =>
    obtain ⟨above, hpath, hown⟩ := h.all_of_answers hs ht
    exact .of_all ha hbacked.within hp ⟨above, (h.path hinherits).trans hpath, hown⟩
  | read hw ho hs =>
    obtain ⟨haccess, htype, hin, htarget⟩ := h.heard hg ha hw
    exact .of_gets ha hσ hblank hbacked.within htarget
      (hσ.reads haccess htype (ha.readsAs hin ho) (h.all_of_answers hs ht)) hcomes
  | @write w code key values o p hw ho hp =>
    obtain ⟨haccess, htype, hin, hvalues⟩ := h.heard hg ha hw
    rw [ho] at htype hin
    refine .of_own ha hbacked.within (List.mem_of_find?_eq_some hp) ?_
    rw [ha.name (hin o rfl), ObjectInfo.key_of_property? hp]
    exact hσ.writes haccess htype (hbacked.base hvalues)
  | called hcalls => exact absurd hcalls (ha.flowing.not_calls Constraint.confined_isFlow)

/-- A constraint that was asked for puts types only where the typing has them. -/
theorem Covered.emitted {source target : SetId} {k : Constraint} {t u : Ty}
    (hasks : g.asks source k) (ht : t ∈ (a.set source).types) (hemits : a.Emits k t target u)
    (hcomes : target = universal → u = .unknown) : Backed σ b a target u := by
  obtain ⟨hflow, -, hsource, hvalid⟩ := hg.asks hasks
  have hbacked := h.types source t ht
  have htype := hbacked.base hsource
  cases k with
  | subset target' => exact absurd hasks (hg.subsets source target')
  | property code key target' access =>
    cases access with
    | write => exact hemits.elim
    | read =>
      obtain ⟨rfl, rfl, rfl⟩ := hemits
      exact .of_gets ha hσ hblank nofun hvalid (hσ.unknowns (.inl ⟨code, hasks⟩) htype) hcomes
  | element code objects target' access wired =>
    cases access with
    | write => exact hemits.elim
    | read =>
      obtain ⟨rfl, hindex, rfl⟩ := hemits
      obtain rfl : wired = false := by
        have hbare := (hg.asks hasks).2.1
        cases wired with
        | false => rfl
        | true => cases hbare
      exact .of_gets ha hσ hblank nofun hvalid.2 (hσ.indexes hasks htype hindex) hcomes
  | arith op target' other =>
    obtain ⟨rfl, d, hd, hgrows, hu⟩ := hemits
    refine .of_gets ha hσ hblank (Ty.in_of_object?_eq_none (object?_of_mem_results hu) _) hvalid.1
      (hσ.ariths hasks htype (fun o ho => ⟨(hd.valid.sets o).coherent, fun v hv => ?_⟩) hu) hcomes
    exact (h.types o v ((hgrows.set o).types.subset hv)).base (hvalid.2 o ho)
  | filter target' mode =>
    obtain ⟨rfl, hpasses, rfl⟩ := hemits
    exact .of_gets ha hσ hblank hbacked.within hvalid (hσ.filters hasks htype hpasses) hcomes
  | _ => cases hflow

/-- A type that joins a set is in the typing there. -/
theorem Covered.sources {target : SetId} {t : Ty} (hsources : Sources (.fluent g) a target t)
    (hcomes : target = universal → t = .unknown) : Backed σ b a target t := by
  cases hsources with
  | given hadds =>
    obtain ⟨htarget, ht⟩ := hg.adds hadds
    exact .of_gets ha hσ hblank ht htarget (hσ.adds hadds) hcomes
  | assigned hassigns hp =>
    obtain ⟨ho, ht⟩ := hg.assigns hassigns
    refine .of_own ha ht (List.mem_of_find?_eq_some hp) ?_
    rw [ha.name ho, ObjectInfo.key_of_property? hp]
    exact hσ.assigns hassigns
  | forgotten ho =>
    rw [h.known] at ho
    cases ho
  | @emitted source _ k u _ hk hu hemits =>
    cases hk with
    | asked hasks =>
      rw [(hg.asks hasks).2.1] at hemits
      exact h.emitted hg ha hσ hblank hasks hu hemits hcomes
    | edge hdrawn =>
      obtain ⟨rfl, rfl⟩ := hemits
      exact h.drawn hg ha hσ hblank hdrawn hu hcomes
    | @wired w code _ target' access hw hindex =>
      cases access with
      | write => exact hemits.elim
      | read =>
        obtain ⟨rfl, rfl, rfl⟩ := hemits
        obtain ⟨haccess, hs, htarget⟩ := h.accesses hg ha (.wired hw hindex)
        exact .of_gets ha hσ hblank nofun htarget
          (hσ.unknowns haccess ((h.types _ _ hu).base hs)) hcomes
    | called hcalls => exact absurd hcalls (ha.flowing.not_calls Constraint.confined_isFlow)
  | called hcalls => exact absurd hcalls (ha.flowing.not_calls Constraint.confined_isFlow)

end Covered

/-! ## Runs -/

/-- The objects are all that the places of types depend on. -/
theorem Backed.congr {s : SetId} {t : Ty} (hobject : ∀ o, c.object o = a.object o)
    (h : Backed σ b a s t) : Backed σ b c s t := by
  have hname : ∀ o, c.objectName o = a.objectName o := fun o => by
    rw [objectName, objectName, hobject]
  refine ⟨h.within, ?_, h.base, ?_, ?_⟩
  · simp only [hobject]
    exact h.place
  · simp only [hobject, hname]
    exact h.own
  · simp only [hobject, hname]
    exact h.all

/-- Where no type joins a set, the types stay where they are, also if a property is added. -/
theorem Backed.stays (hgrows : a.Grows c) (hproperties : ∀ o, ∀ p ∈ (c.object o).properties,
      p ∈ (a.object o).properties ∨ ¬ p.types.In a.extent ∧ ¬ p.ownTypes.In a.extent) {s : SetId}
    {t : Ty} (ht : t ∈ (a.set s).types) (h : Backed σ b a s t) : Backed σ b c s t := by
  have hin : s.In a.extent := by
    by_contra hs
    rw [set_of_not_in hs] at ht
    exact absurd ht List.not_mem_nil
  have hname : ∀ {o p}, p ∈ (a.object o).properties → c.objectName o = a.objectName o :=
    fun hp => hgrows.name _ (in_of_mem_properties hp)
  refine ⟨h.within, ?_, h.base, fun o p hp hs => ?_, fun o p hp hs => ?_⟩
  · exact h.place.imp_right fun ⟨o, p, hp, hs⟩ => ⟨o, p, (hgrows.object o).properties.subset hp, hs⟩
  · obtain hold | hnew := hproperties o p hp
    · rw [hname hold]
      exact h.own o p hold hs
    · exact absurd (hs ▸ hin) hnew.2
  · obtain hold | hnew := hproperties o p hp
    · rw [hname hold]
      exact h.all o p hold hs
    · exact absurd (hs ▸ hin) hnew.1

/-- The properties of a wrapper are tracked, and only its own prototype has none. -/
theorem wrapped_of_mem {t : Ty} {w : Builtin} (hw : wrapper? t = some w) :
    ∀ d ∈ w :: w.lineage, d.isUntracked = false ∧ ∀ p, d.prototype? = some p → d = w := by
  cases t <;> cases hw <;> decide

/-- The prototypes and the builtins that come up are in the typing, if the types are. -/
theorem Covered.grounded (hg : g.Fluent b.extent) (hσ : σ.Solves g b) (ha : Traced g b a)
    (h : Covered σ g b a) (hgrows : a.Grows c) (hgrounded : Grounded (.fluent g) a c)
    (htypes : ∀ s, ∀ t ∈ (c.set s).types, Backed σ b c s t) : Covered σ g b c where
  types := htypes
  links o p hp := by
    obtain hold | ⟨hnone, hlinked⟩ := hgrounded.proto o p hp
    · have ho : o.In a.extent := in_of_proto hold
      have hp' := (ha.sound.valid.objects o).proto p hold
      rw [objectName, objectName, hgrows.name o ho, hgrows.name p hp']
      exact h.links o p hold
    · cases hlinked with
      | given hlinks => exact absurd hlinks (hg.links o p)
      | @builtin d q _ _ hq hd hproto =>
        obtain ⟨w, hunwraps, hmem⟩ := h.builtins d o hd
        obtain ⟨s, key, target, t, haccess, ht, hw⟩ := hunwraps
        obtain rfl := (wrapped_of_mem hw d hmem).2 q hq
        have hname : ∀ {e : Builtin} {id}, a.builtin? e = some id → a.objectName id = e.name :=
          fun hid => ha.sound.names.builtins _ (builtin?_some hid)
        have hin : ∀ {e : Builtin} {id}, a.builtin? e = some id → id.In a.extent :=
          fun hid => in_of_builtin? ha.sound.valid hid
        rw [objectName, objectName, hgrows.name o (hin hd), hgrows.name p (hin hproto),
          ← objectName, ← objectName, hname hd, hname hproto]
        refine hσ.wrapped ⟨s, key, target, t, haccess, ht, hw⟩ hq fun o' ho' => ?_
        -- The object of this name is the one of the builtin, and that one has no prototype yet.
        cases hproto' : (b.object o').proto with
        | none => rfl
        | some r =>
          have hin' : o'.In b.extent := in_of_proto hproto'
          obtain rfl : o' = o := ha.sound.names.unique o' o (hin'.mono ha.grows.extent) (hin hd)
            (by rw [ha.name hin', ho', hname hd])
          rw [(ha.grows.object o').proto r hproto'] at hnone
          cases hnone
      | called hcalls => exact absurd hcalls (ha.flowing.not_calls Constraint.confined_isFlow)
  builtins d id hid := by
    obtain hold | ⟨-, -, -, hdemanded⟩ := hgrounded.builtins d id hid
    · exact h.builtins d id hold
    · cases hdemanded with
      | given hbuilds => exact absurd hbuilds (hg.builds d)
      | @read w code key target wrapper _ hw ht hmem =>
        obtain ⟨haccess, htype, -, -⟩ := h.heard hg ha hw
        exact ⟨wrapper, ⟨_, key, target, _, haccess, htype, ht⟩, hmem⟩
      | boxed hw => cases ha.flowing.hearing Constraint.confined_isFlow hw
      | called hcalls => exact absurd hcalls (ha.flowing.not_calls Constraint.confined_isFlow)
  known o := by
    by_contra hunknown
    obtain hold | hforsaken := hgrounded.unknown o (by simpa using hunknown)
    · rw [h.known] at hold
      cases hold
    · cases hforsaken with
      | given hmarks => exact hg.marks o hmarks
      | inherited _ hproto =>
        rw [h.known] at hproto
        cases hproto
      | untracked hd hid =>
        obtain ⟨w, ⟨_, _, _, _, _, _, hw⟩, hmem⟩ := h.builtins _ o hid
        rw [(wrapped_of_mem hw _ hmem).1] at hd
        cases hd

section Run

variable (hg : g.Fluent b.extent) (hσ : σ.Solves g b) (hblank : b.Blank)
include hg hσ hblank

/-- A change brings about only what is in the typing. -/
theorem Covered.step (ha : Traced g b a) (h : Covered σ g b a)
    (hchange : a.Change (.fluent g) c) : Covered σ g b c := by
  have hgrows := hchange.grows ha.sound.valid
  refine h.grounded hg hσ ha hgrows hchange.grounded ?_
  obtain hquiet | htraffic := hchange.quiet_or_traffic
  · intro s t ht
    rw [hquiet.types] at ht
    exact (h.types s t ht).stays hgrows
      (fun o p hp => (Did.single hchange).mem_properties ha.sound hp) ht
  · have hobject : ∀ o, c.object o = a.object o := fun o => by
      rw [object, htraffic.objects_eq.1, object]
    refine htraffic.origins ha.sound.valid (fun target t hwarrant hmem => ?_) ?_
    · have hc := (Did.single hchange).traced hg ha
      refine .congr hobject (h.sources hg ha hσ hblank
        (hwarrant.sources ha.genuine ha.explained) ?_)
      rintro rfl
      exact hc.unknown_of_mem hblank hmem
    · exact fun s t ht => .congr hobject (h.types s t ht)

/-- A run brings about only what is in the typing. -/
theorem Did.covered (hdid : Did (.fluent g) a c) (ha : Traced g b a) (h : Covered σ g b a) :
    Covered σ g b c := by
  induction hdid with
  | refl => exact h
  | step hdid hchange ih => exact (ih ha h).step hg hσ hblank (hdid.traced hg ha) hchange
  | @classify a c₁ c₂ id hdid _ hdid' hid _ _ ih ih' =>
    have hfirst := hdid.traced hg ha
    have hlast := hdid'.traced hg hfirst
    have hlater := ih' hfirst (ih ha h)
    have hgrows := grows_classify hid
    refine hlater.grounded hg hσ hlast hgrows (grounded_classify hid) fun s t ht => ?_
    rw [(c₂.quiet_classify id).types] at ht
    refine (hlater.types s t ht).stays hgrows (fun o p hp => .inl ?_) ht
    rwa [(barren_classify hid).properties] at hp

omit hg in
/-- What is there from the start is in the typing. -/
theorem Blank.covered (hb : b.Sound) : Covered σ g b b where
  types s t ht := by
    have hnone : ∀ {o p}, p ∉ (b.object o).properties := by
      intro o p hp
      rw [hblank.properties] at hp
      exact absurd hp List.not_mem_nil
    have hs : s.In b.extent := by
      by_contra hs
      rw [set_of_not_in hs] at ht
      exact absurd ht List.not_mem_nil
    exact ⟨(hb.valid.sets s).types t ht, .inl hs, fun _ => hσ.start s t ht,
      fun _ _ hp => absurd hp hnone, fun _ _ hp => absurd hp hnone⟩
  links o p hp := hσ.protos hp
  builtins d id hid := by
    rw [hblank.builtins] at hid
    cases hid
  known := hblank.known

end Run

end Compartment

end FlowTypes
