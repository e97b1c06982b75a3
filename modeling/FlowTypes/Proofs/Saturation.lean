import FlowTypes.Proofs.Lookups
import FlowTypes.Proofs.Operations
import FlowTypes.Proofs.Typings

/-!
# What a run of flows ends in

Between two requests, what a compartment holds is closed under what the host has asked for.  An
operation is the delicate case: it hears of the types of one operand at a time, and looks at what the
other one holds at that moment.  Of two types, the one that is delivered last sees the other one.

## Main results

* `Flowed`: what is known of a compartment after a run of requests for flows.
* `Flowed.solves`: what it holds is a typing that solves what the host asks for.
* `Flowed.backed`: it holds no more than any other such typing.
-/

namespace FlowTypes

/-- The builtins differ in their names. -/
theorem Builtin.eq_of_name_eq {w w' : Builtin} (h : w.name = w'.name) : w = w' := by
  have hfound := ofName?_name w
  rw [h, ofName?_name, Option.some.injEq] at hfound
  exact hfound.symm

namespace Compartment

variable {g : Grant} {σ : Typing} {b c c' : Compartment}

/-- A property is found by its key. -/
theorem Names.property?_of_mem (h : c.Names) {o : ObjectId} {p : Property}
    (hp : p ∈ (c.object o).properties) : (c.object o).property? p.key = some p := by
  cases hq : (c.object o).property? p.key with
  | none =>
    have hnone := List.find?_eq_none.mp hq p hp
    simp at hnone
  | some q =>
    have hinj := List.inj_on_of_nodup_map (h.keys o)
    rw [hinj (List.mem_of_find?_eq_some hq) hp (ObjectInfo.key_of_property? hq)]

/-! ## What a compartment holds -/

/-- The types that a compartment holds, and the prototypes. -/
def typing (c : Compartment) : Typing where
  types s t := t ∈ (c.set s).types
  own name key t := ∃ o p, c.objectName o = name ∧ (c.object o).property? key = some p ∧
    t ∈ (c.set p.ownTypes).types
  links name above := ∃ o p, (c.object o).proto = some p ∧ c.objectName o = name ∧
    c.objectName p = above

/-- The unknown type is only in the set that stands for every type. -/
def Definite (c : Compartment) : Prop := ∀ s, s ≠ universal → (c.set s).has .unknown = false

/-- Only the sets in the table count. -/
theorem definite_iff : c.Definite ↔
    ∀ i < c.sets.size, ⟨i⟩ ≠ universal → (c.set ⟨i⟩).has .unknown = false := by
  refine ⟨fun h i _ => h ⟨i⟩, fun h s hs => ?_⟩
  by_cases hin : s.In c.extent
  · exact h s.index hin hs
  · rw [set_of_not_in hin]
    rfl

instance : Decidable c.Definite := decidable_of_iff' _ definite_iff

/-- What a host asks for has been done. -/
structure Grant.Fulfilled (g : Grant) (c : Compartment) : Prop where
  adds : ∀ {s t}, g.adds s t → (c.set s).has t = true
  joins : ∀ {a s}, g.joins a s → c.Flows a s
  asks : ∀ {s k}, g.asks s k → c.Asked s k
  assigns : ∀ {o key t}, g.assigns o key t → (c.object o).isUnknown = true ∨
    ∃ p, (c.object o).property? key = some p ∧ (c.set p.ownTypes).has t = true

theorem Grant.Fulfilled.mono (hgrows : c.Grows c') (hc : c.Valid) (hc' : c'.Valid)
    (h : g.Fulfilled c) : g.Fulfilled c' where
  adds hadds := hgrows.has hc hc' (h.adds hadds)
  joins hjoins := hgrows.flows (h.joins hjoins)
  asks hasks := (h.asks hasks).mono hgrows
  assigns hassigns := (h.assigns hassigns).imp hgrows.isUnknown fun ⟨p, hp, hhas⟩ =>
    ⟨p, hgrows.property? hp, hgrows.has hc hc' hhas⟩

/-- A host has asked for flows in a compartment where nothing flows yet, and nothing is pending. -/
structure Flowed (g : Grant) (b c : Compartment) : Prop where
  fluent : g.Fluent b.extent
  blank : b.Blank
  base : b.Resolved
  did : Did (.fluent g) b c
  delivered : Delivered (.fluent g) b c
  resolved : c.Resolved
  fulfilled : g.Fulfilled c

/-- The typing in which every type is everywhere, and no object has a prototype but those that must
have it. -/
def loosest (b : Compartment) : Typing where
  types _ _ := True
  own _ _ _ := True
  links name above := b.typing.links name above ∨
    ∃ w p : Builtin, w.prototype? = some p ∧ name = w.name ∧ above = p.name ∧
      ∀ o, b.objectName o = w.name → (b.object o).proto = none

theorem solves_loosest : (loosest b).Solves g b where
  start _ _ _ := trivial
  adds _ := .inr trivial
  joins _ _ := .inr trivial
  filters _ _ _ := .inr trivial
  ariths _ _ _ _ := .inr trivial
  reads _ _ _ _ := .inr trivial
  unknowns _ _ := .inr trivial
  indexes _ _ _ := .inr trivial
  writes _ _ _ := trivial
  assigns _ := trivial
  protos hp := .inl ⟨_, _, hp, rfl, rfl⟩
  wrapped _ hp hnone := .inr ⟨_, _, hp, rfl, rfl, hnone⟩

namespace Flowed

variable (h : Flowed g b c)
include h

theorem traced : Traced g b c := h.did.traced h.fluent (h.blank.traced h.base.sound)

/-- A run holds no more than any typing that solves what the host asks for. -/
theorem covered (hσ : σ.Solves g b) : Covered σ g b c :=
  h.did.covered h.fluent hσ h.blank (h.blank.traced h.base.sound) (h.blank.covered hσ h.base.sound)

theorem known (o : ObjectId) : (c.object o).isUnknown = false := (h.covered solves_loosest).known o

theorem valid : c.Valid := h.resolved.sound.valid

/-- A set of a property is not the one that stands for every type. -/
theorem ne_universal {o : ObjectId} {p : Property} (hp : p ∈ (c.object o).properties) :
    p.types ≠ universal ∧ p.ownTypes ≠ universal := by
  have hfresh := h.traced.fresh o p hp
  exact ⟨fun heq => hfresh.1 (heq ▸ h.base.sound.valid.universal),
    fun heq => hfresh.2 (heq ▸ h.base.sound.valid.universal)⟩

/-- What a read property answers is there. -/
theorem flows_of_reads {o : ObjectId} {key : Key} {target : SetId} (hreads : c.Reads o key target) :
    ∃ p, (c.object o).property? key = some p ∧ c.Flows p.types target := by
  refine hreads.resolve_left fun hunknown => ?_
  rw [h.known] at hunknown
  cases hunknown.1

/-! ### Deliveries -/

/-- Right after a type was delivered, and ever since, the constraint has what it asks for. -/
theorem heard {after before : List Event} {w : Work}
    (hjournal : c.journal = after ++ .fired w :: before) :
    ∃ a, a.journal = .fired w :: before ∧ Traced g b a ∧ a.Grows c ∧
      Settled a c w (c.constraint w.constraint) := by
  have hlate : b.journal.length ≤ before.length := by
    by_contra hearly
    obtain ⟨es, hes⟩ := h.traced.grows.journal
    rw [← hes] at hjournal
    obtain ⟨after', hold⟩ := journal_split hjournal (by omega)
    exact h.blank.unheard w (hold ▸ List.mem_append_right _ List.mem_cons_self)
  obtain ⟨a, c₁, hsettled⟩ := h.delivered after before w hjournal hlate
  have ha := hsettled.upTo.traced h.fluent (h.blank.traced h.base.sound)
  have hc₁ := hsettled.during.sound ha.sound
  have hgrows := hsettled.during.grows ha.sound
  have hgrows' := hsettled.since.grows hc₁
  have hid := hsettled.valid.constraint.mono hgrows.extent
  exact ⟨a, hsettled.journal, ha, hgrows.trans hgrows',
    hsettled.settled.mono hgrows' hc₁.valid h.valid (hgrows'.constraint w.constraint hid)⟩

/-- Of two types that were delivered, the one that came last saw the other one. -/
theorem saw {w w' : Work} (hw : .fired w ∈ c.journal) (hw' : .fired w' ∈ c.journal) :
    (∃ a, Traced g b a ∧ Settled a c w (c.constraint w.constraint) ∧
      w'.type ∈ (a.set w'.source).types) ∨
    ∃ a, Traced g b a ∧ Settled a c w' (c.constraint w'.constraint) ∧
      w.type ∈ (a.set w.source).types := by
  refine last_sees (fun after before w hjournal => ?_) hw hw'
  obtain ⟨a, ha, htraced, -, hsettled⟩ := h.heard hjournal
  exact ⟨a, ha, htraced.genuine, htraced, hsettled⟩

/-- Whatever was asked for was delivered. -/
theorem fired_of_asked {s : SetId} {k : Constraint} (hasked : c.Asked s k) {t : Ty}
    (ht : t ∈ (c.set s).types) :
    ∃ id, .fired ⟨id, s, t⟩ ∈ c.journal ∧ (c.constraint id).bare = k.bare := by
  obtain ⟨id, -, hhears, hbare⟩ := hasked
  refine ⟨id, (h.resolved.attended.heard s id t hhears ht).resolve_left ?_, hbare⟩
  rw [h.resolved.pending]
  exact List.not_mem_nil

/-- A constraint without marks that was asked for has what it asks for. -/
theorem settled_of_asks {s : SetId} {k : Constraint} (hplain : k.isPlain = true) (hasks : g.asks s k)
    {t : Ty} (ht : t ∈ (c.set s).types) : ∃ a id, Settled a c ⟨id, s, t⟩ k := by
  obtain ⟨id, -, hhears, hbare⟩ := h.fulfilled.asks hasks
  obtain ⟨a, hsettled⟩ := h.resolved.settled_of_hears hhears ht
  rw [Constraint.eq_of_bare_eq hbare hplain] at hsettled
  exact ⟨a, id, hsettled⟩

/-- An element access has what it asks for. -/
theorem indexed {code : Option Location} {i s target : SetId} {access : Access}
    (hasks : g.asks i (.element code s target access false)) {t : Ty} (ht : t ∈ (c.set i).types) :
    ∃ id wired, c.constraint id = .element code s target access wired ∧
      c.Indexed code target access wired t := by
  obtain ⟨id, -, hhears, hbare⟩ := h.fulfilled.asks hasks
  obtain ⟨a, hsettled⟩ := h.resolved.settled_of_hears hhears ht
  have hk := Constraint.eq_element hbare rfl
  rw [hk] at hsettled
  exact ⟨id, _, hk, hsettled⟩

/-- An access to a property has what it asks for. -/
theorem accessed {s : SetId} {key : Key} {target : SetId} {access : Access}
    (haccess : c.typing.Accesses g s key target access) {t : Ty} (ht : t ∈ (c.set s).types) :
    ∃ code, c.Accessed code key target access t := by
  obtain ⟨code, hasks⟩ | ⟨rfl, indexes, code, u, hasks, hu, hindex⟩ := haccess
  · obtain ⟨_, _, hsettled⟩ := h.settled_of_asks rfl hasks ht
    exact ⟨code, hsettled⟩
  · obtain ⟨id, wired, hk, hindexed⟩ := h.indexed hasks hu
    rw [(indexed_of_index hindex).mp hindexed] at hk
    obtain hold | hdirect | ⟨k, hhears, hk'⟩ :=
      h.did.wired (fun haborts => haborts) h.base.sound h.base.attended hk
    · have hnone : ¬ id.In b.extent := by
        show ¬ id.index < b.constraints.size
        rw [h.blank.constraints]
        exact Nat.not_lt_zero _
      rw [constraint_of_not_in hnone] at hold
      cases hold
    · exact hdirect.elim
    · obtain ⟨_, hsettled⟩ := h.resolved.settled_of_hears hhears ht
      rw [hk'] at hsettled
      exact ⟨code, hsettled⟩

/-! ### Inheritance -/

/-- Objects are found by their names, and so are those that one of them inherits from. -/
theorem exists_looksUp {o : ObjectId} (ho : o.In c.extent) {above : String}
    (hpath : Relation.ReflTransGen c.typing.links (c.objectName o) above) :
    ∃ a : ObjectId, a.In c.extent ∧ c.objectName a = above ∧ c.LooksUp o a := by
  induction hpath with
  | refl => exact ⟨o, ho, rfl, .refl o⟩
  | tail _ hlink ih =>
    obtain ⟨a, ha, rfl, hup⟩ := ih
    obtain ⟨x, p, hp, hname, rfl⟩ := hlink
    have hx : x.In c.extent := in_of_proto hp
    obtain rfl := h.resolved.sound.names.unique x a hx ha hname
    exact ⟨p, (h.valid.objects x).proto p hp, rfl, hup.trans (.inr (.proto hp))⟩

/-- The own types of a property are those that the typing has for it. -/
theorem own_iff {o : ObjectId} {p : Property} (hp : p ∈ (c.object o).properties) {t : Ty} :
    c.typing.own (c.objectName o) p.key t ↔ t ∈ (c.set p.ownTypes).types := by
  have hfound := h.resolved.sound.names.property?_of_mem hp
  refine ⟨?_, fun ht => ⟨o, p, rfl, hfound, ht⟩⟩
  rintro ⟨x, q, hname, hq, ht⟩
  obtain rfl := h.resolved.sound.names.unique x o
    (in_of_mem_properties (List.mem_of_find?_eq_some hq)) (in_of_mem_properties hp) hname
  rw [hfound, Option.some.injEq] at hq
  rwa [hq]

/-- A property has what is assigned to it, and to the objects above. -/
theorem has_of_all {o : ObjectId} {p : Property} (hp : p ∈ (c.object o).properties) {t : Ty}
    (hall : c.typing.All (c.objectName o) p.key t) : (c.set p.types).has t = true := by
  obtain ⟨above, hpath, hown⟩ := hall
  obtain ⟨a, ha, rfl, hup⟩ := h.exists_looksUp (in_of_mem_properties hp) hpath
  have hhas : ∀ q ∈ (c.object a).properties, q.key = p.key → (c.set q.types).has t = true := by
    intro q hq hkey
    rw [← hkey, h.own_iff hq] at hown
    exact h.resolved.has_of_mem_flows (h.resolved.wired a q hq) hown
  obtain rfl | hinherits := hup
  · exact hhas p hp rfl
  · obtain ⟨q, hq, htypes, -⟩ := (h.resolved.handedDown hinherits).derives (h.known o) p hp
    exact htypes t (hhas q (List.mem_of_find?_eq_some hq) (ObjectInfo.key_of_property? hq))

/-- The wrapper of a primitive value whose property is read is there. -/
theorem reads_of_wrapper {t : Ty} {w : Builtin} (hw : wrapper? t = some w) {code : Option Location}
    {key : Key} {target : SetId} (haccessed : c.Accessed code key target .read t) :
    ∃ o, c.builtin? w = some o ∧ c.objectName o = w.name ∧ c.Reads o key target := by
  have hall : ∀ w, wrapper? t = some w → ∃ o, c.builtin? w = some o ∧ c.Reads o key target := by
    cases t with
    | unknown | object => cases hw
    | _ => exact haccessed
  obtain ⟨o, ho, hreads⟩ := hall w hw
  exact ⟨o, ho, h.resolved.sound.names.builtins _ (builtin?_some ho), hreads⟩

/-- Where a type is read, the object that stands for it is. -/
theorem reads_of_readsAs {t : Ty} {name : String} (ht : t.In b.extent) (hreadsAs : b.ReadsAs t name)
    {code : Option Location} {key : Key} {target : SetId}
    (haccessed : c.Accessed code key target .read t) :
    ∃ o, c.objectName o = name ∧ c.Reads o key target := by
  obtain ⟨o, rfl, rfl⟩ | ⟨w, hw, rfl⟩ := hreadsAs
  · exact ⟨o, h.traced.name (ht o rfl), haccessed⟩
  · obtain ⟨o, -, hname, hreads⟩ := h.reads_of_wrapper hw haccessed
    exact ⟨o, hname, hreads⟩

/-- A wrapper has its prototype, unless the host had made an object of its name and given that one a
prototype. -/
theorem proto_of_wrapper {w p : Builtin} {o : ObjectId} (ho : c.builtin? w = some o)
    (hp : w.prototype? = some p) (hnone : ∀ o, b.objectName o = w.name → (b.object o).proto = none) :
    ∃ q, (c.object o).proto = some q ∧ c.objectName q = p.name := by
  have hname := h.resolved.sound.names.builtins _ (builtin?_some ho)
  have hset : (c.object o).proto ≠ none := by
    refine h.resolved.builtins w o ho ?_
    rw [hp]
    exact Option.some_ne_none p
  obtain ⟨q, hq⟩ := Option.ne_none_iff_exists'.mp hset
  refine ⟨q, hq, ?_⟩
  obtain ⟨x, y, hproto, hx, -⟩ | ⟨w', p', hp', hname', hq', -⟩ :=
    (h.covered solves_loosest).links o q hq
  · rw [hnone x (hx.trans hname)] at hproto
    cases hproto
  · obtain rfl := Builtin.eq_of_name_eq (hname.symm.trans hname')
    rw [hp, Option.some.injEq] at hp'
    rw [hq', hp']

/-! ### Operations -/

/-- The target of an operation has what the operation yields for any types of the operands. -/
theorem has_of_results {a s : SetId} {op : ArithOp} {other : Option SetId} {t u : Ty}
    {f : SetId → TypeSet} (hasks : g.asks a (.arith op s other)) (ht : t ∈ (c.set a).types)
    (hother : ∀ o ∈ other, (f o).Coherent ∧ ∀ v ∈ (f o).types, v ∈ (c.set o).types)
    (hu : u ∈ Arith.results op t (other.map f)) : (c.set s).has u = true := by
  obtain ⟨id, hfired, hbare⟩ := h.fired_of_asked (h.fulfilled.asks hasks) ht
  have hk := Constraint.eq_of_bare_eq hbare rfl
  cases other with
  | none =>
    obtain ⟨after, before, hjournal⟩ := List.append_of_mem hfired
    obtain ⟨m, -, -, -, hsettled⟩ := h.heard hjournal
    rw [hk] at hsettled
    exact hsettled u hu
  | some o =>
    obtain ⟨hcoherent, hsub⟩ := hother o rfl
    -- At each moment the operation yields at least what it yields in any case.
    have hseen : ∀ {x y : SetId} {i : ConstraintId} {t : Ty} {m : Compartment}, Traced g b m →
        (c.constraint i).bare = (Constraint.arith op s (some y)).bare →
          Settled m c ⟨i, x, t⟩ (c.constraint i) → ∀ r, (r ∈ Arith.binary op t {} ∨
            ∃ v ∈ (m.set y).types, r ∈ Arith.pair op t v) → (c.set s).has r = true := by
      intro x y i t m hm hi hsettled r hr
      rw [Constraint.eq_of_bare_eq hi rfl] at hsettled
      exact hsettled r ((Arith.mem_binary (hm.sound.valid.sets y).coherent).mpr hr)
    obtain hany | ⟨v, hv, hpair⟩ := (Arith.mem_binary hcoherent).mp hu
    · obtain ⟨after, before, hjournal⟩ := List.append_of_mem hfired
      obtain ⟨m, -, hm, -, hsettled⟩ := h.heard hjournal
      exact hseen hm hbare hsettled u (.inl hany)
    · obtain ⟨id', hfired', hbare'⟩ :=
        h.fired_of_asked (h.fulfilled.asks (h.fluent.operands hasks)) (hsub v hv)
      obtain ⟨m, hm, hsettled, hmem⟩ | ⟨m, hm, hsettled, hmem⟩ := h.saw hfired hfired'
      · exact hseen hm hbare hsettled u (.inr ⟨v, hmem, hpair⟩)
      · obtain ⟨after, before, hjournal⟩ := List.append_of_mem hfired
        obtain ⟨m', -, hm', -, hsettled'⟩ := h.heard hjournal
        obtain ⟨u', hu', hsame⟩ := Arith.pair_comm hpair
        have hhas : (c.set s).has u' = true := by
          obtain hu' | hu' := List.mem_append.mp hu'
          · obtain hu' | hu' := List.mem_append.mp hu'
            · exact hseen hm hbare' hsettled u' (.inr ⟨t, hmem, hu'⟩)
            · exact hseen hm' hbare hsettled' u' (.inl hu')
          · exact hseen hm hbare' hsettled u' (.inl hu')
        obtain rfl | rfl := hsame
        · exact hhas
        · exact (h.valid.sets s).coherent.has_of_has_unknown hhas u

section Definite

variable (hdefinite : c.Definite)
include hdefinite

/-- Whatever a set stands for is in it. -/
theorem mem_of_has {s : SetId} (hs : s ≠ universal) {t : Ty} (ht : (c.set s).has t = true) :
    t ∈ (c.set s).types := by
  refine (((h.valid.sets s).coherent.has_iff t).mp ht).resolve_right fun hunknown => ?_
  have hhas := (h.valid.sets s).coherent.has_of_mem hunknown
  rw [hdefinite s hs] at hhas
  cases hhas

theorem gets_of_has {s : SetId} {t : Ty} (ht : (c.set s).has t = true) : c.typing.Gets s t := by
  by_cases hs : s = universal
  · exact .inl hs
  · exact .inr (h.mem_of_has hdefinite hs ht)

/-- What a compartment holds solves what the host asked for. -/
theorem solves : c.typing.Solves g b where
  start s t ht := (h.traced.grows.set s).types.subset ht
  adds hadds := h.gets_of_has hdefinite (h.fulfilled.adds hadds)
  joins hjoins ht :=
    h.gets_of_has hdefinite (h.resolved.has_of_mem_flows (h.fulfilled.joins hjoins) ht)
  filters hasks ht hpasses := by
    obtain ⟨_, _, hsettled⟩ := h.settled_of_asks rfl hasks ht
    exact h.gets_of_has hdefinite (hsettled hpasses)
  ariths hasks ht hother hu := h.gets_of_has hdefinite (h.has_of_results hasks ht hother hu)
  reads haccess ht hreadsAs hall := by
    obtain ⟨_, haccessed⟩ := h.accessed haccess ht
    obtain ⟨o, rfl, hreads⟩ :=
      h.reads_of_readsAs ((h.covered solves_loosest).types _ _ ht).within hreadsAs haccessed
    obtain ⟨p, hp, hflows⟩ := h.flows_of_reads hreads
    rw [← ObjectInfo.key_of_property? hp] at hall
    exact h.gets_of_has hdefinite
      (h.resolved.has_of_flows hflows (h.has_of_all (List.mem_of_find?_eq_some hp) hall))
  unknowns haccess ht := by
    obtain ⟨_, haccessed⟩ := h.accessed haccess ht
    exact h.gets_of_has hdefinite haccessed
  indexes hasks ht hindex := by
    obtain ⟨_, _, -, hindexed⟩ := h.indexed hasks ht
    rw [indexed_read (by rw [hindex]; decide)] at hindexed
    exact h.gets_of_has hdefinite hindexed
  writes haccess ho ht := by
    obtain ⟨_, haccessed⟩ := h.accessed haccess ho
    have hwrites : c.Writes _ _ _ := haccessed
    obtain hunknown | ⟨p, hp, hflows⟩ := hwrites
    · rw [h.known] at hunknown
      cases hunknown
    · have hmem := List.mem_of_find?_eq_some hp
      have hin := ((h.covered solves_loosest).types _ _ ho).within _ rfl
      rw [← h.traced.name hin, ← ObjectInfo.key_of_property? hp, h.own_iff hmem]
      exact h.mem_of_has hdefinite (h.ne_universal hmem).2 (h.resolved.has_of_mem_flows hflows ht)
  assigns hassigns := by
    obtain hunknown | ⟨p, hp, hhas⟩ := h.fulfilled.assigns hassigns
    · rw [h.known] at hunknown
      cases hunknown
    · have hmem := List.mem_of_find?_eq_some hp
      rw [← h.traced.name (h.fluent.assigns hassigns).1, ← ObjectInfo.key_of_property? hp,
        h.own_iff hmem]
      exact h.mem_of_has hdefinite (h.ne_universal hmem).2 hhas
  protos {o p} hp := by
    have ho : o.In b.extent := in_of_proto hp
    have hp' := (h.base.sound.valid.objects o).proto p hp
    exact ⟨o, p, (h.traced.grows.object o).proto p hp, h.traced.name ho, h.traced.name hp'⟩
  wrapped hunwraps hp hnone := by
    obtain ⟨s, key, target, t, haccess, ht, hw⟩ := hunwraps
    obtain ⟨_, haccessed⟩ := h.accessed haccess ht
    obtain ⟨o, ho, hname, -⟩ := h.reads_of_wrapper hw haccessed
    obtain ⟨q, hq, hname'⟩ := h.proto_of_wrapper ho hp hnone
    exact ⟨o, q, hq, hname, hname'⟩

/-! ### Two runs -/

variable (h' : Flowed g b c')
include h'

/-- What one run holds, the other one holds too, if that one knows all the types. -/
theorem covers : Covered c.typing g b c' := h'.covered (h.solves hdefinite)

/-- If one run knows all the types, the other one does. -/
theorem definite_of : c'.Definite := by
  intro s hs
  by_contra hhas
  rw [Bool.not_eq_false, (h'.valid.sets s).coherent.has_unknown_iff] at hhas
  have hnever : ∀ {s}, s ≠ universal → .unknown ∉ (c.set s).types := by
    intro s hs hunknown
    have hhas := (h.valid.sets s).coherent.has_of_mem hunknown
    rw [hdefinite s hs] at hhas
    cases hhas
  have hown : ∀ {name key}, ¬ c.typing.own name key .unknown := by
    rintro name key ⟨o, p, -, hp, hunknown⟩
    exact hnever (h.ne_universal (List.mem_of_find?_eq_some hp)).2 hunknown
  have hbacked := (h.covers hdefinite h').types s .unknown hhas
  obtain hin | ⟨o, p, hp, heq | heq⟩ := hbacked.place
  · exact hnever hs (hbacked.base hin)
  · obtain ⟨above, -, habove⟩ := hbacked.all o p hp heq
    exact hown habove
  · exact hown (hbacked.own o p hp heq)

/-- The types that one run has put into a set, the other one has put there too. -/
theorem mem_of_mem {s : SetId} (hs : s.In b.extent) {t : Ty} (ht : t ∈ (c'.set s).types) :
    t ∈ (c.set s).types :=
  ((h.covers hdefinite h').types s t ht).base hs

/-- The types that a property has after one run, it has after the other one. -/
theorem mem_of_answers {o : ObjectId} (ho : o.In b.extent) {key : Key} {own : Bool} {s s' : SetId}
    (hs : c.Answers o key own s) (hs' : c'.Answers o key own s') {t : Ty}
    (ht : t ∈ (c'.set s').types) : t ∈ (c.set s).types := by
  have hbacked := (h.covers hdefinite h').types s' t ht
  have hname : c'.objectName o = c.objectName o := (h'.traced.name ho).trans (h.traced.name ho).symm
  obtain ⟨hunknown, -⟩ | ⟨p, hp, rfl⟩ := hs
  · rw [h.known] at hunknown
    cases hunknown
  obtain ⟨hunknown, -⟩ | ⟨p', hp', rfl⟩ := hs'
  · rw [h'.known] at hunknown
    cases hunknown
  have hmem := List.mem_of_find?_eq_some hp
  have hmem' := List.mem_of_find?_eq_some hp'
  have hkey : p'.key = p.key :=
    (ObjectInfo.key_of_property? hp').trans (ObjectInfo.key_of_property? hp).symm
  cases own with
  | true =>
    have hown := hbacked.own o p' hmem' rfl
    rwa [hname, hkey, h.own_iff hmem] at hown
  | false =>
    have hall := hbacked.all o p' hmem' rfl
    rw [hname, hkey] at hall
    exact h.mem_of_has hdefinite (h.ne_universal hmem).1 (h.has_of_all hmem hall)

end Definite

end Flowed

end Compartment

end FlowTypes
