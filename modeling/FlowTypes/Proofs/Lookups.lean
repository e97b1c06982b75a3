import FlowTypes.Proofs.Carrying
import FlowTypes.Proofs.Laziness
import FlowTypes.Proofs.Origins

/-!
# What a property is looked up as

A host that only makes objects, gives them prototypes, assigns to their properties and looks these up
gets what it can read off its requests and off the prototypes.  A property has the types that were
assigned to it, on the object or on one that the object inherits from now.  When each of these
requests was made does not matter: an assignment reaches an object that inherits later, and also one
that was asked for the property before the assignment.

Once an object is marked unknown, or gets a new prototype by an assignment to `__proto__`, nothing is
known of its properties any more, nor of those of the objects that inherit from it.

## Main results

* `History.Assigns`, `History.Forgets`: what the requests say about a property and about an object.
* `unknown_iff_forgets`, `mem_ownTypes_iff`, `mem_types_iff`: what the compartment makes of that.
* `lookup_collects`: the answer for every property of every object after every such run.
-/

namespace FlowTypes

open Compartment

/-! ## Histories -/

namespace Request

/-- The request is about objects and their properties. -/
def isObjectual : Request → Bool
  | typeObject .. | addPrototype .. | property .. | storeToInstances .. | observeAssignment ..
  | markUnknown _ => true
  | _ => false

/-- The request may be for an object of another kind, or for a prototype that cannot be. -/
def IsRefusable : Request → Prop
  | typeObject .. | addPrototype .. => True
  | _ => False

end Request

namespace History

variable (rs : List Request)

/-- A value of the type was assigned to the property of the object. -/
def Assigns (o : ObjectId) (key : Key) (t : Ty) : Prop :=
  ∃ value, .observeAssignment o key value ∈ rs ∧ value.type? = some t

/-- The object was marked unknown, or a new prototype was assigned to it. -/
def Forgets (o : ObjectId) : Prop :=
  .markUnknown o ∈ rs ∨
    ∃ key value, .observeAssignment o key value ∈ rs ∧ key.isNamed "__proto__" = true

end History

namespace Compartment

variable {sc : Scope} {host : Host} {c c' : Compartment} {rs : List Request} {options : Options}

/-- A property of the first object is looked up on the second one too. -/
def LooksUp (c : Compartment) (o a : ObjectId) : Prop := a = o ∨ c.Inherits o a

theorem LooksUp.refl (o : ObjectId) : c.LooksUp o o := .inl rfl

theorem LooksUp.trans {o a b : ObjectId} (h : c.LooksUp o a) (h' : c.LooksUp a b) :
    c.LooksUp o b := by
  obtain rfl | h := h
  · exact h'
  · obtain rfl | h' := h'
    · exact .inr h
    · exact .inr (h.trans h')

theorem LooksUp.mono (hgrows : c.Grows c') {o a : ObjectId} (h : c.LooksUp o a) :
    c'.LooksUp o a :=
  h.imp_right (Inherits.mono hgrows)

/-! ## The law of such a host -/

/-- What a host asks for that makes these requests. -/
def Grant.history (rs : List Request) : Grant :=
  { Grant.none with
    keys := fun _ => True
    assigns := History.Assigns rs
    marks := History.Forgets rs
    links := fun _ _ => True }

/-- What a host may bring about that makes these requests. -/
def Scope.history (rs : List Request) : Scope :=
  .granting (.history rs) (fun _ => False) False fun _ _ => False

/-- The same, while it makes no objects. -/
def Scope.settled (rs : List Request) : Scope := { Scope.history rs with choice := False }

theorem Scope.carries_history (rs : List Request) : (Scope.history rs).Carries :=
  ⟨fun _ _ => False.elim, trivial, fun _ _ => id⟩

theorem Scope.carries_settled (rs : List Request) : (Scope.settled rs).Carries :=
  ⟨fun _ _ => False.elim, trivial, fun _ _ => id⟩

theorem Scope.settled_within (rs : List Request) : (Scope.settled rs).Within (Scope.history rs) :=
  ⟨False.elim, .refl _, id, fun _ => id, id, fun _ _ => id, id, id, id⟩

/-- As long as the host makes no objects, no walk is cut off. -/
theorem roomy_settled (rs : List Request) (host : Host) :
    (carrying (Scope.carries_settled rs) host).Roomy :=
  .inr fun _ _ hb hdid => hdid.objects_le id hb

section Moves

variable (h : (carrying (Scope.carries_history rs) host).At c)
include h

theorem at_settled : (carrying (Scope.carries_settled rs) host).At c :=
  ⟨⟨h.sound, h.handled, h.kept⟩, h.rest⟩

/-- An object without a prototype gets one. -/
theorem moves_link_history {id proto : ObjectId} (hid : id.In c.extent) (hproto : proto.In c.extent)
    (hnone : (c.object id).proto = none) (hne : id ≠ proto) (hup : ¬ c.Inherits proto id) :
    (carrying (Scope.carries_history rs) host).Moves (link (solve host) id proto) c
      fun _ c' => (c'.object id).proto = some proto :=
  moves_widen (Scope.settled_within rs) (moves_link (lawful_carrying _ host)
    (roomy_settled rs host) (at_settled h) hid hproto hnone hne hup (.given trivial))

/-- The host asks for an object that is there already or is made, or it is turned down. -/
theorem moves_typeObject_history (script : Option ScriptId) (name : String) (isFunction : Bool)
    {proto : Option ObjectId} (hproto : ∀ p, proto = some p → p.In c.extent) :
    (Request.typeObject script name isFunction proto).Refused host c ∨
      (carrying (Scope.carries_history rs) host).Moves
        (typeObject (solve host) script name isFunction proto) c fun _ _ => True := by
  obtain ⟨e, he, hrun⟩ | ⟨id, -, hrun⟩ | hfresh :=
    typeObject_cases (solve host) c script name isFunction proto
  · exact .inl ⟨e, he, run_bind_error hrun⟩
  · exact .inr (outcome_of_ok hrun ⟨.refl c, h.rest, trivial⟩)
  · have hlinks : (carrying (Scope.carries_history rs) host).Links :=
      fun _ _ _ h hid hproto hnone hne hup _ => moves_link_history h hid hproto hnone hne hup
    exact .inr (.imp h (moves_makeObject (lawful_carrying _ host) hlinks h hfresh (.inl trivial)
      (fun _ => trivial) hproto fun _ _ => .inl trivial) fun _ _ _ _ _ => trivial)

/-- An object gets a prototype, or the host is turned down. -/
theorem moves_addPrototype_history {id proto : ObjectId} (hid : id.In c.extent)
    (hproto : proto.In c.extent) : (Request.addPrototype id proto).Refused host c ∨
      (carrying (Scope.carries_history rs) host).Moves (addPrototype (solve host) id proto) c
        fun _ c' => (c'.object id).proto = some proto := by
  obtain ⟨e, he, hrun⟩ | ⟨hnone, hne, hup, hrun⟩ :=
    addPrototype_cases (solve host) h.sound id proto
  · exact .inl ⟨e, he, run_bind_error hrun⟩
  · exact .inr ((outcome_congr hrun).mpr (moves_link_history h hid hproto hnone hne hup))

/-- A request for a property is answered by a set of it. -/
theorem moves_property_history {o : ObjectId} (ho : o.In c.extent) (key : Key) (own : Bool) :
    (carrying (Scope.carries_history rs) host).Moves (getProperty (solve host) o key own) c
      fun s c' => c'.Answers o key own s :=
  moves_widen (Scope.settled_within rs) (moves_getProperty (lawful_carrying _ host)
    (roomy_settled rs host) (at_settled h) ho (.inl trivial) own)

/-- Every request is turned down or succeeds. -/
theorem moves_history {r : Request} (hr : r ∈ rs) (hobjectual : r.isObjectual = true)
    (hvalid : r.Valid c.extent) : (r.IsRefusable ∧ r.Refused host c) ∨
      (carrying (Scope.carries_history rs) host).Moves (r.run host) c fun _ c' => r.Done c' := by
  have hL := lawful_carrying (Scope.carries_history rs) host
  have hsteady : r.Allowed (.settled rs) c → r.Supported (carrying (Scope.carries_settled rs) host) →
      (carrying (Scope.carries_history rs) host).Moves (r.run host) c fun _ c' => r.Done c' := by
    intro hallowed hsupported
    refine .imp h (moves_widen (Scope.settled_within rs) (Request.moves (lawful_carrying _ host)
      (at_settled h) hsupported hvalid hallowed)) ?_
    exact fun _ _ _ _ hanswered => hanswered.done
  have hroom := roomy_settled rs host
  cases r with
  | typeObject script name isFunction proto =>
    refine (moves_typeObject_history h script name isFunction hvalid).imp (⟨trivial, ·⟩) ?_
    exact fun hmoves => .bind hL.within h hmoves fun _ _ h' _ _ => .pure h' trivial
  | addPrototype id proto =>
    refine (moves_addPrototype_history h hvalid.1 hvalid.2).imp (⟨trivial, ·⟩) ?_
    exact fun hmoves => .bind hL.within h hmoves fun _ _ h' _ hset => .pure h' hset
  | property => exact .inr (hsteady trivial hroom)
  | storeToInstances => exact .inr (hsteady trivial hroom)
  | markUnknown => exact .inr (hsteady (.inl hr) hroom)
  | observeAssignment o key value =>
    refine .inr (hsteady ?_ hroom)
    show Grant.Assigns _ o key value
    unfold Grant.Assigns
    split
    · rename_i hproto
      exact .inr ⟨key, value, hr, hproto⟩
    · exact ⟨trivial, fun t ht => ⟨value, hr, ht⟩⟩
  | _ => cases hobjectual

end Moves

/-! ## What is forgotten -/

/-- An object becomes unknown only if it or one that it inherits from was forgotten. -/
theorem Did.forgets (h : Did (.history rs) (fresh options) c) {o : ObjectId}
    (ho : (c.object o).isUnknown = true) : ∃ a, c.LooksUp o a ∧ History.Forgets rs a := by
  have hasks := (Scope.carries_history rs).asks
  refine (h.change_induction (P := fun b => b.Carrying ∧ (∀ d, b.builtin? d = none) ∧
    ∀ o, (b.object o).isUnknown = true → ∃ a, b.LooksUp o a ∧ History.Forgets rs a)
    (sound_fresh options) ?_ ?_ ⟨carrying_fresh options, fun _ => rfl, ?_⟩).2.2 o ho
  · rintro a b ha hchange ⟨hcarrying, hbuiltins, hall⟩
    have hgrounded := hchange.grounded
    have hgrows := hchange.grows ha.valid
    have hheard : ∀ {w k}, k.isCarrier = false → ¬ a.Hearing w k := by
      intro w k hk hw
      rw [hcarrying.hearing hw] at hk
      cases hk
    refine ⟨(Did.single hchange).carrying hasks ha hcarrying, fun d => ?_, fun o ho => ?_⟩
    · cases hd : b.builtin? d with
      | none => rfl
      | some id =>
        obtain hold | ⟨-, -, -, hdemanded⟩ := hgrounded.builtins d id hd
        · rw [hbuiltins] at hold
          cases hold
        · cases hdemanded with
          | given h => exact h.elim
          | read hw | boxed hw => exact absurd hw (hheard rfl)
          | called h => exact absurd h hcarrying.not_calls
    · obtain hold | hforsaken := hgrounded.unknown o ho
      · obtain ⟨x, hx, hforgets⟩ := hall o hold
        exact ⟨x, hx.mono hgrows, hforgets⟩
      · cases hforsaken with
        | given h => exact ⟨o, .refl o, h⟩
        | inherited hp hunknown =>
          obtain ⟨x, hx, hforgets⟩ := hall _ hunknown
          exact ⟨x, (LooksUp.trans (.inr (.proto hp)) hx).mono hgrows, hforgets⟩
        | untracked _ hid =>
          rw [hbuiltins] at hid
          cases hid
  · rintro a id - hid ⟨hcarrying, hbuiltins, hall⟩
    refine ⟨hcarrying, hbuiltins, fun o ho => ?_⟩
    rw [(calm_classify hid).unknown] at ho
    obtain ⟨x, hx, hforgets⟩ := hall o ho
    exact ⟨x, hx.mono (grows_classify hid), hforgets⟩
  · rintro ⟨i⟩ ho
    cases i <;> cases ho

section Final

variable (hgood : (carrying (Scope.carries_history rs) host).Good (fresh options) c)
  (hresolved : c.Resolved)
include hgood

theorem properties_apart : c.SetsApart :=
  hgood.did.setsApart (sound_fresh options) (setsApart_fresh options)

/-- A set of a property is not the one that stands for every type. -/
theorem ne_universal {o : ObjectId} {p : Property} (hp : p ∈ (c.object o).properties) :
    p.types ≠ universal ∧ p.ownTypes ≠ universal := by
  have hin : SetId.In universal (fresh options).extent := (valid_fresh options).universal
  obtain hold | ⟨htypes, hown⟩ := hgood.did.mem_properties (sound_fresh options) hp
  · obtain ⟨i⟩ := o
    cases i <;> cases hold
  · exact ⟨fun heq => htypes (heq ▸ hin), fun heq => hown (heq ▸ hin)⟩

include hresolved

/-- An object is unknown exactly if it or one that it inherits from was forgotten. -/
theorem unknown_iff_forgets (hdone : ∀ r ∈ rs, ¬ r.IsRefusable → r.Done c) (o : ObjectId) :
    (c.object o).isUnknown = true ↔ ∃ a, c.LooksUp o a ∧ History.Forgets rs a := by
  refine ⟨hgood.did.forgets, ?_⟩
  rintro ⟨a, hup, hforgets⟩
  have ha : (c.object a).isUnknown = true := by
    obtain hmarked | ⟨key, value, hassigned, hproto⟩ := hforgets
    · exact hdone _ hmarked id
    · refine (hdone _ hassigned id).resolve_right fun hkey => ?_
      rw [hproto] at hkey
      cases hkey.1
  obtain rfl | hinherits := hup
  · exact ha
  · exact (hresolved.handedDown hinherits).spread ha

/-! ## What is assigned -/

/-- Where a type of a set comes from, as far as the set belongs to a property of an object that is
not unknown. -/
structure Collected (rs : List Request) (c : Compartment) (s : SetId) (t : Ty) : Prop where
  own : ∀ o, (c.object o).isUnknown = false → ∀ p ∈ (c.object o).properties, s = p.ownTypes →
    History.Assigns rs o p.key t
  all : ∀ o, (c.object o).isUnknown = false → ∀ p ∈ (c.object o).properties, s = p.types →
    ∃ a, c.LooksUp o a ∧ History.Assigns rs a p.key t

omit hgood in
/-- A type that joins a set comes from an assignment, or from a set that it comes from one in. -/
theorem collected_of_sources (hcarrying : c.Carrying) (hapart : c.SetsApart) {b : Compartment}
    (hgrows : b.Grows c) (hold : ∀ s, ∀ t ∈ (b.set s).types, Collected rs c s t) {target : SetId}
    {t : Ty} (h : Sources (.history rs) b target t) : Collected rs c target t := by
  have hmem : ∀ {o p}, p ∈ (b.object o).properties → p ∈ (c.object o).properties :=
    fun hp => (hgrows.object _).properties.subset hp
  have hheard : ∀ {w k}, k.isCarrier = false → ¬ b.Hearing w k := by
    intro w k hk hw
    rw [(hcarrying.earlier hgrows).hearing hw] at hk
    cases hk
  cases h with
  | given h => exact h.elim
  | @assigned o key t p h hp =>
    have hp' := hmem (List.mem_of_find?_eq_some hp)
    refine ⟨fun o' _ p' hp'' hs => ?_, fun o' _ p' hp'' hs => ?_⟩
    · obtain ⟨rfl, rfl⟩ := hapart.ownTypes hp' hp'' hs
      rwa [ObjectInfo.key_of_property? hp]
    · exact absurd hs.symm (hapart.mixed hp'' hp')
  | @forgotten o p s ho hp hs =>
    have hp' := hmem hp
    have hsame : ∀ {o'}, (c.object o').isUnknown = false → o ≠ o' := by
      rintro o' hknown rfl
      rw [hgrows.isUnknown ho] at hknown
      cases hknown
    refine ⟨fun o' hknown p' hp'' hs' => ?_, fun o' hknown p' hp'' hs' => ?_⟩
    · obtain rfl | rfl := hs
      · exact absurd hs' (hapart.mixed hp' hp'')
      · exact absurd (hapart.ownTypes hp' hp'' hs').1 (hsame hknown)
    · obtain rfl | rfl := hs
      · exact absurd (hapart.types hp' hp'' hs').1 (hsame hknown)
      · exact absurd hs'.symm (hapart.mixed hp'' hp')
  | emitted hk hu hemits =>
    cases hk with
    | asked h => exact h.elim
    | edge hdrawn =>
      obtain ⟨rfl, rfl⟩ := hemits
      cases hdrawn with
      | given h => exact h.elim
      | @own o p hp =>
        refine ⟨fun o' _ p' hp' hs => absurd hs (hapart.mixed (hmem hp) hp'), ?_⟩
        intro o' hknown p' hp' hs
        obtain ⟨rfl, rfl⟩ := hapart.types (hmem hp) hp' hs
        exact ⟨o, .refl o, (hold _ _ hu).own o hknown p hp' rfl⟩
      | @inherited o a p _ ha hp hs =>
        have ha := ha.mono hgrows
        refine ⟨fun o' _ p' hp' hs => absurd hs (hapart.mixed (hmem hp) hp'), ?_⟩
        intro o' hknown p' hp' hs'
        obtain ⟨rfl, rfl⟩ := hapart.types (hmem hp) hp' hs'
        have hknown' : (c.object a).isUnknown = false := by
          by_contra hunknown
          rw [(hresolved.handedDown ha).spread (by simpa using hunknown)] at hknown
          cases hknown
        obtain ⟨hunknown, -⟩ | ⟨q, hq, rfl⟩ := hs
        · rw [hgrows.isUnknown hunknown] at hknown'
          cases hknown'
        · obtain ⟨x, hx, hassigns⟩ :=
            (hold _ _ hu).all a hknown' q (hmem (List.mem_of_find?_eq_some hq)) rfl
          exact ⟨x, .trans (.inr ha) hx, ObjectInfo.key_of_property? hq ▸ hassigns⟩
      | read hw | write hw => exact absurd hw (hheard rfl)
      | called h => exact absurd h (hcarrying.earlier hgrows).not_calls
    | wired hw => exact absurd hw (hheard rfl)
    | called h => exact absurd h (hcarrying.earlier hgrows).not_calls
  | called h => exact absurd h (hcarrying.earlier hgrows).not_calls

/-- Whatever is in a set of a property was assigned. -/
theorem collected (s : SetId) (t : Ty) (ht : t ∈ (c.set s).types) : Collected rs c s t := by
  have hsound := sound_fresh options
  have hcarrying := hgood.did.carrying (Scope.carries_history rs).asks hsound (carrying_fresh options)
  refine hgood.did.origins id hsound (genuine_fresh options) (explained_fresh _ options) ?_
    (.refl c) ?_ s t ht
  · intro s t ht
    obtain ⟨rfl, -⟩ := mem_types_fresh.mp ht
    exact ⟨fun o _ p hp hs => absurd hs.symm (ne_universal hgood hp).2,
      fun o _ p hp hs => absurd hs.symm (ne_universal hgood hp).1⟩
  · intro b _ hgrows _ _ hold target t hsources _
    exact collected_of_sources hresolved hcarrying (properties_apart hgood) hgrows hold hsources

/-- The unknown type is in no set of an object that is not unknown. -/
theorem mem_of_has {o : ObjectId} (hknown : (c.object o).isUnknown = false) {p : Property}
    (hp : p ∈ (c.object o).properties) {s : SetId} (hs : s = p.types ∨ s = p.ownTypes) {t : Ty}
    (ht : (c.set s).has t = true) : t ∈ (c.set s).types := by
  refine (((hresolved.sound.valid.sets s).coherent.has_iff t).mp ht).resolve_right fun hu => ?_
  have hcollected := collected hgood hresolved s .unknown hu
  have hnever : ∀ {a key}, ¬ History.Assigns rs a key .unknown := by
    rintro a key ⟨value, -, hvalue⟩
    cases value <;> cases hvalue
  obtain rfl | rfl := hs
  · obtain ⟨a, -, hassigns⟩ := hcollected.all o hknown p hp rfl
    exact hnever hassigns
  · exact hnever (hcollected.own o hknown p hp rfl)

variable (hdone : ∀ r ∈ rs, ¬ r.IsRefusable → r.Done c)
include hdone

omit hgood hresolved in
/-- What was assigned to a property of an object that is not unknown is among its own types. -/
theorem own_of_assigns {o : ObjectId} (hknown : (c.object o).isUnknown = false) {key : Key} {t : Ty}
    (h : History.Assigns rs o key t) : ∃ p, (c.object o).property? key = some p ∧
      (c.set p.ownTypes).has t = true := by
  obtain ⟨value, hassigned, ht⟩ := h
  obtain hunknown | ⟨-, hall⟩ := hdone _ hassigned id
  · rw [hknown] at hunknown
    cases hunknown
  · exact hall t ht

/-- The own types of a property are those that were assigned to it. -/
theorem mem_ownTypes_iff {o : ObjectId} (hknown : (c.object o).isUnknown = false) {p : Property}
    (hp : (c.object o).property? p.key = some p) (t : Ty) :
    t ∈ (c.set p.ownTypes).types ↔ History.Assigns rs o p.key t := by
  have hmem := List.mem_of_find?_eq_some hp
  refine ⟨fun ht => (collected hgood hresolved _ t ht).own o hknown p hmem rfl, fun h => ?_⟩
  obtain ⟨q, hq, ht⟩ := own_of_assigns hdone hknown h
  rw [hp, Option.some.injEq] at hq
  subst hq
  exact mem_of_has hgood hresolved hknown hmem (.inr rfl) ht

/-- The types of a property are those that were assigned to it, on the object or on one that it
inherits from. -/
theorem mem_types_iff {o : ObjectId} (hknown : (c.object o).isUnknown = false) {p : Property}
    (hp : (c.object o).property? p.key = some p) (t : Ty) :
    t ∈ (c.set p.types).types ↔ ∃ a, c.LooksUp o a ∧ History.Assigns rs a p.key t := by
  have hmem := List.mem_of_find?_eq_some hp
  refine ⟨fun ht => (collected hgood hresolved _ t ht).all o hknown p hmem rfl, ?_⟩
  rintro ⟨a, hup, hassigns⟩
  refine mem_of_has hgood hresolved hknown hmem (.inl rfl) ?_
  have hknown' : (c.object a).isUnknown = false := by
    obtain rfl | hinherits := hup
    · exact hknown
    · by_contra hunknown
      rw [(hresolved.handedDown hinherits).spread (by simpa using hunknown)] at hknown
      cases hknown
  obtain ⟨q, hq, ht⟩ := own_of_assigns hdone hknown' hassigns
  have hall := hresolved.has_of_flows (hresolved.wired a q (List.mem_of_find?_eq_some hq)) ht
  obtain rfl | hinherits := hup
  · rw [hp, Option.some.injEq] at hq
    subst hq
    exact hall
  · obtain ⟨above, habove, htypes, -⟩ := (hresolved.handedDown hinherits).derives hknown p hmem
    rw [hq, Option.some.injEq] at habove
    subst habove
    exact htypes t hall

end Final

/-! ## What is answered -/

/-- A request for a property is answered by a set with the types that have a property. -/
def Looked (host : Host) (c : Compartment) (o : ObjectId) (key : Key) (own : Bool)
    (P : Ty → Prop) : Prop :=
  ∃ s c', (Request.property o key own).run host c = (.ok (.set s), c') ∧
    ∀ t, t ∈ (c'.set s).types ↔ P t

/-- A look changes no prototype. -/
theorem Unmoved.looksUp_iff (h : c.Unmoved c') {o a : ObjectId} :
    c'.LooksUp o a ↔ c.LooksUp o a := by
  have hproto : ∀ o, (c'.object o).proto = (c.object o).proto := by
    intro o
    obtain ⟨ps, hps⟩ := h.object o
    rw [hps]
  exact or_congr Iff.rfl ⟨fun h => h.congr hproto, fun h => h.congr fun o => (hproto o).symm⟩

/-- A property of an object that is not unknown is answered by a set with the types that were
assigned to it. -/
theorem looked_of_known (hat : (carrying (Scope.carries_history rs) host).At c)
    (hgood : (carrying (Scope.carries_history rs) host).Good (fresh options) c)
    (hdone : ∀ r ∈ rs, ¬ r.IsRefusable → r.Done c) {o : ObjectId} (ho : o.In c.extent)
    (hknown : (c.object o).isUnknown = false) (key : Key) :
    c.Looked host o key false (fun t => ∃ a, c.LooksUp o a ∧ History.Assigns rs a key t) ∧
      c.Looked host o key true fun t => History.Assigns rs o key t := by
  have hlooked : ∀ own, ∃ (p : Property) (c' : Compartment), (Request.property o key own).run host c =
      (.ok (.set (if own then p.ownTypes else p.types)), c') ∧
        (∀ t, t ∈ (c'.set p.ownTypes).types ↔ History.Assigns rs o key t) ∧
          ∀ t, t ∈ (c'.set p.types).types ↔ ∃ a, c.LooksUp o a ∧ History.Assigns rs a key t := by
    intro own
    have hresolved := resolved_of_good id hat hgood
    have hlooks : Looks (getProperty (solve host) o key own) c :=
      hresolved.looks_getProperty ho key own
    have hmoves := moves_property_history hat ho key own
    cases hrun : (getProperty (solve host) o key own c).1 with
    | error e => exact (hmoves.error hrun).2.2.elim
    | ok s =>
      have hunmoved := hlooks.ok hrun
      obtain ⟨hgood', hrest, hanswers⟩ := hmoves.ok hrun
      have hat' := hgood'.at hat hrest
      have hlast := hgood.trans (sound_fresh options) hgood'
      have hresolved' := resolved_of_good id hat' hlast
      have hdone' : ∀ r ∈ rs, ¬ r.IsRefusable → r.Done (getProperty (solve host) o key own c).2 :=
        fun r hr hrefusable => (hdone r hr hrefusable).later hat hat' hgood'
      have hknown' : ((getProperty (solve host) o key own c).2.object o).isUnknown = false :=
        (hunmoved.isUnknown o).trans hknown
      obtain ⟨hunknown, -⟩ | ⟨p, hp, rfl⟩ := hanswers
      · rw [hknown'] at hunknown
        cases hunknown
      · have hkey := ObjectInfo.key_of_property? hp
        refine ⟨p, _, run_bind_ok (Prod.ext hrun rfl), fun t => ?_, fun t => ?_⟩
        · rw [mem_ownTypes_iff hlast hresolved' hdone' hknown' (hkey ▸ hp), hkey]
        · rw [mem_types_iff hlast hresolved' hdone' hknown' (hkey ▸ hp), hkey]
          simp only [hunmoved.looksUp_iff]
  obtain ⟨p, c', hrun, -, hall⟩ := hlooked false
  obtain ⟨q, c'', hrun', hown, -⟩ := hlooked true
  exact ⟨⟨p.types, c', hrun, hall⟩, q.ownTypes, c'', hrun', hown⟩

/-- Every request about objects and their properties succeeds or is turned down, and afterwards, in
whatever order they were made, a property is answered by the set of the types that were assigned to
it on the object or on one that the object inherits from, its own ones by those that were assigned
on the object; and if the object or one that it inherits from was forgotten, by the set that stands
for every type. -/
theorem lookup_collects {outcomes : List (Except InferError Answer)}
    (hrun : Request.runAll host rs (fresh options) = (outcomes, c))
    (hvalid : Request.ValidAlong host rs (fresh options))
    (hobjectual : ∀ r ∈ rs, r.isObjectual = true) :
    (∀ o ∈ outcomes, o.isOk = true ∨ ∃ e, o = .error e ∧ e.isRefusal = true) ∧
      ∀ o key, o.In c.extent →
        ((∃ a, c.LooksUp o a ∧ History.Forgets rs a) → ∀ own,
          (Request.property o key own).run host c = (.ok (.set universal), c)) ∧
        ((¬ ∃ a, c.LooksUp o a ∧ History.Forgets rs a) →
          c.Looked host o key false (fun t => ∃ a, c.LooksUp o a ∧ History.Assigns rs a key t) ∧
            c.Looked host o key true fun t => History.Assigns rs o key t) := by
  obtain ⟨houtcomes, hat, hgood, hdone⟩ :=
    Request.runAll_refused (L := carrying (Scope.carries_history rs) host) (fun _ => id) hvalid
      (fun r hr b hr' hb => moves_history hb hr (hobjectual r hr) hr')
      (at_carrying _ host options)
  rw [hrun] at houtcomes hat hgood hdone
  have hunknown := unknown_iff_forgets hgood (resolved_of_good id hat hgood) hdone
  refine ⟨houtcomes, fun o key ho => ⟨fun hforgotten own => ?_, fun hknown => ?_⟩⟩
  · have hanswer : getProperty (solve host) o key own c = (.ok universal, c) :=
      Resolved.getProperty_of_unknown ((hunknown o).mpr hforgotten) key own
    exact run_bind_ok (f := fun s => (pure (.set s) : Action Answer)) hanswer
  · rw [← hunknown, Bool.not_eq_true] at hknown
    exact looked_of_known hat hgood hdone ho hknown key

/-- An assignment below, one above before the two are linked, and a second object that is forgotten;
a circle is asked for and turned down. -/
def assigningRun : List Request :=
  [.typeObject none "above" false none, .typeObject none "below" false none,
    .typeObject none "lost" false none, .observeAssignment ⟨1⟩ (.named "x") (.string "s"),
    .property ⟨2⟩ (.named "x") false, .addPrototype ⟨2⟩ ⟨1⟩,
    .observeAssignment ⟨2⟩ (.named "x") (.int32 0), .addPrototype ⟨1⟩ ⟨2⟩, .markUnknown ⟨3⟩]

theorem lookup_collects_below :
    (Request.runAll .silent assigningRun (fresh {})).2.Looked .silent ⟨2⟩ (.named "x") false
        (fun t => ∃ a, (Request.runAll .silent assigningRun (fresh {})).2.LooksUp ⟨2⟩ a ∧
          History.Assigns assigningRun a (.named "x") t) ∧
      (Request.property ⟨3⟩ (.named "x") false).run .silent
        (Request.runAll .silent assigningRun (fresh {})).2 =
          (.ok (.set universal), (Request.runAll .silent assigningRun (fresh {})).2) := by
  have hrun : Request.runAll .silent assigningRun (fresh {}) =
      ((Request.runAll .silent assigningRun (fresh {})).1,
        (Request.runAll .silent assigningRun (fresh {})).2) :=
    (Prod.eta _).symm
  obtain ⟨-, hall⟩ := lookup_collects hrun (by decide +kernel) (by decide)
  obtain ⟨hbelow, hbelow'⟩ := hall ⟨2⟩ (.named "x") (by decide +kernel)
  obtain ⟨hlost, -⟩ := hall ⟨3⟩ (.named "x") (by decide +kernel)
  refine ⟨(hbelow' fun hforgotten => ?_).1, hlost ⟨⟨3⟩, .refl _, .inl (by decide)⟩ false⟩
  exact absurd (congrArg Prod.fst (hbelow hforgotten false)) (by decide +kernel)

end Compartment

end FlowTypes
