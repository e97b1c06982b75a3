import FlowTypes.Proofs.Arrays
import FlowTypes.Proofs.Builtins
import FlowTypes.Proofs.Demotion
import FlowTypes.Proofs.Purposes

/-!
# What the objects that the engine makes inherit from

What is constructed with an object inherits from it, the prototype object of a function inherits from
`Object.prototype`, and the object of an array initializer is an array.  The engine sees to this when
it makes the object, and a prototype is never taken back.  But it looks the object up by its name
first, and one that the host has given this name to is answered as it is.

So the answer inherits from what it should if the name was free, or if the object that has it
inherits already.  Making `Object.prototype` first does not take the name: nothing else happens on
the way.  Making `Array.prototype` may deliver types, so a handler could take it in between.

## Main results

* `Heir`: what an object for a purpose inherits; `Heir.later`: it goes on to do so.
* `keepsFree_objectPrototype`, `keepsFree_reaching`: builtins that are made leave other names free.
* `moves_heir`: an object that is made for a purpose is an heir.
* `heirs_inherit`: this for every answer, in every compartment that a run leaves behind;
  `heirs_disowned`: an object whose name was given away before is answered as it is.
-/

namespace FlowTypes

open Compartment

variable {safe : Extent → String → Prop} {host : Host} {options : Options} {L : Law}
  {c c' : Compartment} {p : Purpose} {b : Builtin} {n o x : ObjectId} {name : String}
  {r : Request} {rs : List Request}

/-! ## Names that are no names of builtins -/

namespace Purpose

/-- The builtin that the object for a purpose inherits from, unless it is for what is constructed. -/
def ancestor? : Purpose → Option Builtin
  | instances _ => none
  | prototype _ => some .objectPrototype
  | initializer _ true => some .arrayPrototype
  | initializer _ false => some .objectPrototype

theorem colon_mem_name (c : Compartment) (p : Purpose) : ':' ∈ (p.name c).toList := by
  cases p with
  | instances | prototype => simp [name, String.toList_append]
  | initializer code isArray => simp [name, toList_initializerName]

theorem name_ne_builtin (c : Compartment) (p : Purpose) (b : Builtin) : p.name c ≠ b.name := by
  intro heq
  have hnone : ':' ∉ b.name.toList := by cases b <;> decide
  exact hnone (heq ▸ colon_mem_name c p)

end Purpose

/-- What a request is for belongs to the compartment along with the request. -/
theorem Request.in_of_purpose? (hp : r.purpose? c = some p) (hvalid : r.Valid c.extent) :
    p.In c.extent := by
  cases r with
  | newObjectOf | prototypeObjectOf =>
    cases hp
    exact hvalid
  | initializerObject =>
    cases hp
    trivial
  | _ => cases hp

namespace Compartment

/-- The name for an array initializer is none that the engine makes an object for by itself. -/
theorem name_not_mem_namePool (hp : p.ancestor? = some .arrayPrototype) :
    p.name c ∉ c.namePool := by
  have hending : p.ending = 'y' := by
    cases p with
    | initializer _ isArray => cases isArray <;> first | rfl | cases hp
    | _ => cases hp
  have hlast := p.getLast?_name c
  rw [hending] at hlast
  intro hmem
  rw [namePool, List.mem_append, List.mem_append] at hmem
  rcases hmem with (hmem | hmem) | hmem
  · obtain ⟨b, -, hb⟩ := List.mem_map.mp hmem
    exact p.name_ne_builtin c b hb.symm
  · obtain ⟨o, -, ho⟩ := List.mem_map.mp hmem
    rw [← ho] at hlast
    simp [String.toList_append] at hlast
  · obtain ⟨o, -, ho⟩ := List.mem_map.mp hmem
    rw [← ho] at hlast
    simp [String.toList_append] at hlast

/-! ## Heirs -/

/-- The object inherits from what an object for this purpose is to inherit from. -/
def Heir (c : Compartment) : Purpose → ObjectId → Prop
  | .instances o, n => (c.object n).proto = some o
  | .prototype _, n => ∃ q, c.builtin? .objectPrototype = some q ∧ c.Inherits n q
  | .initializer _ true, n => c.isArray n = true
  | .initializer _ false, n => ∃ q, c.builtin? .objectPrototype = some q ∧ c.Inherits n q

theorem heir_iff (hc : c.Sound) (hb : p.ancestor? = some b) :
    c.Heir p n ↔ ∃ q, c.builtin? b = some q ∧ c.Inherits n q := by
  cases p with
  | instances => cases hb
  | prototype =>
    cases hb
    exact Iff.rfl
  | initializer code isArray =>
    cases isArray with
    | false =>
      cases hb
      exact Iff.rfl
    | true =>
      cases hb
      exact isArray_iff hc

/-- Prototypes are not taken back, and neither are builtins. -/
theorem Heir.later (hc : c.Sound) (hc' : c'.Sound) (hgrows : c.Grows c') (h : c.Heir p n) :
    c'.Heir p n := by
  cases hb : p.ancestor? with
  | none =>
    cases p with
    | instances o => exact (hgrows.object n).proto o h
    | prototype => cases hb
    | initializer _ isArray => cases isArray <;> cases hb
  | some b =>
    obtain ⟨q, hq, hinherits⟩ := (heir_iff hc hb).mp h
    exact (heir_iff hc' hb).mpr ⟨q, hgrows.builtin? hq, hinherits.mono hgrows⟩

/-- If the object that has the name is an heir, then so is the answer. -/
theorem Fills.heir (hc : c.Sound) (hc' : c'.Sound) (hgrows : c.Grows c') (hp : p.In c.extent)
    (hx : c.objectNamed? (p.name c) = some x) (hheir : c.Heir p x) (h : c'.Fills p n) :
    c'.Heir p n := by
  obtain ⟨hin, hname⟩ := objectNamed?_some hx
  have hfills : c'.Fills p x := Fills.later hgrows ⟨hin, hp, hname⟩
  obtain rfl : n = x := (h.eq_iff hc' hfills).mpr rfl
  exact hheir.later hc hc' hgrows

/-! ## Names stay free -/

theorem objectNamed?_eq_none_iff :
    c.objectNamed? name = none ↔ ∀ o : ObjectId, o.In c.extent → c.objectName o ≠ name := by
  constructor
  · exact fun hfree o ho => objectNamed?_none hfree ho
  · intro hall
    cases hfound : c.objectNamed? name with
    | none => rfl
    | some o =>
      obtain ⟨hin, hname⟩ := objectNamed?_some hfound
      exact absurd hname (hall o hin)

theorem objectNamed?_pushObject {other : String} (hne : other ≠ name)
    (hfree : c.objectNamed? name = none) : (c.pushObject other none).objectNamed? name = none := by
  rw [objectNamed?_eq_none_iff] at hfree ⊢
  intro o ho
  rw [objectName, object_pushObject]
  split
  · exact hne
  · rename_i hold
    apply hfree o
    have hlt : o.index < (c.objects.push { name := other, function := none }).size := ho
    have hlast : o.index ≠ c.objects.size := fun heq => hold (congrArg ObjectId.mk heq)
    rw [Array.size_push] at hlt
    show o.index < c.objects.size
    omega

theorem Barren.objectNamed?_none (h : c.Barren c') (hfree : c.objectNamed? name = none) :
    c'.objectNamed? name = none := by
  rw [objectNamed?_eq_none_iff] at hfree ⊢
  intro o ho
  have hin : o.In c.extent := by
    show o.index < c.objects.size
    rw [← h.objects]
    exact ho
  rw [objectName, h.name]
  exact hfree o hin

theorem barren_rememberBuiltin (hid : o.In c.extent) : c.Barren (c.rememberBuiltin b o) := by
  have hfirst : c.Barren { c with builtins := c.builtins ++ [(b, o)] } :=
    .of_tables (.of_tables rfl rfl rfl rfl) rfl rfl
  have hmark : Barren { c with builtins := c.builtins ++ [(b, o)] } (c.rememberBuiltin b o) :=
    barren_changeObject (c := { c with builtins := c.builtins ++ [(b, o)] }) hid rfl rfl
      (by simp [ObjectInfo.isFunction])
  exact hfirst.trans hmark

/-- While `Object.prototype` is made, nothing else is. -/
theorem keepsFree_objectPrototype (pass : Action Unit) (hname : name ≠ Builtin.objectPrototype.name)
    (hfree : c.objectNamed? name = none) :
    Outcome (builtin pass .objectPrototype) c (fun _ c' => c'.objectNamed? name = none)
      fun _ _ => True := by
  show Outcome (setUpBuiltin pass .objectPrototype none) c _ _
  refine outcome_get.mpr ?_
  cases c.builtin? .objectPrototype with
  | some id => exact outcome_pure.mpr hfree
  | none =>
    refine outcome_bind.mpr ?_
    rcases typeObject_cases pass c none Builtin.objectPrototype.name false none with
      ⟨e, -, hrun⟩ | ⟨id, hnamed, hrun⟩ | hfresh
    · exact outcome_of_error hrun trivial
    · exact outcome_of_ok hrun (outcome_of_ok rfl
        ((barren_rememberBuiltin hnamed.1).objectNamed?_none hfree))
    · have hrun : typeObject pass none Builtin.objectPrototype.name false none c =
          (.ok ⟨c.objects.size⟩, c.pushObject Builtin.objectPrototype.name none) := by
        unfold typeObject
        rw [run_get]
        simp only [hfresh]
        rfl
      have hlast : (⟨c.objects.size⟩ : ObjectId).In
          (c.pushObject Builtin.objectPrototype.name none).extent := by
        show c.objects.size < (c.objects.push _).size
        simp
      exact outcome_of_ok hrun (outcome_of_ok rfl
        ((barren_rememberBuiltin hlast).objectNamed?_none (objectNamed?_pushObject hname.symm hfree)))

/-- If no function has a handler, a builtin that is no function takes only names that the engine makes
objects for. -/
theorem keepsFree_reaching (hat : (ending host).At c)
    (hb : ∀ d ∈ b :: b.lineage, d.isFunction = false) (hname : name ∉ c.namePool)
    (hfree : c.objectNamed? name = none) :
    Outcome (builtin (solve host) b) c (fun _ c' => c'.objectNamed? name = none)
      fun _ _ => True := by
  have hmoves := moves_builtin (lawful_reaching host) ⟨fun he => he, roomy_reaching host⟩
    (at_reaching hat) (.inr hb) fun d _ => .given trivial
  refine Outcome.imp hmoves ?_ fun _ _ _ => trivial
  rintro _ c' ⟨hgood, -⟩
  have hpeopled := hgood.did.peopled (fun hnever => hnever) hat.sound (.refl c) (Peopled.refl c)
  rw [objectNamed?_eq_none_iff] at hfree ⊢
  intro o ho heq
  by_cases hold : o.In c.extent
  · apply hfree o hold
    rw [← heq]
    exact ((hgood.grows hat.sound).name o hold).symm
  · exact hname (heq ▸ (hpeopled o ho hold).1)

/-! ## Answers -/

section Lawful

variable (hL : L.Lawful) (hrefuses : L.Refuses) (h : L.At c) (hchoice : L.scope.choice)
  (hmakes : L.scope.grant.Makes)
include hL hrefuses h hchoice hmakes

/-- The object that others inherit from is found or made, and a name that is free stays so. -/
theorem moves_ancestor (hb : b.category = .prototype)
    (hkeeps : Outcome (builtin L.pass b) c (fun _ c' => c'.objectNamed? name = none)
      fun _ _ => True) :
    L.Moves (builtin L.pass b) c fun q c' =>
      c'.builtin? b = some q ∧ c'.objectNamed? name = none := by
  have hmoves := moves_builtin hL hrefuses h (b := b) (.inl hchoice)
    fun d hd => .of_makes (.inl hmakes) (prototype_of_mem_lineage hb hd)
  refine .imp h (hmoves.and hkeeps) ?_
  exact fun q c' _ _ hmade => ⟨hmade.1.found, hmade.2⟩

/-- A prototype object whose name is free inherits from `Object.prototype`. -/
theorem moves_heir_prototype (ho : o.In c.extent)
    (hfree : c.objectNamed? (c.objectName o ++ ":prototype") = none) :
    L.Moves (prototypeObjectOf L.pass o) c fun n c' => c'.Heir (.prototype o) n := by
  refine .bind hL.within h (moves_functionInfo hrefuses h o) ?_
  rintro f c - - ⟨rfl, hf⟩
  cases hproto : f.prototypeObject with
  | some n =>
    -- An object that is remembered has the name.
    have hin := ((h.sound.valid.objects o).function f hf).prototypeObject n hproto
    exact absurd (h.sound.names.prototypeObject o f n hf hproto) (objectNamed?_none hfree hin)
  | none =>
    have hother : c.objectName o ++ ":prototype" ≠ Builtin.objectPrototype.name :=
      Purpose.name_ne_builtin c (.prototype o) .objectPrototype
    refine .bind hL.within h (moves_ancestor hL hrefuses h hchoice hmakes rfl
      (keepsFree_objectPrototype L.pass hother hfree)) ?_
    rintro q c₁ h₁ hgood₁ ⟨hq, hfree₁⟩
    have hgrows₁ := hgood₁.grows h.sound
    obtain ⟨f₁, hf₁, -⟩ := (hgrows₁.object o).function f hf
    have hname : c₁.objectName o = c.objectName o := hgrows₁.name o ho
    refine .get (.imp h₁ (moves_makePrototypeObject hL hrefuses h₁ (.inl hmakes)
      (ho.mono hgrows₁.extent) hf₁ (in_of_builtin? h₁.sound.valid hq)) ?_)
    rintro n c₂ - hgood₂ ⟨-, hset⟩
    rw [hname] at hset
    exact ⟨q, (hgood₂.grows h₁.sound).builtin? hq, .proto (hset hfree₁)⟩

/-- The object of an initializer whose name is free inherits from the builtin for it, if the name
stays free while that is made. -/
theorem moves_heir_initializer (hnamed : c.InitializersNamed) (code : Location) (isArray : Bool)
    (hfree : c.objectNamed? (initializerName code isArray) = none)
    (hkeeps : Outcome (builtin L.pass (if isArray then .arrayPrototype else .objectPrototype)) c
      (fun _ c' => c'.objectNamed? (initializerName code isArray) = none) fun _ _ => True) :
    L.Moves (initializerObject L.pass code isArray) c fun n c' =>
      c'.Heir (.initializer code isArray) n := by
  refine .get ?_
  cases hfound : c.initializer? code isArray with
  | some n =>
    have hi := mem_initializers hfound
    exact absurd (hnamed _ hi) (objectNamed?_none hfree (h.sound.valid.initializers _ hi))
  | none =>
    have hcategory : (if isArray then Builtin.arrayPrototype else .objectPrototype).category =
        .prototype := by cases isArray <;> rfl
    refine .bind hL.within h (moves_ancestor hL hrefuses h hchoice hmakes hcategory hkeeps) ?_
    rintro q c₁ h₁ - ⟨hq, hfree₁⟩
    refine .imp h₁ (moves_makeInitializer hL hrefuses h₁ hchoice hmakes code isArray
      (in_of_builtin? h₁.sound.valid hq)) ?_
    rintro n c₂ h₂ hgood₂ ⟨-, -, hset⟩
    have hq₂ := (hgood₂.grows h₁.sound).builtin? hq
    have hancestor : (Purpose.initializer code isArray).ancestor? =
        some (if isArray then .arrayPrototype else .objectPrototype) := by cases isArray <;> rfl
    exact (heir_iff h₂.sound hancestor).mpr ⟨q, hq₂, .proto (hset hfree₁)⟩

/-- What the engine makes for a purpose is an heir, if no object has the name for it, and none gets
it while the builtin is made that the object inherits from. -/
theorem moves_heir (hnamed : c.InitializersNamed) (hvalid : r.Valid c.extent)
    (hp : r.purpose? c = some p) (hfree : c.objectNamed? (p.name c) = none)
    (hkeeps : p.ancestor? = some .arrayPrototype →
      Outcome (builtin L.pass .arrayPrototype) c (fun _ c' => c'.objectNamed? (p.name c) = none)
        fun _ _ => True) :
    L.Moves (r.perform L.pass) c fun y c' => ∀ n, y = .object n → c'.Heir p n := by
  have hanswer : ∀ {a : Action ObjectId}, L.Moves a c (fun n c' => c'.Heir p n) →
      L.Moves (do return Answer.object (← a)) c fun y c' => ∀ n, y = .object n → c'.Heir p n := by
    intro a ha
    refine .bind hL.within h ha fun n c' h' _ hheir => .pure h' ?_
    rintro _ ⟨⟩
    exact hheir
  cases r with
  | newObjectOf o =>
    cases hp
    refine hanswer (.imp h (moves_newObjectOf hL hrefuses h (.inl hmakes) hvalid (.inl hchoice)) ?_)
    exact fun n c' _ _ hmade => hmade.2.2 hfree
  | prototypeObjectOf f =>
    cases hp
    exact hanswer (moves_heir_prototype hL hrefuses h hchoice hmakes hvalid hfree)
  | initializerObject site isArray =>
    cases hp
    refine .get (hanswer (moves_heir_initializer hL hrefuses h hchoice hmakes hnamed _ _ hfree ?_))
    cases isArray with
    | true => exact hkeeps rfl
    | false =>
      exact keepsFree_objectPrototype L.pass
        (Purpose.name_ne_builtin c (.initializer (c.site site).code false) _) hfree
  | _ => cases hp

end Lawful

/-- The answer for a purpose is an heir, whether it was found or made. -/
theorem heir_of_answer (hhost : host.Proper safe) (hat : (handled host safe).At c)
    (hnamed : c.InitializersNamed) (hvalid : r.Valid c.extent) (hp : r.purpose? c = some p)
    (hname : ∀ x, c.objectNamed? (p.name c) = some x → c.Heir p x)
    (hkeeps : p.ancestor? = some .arrayPrototype → c.objectNamed? (p.name c) = none →
      Outcome (builtin (solve host) .arrayPrototype) c
        (fun _ c' => c'.objectNamed? (p.name c) = none) fun _ _ => True)
    (hanswer : r.run host c = (.ok (.object n), c')) : c'.Heir p n := by
  have hL := lawful_handled hhost
  have hrefuses : (handled host safe).Refuses := Law.Free.refuses fun _ _ => trivial
  have hmakes : (handled host safe).scope.grant.Makes := ⟨fun _ _ => trivial, fun _ _ => trivial⟩
  have hmoves : (handled host safe).Moves (r.run host) c
      fun y c' => ∀ n, y = .object n → c'.Heir p n := by
    cases hx : c.objectNamed? (p.name c) with
    | some x =>
      refine .imp hat (moves_fills hL hrefuses hat trivial hmakes hnamed hvalid hp) ?_
      intro y b hb hgood hfills n hn
      exact (hfills n hn).heir hat.sound hb.sound (hgood.grows hat.sound)
        (Request.in_of_purpose? hp hvalid) hx (hname x hx)
    | none =>
      exact moves_heir hL hrefuses hat trivial hmakes hnamed hvalid hp hx
        fun hancestor => hkeeps hancestor hx
  exact (hmoves.of_run hanswer).2.2 n rfl

/-! ## Runs -/

/-- In every compartment that a run leaves behind, whatever failed in it and whatever names the host
has given away: if the name for a purpose is free, or the object that has it is an heir, then the
answer for the purpose is an heir, and stays one.  For an array initializer, `Array.prototype` has
been made before, or no function has been given a handler. -/
theorem heirs_inherit (hrun : Request.Reaches safe host rs (fresh options) c)
    (hp : r.purpose? c = some p) (hvalid : r.Valid c.extent)
    (hname : ∀ x, c.objectNamed? (p.name c) = some x → c.Heir p x)
    (harray : p.ancestor? = some .arrayPrototype → c.builtin? .arrayPrototype ≠ none ∨
      ∀ r' ∈ rs, r'.isNative = false)
    (hanswer : r.run host c = (.ok (.object n), c')) :
    ∀ rs' d, Request.Reaches safe host rs' c' d → d.Heir p n := by
  have hat := hrun.resting rfl
  have hnamed := hrun.initializersNamed
  have hheir : c'.Heir p n := by
    apply heir_of_answer hrun.handlers hat hnamed hvalid hp hname _ hanswer
    intro hancestor hfree
    rcases harray hancestor with hthere | hnative
    · obtain ⟨q, hq⟩ := Option.ne_none_iff_exists'.mp hthere
      exact outcome_of_ok (builtin_of_found hq) hfree
    · have hending := at_ending hrun.run (hrun.along.imp fun _ _ h => h.1) hnative
      exact keepsFree_reaching hending (by decide) (name_not_mem_namePool hancestor) hfree
  have hsafe : r.Safe safe c := by
    cases r with
    | setNativeHandler => cases hp
    | _ => trivial
  obtain ⟨hat', -⟩ := Request.at_outcome hrun.handlers hat hvalid hsafe hanswer
  intro rs' d hlater
  obtain ⟨hatd, hdidd⟩ := hlater.moves hat'
  exact hheir.later hat'.sound hatd.sound (hdidd.grows hat'.sound)

/-- The host names an object like the one for an array initializer, with `Array.prototype` as its
prototype. -/
def rightfulRun : List Request :=
  [.builtin .arrayPrototype, .typeObject none "#7:00012:Array" false (some ⟨1⟩),
    .newCallSite { code := ⟨⟨7⟩, 12⟩ }]

/-- This object is the answer for the initializer, and an array; it is so after the engine has made an
object for what is constructed with it. -/
theorem heirs_inherit_array :
    let c := (Request.runAll .silent rightfulRun (fresh {})).2
    let c' := ((Request.initializerObject ⟨0⟩ true).run .silent c).2
    let d := (Request.runAll .silent [.newObjectOf ⟨3⟩] c').2
    ((Request.initializerObject ⟨0⟩ true).run .silent c).1 = .ok (.object ⟨3⟩) ∧
      d.isArray ⟨3⟩ = true := by
  intro c c' d
  have hrun : Request.Reaches (fun _ _ => True) .silent rightfulRun (fresh {}) c :=
    Request.reaches_silent (by decide +kernel) (by decide +kernel)
  have hlater : Request.Reaches (fun _ _ => True) .silent _ c' d :=
    Request.reaches_silent (by decide +kernel) (by decide +kernel)
  have hp : (Request.initializerObject ⟨0⟩ true).purpose? c =
      some (.initializer ⟨⟨7⟩, 12⟩ true) := by decide +kernel
  have hfirst : ((Request.initializerObject ⟨0⟩ true).run .silent c).1 = .ok (.object ⟨3⟩) := by
    decide +kernel
  refine ⟨hfirst, heirs_inherit hrun hp (by decide +kernel) ?_ ?_ (Prod.ext hfirst rfl) _ d hlater⟩
  · intro x hx
    have hthere : c.objectNamed? (Purpose.name c (.initializer ⟨⟨7⟩, 12⟩ true)) = some ⟨3⟩ := by
      decide +kernel
    obtain rfl : x = ⟨3⟩ := Option.some.inj (hx.symm.trans hthere)
    have harray : c.isArray ⟨3⟩ = true := by decide +kernel
    exact harray
  · intro _
    exact .inl (by decide +kernel)

/-- The host has a function, and gives the names of its prototype object, of what is constructed with
it and of an array initializer to objects that inherit from nothing. -/
def disownedRun : List Request :=
  [.typeObject none "X" true none, .typeObject none "X:new" false none,
    .typeObject none "X:prototype" false none, .typeObject none "#7:00012:Array" false none,
    .newCallSite { code := ⟨⟨7⟩, 12⟩ }]

/-- These objects are the answers, and none of them is an heir. -/
theorem heirs_disowned :
    let c := (Request.runAll .silent disownedRun (fresh {})).2
    let new := (Request.newObjectOf ⟨1⟩).run .silent c
    let proto := (Request.prototypeObjectOf ⟨1⟩).run .silent c
    let array := (Request.initializerObject ⟨0⟩ true).run .silent c
    Request.Reaches (fun _ _ => True) .silent disownedRun (fresh {}) c ∧
      (new.1 = .ok (.object ⟨2⟩) ∧ ¬ new.2.Heir (.instances ⟨1⟩) ⟨2⟩) ∧
      (proto.1 = .ok (.object ⟨3⟩) ∧ ¬ proto.2.Heir (.prototype ⟨1⟩) ⟨3⟩) ∧
      (array.1 = .ok (.object ⟨4⟩) ∧ ¬ array.2.Heir (.initializer ⟨⟨7⟩, 12⟩ true) ⟨4⟩) := by
  intro c new proto array
  have hrun : Request.Reaches (fun _ _ => True) .silent disownedRun (fresh {}) c :=
    Request.reaches_silent (by decide +kernel) (by decide +kernel)
  have hnew : (new.2.object ⟨2⟩).proto ≠ some ⟨1⟩ := by decide +kernel
  have hproto : (proto.2.object ⟨3⟩).proto = none := by decide +kernel
  have harray : ¬ array.2.isArray ⟨4⟩ = true := by decide +kernel
  refine ⟨hrun, ⟨by decide +kernel, hnew⟩, ⟨by decide +kernel, ?_⟩, ⟨by decide +kernel, harray⟩⟩
  rintro ⟨q, -, hinherits⟩
  obtain ⟨d, hd, -⟩ := hinherits.head
  rw [hproto] at hd
  cases hd

end Compartment

end FlowTypes
