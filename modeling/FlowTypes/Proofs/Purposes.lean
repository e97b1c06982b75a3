import FlowTypes.Proofs.Runs

/-!
# What the engine makes objects for

The engine makes an object for what is constructed with an object as its prototype, for the
`prototype` property of a function, and for each initializer in the code.  It finds such an object
by a name that it makes up, in the same table that the host names its own objects in.

The names that it makes up are apart.  They end differently for every sort of purpose.  What is in
front of the ending is the name of the object or function that the object is made for, which is
the name of no other one, or the place of the initializer, which can be read back: a script number
has no colon in it, and the zeros in front of an offset do not change its value.  A name that was
taken already is no exception, since then the object that has it serves the purpose, and no other.

## Main results

* `Purpose`, `Purpose.name`; `Purpose.eq_of_name`: purposes with the same name are the same.
* `Fills.eq_iff`: two objects that serve purposes are the same exactly if the purposes are.
* `moves_fills`: what the engine answers for a purpose serves it, for a host and in a pass.
* `purposes_apart`: this for all answers of a run, and for all that is remembered after it.
-/

namespace FlowTypes

open Compartment

/-! ## The names of initializers -/

/-- Digits end at a colon. -/
theorem Text.append_colon_inj {as bs xs ys : List Char} (ha : ∀ c ∈ as, c.isDigit = true)
    (hb : ∀ c ∈ bs, c.isDigit = true) (h : as ++ ':' :: xs = bs ++ ':' :: ys) :
    as = bs ∧ xs = ys := by
  have hdigits := congrArg (List.takeWhile Char.isDigit) h
  rw [List.takeWhile_append_of_pos ha, List.takeWhile_append_of_pos hb] at hdigits
  have heq : as = bs := by simpa using hdigits
  subst heq
  exact ⟨rfl, (List.cons.inj (List.append_cancel_left h)).2⟩

/-- The characters of the name of an initializer's object. -/
theorem toList_initializerName (code : Location) (isArray : Bool) :
    (initializerName code isArray).toList = '#' :: (Text.decimal code.script.number ++
      ':' :: (Text.decimalPadded 5 code.offset ++
        ':' :: if isArray then ['A', 'r', 'r', 'a', 'y'] else ['O', 'b', 'j', 'e', 'c', 't'])) := by
  cases isArray <;>
    simp [initializerName, scopedName, ScriptId.text, Location.offsetText, String.toList_append]

/-- The place of an initializer, and its sort, can be read off the name of its object. -/
theorem initializerName_inj {code code' : Location} {isArray isArray' : Bool}
    (h : initializerName code isArray = initializerName code' isArray') :
    code = code' ∧ isArray = isArray' := by
  have hlist := congrArg String.toList h
  rw [toList_initializerName, toList_initializerName] at hlist
  obtain ⟨hscript, hrest⟩ := Text.append_colon_inj (fun _ => Text.isDigit_of_mem_decimal)
    (fun _ => Text.isDigit_of_mem_decimal) (List.cons.inj hlist).2
  obtain ⟨hoffset, hsort⟩ := Text.append_colon_inj (fun _ => Text.isDigit_of_mem_decimalPadded)
    (fun _ => Text.isDigit_of_mem_decimalPadded) hrest
  obtain ⟨⟨number⟩, offset⟩ := code
  obtain ⟨⟨number'⟩, offset'⟩ := code'
  obtain rfl : number = number' := Text.decimal_inj hscript
  obtain rfl : offset = offset' := Text.decimalPadded_inj hoffset
  refine ⟨rfl, ?_⟩
  cases isArray <;> cases isArray' <;> first | rfl | simp at hsort

/-! ## Purposes -/

/-- What the engine makes an object for. -/
inductive Purpose
  /-- What is constructed with this object as its prototype. -/
  | instances (object : ObjectId)
  /-- The `prototype` property of this function. -/
  | prototype (function : ObjectId)
  /-- The initializer at a place in the code, of an array or of an object. -/
  | initializer (code : Location) (isArray : Bool)
  deriving DecidableEq, Repr

namespace Purpose

/-- The name that the engine looks the object up by. -/
def name (c : Compartment) : Purpose → String
  | instances o => c.objectName o ++ ":new"
  | prototype f => c.objectName f ++ ":prototype"
  | initializer code isArray => initializerName code isArray

/-- The object that the purpose speaks of belongs to a compartment with tables of these sizes. -/
def In (e : Extent) : Purpose → Prop
  | instances o | prototype o => o.In e
  | initializer .. => True

variable {c c' : Compartment} {p q : Purpose}

theorem In.mono {e e' : Extent} (he : e.Within e') (hp : p.In e) : p.In e' := by
  cases p with
  | instances | prototype => exact ObjectId.In.mono he hp
  | initializer => trivial

/-- Objects keep their names, and so do purposes. -/
theorem name_of_grows (hgrows : c.Grows c') (hp : p.In c.extent) : p.name c' = p.name c := by
  cases p with
  | instances o => exact congrArg (· ++ ":new") (hgrows.name o hp)
  | prototype f => exact congrArg (· ++ ":prototype") (hgrows.name f hp)
  | initializer => rfl

/-- The sort of a purpose shows in the last character of its name. -/
def ending : Purpose → Char
  | instances _ => 'w'
  | prototype _ => 'e'
  | initializer _ true => 'y'
  | initializer _ false => 't'

theorem getLast?_name (c : Compartment) (p : Purpose) :
    (p.name c).toList.getLast? = some p.ending := by
  cases p with
  | instances | prototype => simp [name, ending, String.toList_append]
  | initializer code isArray =>
    rw [name, toList_initializerName]
    cases isArray <;> simp [ending, List.getLast?_cons, List.getLast?_append]

/-- Purposes whose objects are looked up by the same name are the same. -/
theorem eq_of_name (hc : c.Sound) (hp : p.In c.extent) (hq : q.In c.extent)
    (h : p.name c = q.name c) : p = q := by
  have hending : p.ending = q.ending := by
    have hlast := congrArg (fun name : String => name.toList.getLast?) h
    rwa [getLast?_name, getLast?_name, Option.some.injEq] at hlast
  have hcut : ∀ {s t u : String}, s ++ u = t ++ u → s = t := by
    intro s t u hst
    have hlist := congrArg String.toList hst
    rw [String.toList_append, String.toList_append] at hlist
    exact String.toList_inj.mp (List.append_cancel_right hlist)
  cases p with
  | instances o =>
    cases q with
    | instances o' => rw [hc.names.unique o o' hp hq (hcut h)]
    | prototype => cases hending
    | initializer _ isArray => cases isArray <;> cases hending
  | prototype f =>
    cases q with
    | instances => cases hending
    | prototype f' => rw [hc.names.unique f f' hp hq (hcut h)]
    | initializer _ isArray => cases isArray <;> cases hending
  | initializer code isArray =>
    cases q with
    | instances | prototype => cases isArray <;> cases hending
    | initializer code' isArray' =>
      obtain ⟨rfl, rfl⟩ := initializerName_inj h
      rfl

end Purpose

/-- What a request asks for an object for, where call sites say where the code is. -/
def Request.purpose? (c : Compartment) : Request → Option Purpose
  | newObjectOf o => some (.instances o)
  | prototypeObjectOf f => some (.prototype f)
  | initializerObject site isArray => some (.initializer (c.site site).code isArray)
  | _ => none

namespace Compartment

variable {L : Law} {sc : Scope} {c c' : Compartment} {p q : Purpose} {n m : ObjectId}

/-! ## Objects that serve a purpose -/

/-- The object is the one that is looked up for a purpose. -/
structure Fills (c : Compartment) (p : Purpose) (n : ObjectId) : Prop where
  within : n.In c.extent
  purpose : p.In c.extent
  name : c.objectName n = p.name c

theorem Fills.later (hgrows : c.Grows c') (h : c.Fills p n) : c'.Fills p n where
  within := h.within.mono hgrows.extent
  purpose := h.purpose.mono hgrows.extent
  name := (hgrows.name n h.within).trans (h.name.trans (p.name_of_grows hgrows h.purpose).symm)

/-- An object serves one purpose at most, and for a purpose there is one object at most. -/
theorem Fills.eq_iff (hc : c.Sound) (hp : c.Fills p n) (hq : c.Fills q m) : n = m ↔ p = q := by
  constructor
  · rintro rfl
    exact Purpose.eq_of_name hc hp.purpose hq.purpose (hp.name.symm.trans hq.name)
  · rintro rfl
    exact hc.names.unique n m hp.within hq.within (hp.name.trans hq.name.symm)

/-- The object is remembered for a purpose. -/
def Remembers (c : Compartment) : Purpose → ObjectId → Prop
  | .instances o, n => (c.object o).newObject = some n
  | .prototype f, n => ∃ info, (c.object f).function = some info ∧ info.prototypeObject = some n
  | .initializer code isArray, n => c.initializer? code isArray = some n

/-- Whatever is remembered for a purpose serves it. -/
theorem Remembers.fills (hc : c.Sound) (hnamed : c.InitializersNamed) (h : c.Remembers p n) :
    c.Fills p n := by
  cases p with
  | instances o =>
    exact ⟨(hc.valid.objects o).newObject n h, in_of_newObject h, hc.names.newObject o n h⟩
  | prototype f =>
    obtain ⟨info, hinfo, hn⟩ := h
    exact ⟨((hc.valid.objects f).function info hinfo).prototypeObject n hn, in_of_function hinfo,
      hc.names.prototypeObject f info n hinfo hn⟩
  | initializer code isArray =>
    have hi := mem_initializers h
    exact ⟨hc.valid.initializers _ hi, trivial, hnamed _ hi⟩

/-! ## Initializers keep their names -/

theorem initializers_register (source : SetId) (k : Constraint) (callExisting : Bool) :
    (c.register source k callExisting).initializers = c.initializers := by
  unfold Compartment.register
  split <;> rfl

theorem initializers_notifyKind (id : ObjectId) :
    (c.notifyKind id).initializers = c.initializers :=
  notifyKind_induction (P := fun c' => c'.initializers = c.initializers) (fun _ _ _ _ _ h => h) id
    rfl

/-- An object is remembered for an initializer only if it has the name for it. -/
theorem Change.initializers (h : c.Change sc c') : ∀ i ∈ c'.initializers, i ∈ c.initializers ∨
    i.2.In c.extent ∧ c.objectName i.2 = initializerName i.1.1 i.1.2 := by
  have hsame : c'.initializers = c.initializers → ∀ i ∈ c'.initializers, i ∈ c.initializers ∨
      i.2.In c.extent ∧ c.objectName i.2 = initializerName i.1.1 i.1.2 := by
    intro heq i hi
    rw [heq] at hi
    exact .inl hi
  cases h with
  | aside h => exact h.initializers
  | traffic h =>
    cases h with
    | register | wire | edge => exact hsame (initializers_register _ _ _)
    | insert | pop | deliver | abandon => exact hsame rfl
  | demote => exact hsame (initializers_notifyKind _)
  | pushSet | pushObject | pushProperty | setProto | memo | retool | possiblyPacked | builtin | spend
  | handOut | pushSite | changeSite => exact hsame rfl

theorem InitializersNamed.later (hc : c.Valid) (hgrows : c.Grows c') (h : c.InitializersNamed)
    (hnew : ∀ i ∈ c'.initializers, i ∈ c.initializers ∨
      i.2.In c.extent ∧ c.objectName i.2 = initializerName i.1.1 i.1.2) : c'.InitializersNamed := by
  intro i hi
  obtain hold | ⟨hin, hname⟩ := hnew i hi
  · exact (hgrows.name i.2 (hc.initializers i hold)).trans (h i hold)
  · exact (hgrows.name i.2 hin).trans hname

theorem initializersNamed_fresh (options : Options) : (fresh options).InitializersNamed :=
  fun _ hi => absurd hi List.not_mem_nil

theorem Did.initializersNamed (hc : c.Sound) (h : Did sc c c') (hnamed : c.InitializersNamed) :
    c'.InitializersNamed := by
  refine h.change_induction hc ?_ ?_ hnamed
  · exact fun a b ha hchange h => h.later ha.valid (hchange.grows ha.valid) hchange.initializers
  · exact fun a id ha hid h => h.later ha.valid (grows_classify hid) fun i => .inl

/-! ## Answers -/

/-- What the engine answers for a purpose serves it, whether it was found or made. -/
theorem moves_fills (hL : L.Lawful) (hrefuses : L.Refuses) (h : L.At c) (hchoice : L.scope.choice)
    (hmakes : L.scope.grant.Makes) (hnamed : c.InitializersNamed) {r : Request}
    (hvalid : r.Valid c.extent) (hp : r.purpose? c = some p) :
    L.Moves (r.perform L.pass) c fun x c' => ∀ n, x = .object n → c'.Fills p n := by
  cases r with
  | newObjectOf o =>
    cases hp
    refine .bind hL.within h
      (moves_newObjectOf hL hrefuses h (.inl hmakes) hvalid (.inl hchoice)) ?_
    rintro n c₁ h₁ hgood₁ ⟨hin, hkept, -⟩
    refine .pure h₁ ?_
    rintro _ ⟨⟩
    exact ⟨hin, ObjectId.In.mono (hgood₁.grows h.sound).extent hvalid,
      h₁.sound.names.newObject o n hkept⟩
  | prototypeObjectOf f =>
    cases hp
    refine .bind hL.within h (moves_prototypeObjectOf hL hrefuses h (.inl hmakes) hvalid) ?_
    rintro n c₁ h₁ hgood₁ ⟨info, hinfo, hkept⟩
    refine .pure h₁ ?_
    rintro _ ⟨⟩
    exact ⟨((h₁.sound.valid.objects f).function info hinfo).prototypeObject n hkept,
      ObjectId.In.mono (hgood₁.grows h.sound).extent hvalid,
      h₁.sound.names.prototypeObject f info n hinfo hkept⟩
  | initializerObject site isArray =>
    cases hp
    refine .get (.bind hL.within h
      (moves_initializerObject hL hrefuses h hchoice hmakes (c.site site).code isArray) ?_)
    rintro n c₁ h₁ - ⟨hin, hname⟩
    refine .pure h₁ ?_
    rintro _ ⟨⟩
    exact ⟨hin, trivial, hname hnamed⟩
  | _ => cases hp

end Compartment

/-! ## Runs -/

/-- The first part of a run, and the rest of it. -/
theorem Request.Reaches.split {safe : Extent → String → Prop} {host : Host}
    {before after : List Request} {b c : Compartment}
    (h : Reaches safe host (before ++ after) b c) :
    Reaches safe host before b (runAll host before b).2 ∧
      Reaches safe host after (runAll host before b).2 c := by
  obtain ⟨halong, halong'⟩ := along_append.mp h.along
  refine ⟨⟨h.handlers, rfl, halong⟩, h.handlers, ?_, halong'⟩
  rw [← h.run, runAll_append]

theorem Request.Reaches.initializersNamed {safe : Extent → String → Prop} {host : Host}
    {options : Options} {rs : List Request} {c : Compartment}
    (h : Reaches safe host rs (fresh options) c) : c.InitializersNamed :=
  (h.did rfl).initializersNamed (sound_fresh options) (initializersNamed_fresh options)

/-- A request of a run asked for an object for a purpose, and this one was the answer. -/
def Request.Provides (host : Host) (rs : List Request) (b : Compartment) (p : Purpose)
    (n : ObjectId) : Prop :=
  ∃ before r after, rs = before ++ r :: after ∧ r.purpose? (runAll host before b).2 = some p ∧
    (r.run host (runAll host before b).2).1 = .ok (.object n)

namespace Compartment

variable {safe : Extent → String → Prop} {host : Host} {options : Options} {rs : List Request}
  {c : Compartment}

theorem fills_of_provides (hrun : Request.Reaches safe host rs (fresh options) c) {p : Purpose}
    {n : ObjectId} (h : Request.Provides host rs (fresh options) p n) : c.Fills p n := by
  obtain ⟨before, r, after, rfl, hp, hanswer⟩ := h
  obtain ⟨hbefore, hrest⟩ := hrun.split
  have hb := hbefore.resting rfl
  have hnamed := hbefore.initializersNamed
  obtain ⟨hvalid, hsafe⟩ := hrest.along.1
  have hfills := moves_fills (lawful_handled hrun.handlers) (Law.Free.refuses fun _ _ => trivial) hb
    trivial ⟨fun _ _ => trivial, fun _ _ => trivial⟩ hnamed hvalid hp
  -- What the request leaves behind is where the rest of the run goes on.
  have hat := (Request.at_run hrun.handlers hb hvalid hsafe).1
  have hafter : Request.Reaches safe host after (r.run host _).2 c :=
    ⟨hrun.handlers, hrest.run, hrest.along.2⟩
  exact ((hfills.ok hanswer).2.2 n rfl).later ((hafter.moves hat).2.grows hat.sound)

/-- In every run, whatever fails in it, two answers for objects that the engine makes are the same
object exactly if they were asked for the same purpose; and so it is for what is remembered of such
objects after the run, and for an answer and what is remembered. -/
theorem purposes_apart (hrun : Request.Reaches safe host rs (fresh options) c) (p q : Purpose)
    (n m : ObjectId) :
    (Request.Provides host rs (fresh options) p n → Request.Provides host rs (fresh options) q m →
      (n = m ↔ p = q)) ∧
    (c.Remembers p n → c.Remembers q m → (n = m ↔ p = q)) ∧
      (Request.Provides host rs (fresh options) p n → c.Remembers q m → (n = m ↔ p = q)) := by
  have hnamed := hrun.initializersNamed
  have hsound := (hrun.resting rfl).sound
  refine ⟨?_, ?_, ?_⟩
  · exact fun hp hq => (fills_of_provides hrun hp).eq_iff hsound (fills_of_provides hrun hq)
  · exact fun hp hq => (hp.fills hsound hnamed).eq_iff hsound (hq.fills hsound hnamed)
  · exact fun hp hq => (fills_of_provides hrun hp).eq_iff hsound (hq.fills hsound hnamed)

/-- The host names an object like the one for an array initializer, and one like that for what is
constructed with it; the initializer is at two call sites. -/
def namesakesRun : List Request :=
  [.typeObject none "#7:00012:Array" false none, .typeObject none "#7:00012:Array:new" false none,
    .newObjectOf ⟨1⟩, .newCallSite { code := ⟨⟨7⟩, 12⟩ }, .newCallSite { code := ⟨⟨7⟩, 12⟩ },
    .newCallSite { code := ⟨⟨71⟩, 2⟩ }, .initializerObject ⟨0⟩ true, .initializerObject ⟨1⟩ true,
    .initializerObject ⟨1⟩ false, .initializerObject ⟨2⟩ true]

/-- Four purposes, four objects; the two sites in the same place share one. -/
theorem purposes_apart_namesakes :
    Request.Provides .silent namesakesRun (fresh {}) (.instances ⟨1⟩) ⟨2⟩ ∧
      Request.Provides .silent namesakesRun (fresh {}) (.initializer ⟨⟨7⟩, 12⟩ true) ⟨1⟩ ∧
        ∀ m, Request.Provides .silent namesakesRun (fresh {}) (.initializer ⟨⟨71⟩, 2⟩ true) m →
          m ≠ ⟨1⟩ ∧ m ≠ ⟨2⟩ := by
  have hrun : Request.Reaches _ .silent namesakesRun (fresh {}) _ :=
    Request.reaches_silent (by decide +kernel) (by decide +kernel)
  have hnew : Request.Provides .silent namesakesRun (fresh {}) (.instances ⟨1⟩) ⟨2⟩ :=
    ⟨namesakesRun.take 2, _, _, rfl, by decide +kernel, by decide +kernel⟩
  have harray : Request.Provides .silent namesakesRun (fresh {}) (.initializer ⟨⟨7⟩, 12⟩ true)
      ⟨1⟩ := ⟨namesakesRun.take 6, _, _, rfl, by decide +kernel, by decide +kernel⟩
  refine ⟨hnew, harray, fun m hm => ⟨?_, ?_⟩⟩
  · rintro rfl
    exact absurd (((purposes_apart hrun _ _ _ _).1 hm harray).mp rfl) (by decide)
  · rintro rfl
    exact absurd (((purposes_apart hrun _ _ _ _).1 hm hnew).mp rfl) (by decide)

end Compartment

end FlowTypes
