import FlowTypes.Proofs.Traffic

/-!
# What a constraint has brought about

Once a constraint has heard of a type, the compartment is settled for the two: what the constraint
asks for is there, as a type in a set or as a subset edge that brings the types.  Since nothing is
taken back, it stays settled.

A property must be wired when it is made, and the properties of an object must hold the unknown type
when the object becomes unknown.  Neither is done in one step, so neither is an invariant of every
moment; but both are done when the action that began them ends.  `Tidied` says so of the
compartments before and after an action.

## Main results

* `Settled`, `Settled.mono`.
* `Tidied.trans`: tidy actions are put one behind the other.
* `Calm.tidied`: a change that makes no property, gives no prototype, marks no object unknown and
  fires nothing is tidy.
-/

namespace FlowTypes

namespace Compartment

variable {c c' c'' : Compartment}

/-! ## Settled constraints -/

/-- The types of a property flow into a set. -/
def Reads (c : Compartment) (o : ObjectId) (key : Key) (target : SetId) : Prop :=
  ((c.object o).isUnknown = true ∧ c.Flows universal target) ∨
    ∃ p, (c.object o).property? key = some p ∧ c.Flows p.types target

/-- The types of a set flow into the own types of a property, unless the object is unknown. -/
def Writes (c : Compartment) (o : ObjectId) (key : Key) (values : SetId) : Prop :=
  (c.object o).isUnknown = true ∨
    ∃ p, (c.object o).property? key = some p ∧ c.Flows values p.ownTypes

/-- The code is monitored, if it is known. -/
def Monitors (c : Compartment) (code : Option Location) : Prop :=
  ∀ l, code = some l → c.isMonitored l = true

/-- A property access has what it asks for, of a type. -/
def Accessed (c : Compartment) (code : Option Location) (key : Key) (target : SetId) :
    Access → Ty → Prop
  | .read, .unknown => (c.set target).has .unknown = true
  | .write, .unknown => c.Monitors code
  | .read, .object o => c.Reads o key target
  | .write, .object o => c.Writes o key target
  | .read, t => ∀ b, wrapper? t = some b → ∃ o, c.builtin? b = some o ∧ c.Reads o key target
  | .write, _ => True

/-- An element access that is wired or not has what it asks for, of the type of an index. -/
def Indexed (c : Compartment) (code : Option Location) (target : SetId) (access : Access)
    (wired : Bool) (t : Ty) : Prop :=
  if isIndexType t then wired = true
  else match access with
    | .read => (c.set target).has .unknown = true
    | .write => c.Monitors code

section Indexed

variable {c : Compartment} {code : Option Location} {target : SetId} {wired : Bool} {t : Ty}

theorem indexed_of_index {access : Access} (hindex : isIndexType t = true) :
    c.Indexed code target access wired t ↔ wired = true := by
  unfold Indexed
  rw [if_pos hindex]

theorem indexed_read (hindex : ¬ isIndexType t = true) :
    c.Indexed code target .read wired t ↔ (c.set target).has .unknown = true := by
  unfold Indexed
  rw [if_neg hindex]

theorem indexed_write (hindex : ¬ isIndexType t = true) :
    c.Indexed code target .write wired t ↔ c.Monitors code := by
  unfold Indexed
  rw [if_neg hindex]

end Indexed

/-- A `this` value has been passed on as an object. -/
def Boxed (c : Compartment) (target : SetId) : Ty → Prop
  | .undefined | .null => (c.set target).has (.object global) = true
  | t => match wrapper? t with
    | some b => ∃ o, c.builtin? b = some o ∧ (c.set target).has (.object o) = true
    | none => (c.set target).has t = true

/-- A value that was read has been passed on, or the read is monitored because it may come out of a
getter. -/
def Forwarded (c : Compartment) (code : Location) (target : SetId) (t : Ty) : Prop :=
  (c.set target).has t = true ∨
    ∃ o, t = .object o ∧ c.builtin? .getSet = some o ∧ c.isMonitored code = true

/-- The arguments of a call flow into the parameters of a function with a script, and a parameter
without an argument may be `undefined`.  The first argument flows into the `this` types of a native
function that is generic. -/
def ArgumentsBound (c : Compartment) (site : CallSite) (f : FunctionInfo) : Prop :=
  if f.script.isSome then
    (∀ p ∈ site.arguments.zip f.parameters, c.Flows p.1 p.2) ∧
      ∀ parameter ∈ f.parameters.drop site.arguments.length,
        (c.set parameter).has .undefined = true
  else f.isGeneric = true → ∀ first ∈ site.arguments.head?, c.Flows first f.thisTypes

/-- A plain call has passed its `this` value on and takes what the function returns. -/
structure PassedThrough (c : Compartment) (site : CallSite) (f : FunctionInfo) : Prop where
  thisTypes : ∀ types ∈ site.thisTypes, c.Flows types f.thisTypes
  thisType : ∀ t ∈ site.thisType, (c.set f.thisTypes).has t = true
  result : ∀ result ∈ site.result, c.Flows f.returns result

/-- The prototype object of the function and the object made with it are remembered. -/
def Instantiates (c : Compartment) (callee proto new : ObjectId) : Prop :=
  (∃ f, (c.object callee).function = some f ∧ f.prototypeObject = some proto) ∧
    (c.object proto).newObject = some new

/-- The objects that a function returns go into the result, by a filter. -/
def Replaces (c : Compartment) (returns result : SetId) : Prop :=
  ∃ id : ConstraintId, id.In c.extent ∧ c.Hears returns id ∧
    c.constraint id = .filter result .primitives

/-- A `new` expression has made an object, which is the `this` value and the result; only an object
that the function returns takes its place. -/
def Constructed (c : Compartment) (callee : ObjectId) (site : CallSite) (f : FunctionInfo) : Prop :=
  ∃ proto new, c.Instantiates callee proto new ∧ (c.set f.thisTypes).has (.object new) = true ∧
    ∀ result ∈ site.result, (c.set result).has (.object new) = true ∧ c.Replaces f.returns result

/-- A type was called at a site after an earlier moment, and the call is bound. -/
def Invoked (b c : Compartment) (site : CallSite) : Ty → Prop
  | .unknown => .called site .unknown :: b.journal <:+ c.journal ∧
    ∀ result ∈ site.result, (c.set result).has .unknown = true
  | .object callee => ∀ f, (b.object callee).function = some f →
    .called site (.function callee f) :: b.journal <:+ c.journal ∧ c.ArgumentsBound site f ∧
      if site.isNew then c.Constructed callee site f else c.PassedThrough site f
  | _ => True

/-- A constraint has what it asks for, of a type that it heard of at an earlier moment.  An answer
that is frozen was still true at that moment, or the script has been told. -/
def Settled (b c : Compartment) (w : Work) : Constraint → Prop
  | .subset target => (c.set target).has w.type = true
  | .property code key target access => c.Accessed code key target access w.type
  | .element code _ target access wired => c.Indexed code target access wired w.type
  | .arith op target other =>
    ∀ t ∈ Arith.results op w.type (other.map b.set), (c.set target).has t = true
  | .boxThis target => c.Boxed target w.type
  | .filter target mode => mode.passes w.type = true → (c.set target).has w.type = true
  | .monitorRead code target => c.Forwarded code target w.type
  | .freezeTag _ tag spent => spent = true ∨ (b.set w.source).tag? = some tag
  | .freezeKind _ kind spent => spent = true ∨ b.refinedKind kind w.type = kind
  | .freezeEmpty _ spent => spent = true
  | .call site => Invoked b c (b.site site) w.type
  | .freezeElementKind .. => True

section Mono

variable (hgrows : c.Grows c') (hc : c.Valid) (hc' : c'.Valid)
include hgrows

theorem Reads.mono {o : ObjectId} {key : Key} {target : SetId} (h : c.Reads o key target) :
    c'.Reads o key target := by
  obtain ⟨hunknown, hflows⟩ | ⟨p, hp, hflows⟩ := h
  · exact .inl ⟨hgrows.isUnknown hunknown, hgrows.flows hflows⟩
  · exact .inr ⟨p, hgrows.property? hp, hgrows.flows hflows⟩

theorem Writes.mono {o : ObjectId} {key : Key} {values : SetId} (h : c.Writes o key values) :
    c'.Writes o key values := by
  obtain hunknown | ⟨p, hp, hflows⟩ := h
  · exact .inl (hgrows.isUnknown hunknown)
  · exact .inr ⟨p, hgrows.property? hp, hgrows.flows hflows⟩

theorem Monitors.mono {code : Option Location} (h : c.Monitors code) : c'.Monitors code :=
  fun l hl => hgrows.isMonitored (h l hl)

include hc hc'

theorem Accessed.mono {code : Option Location} {key : Key} {target : SetId} {access : Access}
    {t : Ty} (h : c.Accessed code key target access t) :
    c'.Accessed code key target access t := by
  have hwrapped : (∀ b, wrapper? t = some b → ∃ o, c.builtin? b = some o ∧ c.Reads o key target) →
      ∀ b, wrapper? t = some b → ∃ o, c'.builtin? b = some o ∧ c'.Reads o key target := by
    intro h b hb
    obtain ⟨o, ho, hreads⟩ := h b hb
    exact ⟨o, hgrows.builtin? ho, hreads.mono hgrows⟩
  cases access with
  | read =>
    cases t with
    | unknown => exact hgrows.has hc hc' h
    | object o => exact Reads.mono hgrows h
    | _ => exact hwrapped h
  | write =>
    cases t with
    | unknown => exact Monitors.mono hgrows h
    | object o => exact Writes.mono hgrows h
    | _ => trivial

theorem Indexed.mono {code : Option Location} {target : SetId} {access : Access} {wired wired' : Bool}
    {t : Ty} (hwired : wired = true → wired' = true) (h : c.Indexed code target access wired t) :
    c'.Indexed code target access wired' t := by
  by_cases hindex : isIndexType t = true
  · exact (indexed_of_index hindex).mpr (hwired ((indexed_of_index hindex).mp h))
  · cases access with
    | read => exact (indexed_read hindex).mpr (hgrows.has hc hc' ((indexed_read hindex).mp h))
    | write =>
      exact (indexed_write hindex).mpr (Monitors.mono hgrows ((indexed_write hindex).mp h))

theorem Boxed.mono {target : SetId} {t : Ty} (h : c.Boxed target t) : c'.Boxed target t := by
  cases t with
  | boolean | int32 | double | string =>
    obtain ⟨o, ho, hhas⟩ := h
    exact ⟨o, hgrows.builtin? ho, hgrows.has hc hc' hhas⟩
  | undefined | null | unknown | object => exact hgrows.has hc hc' h

theorem Forwarded.mono {code : Location} {target : SetId} {t : Ty}
    (h : c.Forwarded code target t) : c'.Forwarded code target t := by
  obtain hhas | ⟨o, ht, ho, hcode⟩ := h
  · exact .inl (hgrows.has hc hc' hhas)
  · exact .inr ⟨o, ht, hgrows.builtin? ho, hgrows.isMonitored hcode⟩

theorem ArgumentsBound.mono {site : CallSite} {f : FunctionInfo} (h : c.ArgumentsBound site f) :
    c'.ArgumentsBound site f := by
  unfold ArgumentsBound at h ⊢
  split
  · rename_i hscript
    rw [if_pos hscript] at h
    obtain ⟨hflows, hmissing⟩ := h
    exact ⟨fun p hp => hgrows.flows (hflows p hp),
      fun parameter hp => hgrows.has hc hc' (hmissing parameter hp)⟩
  · rename_i hscript
    rw [if_neg hscript] at h
    exact fun hgeneric first hfirst => hgrows.flows (h hgeneric first hfirst)

theorem PassedThrough.mono {site : CallSite} {f : FunctionInfo} (h : c.PassedThrough site f) :
    c'.PassedThrough site f where
  thisTypes types htypes := hgrows.flows (h.thisTypes types htypes)
  thisType t ht := hgrows.has hc hc' (h.thisType t ht)
  result result hresult := hgrows.flows (h.result result hresult)

omit hc hc' in
theorem Instantiates.mono {callee proto new : ObjectId} (h : c.Instantiates callee proto new) :
    c'.Instantiates callee proto new := by
  obtain ⟨⟨f, hf, hproto⟩, hnew⟩ := h
  obtain ⟨f', hf', hfunction⟩ := (hgrows.object callee).function f hf
  exact ⟨⟨f', hf', hfunction.prototypeObject proto hproto⟩, (hgrows.object proto).newObject new hnew⟩

omit hc hc' in
theorem Replaces.mono {returns result : SetId} (h : c.Replaces returns result) :
    c'.Replaces returns result := by
  obtain ⟨id, hid, hhears, hk⟩ := h
  refine ⟨id, hid.mono hgrows.extent, hhears.mono hgrows, ?_⟩
  have hbare := (hgrows.constraint id hid).bare
  rw [hk] at hbare
  exact Constraint.eq_of_bare_eq hbare rfl

theorem Constructed.mono {callee : ObjectId} {site : CallSite} {f : FunctionInfo}
    (h : c.Constructed callee site f) : c'.Constructed callee site f := by
  obtain ⟨proto, new, hmakes, hthis, hresult⟩ := h
  refine ⟨proto, new, hmakes.mono hgrows, hgrows.has hc hc' hthis, fun result hsome => ?_⟩
  obtain ⟨hhas, hreplaces⟩ := hresult result hsome
  exact ⟨hgrows.has hc hc' hhas, hreplaces.mono hgrows⟩

theorem Invoked.mono {b : Compartment} {site : CallSite} {t : Ty} (h : Invoked b c site t) :
    Invoked b c' site t := by
  cases t with
  | unknown =>
    obtain ⟨hcalled, hresult⟩ := h
    exact ⟨hcalled.trans hgrows.journal, fun result hr => hgrows.has hc hc' (hresult result hr)⟩
  | object callee =>
    intro f hf
    obtain ⟨hcalled, hbound, hlast⟩ := h f hf
    refine ⟨hcalled.trans hgrows.journal, hbound.mono hgrows hc hc', ?_⟩
    split
    · rename_i hnew
      rw [if_pos hnew] at hlast
      exact hlast.mono hgrows hc hc'
    · rename_i hnew
      rw [if_neg hnew] at hlast
      exact hlast.mono hgrows hc hc'
  | _ => trivial

/-- What is settled stays settled, also for the constraint with more marks. -/
theorem Settled.mono {b : Compartment} {w : Work} {k k' : Constraint} (hk : k.Evolves k')
    (h : Settled b c w k) : Settled b c' w k' := by
  cases k with
  | subset target =>
    rw [Constraint.eq_of_bare_eq hk.bare rfl]
    exact hgrows.has hc hc' h
  | property =>
    rw [Constraint.eq_of_bare_eq hk.bare rfl]
    exact Accessed.mono hgrows hc hc' h
  | element code objects target access wired =>
    have hk' := Constraint.eq_element hk.bare rfl
    rw [hk']
    exact Indexed.mono hgrows hc hc' (fun hwired => hk.wired hwired) h
  | arith =>
    rw [Constraint.eq_of_bare_eq hk.bare rfl]
    exact fun t ht => hgrows.has hc hc' (h t ht)
  | boxThis =>
    rw [Constraint.eq_of_bare_eq hk.bare rfl]
    exact Boxed.mono hgrows hc hc' h
  | filter target mode =>
    rw [Constraint.eq_of_bare_eq hk.bare rfl]
    exact fun hpasses => hgrows.has hc hc' (h hpasses)
  | monitorRead =>
    rw [Constraint.eq_of_bare_eq hk.bare rfl]
    exact Forwarded.mono hgrows hc hc' h
  | call =>
    rw [Constraint.eq_of_bare_eq hk.bare rfl]
    exact Invoked.mono hgrows hc hc' h
  | freezeTag | freezeKind =>
    obtain rfl | rfl := hk.of_freeze rfl
    · exact h
    · exact .inl rfl
  | freezeEmpty =>
    obtain rfl | rfl := hk.of_freeze rfl
    · exact h
    · exact Eq.refl true
  | freezeElementKind =>
    have hbare := hk.bare
    cases k' <;> trivial

end Mono

/-! ## Tidy actions -/

/-- The types of a property of an object flow down from its prototype, if it has one. -/
def Inherited (c : Compartment) (o proto : ObjectId) (p : Property) : Prop :=
  (c.object o).isUnknown = true ∨ ∃ s, c.Answers proto p.key false s ∧ c.Flows s p.types

theorem Inherited.mono {o proto : ObjectId} {p : Property} (hgrows : c.Grows c')
    (h : c.Inherited o proto p) : c'.Inherited o proto p := by
  obtain hunknown | ⟨s, hs, hflows⟩ := h
  · exact .inl (hgrows.isUnknown hunknown)
  · exact .inr ⟨s, hs.mono hgrows, hgrows.flows hflows⟩

/-- What was begun has been done: the new properties are wired, to the prototypes too, the objects
that became unknown have no properties with known types, those that inherit from them are unknown as
well, and new builtins have their prototypes. -/
structure Tidied (c c' : Compartment) : Prop where
  wired : ∀ o, ∀ p ∈ (c'.object o).properties,
    p ∈ (c.object o).properties ∨ c'.Flows p.ownTypes p.types
  inherited : ∀ o proto, (c'.object o).proto = some proto → ∀ p ∈ (c'.object o).properties,
    ((c.object o).proto = some proto ∧ p ∈ (c.object o).properties) ∨ c'.Inherited o proto p
  forgotten : ∀ o, (c'.object o).isUnknown = true → (c.object o).isUnknown = true ∨
    ∀ p ∈ (c'.object o).properties,
      (c'.set p.types).has .unknown = true ∧ (c'.set p.ownTypes).has .unknown = true
  spread : ∀ o proto, (c'.object o).proto = some proto → (c'.object proto).isUnknown = true →
    ((c.object o).proto = some proto ∧ (c.object proto).isUnknown = true) ∨
      (c'.object o).isUnknown = true
  builtins : ∀ b id, c'.builtin? b = some id → b.prototype? ≠ none →
    c.builtin? b = some id ∨ (c'.object id).proto ≠ none

theorem Tidied.trans (hc' : c'.Sound) (hc'' : c''.Sound) (hgrows : c'.Grows c'')
    (h : c.Tidied c') (h' : c'.Tidied c'') : c.Tidied c'' where
  wired o p hp := by
    obtain hp | hflows := h'.wired o p hp
    · exact (h.wired o p hp).imp_right hgrows.flows
    · exact .inr hflows
  inherited o proto ho p hp := by
    obtain ⟨ho, hp⟩ | hinherited := h'.inherited o proto ho p hp
    · exact (h.inherited o proto ho p hp).imp_right (Inherited.mono hgrows)
    · exact .inr hinherited
  forgotten o ho := by
    obtain ho' | hall := h'.forgotten o ho
    · refine (h.forgotten o ho').imp_right ?_
      intro hall p hp
      rw [((hgrows.object o).unknown ho').2] at hp
      obtain ⟨htypes, hown⟩ := hall p hp
      exact ⟨hgrows.has hc'.valid hc''.valid htypes, hgrows.has hc'.valid hc''.valid hown⟩
    · exact .inr hall
  spread o proto ho hunknown := by
    obtain ⟨ho, hunknown⟩ | hspread := h'.spread o proto ho hunknown
    · exact (h.spread o proto ho hunknown).imp_right hgrows.isUnknown
    · exact .inr hspread
  builtins b id hb hp := by
    obtain hb | hset := h'.builtins b id hb hp
    · exact (h.builtins b id hb hp).imp_right hgrows.proto_ne_none
    · exact .inr hset

/-! ## Deliveries -/

/-- Right after a constraint heard of a type, and before another one heard of anything, the two are
settled. -/
structure SettledAfter (sc : Scope) (c c' : Compartment) (w : Work) (before : List Event)
    (b c₁ : Compartment) : Prop where
  journal : b.journal = .fired w :: before
  quiet : ∃ mid, c₁.journal = mid ++ b.journal ∧ ∀ v, .fired v ∉ mid
  valid : w.Valid b.extent
  upTo : Did sc c b
  during : Did sc b c₁
  since : Did sc.loose c₁ c'
  settled : Settled b c₁ w (c₁.constraint w.constraint)

/-- Whatever was heard of has been settled. -/
def Delivered (sc : Scope) (c c' : Compartment) : Prop :=
  ∀ after before w, c'.journal = after ++ .fired w :: before →
    c.journal.length ≤ before.length → ∃ b c₁, SettledAfter sc c c' w before b c₁

/-- An event of a later journal that is older than an earlier journal is in it. -/
theorem journal_split {es js after before : List Event} {e : Event}
    (h : es ++ js = after ++ e :: before) (hlength : before.length < js.length) :
    ∃ after', js = after' ++ e :: before := by
  have hsuffix : e :: before <:+ es ++ js := h ▸ List.suffix_append _ _
  have hsuffix' : js <:+ es ++ js := List.suffix_append _ _
  obtain ⟨after', hafter'⟩ := List.suffix_of_suffix_length_le hsuffix hsuffix' hlength
  exact ⟨after', hafter'.symm⟩

theorem Delivered.trans {sc : Scope} (hc : c.Sound) (hdid : Did sc c c') (hdid' : Did sc c' c'')
    (h : Delivered sc c c') (h' : Delivered sc c' c'') : Delivered sc c c'' := by
  intro after before w hjournal hlength
  by_cases hlate : c'.journal.length ≤ before.length
  · obtain ⟨b, c₁, hsettled⟩ := h' after before w hjournal hlate
    exact ⟨b, c₁, { hsettled with upTo := hdid.trans hsettled.upTo }⟩
  · obtain ⟨es, hes⟩ := (hdid'.grows (hdid.sound hc)).journal
    rw [← hes] at hjournal
    obtain ⟨after', hafter'⟩ := journal_split hjournal (by omega)
    obtain ⟨b, c₁, hsettled⟩ := h after' before w hafter' hlength
    exact ⟨b, c₁, { hsettled with since := hsettled.since.trans (hdid'.mono sc.within_loose) }⟩

theorem Scope.Within.loose {sc sc' : Scope} (hsc : sc.Within sc') : sc.loose.Within sc'.loose :=
  ⟨hsc.choice, hsc.grant, hsc.passes, hsc.direct, hsc.redelivery, hsc.handler, hsc.aborts, id,
    hsc.handsOut⟩

theorem Delivered.mono {sc sc' : Scope} (hsc : sc.Within sc') (h : Delivered sc c c') :
    Delivered sc' c c' := by
  intro after before w hjournal hlength
  obtain ⟨b, c₁, hsettled⟩ := h after before w hjournal hlength
  exact ⟨b, c₁, { hsettled with
    upTo := hsettled.upTo.mono hsc
    during := hsettled.during.mono hsc
    since := hsettled.since.mono hsc.loose }⟩

theorem Delivered.classify {sc : Scope} {id : ObjectId} (hid : id.In c'.extent)
    (harray : c'.isArray id = true) (hknown : (c'.object id).isUnknown = false)
    (h : Delivered sc c c') : Delivered sc c (c'.classify id) := by
  intro after before w hjournal hlength
  obtain ⟨b, c₁, hsettled⟩ := h after before w hjournal hlength
  exact ⟨b, c₁, { hsettled with
    since := .classify (.refl c₁) (.inl trivial) hsettled.since hid harray hknown }⟩

/-- Where nothing was heard of, nothing has to be settled. -/
theorem delivered_of_journal {sc : Scope}
    (h : ∃ es, c'.journal = es ++ c.journal ∧ ∀ w, .fired w ∉ es) : Delivered sc c c' := by
  obtain ⟨es, hes, hnone⟩ := h
  intro after before w hjournal hlength
  rw [hes] at hjournal
  have hsuffix : c.journal <:+ es ++ c.journal := List.suffix_append _ _
  have hsuffix' : before <:+ es ++ c.journal := by
    rw [hjournal]
    exact (List.suffix_cons _ _).trans (List.suffix_append _ _)
  obtain ⟨mid, hmid⟩ := List.suffix_of_suffix_length_le hsuffix hsuffix' hlength
  rw [← hmid, ← List.cons_append, ← List.append_assoc] at hjournal
  have hes' : es = after ++ .fired w :: mid := List.append_cancel_right hjournal
  exact absurd (hes' ▸ List.mem_append_right _ List.mem_cons_self) (hnone w)

theorem Delivered.refl {sc : Scope} (c : Compartment) : Delivered sc c c :=
  delivered_of_journal ⟨[], rfl, fun _ => List.not_mem_nil⟩

/-! ## Calm changes -/

/-- No property is made, no object gets a prototype or becomes unknown, no builtin is made, and
nothing is fired. -/
structure Calm (c c' : Compartment) : Prop where
  properties : ∀ o, (c'.object o).properties = (c.object o).properties
  proto : ∀ o, (c'.object o).proto = (c.object o).proto
  unknown : ∀ o, (c'.object o).isUnknown = (c.object o).isUnknown
  builtins : c'.builtins = c.builtins
  journal : ∃ es, c'.journal = es ++ c.journal ∧ ∀ w, .fired w ∉ es

/-- Only the objects, the builtins and the journal matter. -/
theorem Calm.of_objects (hobjects : c'.objects = c.objects) (hbuiltins : c'.builtins = c.builtins)
    (hjournal : ∃ es, c'.journal = es ++ c.journal ∧ ∀ w, .fired w ∉ es) : c.Calm c' := by
  have hobject : ∀ o, c'.object o = c.object o := fun o => by rw [object, object, hobjects]
  exact ⟨fun o => by rw [hobject], fun o => by rw [hobject], fun o => by rw [hobject], hbuiltins,
    hjournal⟩

theorem Calm.refl (c : Compartment) : c.Calm c :=
  .of_objects rfl rfl ⟨[], rfl, fun _ => List.not_mem_nil⟩

theorem Calm.trans (h : c.Calm c') (h' : c'.Calm c'') : c.Calm c'' where
  properties o := (h'.properties o).trans (h.properties o)
  proto o := (h'.proto o).trans (h.proto o)
  unknown o := (h'.unknown o).trans (h.unknown o)
  builtins := h'.builtins.trans h.builtins
  journal := not_fired_trans h.journal h'.journal

theorem Calm.builtin? (h : c.Calm c') (b : Builtin) : c'.builtin? b = c.builtin? b := by
  rw [Compartment.builtin?, h.builtins, Compartment.builtin?]

theorem Calm.tidied (h : c.Calm c') : c.Tidied c' where
  wired o p hp := by
    rw [h.properties] at hp
    exact .inl hp
  inherited o proto ho p hp := by
    rw [h.proto] at ho
    rw [h.properties] at hp
    exact .inl ⟨ho, hp⟩
  forgotten o ho := by
    rw [h.unknown] at ho
    exact .inl ho
  spread o proto ho hunknown := by
    rw [h.proto] at ho
    rw [h.unknown] at hunknown
    exact .inl ⟨ho, hunknown⟩
  builtins b id hb _ := by
    rw [h.builtin?] at hb
    exact .inl hb

theorem Calm.delivered {sc : Scope} (h : c.Calm c') : Delivered sc c c' :=
  delivered_of_journal h.journal

/-- Changing what is known about an object, but not its properties, is calm. -/
theorem calm_changeObject {id : ObjectId} (hid : id.In c.extent) {f : ObjectInfo → ObjectInfo}
    (hproperties : ∀ o, (f o).properties = o.properties) (hproto : ∀ o, (f o).proto = o.proto)
    (hunknown : ∀ o, (f o).isUnknown = o.isUnknown) : c.Calm (c.changeObject id f) where
  properties o := by
    rw [object_changeObject hid]
    split
    · exact hproperties _
    · rfl
  proto o := by
    rw [object_changeObject hid]
    split
    · exact hproto _
    · rfl
  unknown o := by
    rw [object_changeObject hid]
    split
    · exact hunknown _
    · rfl
  builtins := rfl
  journal := ⟨[], rfl, fun _ => List.not_mem_nil⟩

theorem Aside.calm (h : c.Aside c') : c.Calm c' := by
  obtain ⟨es, hes, hquiet⟩ := h.journal
  exact .of_objects h.objects h.builtins ⟨es, hes, fun w hw => by cases hquiet _ hw⟩

theorem Tidied.refl (c : Compartment) : c.Tidied c := (Calm.refl c).tidied

end Compartment

end FlowTypes
