import FlowTypes.Proofs.Actions.Propagation

/-!
# How properties are made and found

A property that an object is asked for is made on the object and on those of its prototypes that
lack it, and then wired from the top down.  The two parts are looked at one after the other: making
the properties cannot fail and adds nothing else, and wiring them makes the own types of each flow
into its types.

## Main results

* `lacking_spec`: the prototypes that lack a property, and where its types come from above them.
* `Furnished`, `Made`, `makeProperties`: the properties that are made, and that nothing else is.
* `moves_getProperty`: the answer is the set of the object's property (`Answers`).
-/

namespace FlowTypes

namespace Compartment

variable {L : Law} {c c' : Compartment}

/-! ## Prototypes that lack a property -/

/-- Where the types of a property come from above the prototypes that lack it. -/
def InheritedFrom (c : Compartment) (key : Key) (p : ObjectId) (s : SetId) : Prop :=
  ((c.object p).isUnknown = true ∧ s = universal) ∨
    ((c.object p).isUnknown = false ∧ ∃ q, (c.object p).property? key = some q ∧ s = q.types)

/-- The prototypes of a chain that lack a property come before the first one that has it or is
unknown. -/
theorem lacking_spec (c : Compartment) (key : Key) (ps : List ObjectId) :
    (∀ o ∈ (c.lacking key ps).1,
      (c.object o).isUnknown = false ∧ (c.object o).property? key = none) ∧
    (((c.lacking key ps).1 = ps ∧ (c.lacking key ps).2 = none) ∨
      ∃ p rest s, ps = (c.lacking key ps).1 ++ p :: rest ∧ (c.lacking key ps).2 = some s ∧
        c.InheritedFrom key p s) := by
  induction ps with
  | nil => exact ⟨fun o ho => absurd ho List.not_mem_nil, .inl ⟨rfl, rfl⟩⟩
  | cons p ps ih =>
    rw [lacking]
    split
    · rename_i hunknown
      refine ⟨fun o ho => absurd ho List.not_mem_nil, .inr ⟨p, ps, universal, rfl, rfl, ?_⟩⟩
      exact .inl ⟨hunknown, rfl⟩
    · rename_i hknown
      have hknown : (c.object p).isUnknown = false := by simpa using hknown
      split
      · rename_i q hq
        refine ⟨fun o ho => absurd ho List.not_mem_nil, .inr ⟨p, ps, q.types, rfl, rfl, ?_⟩⟩
        exact .inr ⟨hknown, q, hq, rfl⟩
      · rename_i hnone
        obtain ⟨hall, hend⟩ := ih
        refine ⟨?_, ?_⟩
        · intro o ho
          obtain rfl | ho := List.mem_cons.mp ho
          · exact ⟨hknown, hnone⟩
          · exact hall o ho
        · obtain ⟨howners, hnothing⟩ | ⟨q, rest, s, hps, hs, hfrom⟩ := hend
          · exact .inl ⟨congrArg (p :: ·) howners, hnothing⟩
          · exact .inr ⟨q, rest, s, congrArg (p :: ·) hps, hs, hfrom⟩

theorem mem_of_mem_lacking {key : Key} {ps : List ObjectId} {o : ObjectId}
    (ho : o ∈ (c.lacking key ps).1) : o ∈ ps := by
  obtain ⟨-, ⟨howners, -⟩ | ⟨p, rest, s, hps, -⟩⟩ := c.lacking_spec key ps
  · rwa [howners] at ho
  · rw [hps]
    exact List.mem_append_left _ ho

theorem nodup_lacking {key : Key} {ps : List ObjectId} (h : ps.Nodup) :
    (c.lacking key ps).1.Nodup := by
  obtain ⟨-, ⟨howners, -⟩ | ⟨p, rest, s, hps, -⟩⟩ := c.lacking_spec key ps
  · rwa [howners]
  · rw [hps] at h
    exact h.of_append_left

/-! ## Making properties -/

/-- There are more properties, whose sets have nothing in them, and all else is as it was. -/
structure Furnished (c c' : Compartment) : Prop where
  set : ∀ s, c'.set s = c.set s
  sets : c.sets.size ≤ c'.sets.size
  constraints : c'.constraints = c.constraints
  objects : c'.objects.size = c.objects.size
  object : ∀ o, ∃ ps, c'.object o = { c.object o with properties := (c.object o).properties ++ ps }
  monitored : c'.monitored = c.monitored
  queued : c'.queued = c.queued

theorem Furnished.refl (c : Compartment) : c.Furnished c :=
  ⟨fun _ => rfl, Nat.le_refl _, rfl, rfl, fun o => ⟨[], by rw [List.append_nil]⟩, rfl, rfl⟩

theorem Furnished.trans {c'' : Compartment} (h : c.Furnished c') (h' : c'.Furnished c'') :
    c.Furnished c'' where
  set s := (h'.set s).trans (h.set s)
  sets := Nat.le_trans h.sets h'.sets
  constraints := h'.constraints.trans h.constraints
  objects := h'.objects.trans h.objects
  object o := by
    obtain ⟨ps, hps⟩ := h.object o
    obtain ⟨ps', hps'⟩ := h'.object o
    exact ⟨ps ++ ps', by rw [hps', hps, List.append_assoc]⟩
  monitored := h'.monitored.trans h.monitored
  queued := h'.queued.trans h.queued

theorem furnished_pushProperty {owner : ObjectId} (howner : owner.In c.extent) (key : Key) :
    c.Furnished (c.pushProperty owner key) where
  set s := (set_pushSet (c := c.pushSet) s).trans (set_pushSet s)
  sets := by
    have hsize : (c.pushProperty owner key).sets.size = c.sets.size + 1 + 1 := by
      simp [pushProperty, pushSet, changeObject, record]
    omega
  constraints := rfl
  objects := Array.size_modify
  object o := by
    rw [object_pushProperty howner]
    split
    · exact ⟨[c.nextProperty key], rfl⟩
    · exact ⟨[], by rw [List.append_nil]⟩
  monitored := rfl
  queued := rfl

/-- One property was made for each object of a list, and nothing else was done. -/
structure Made (sc : Scope) (c c' : Compartment) (key : Key) (made : List (ObjectId × Property)) :
    Prop where
  did : Did sc c c'
  furnished : c.Furnished c'
  fresh : ∀ x ∈ made, c.sets.size ≤ x.2.types.index ∧ c.sets.size ≤ x.2.ownTypes.index
  worklist : c'.worklist = c.worklist
  found : ∀ x ∈ made, (c'.object x.1).property? key = some x.2
  properties : ∀ o, ∀ p ∈ (c'.object o).properties,
    p ∈ (c.object o).properties ∨ (o, p) ∈ made
  others : ∀ o, o ∉ made.map Prod.fst → c'.object o = c.object o
  proto : ∀ o, (c'.object o).proto = (c.object o).proto
  unknown : ∀ o, (c'.object o).isUnknown = (c.object o).isUnknown
  builtins : c'.builtins = c.builtins
  journal : ∃ es, c'.journal = es ++ c.journal ∧ ∀ w, .fired w ∉ es

theorem Made.refl (sc : Scope) (c : Compartment) (key : Key) : Made sc c c key [] where
  did := .refl c
  furnished := .refl c
  fresh _ hx := absurd hx List.not_mem_nil
  worklist := rfl
  found _ hx := absurd hx List.not_mem_nil
  properties _ _ hp := .inl hp
  others _ _ := rfl
  proto _ := rfl
  unknown _ := rfl
  builtins := rfl
  journal := ⟨[], rfl, fun _ => List.not_mem_nil⟩

theorem Made.trans {sc : Scope} {c'' : Compartment} {key : Key}
    {made made' : List (ObjectId × Property)} (h : Made sc c c' key made)
    (h' : Made sc c' c'' key made') (hdisjoint : ∀ x ∈ made, x.1 ∉ made'.map Prod.fst) :
    Made sc c c'' key (made ++ made') where
  did := h.did.trans h'.did
  furnished := h.furnished.trans h'.furnished
  fresh x hx := by
    obtain hx | hx := List.mem_append.mp hx
    · exact h.fresh x hx
    · obtain ⟨htypes, hown⟩ := h'.fresh x hx
      exact ⟨Nat.le_trans h.furnished.sets htypes, Nat.le_trans h.furnished.sets hown⟩
  worklist := h'.worklist.trans h.worklist
  found x hx := by
    obtain hx | hx := List.mem_append.mp hx
    · rw [h'.others x.1 (hdisjoint x hx)]
      exact h.found x hx
    · exact h'.found x hx
  properties o p hp := by
    obtain hp | hp := h'.properties o p hp
    · exact (h.properties o p hp).imp_right (List.mem_append_left _)
    · exact .inr (List.mem_append_right _ hp)
  others o ho := by
    rw [List.map_append, List.mem_append, not_or] at ho
    exact (h'.others o ho.2).trans (h.others o ho.1)
  proto o := (h'.proto o).trans (h.proto o)
  unknown o := (h'.unknown o).trans (h.unknown o)
  builtins := h'.builtins.trans h.builtins
  journal := not_fired_trans h.journal h'.journal

theorem createProperty_run (owner : ObjectId) (key : Key) :
    createProperty owner key c = (.ok (c.nextProperty key), c.pushProperty owner key) := by
  have hsize : (c.sets.push {}).size = c.sets.size + 1 := Array.size_push _
  rw [pushProperty, nextProperty, ← hsize]
  rfl

theorem made_pushProperty {sc : Scope} {owner : ObjectId} {key : Key} (howner : owner.In c.extent)
    (hknown : (c.object owner).isUnknown = false) (hlacks : (c.object owner).property? key = none)
    (hkey : sc.grant.keys key ∨ c.Keyed key) :
    Made sc c (c.pushProperty owner key) key [(owner, c.nextProperty key)] where
  did := .single (.pushProperty howner hknown hlacks hkey)
  furnished := furnished_pushProperty howner key
  fresh x hx := by
    rw [List.mem_singleton.mp hx]
    exact ⟨Nat.le_refl _, Nat.le_succ _⟩
  worklist := rfl
  found x hx := by
    rw [List.mem_singleton.mp hx, object_pushProperty howner, if_pos rfl]
    exact ObjectInfo.property?_add_self hlacks
  properties o p hp := by
    rw [object_pushProperty howner] at hp
    split at hp
    · rename_i ho
      subst ho
      obtain hp | hp := List.mem_append.mp hp
      · exact .inl hp
      · rw [List.mem_singleton.mp hp]
        exact .inr List.mem_cons_self
    · exact .inl hp
  others o ho := by
    have hne : ¬ owner = o := by
      rintro rfl
      exact ho List.mem_cons_self
    rw [object_pushProperty howner, if_neg hne]
  proto o := by
    rw [object_pushProperty howner]
    split <;> rfl
  unknown o := by
    rw [object_pushProperty howner]
    split <;> rfl
  builtins := rfl
  journal := ⟨[.propertyCreated owner (c.nextProperty key)], rfl,
    fun w hw => by cases List.mem_singleton.mp hw⟩

/-- The properties of several objects are made one after the other. -/
theorem makeProperties (sc : Scope) {key : Key} (hc : c.Sound) {os : List ObjectId}
    (hnodup : os.Nodup) (hos : ∀ o ∈ os, o.In c.extent ∧ (c.object o).isUnknown = false ∧
      (c.object o).property? key = none) (hkey : sc.grant.keys key ∨ c.Keyed key) :
    ∃ made c', (os.mapM fun owner => return (owner, ← createProperty owner key) :
        Action (List (ObjectId × Property))) c = (.ok made, c') ∧
      Made sc c c' key made ∧ made.map Prod.fst = os := by
  induction os generalizing c with
  | nil => exact ⟨[], c, rfl, Made.refl sc c key, rfl⟩
  | cons o os ih =>
    obtain ⟨ho, hknown, hlacks⟩ := hos o List.mem_cons_self
    obtain ⟨hnew, hnodup⟩ := List.nodup_cons.mp hnodup
    have hfirst := made_pushProperty ho hknown hlacks hkey
    have hgrows := hfirst.did.grows hc
    obtain ⟨made, c', hrun, hmade, hfst⟩ := ih (hfirst.did.sound hc) hnodup
      (by
        intro o' ho'
        obtain ⟨hin, hrest⟩ := hos o' (List.mem_cons_of_mem _ ho')
        refine ⟨hin.mono hgrows.extent, ?_⟩
        rw [hfirst.others o' ?_]
        · exact hrest
        · rw [List.map_singleton, List.mem_singleton]
          rintro rfl
          exact hnew ho')
      (hkey.imp_right (Keyed.mono hgrows))
    refine ⟨(o, c.nextProperty key) :: made, c', ?_, hfirst.trans hmade ?_, ?_⟩
    · rw [List.mapM_cons, bind_assoc]
      rw [run_bind_ok (createProperty_run o key), pure_bind, run_bind_ok hrun]
      rfl
    · intro x hx
      rw [List.mem_singleton.mp hx, hfst]
      exact hnew
    · rw [List.map_cons, hfst]

/-- Properties that are made and then wired leave everything tidy. -/
theorem Made.tidied {sc : Scope} {c'' : Compartment} {key : Key}
    {made : List (ObjectId × Property)} (h : Made sc c c' key made) (h' : c'.Tidied c'')
    (hwired : ∀ x ∈ made, c''.Flows x.2.ownTypes x.2.types ∧
      ∀ proto, (c'.object x.1).proto = some proto → c''.Inherited x.1 proto x.2) :
    c.Tidied c'' where
  wired o p hp := by
    obtain hp | hflows' := h'.wired o p hp
    · exact (h.properties o p hp).imp_right fun hp => (hwired (o, p) hp).1
    · exact .inr hflows'
  inherited o proto ho p hp := by
    obtain ⟨ho, hp⟩ | hinherited := h'.inherited o proto ho p hp
    · obtain hp | hp := h.properties o p hp
      · exact .inl ⟨(h.proto o).symm.trans ho, hp⟩
      · exact .inr ((hwired (o, p) hp).2 proto ho)
    · exact .inr hinherited
  forgotten o ho := by
    obtain ho | hall := h'.forgotten o ho
    · exact .inl (by rwa [h.unknown] at ho)
    · exact .inr hall
  spread o proto ho hunknown := by
    refine (h'.spread o proto ho hunknown).imp_left ?_
    rw [h.proto, h.unknown]
    exact id
  builtins b id hb hp := by
    refine (h'.builtins b id hb hp).imp_left ?_
    rw [Compartment.builtin?, h.builtins]
    exact fun hb => hb

/-! ## Ladders -/

/-- A set holds what an object inherits of a property; there is none if it has no prototype. -/
def Above (c : Compartment) (key : Key) (o : ObjectId) : Option SetId → Prop
  | none => (c.object o).proto = none
  | some s => ∃ proto, (c.object o).proto = some proto ∧ c.Answers proto key false s

/-- Each property of a list is to be wired to the one before it, because its owner inherits from the
owner of that one; the first is to be wired to a set above them all. -/
def Ladder (c : Compartment) (key : Key) : Option SetId → List (ObjectId × Property) → Prop
  | _, [] => True
  | above, (owner, p) :: rest =>
    (c.object owner).property? key = some p ∧ c.Above key owner above ∧
      Ladder c key (some p.types) rest

/-- One more property goes to the foot of a ladder. -/
theorem Ladder.append {key : Key} {o q : ObjectId} {p r : Property}
    (ho : (c.object o).property? key = some p) (hproto : (c.object o).proto = some q)
    {above : Option SetId} {xs : List (ObjectId × Property)} (h : c.Ladder key above (xs ++ [(q, r)])) :
    c.Ladder key above (xs ++ [(q, r)] ++ [(o, p)]) := by
  induction xs generalizing above with
  | nil =>
    obtain ⟨hr, habove, -⟩ := h
    exact ⟨hr, habove, ho, ⟨q, hproto, .inr ⟨r, hr, rfl⟩⟩, trivial⟩
  | cons x xs ih =>
    obtain ⟨hx, habove, hrest⟩ := h
    exact ⟨hx, habove, ih hrest⟩

theorem Ladder.single {key : Key} {o : ObjectId} {above : Option SetId}
    {made : List (ObjectId × Property)} (hmade : made.map Prod.fst = [o])
    (hfound : ∀ x ∈ made, (c.object x.1).property? key = some x.2)
    (habove : c.Above key o above) : c.Ladder key above made := by
  match made, hmade with
  | [(_, p)], rfl => exact ⟨hfound _ List.mem_cons_self, habove, trivial⟩

/-- The properties that are made on an object and on the prototypes that lack them are a ladder. -/
theorem ladder_of_lacking (hc : c.Sound) (hgrows : c.Grows c')
    (hproto : ∀ o, (c'.object o).proto = (c.object o).proto) {key : Key} (o : ObjectId)
    {made : List (ObjectId × Property)}
    (hfst : made.map Prod.fst = (c.lacking key (c.chain o)).1.reverse ++ [o])
    (hfound : ∀ x ∈ made, (c'.object x.1).property? key = some x.2) :
    c'.Ladder key (c.lacking key (c.chain o)).2 made := by
  -- By induction on the length of the chain.
  induction hlength : (c.chain o).length generalizing o made with
  | zero =>
    have hnone : (c.object o).proto = none := by
      cases hp : (c.object o).proto with
      | none => rfl
      | some q => rw [chain_of_proto hc.valid hc.forest hp] at hlength; cases hlength
    rw [chain_of_no_proto hnone] at hfst ⊢
    exact .single hfst hfound ((hproto o).trans hnone)
  | succ n ih =>
    cases hp : (c.object o).proto with
    | none => rw [chain_of_no_proto hp] at hlength; cases hlength
    | some q =>
      rw [chain_of_proto hc.valid hc.forest hp] at hfst hlength ⊢
      have habove : ∀ s, c.Answers q key false s → c'.Above key o (some s) :=
        fun s hs => ⟨q, (hproto o).trans hp, hs.mono hgrows⟩
      unfold lacking at hfst ⊢
      split at hfst
      · rename_i hunknown
        rw [if_pos hunknown]
        exact .single hfst hfound (habove _ (.inl ⟨hunknown, rfl⟩))
      · rename_i hknown
        rw [if_neg hknown]
        cases hfind : (c.object q).property? key with
        | some r =>
          rw [hfind] at hfst
          exact .single hfst hfound (habove _ (.inr ⟨r, hfind, rfl⟩))
        | none =>
          rw [hfind] at hfst
          dsimp only at hfst ⊢
          rw [List.reverse_cons] at hfst
          obtain ⟨upper, lower, rfl, hupper, hlower⟩ := List.map_eq_append_iff.mp hfst
          obtain ⟨xs, last, rfl, -, hlast⟩ := List.map_eq_append_iff.mp hupper
          match last, hlast, lower, hlower with
          | [(_, r)], rfl, [(_, p)], rfl =>
            refine Ladder.append (hfound _ (List.mem_append_right _ List.mem_cons_self))
              ((hproto _).trans hp) (ih _ hupper ?_ (Nat.succ.inj hlength))
            exact fun x hx => hfound x (List.mem_append_left _ hx)

/-! ## Walks -/

/-- A walk has as many rounds left as there can be objects that it has not come by. -/
inductive Spare (L : Law) (c : Compartment) : Nat → List ObjectId → Prop
  | fails {fuel : Nat} {stack : List ObjectId} (h : L.Fails (.outOfMemory "instance list")) :
    Spare L c fuel stack
  /-- The walk has not begun. -/
  | root {id : ObjectId} {fuel : Nat}
    (hsize : ∀ c', Did L.scope c c' → c'.objects.size < fuel) : Spare L c fuel [id]
  | below {id : ObjectId} {visited stack : List ObjectId} {fuel : Nat}
    (hwalk : Walk c id visited stack)
    (hsize : ∀ c', Did L.scope c c' → c'.objects.size ≤ visited.length + fuel) :
    Spare L c fuel stack

theorem Spare.ofRoot (hroom : L.Roomy) (hc : c.Sound) (id : ObjectId) :
    Spare L c (c.objectBound + 1) [id] := by
  obtain hfails | hroom := hroom
  · exact .fails hfails
  · exact .root fun c' hdid => Nat.lt_succ_of_le (hroom c c' hc hdid)

theorem Spare.ofInstances (hroom : L.Roomy) (hc : c.Sound) (id : ObjectId) :
    Spare L c (c.objectBound + 1) (c.object id).instances.reverse := by
  obtain hfails | hroom := hroom
  · exact .fails hfails
  · refine .below (Walk.start hc.forest id) fun c' hdid => ?_
    have hsize := hroom c c' hc hdid
    rw [List.length_nil]
    omega

theorem Spare.exhausted {o : ObjectId} {rest : List ObjectId} (h : Spare L c 0 (o :: rest)) :
    L.Fails (.outOfMemory "instance list") := by
  cases h with
  | fails h => exact h
  | root hsize => exact absurd (hsize c (.refl c)) (Nat.not_lt_zero _)
  | below hwalk hsize =>
    have hle := hwalk.length_le
    have hsize := hsize c (.refl c)
    rw [List.length_cons] at hle
    omega

/-- One round later, in a later compartment. -/
theorem Spare.next (hc : c.Sound) {fuel : Nat} {o : ObjectId} {rest is : List ObjectId}
    (h : Spare L c (fuel + 1) (o :: rest)) (hdid : Did L.scope c c')
    (his : is = [] ∨ is = (c'.object o).instances.reverse) : Spare L c' fuel (is ++ rest) := by
  have hforest := (hdid.sound hc).forest
  cases h with
  | fails h => exact .fails h
  | root hsize =>
    have hwalk : Walk c' o [] is := by
      obtain rfl | rfl := his
      · exact ⟨List.nodup_nil, nofun, nofun⟩
      · exact Walk.start hforest o
    rw [List.append_nil]
    refine .below hwalk fun c'' hdid' => ?_
    have hsize := hsize c'' (hdid.trans hdid')
    rw [List.length_nil]
    omega
  | below hwalk hsize =>
    refine .below ((hwalk.mono (hdid.grows hc)).next hforest his) fun c'' hdid' => ?_
    have hsize := hsize c'' (hdid.trans hdid')
    rw [List.length_append, List.length_singleton]
    omega

/-! ## Wiring properties -/

section Lawful

variable (hL : L.Lawful)
include hL

theorem moves_flowDown (h : L.At c) {id : ObjectId} {base : SetId} {key : Key}
    (hbase : c.Answers id key false base) {fuel : Nat} {stack : List ObjectId}
    (hspare : Spare L c fuel stack) (hstack : ∀ o ∈ stack, c.Inherits o id) :
    L.Moves (flowDown L.pass base key fuel stack) c fun _ _ => True := by
  induction fuel generalizing c stack with
  | zero =>
    cases stack with
    | nil => exact .pure h trivial
    | cons => exact .throw h hspare.exhausted
  | succ fuel ih =>
    cases stack with
    | nil => exact .pure h trivial
    | cons o rest =>
      have ho : c.Inherits o id := hstack o List.mem_cons_self
      have hrest : ∀ o ∈ rest, c.Inherits o id := fun o ho => hstack o (List.mem_cons_of_mem _ ho)
      refine .get ?_
      dsimp only
      split
      · rename_i p hp
        have hmem : p ∈ (c.object o).properties := List.mem_of_find?_eq_some hp
        have htypes : p.types.In c.extent := ((h.sound.valid.objects o).properties p hmem).types
        have hdrawn : c.Drawn L.scope base p.types :=
          .inherited ho hmem (ObjectInfo.key_of_property? hp ▸ hbase)
        refine .bind hL.within h (moves_addSubset hL h (hbase.in h.sound.valid) htypes hdrawn) ?_
        intro _ c' h' hgood _
        have hgrows := hgood.grows h.sound
        have hspare' : Spare L c' fuel ([] ++ rest) :=
          hspare.next h.sound hgood.did (.inl rfl)
        exact ih h' (hbase.mono hgrows) hspare' fun o ho => (hrest o ho).mono hgrows
      · refine ih h hbase (hspare.next h.sound (.refl c) (.inr rfl)) ?_
        intro i hi
        obtain hi | hi := List.mem_append.mp hi
        · have hproto := (h.sound.forest.instances i o).mp (List.mem_reverse.mp hi)
          exact (Inherits.proto hproto).trans ho
        · exact hrest i hi

/-- The types of a property are sent to the objects below. -/
theorem moves_storeToInstances (hroom : L.Roomy) (h : L.At c)
    (id : ObjectId) (key : Key) : L.Moves (storeToInstances L.pass id key) c fun _ _ => True := by
  refine .get ?_
  split
  · exact .pure h trivial
  · rename_i p hp
    refine moves_flowDown hL h (.inr ⟨p, hp, rfl⟩)
      (.ofInstances hroom h.sound id) ?_
    intro i hi
    exact .proto ((h.sound.forest.instances i id).mp (List.mem_reverse.mp hi))

/-- The own types of each property flow into its types, and so do the types of the property above. -/
theorem moves_wireProperties (hroom : L.Roomy) {b : Compartment}
    (hgrows : b.Grows c) (h : L.At c) (key : Key) (above : Option SetId)
    {made : List (ObjectId × Property)} (hmade : b.Ladder key above made) :
    L.Moves (wireProperties L.pass key above made) c fun _ c' => ∀ x ∈ made,
      c'.Flows x.2.ownTypes x.2.types ∧
        ∀ proto, (b.object x.1).proto = some proto → c'.Inherited x.1 proto x.2 := by
  induction made generalizing c above with
  | nil => exact .pure h fun x hx => absurd hx List.not_mem_nil
  | cons x rest ih =>
    obtain ⟨owner, p⟩ := x
    obtain ⟨hfound, habove, hladder⟩ := hmade
    have hkey : p.key = key := ObjectInfo.key_of_property? hfound
    have hmem : ∀ {c'}, b.Grows c' → p ∈ (c'.object owner).properties :=
      fun hgrows => List.mem_of_find?_eq_some (hgrows.property? hfound)
    have hp := (h.sound.valid.objects owner).properties p (hmem hgrows)
    refine .bind hL.within h (moves_addSubset hL h hp.ownTypes hp.types (.own (hmem hgrows))) ?_
    intro _ c₁ h₁ hgood₁ hflows
    have hgrows₁ := hgrows.trans (hgood₁.grows h.sound)
    -- What remains is the same with a set above and without one.
    have hrest : ∀ c₂, L.At c₂ → L.Good c₁ c₂ → (∀ s, above = some s → c₂.Flows s p.types) →
        L.Moves (do
          storeToInstances L.pass owner key
          wireProperties L.pass key (some p.types) rest) c₂ fun _ c' =>
            ∀ x ∈ (owner, p) :: rest, c'.Flows x.2.ownTypes x.2.types ∧
              ∀ proto, (b.object x.1).proto = some proto → c'.Inherited x.1 proto x.2 := by
      intro c₂ h₂ hgood₂ hset
      refine .bind hL.within h₂ (moves_storeToInstances hL hroom h₂ owner key) ?_
      intro _ c₃ h₃ hgood₃ _
      have hgrows₃ := (hgood₂.grows h₁.sound).trans (hgood₃.grows h₂.sound)
      refine .imp h₃ (ih (hgrows₁.trans hgrows₃) h₃ (some p.types) hladder) ?_
      intro _ c₄ _ hgood₄ hall x hx
      have hgrows₄ := hgood₄.grows h₃.sound
      obtain rfl | hx := List.mem_cons.mp hx
      · refine ⟨(hgrows₃.trans hgrows₄).flows hflows, fun proto hproto => .inr ?_⟩
        cases above with
        | none => rw [show (b.object owner).proto = none from habove] at hproto; cases hproto
        | some s =>
          obtain ⟨proto', hproto', hanswers⟩ := habove
          rw [hproto] at hproto'
          cases hproto'
          exact ⟨s, hkey ▸ hanswers.mono ((hgrows₁.trans hgrows₃).trans hgrows₄),
            ((hgood₃.grows h₂.sound).trans hgrows₄).flows (hset s rfl)⟩
      · exact hall x hx
    cases above with
    | none => exact hrest c₁ h₁ (.refl c₁) nofun
    | some s =>
      obtain ⟨proto, hproto, hanswers⟩ := habove
      have hanswers₁ : c₁.Answers proto p.key false s := hkey ▸ hanswers.mono hgrows₁
      have hp₁ := (h₁.sound.valid.objects owner).properties p (hmem hgrows₁)
      have hdrawn : c₁.Drawn L.scope s p.types :=
        .inherited ((Inherits.proto hproto).mono hgrows₁) (hmem hgrows₁) hanswers₁
      refine .bind hL.within h₁
        (moves_addSubset hL h₁ (hanswers₁.in h₁.sound.valid) hp₁.types hdrawn) ?_
      rintro _ c₂ h₂ hgood₂ hset
      refine hrest c₂ h₂ hgood₂ ?_
      rintro _ ⟨⟩
      exact hset

omit hL in
/-- A property that an object lacks is made there and on the prototypes that lack it, and then all
of them are wired. -/
theorem addProperty_run (pass : Action Unit) (sc : Scope) (hc : c.Sound) {id : ObjectId}
    (hid : id.In c.extent) (hknown : (c.object id).isUnknown = false) {key : Key}
    (hlacks : (c.object id).property? key = none) (hkey : sc.grant.keys key ∨ c.Keyed key) :
    ∃ made p c₁, addProperty pass id key c =
        (wireProperties pass key (c.lacking key (c.chain id)).2 made >>= fun _ => pure p :
          Action Property) c₁ ∧
      Made sc c c₁ key made ∧ c₁.Ladder key (c.lacking key (c.chain id)).2 made ∧
        (id, p) ∈ made ∧ made.map Prod.fst = (c.lacking key (c.chain id)).1.reverse ++ [id] := by
  obtain ⟨hnew, hchain⟩ := List.nodup_cons.mp (nodup_chain hc.forest id)
  have howners : ∀ o ∈ (c.lacking key (c.chain id)).1.reverse, o.In c.extent ∧
      (c.object o).isUnknown = false ∧ (c.object o).property? key = none := by
    intro o ho
    have ho := List.mem_reverse.mp ho
    refine ⟨?_, (c.lacking_spec key (c.chain id)).1 o ho⟩
    exact (inherits_of_mem_chain (mem_of_mem_lacking ho)).target_in hc.valid
  obtain ⟨made, c₁, hrun, hmade, hfst⟩ := makeProperties sc hc
    (List.nodup_reverse.mpr (nodup_lacking hchain)) howners hkey
  have hnotmade : id ∉ made.map Prod.fst := by
    rw [hfst, List.mem_reverse]
    exact fun hid => hnew (mem_of_mem_lacking hid)
  have hgrows₁ := hmade.did.grows hc
  have hobject : c₁.object id = c.object id := hmade.others id hnotmade
  have hlast : Made sc c₁ (c₁.pushProperty id key) key [(id, c₁.nextProperty key)] :=
    made_pushProperty (hid.mono hgrows₁.extent) (by rw [hobject, hknown])
      (by rw [hobject, hlacks]) (hkey.imp_right (Keyed.mono hgrows₁))
  have hall := hmade.trans hlast (by
    intro x hx hx'
    rw [List.map_singleton, List.mem_singleton] at hx'
    exact hnotmade (List.mem_map.mpr ⟨x, hx, hx'⟩))
  have hfst' : (made ++ [(id, c₁.nextProperty key)]).map Prod.fst =
      (c.lacking key (c.chain id)).1.reverse ++ [id] := by
    rw [List.map_append, hfst, List.map_singleton]
  refine ⟨_, c₁.nextProperty key, _, ?_, hall, ?_, List.mem_append_right _ List.mem_cons_self,
    hfst'⟩
  · show ((List.mapM _ (c.lacking key (c.chain id)).1.reverse : Action _) >>= _) c = _
    rw [run_bind_ok hrun, run_bind_ok (createProperty_run id key)]
  · exact ladder_of_lacking hc (hall.did.grows hc) hall.proto id hfst' hall.found

/-- A property that an object lacks is made, and found from then on. -/
theorem moves_addProperty (hroom : L.Roomy) (h : L.At c) {id : ObjectId} (hid : id.In c.extent)
    (hknown : (c.object id).isUnknown = false) {key : Key}
    (hlacks : (c.object id).property? key = none) (hkey : L.scope.grant.keys key ∨ c.Keyed key) :
    L.Moves (addProperty L.pass id key) c fun p c' => (c'.object id).property? key = some p := by
  obtain ⟨made, p, c₁, hrun, hmade, hladder, hp, -⟩ :=
    addProperty_run L.pass L.scope h.sound hid hknown hlacks hkey
  have hsound := hmade.did.sound h.sound
  have hat : L.At c₁ := h.did hmade.did (by
    rw [hmade.worklist]
    exact h.rest)
  have hwire := moves_wireProperties hL hroom (Grows.refl _) hat key
    (c.lacking key (c.chain id)).2 hladder
  have hwhole := Law.Moves.tidying (P := fun _ c' => (c'.object id).property? key = some p)
    hL.within h.sound hmade.did hmade.journal hwire fun _ c' hgood hwired =>
      ⟨fun htidied => hmade.tidied htidied hwired,
        (hgood.grows hsound).property? (hmade.found (id, p) hp)⟩
  refine (outcome_congr hrun).mpr (outcome_bind.mpr (Outcome.imp hwhole ?_ fun _ _ h => h))
  exact fun _ _ hmoved => outcome_pure.mpr hmoved

/-- A property of an object that is not unknown is found, or made and found. -/
theorem moves_getKnown (hroom : L.Roomy) (h : L.At c) {id : ObjectId}
    (hid : id.In c.extent) (hknown : (c.object id).isUnknown = false) {key : Key}
    (hkey : L.scope.grant.keys key ∨ c.Keyed key) (own : Bool) :
    L.Moves (getProperty L.pass id key own) c fun s c' =>
      ∃ p, (c'.object id).property? key = some p ∧ s = if own then p.ownTypes else p.types := by
  refine .get ?_
  rw [if_neg (by rw [hknown]; exact Bool.false_ne_true)]
  cases hp : (c.object id).property? key with
  | some p => exact .pure h ⟨p, hp, rfl⟩
  | none =>
    refine .bind hL.within h (moves_addProperty hL hroom h hid hknown hp hkey) ?_
    exact fun p c' h' _ hp => .pure h' ⟨p, hp, rfl⟩

/-- The answer for a property is found, or made and found. -/
theorem moves_getProperty (hroom : L.Roomy) (h : L.At c) {id : ObjectId}
    (hid : id.In c.extent) {key : Key} (hkey : L.scope.grant.keys key ∨ c.Keyed key) (own : Bool) :
    L.Moves (getProperty L.pass id key own) c fun s c' => c'.Answers id key own s := by
  by_cases hunknown : (c.object id).isUnknown = true
  · refine .get ?_
    rw [if_pos hunknown]
    exact .pure h (.inl ⟨hunknown, rfl⟩)
  · have hknown : (c.object id).isUnknown = false := by simpa using hunknown
    exact .imp h (moves_getKnown hL hroom h hid hknown hkey own) fun _ _ _ _ hs => .inr hs

end Lawful

end Compartment

end FlowTypes
