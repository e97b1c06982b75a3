import FlowTypes.Proofs.StackTables

/-!
# Groups as the least congruence

What a run has said about the stack is a list of facts: nodes were made, placed on top of others,
merged and marked.  The facts relate nodes by the least equivalence that has the merged pairs and
goes down: nodes that were put below related nodes are related.

A table agrees with the facts if its groups are related nodes, and every node that was put below
another one is in the group that the other one's record has below it.  In the course of a merge this
holds only up to the pair that is to be merged next: the pair of nodes below may still be apart when
the nodes above have been joined.  That is why agreement is stated relative to a relation, which is
the groups themselves between two requests and the groups with the pending pair in between.

## Main results

* `Related`: the least congruence of the facts.
* `Grouped.same_iff_related`: the groups of a table that agrees are the related nodes.
* `Grouped.unites`: merging two related nodes keeps a table in agreement.
* `Grouped.make`, `Grouped.place`, `Grouped.mark`: so do the other requests.
-/

namespace FlowTypes

/-- What a request has said about the stack. -/
inductive StackFact
  /-- A node was made, with a set of its own and perhaps on top of another node. -/
  | made (node : StackId) (types : SetId) (inner : Option StackId)
  /-- A node was put below another one. -/
  | placed (node inner : StackId)
  | merged (one two : StackId)
  | marked (node : StackId) (flags : SlotFlags)
  deriving DecidableEq, Repr

namespace StackFact

/-- The nodes that a fact is about. -/
def nodes : StackFact → List StackId
  | made node _ inner => node :: inner.toList
  | placed node inner => [node, inner]
  | merged one two => [one, two]
  | marked node _ => [node]

variable (fs : List StackFact)

/-- A node was put below another one, when that was made or later. -/
def Given (n i : StackId) : Prop := .placed n i ∈ fs ∨ ∃ types, .made n types (some i) ∈ fs

/-- A node was made with this set. -/
def Created (n : StackId) (types : SetId) : Prop := ∃ inner, .made n types inner ∈ fs

/-- The least equivalence that has the merged pairs and relates what was put below related nodes. -/
inductive Related : StackId → StackId → Prop
  | merged {a b : StackId} (h : .merged a b ∈ fs) : Related a b
  | down {m n i j : StackId} (h : Related m n) (hi : Given fs m i) (hj : Given fs n j) : Related i j
  | refl (n : StackId) : Related n n
  | symm {a b : StackId} (h : Related a b) : Related b a
  | trans {a b c : StackId} (h : Related a b) (h' : Related b c) : Related a c

variable {fs} {fs' : List StackFact}

theorem Given.mono (hfs : fs ⊆ fs') {n i : StackId} (h : Given fs n i) : Given fs' n i :=
  h.imp (hfs ·) fun ⟨types, hmade⟩ => ⟨types, hfs hmade⟩

theorem Related.mono (hfs : fs ⊆ fs') {a b : StackId} (h : Related fs a b) : Related fs' a b := by
  induction h with
  | merged h => exact .merged (hfs h)
  | down _ hi hj ih => exact .down ih (hi.mono hfs) (hj.mono hfs)
  | refl n => exact .refl n
  | symm _ ih => exact .symm ih
  | trans _ _ ih ih' => exact .trans ih ih'

end StackFact

namespace StackFact

variable {fs : List StackFact} {n i : StackId} {types : SetId} {f : StackFact}

theorem subset_append : fs ⊆ fs ++ [f] := List.subset_append_left fs [f]

theorem mem_append_self : f ∈ fs ++ [f] := List.mem_append_right fs List.mem_cons_self

theorem given_append : Given (fs ++ [f]) n i ↔
    Given fs n i ∨ f = .placed n i ∨ ∃ types, f = .made n types (some i) := by
  simp only [Given, List.mem_append, List.mem_singleton]
  grind

theorem created_append : Created (fs ++ [f]) n types ↔
    Created fs n types ∨ ∃ inner, f = .made n types inner := by
  simp only [Created, List.mem_append, List.mem_singleton, exists_or]
  grind

end StackFact

/-! ## Marks -/

/-- The marks of a slot that are never taken away. -/
inductive SlotMark
  | boundWith
  | ignoreTag

/-- The slot has a mark. -/
def Slot.has (s : Slot) : SlotMark → Bool
  | .boundWith => s.boundWith
  | .ignoreTag => s.ignoreTag

/-- A mark is to be set. -/
def SlotFlags.has (flags : SlotFlags) : SlotMark → Bool
  | .boundWith => flags.boundWith
  | .ignoreTag => flags.ignoreTag

theorem Slot.has_combine (a b : Slot) (k : SlotMark) : (a.combine b).has k = (a.has k || b.has k) := by
  cases k <;> rfl

theorem Slot.has_mark (s : Slot) (flags : SlotFlags) (k : SlotMark) :
    (s.mark flags).has k = (s.has k || flags.has k) := by
  cases k <;> rfl

namespace StackTable

open StackFact

variable {fs : List StackFact} {R : SetId → SetId → Prop} {E E' : StackId → StackId → Prop}
  {t t' : StackTable} {a b i j m n x y : StackId}

/-! ## Groups with a pending pair -/

/-- The nodes would be in one group if a pair of nodes were. -/
def Upto (t : StackTable) (i j x y : StackId) : Prop :=
  ∀ E : StackId → StackId → Prop, Equivalence E → (∀ a b, t.Same a b → E a b) → E i j → E x y

theorem Same.upto (h : t.Same x y) : t.Upto i j x y := fun _ _ hsame _ => hsame x y h

theorem upto_pair : t.Upto i j i j := fun _ _ _ hpair => hpair

theorem equivalence_upto (t : StackTable) (i j : StackId) : Equivalence (t.Upto i j) where
  refl x _ hE _ _ := hE.refl x
  symm h E hE hsame hpair := hE.symm (h E hE hsame hpair)
  trans h h' E hE hsame hpair := hE.trans (h E hE hsame hpair) (h' E hE hsame hpair)

theorem Upto.same (h : t.Upto i j x y) (hpair : t.Same i j) : t.Same x y :=
  h t.Same t.equivalence_same (fun _ _ h => h) hpair

/-! ## Agreement -/

/-- The table agrees with the facts, up to a relation of nodes.  The sets of the nodes in a group are
related to the set of the group. -/
structure Grouped (fs : List StackFact) (R : SetId → SetId → Prop) (E : StackId → StackId → Prop)
    (t : StackTable) : Prop where
  closed : t.Closed
  nodes : ∀ f ∈ fs, ∀ n ∈ f.nodes, t.Has n
  sound : ∀ m n, t.Has m → t.Has n → t.Same m n → Related fs m n
  given : ∀ n i, t.Has n → (t.slot n).inner = some i → ∃ m, t.Same n m ∧ Given fs m i
  inner : ∀ n i, Given fs n i → ∃ k, (t.slot n).inner = some k ∧ E k i
  merged : ∀ a b, .merged a b ∈ fs → E a b
  made : ∀ n, t.Has n → ∃ s, Created fs n s
  types : ∀ n s, Created fs n s → R s (t.slot n).types
  marks : ∀ k n, t.Has n →
    ((t.slot n).has k = true ↔ ∃ m flags, .marked m flags ∈ fs ∧ flags.has k = true ∧ t.Same n m)

theorem Grouped.imp (h : Grouped fs R E t) (hE : ∀ x y, E x y → E' x y) : Grouped fs R E' t :=
  { h with
    inner := fun n i hi => (h.inner n i hi).imp fun k hk => ⟨hk.1, hE k i hk.2⟩
    merged := fun a b hab => hE a b (h.merged a b hab) }

theorem Grouped.mono {R' : SetId → SetId → Prop} (h : Grouped fs R E t)
    (hR : ∀ s s', R s s' → R' s s') : Grouped fs R' E t :=
  { h with types := fun n s hs => hR _ _ (h.types n s hs) }

theorem Grouped.has_of_given (h : Grouped fs R E t) (hi : Given fs n i) : t.Has n ∧ t.Has i := by
  obtain hplaced | ⟨s, hmade⟩ := hi
  · exact ⟨h.nodes _ hplaced n (by simp [StackFact.nodes]),
      h.nodes _ hplaced i (by simp [StackFact.nodes])⟩
  · exact ⟨h.nodes _ hmade n (by simp [StackFact.nodes]),
      h.nodes _ hmade i (by simp [StackFact.nodes])⟩

/-- Between two requests the groups are the related nodes. -/
theorem Grouped.same_of_related (h : Grouped fs R t.Same t) (hab : Related fs a b) : t.Same a b := by
  induction hab with
  | merged hab => exact h.merged _ _ hab
  | down _ hi hj ih =>
    -- The record of the group has one node below it, and both are in the group of that one.
    obtain ⟨k, hk, hki⟩ := h.inner _ _ hi
    obtain ⟨l, hl, hlj⟩ := h.inner _ _ hj
    rw [ih.slot_eq, hl] at hk
    cases hk
    exact hki.symm.trans hlj
  | refl n => rfl
  | symm _ ih => exact ih.symm
  | trans _ _ ih ih' => exact ih.trans ih'

theorem Grouped.same_iff_related (h : Grouped fs R t.Same t) (ha : t.Has a) (hb : t.Has b) :
    t.Same a b ↔ Related fs a b :=
  ⟨h.sound a b ha hb, h.same_of_related⟩

/-! ## Merging -/

section Unite

variable (h : Grouped fs R (t.Upto a b) t) (ha : t.Has a) (hb : t.Has b) (hne : ¬ t.Same a b)
include h ha hb hne

/-- The node below a joined group was put below one of its nodes, since the one below either half was. -/
theorem Grouped.given_unite (hn : t.Has n) (hi : ((t.merge a b).slot n).inner = some i) :
    ∃ m, (t.merge a b).Same n m ∧ Given fs m i := by
  rcases h.closed.merge_cases ha hb hne n with ⟨hjoined, -, hslot⟩ | ⟨hapart, hslot⟩
  · simp only [h.closed.same_merge_joined hb hne hjoined]
    rw [hslot] at hi
    rcases Slot.inner_combine hi with hi | ⟨-, hi⟩
    · obtain ⟨m, hm, hgiven⟩ := h.given a i ha hi
      exact ⟨m, .inl hm, hgiven⟩
    · obtain ⟨m, hm, hgiven⟩ := h.given b i hb hi
      exact ⟨m, .inr hm, hgiven⟩
  · simp only [h.closed.same_merge_apart hb hne hapart]
    rw [hslot] at hi
    exact h.given n i hn hi

/-- What was put below a node goes with the node below its group, if the nodes below the two halves go
together. -/
theorem Grouped.inner_unite (hE : Equivalence E) (hupto : ∀ x y, t.Upto a b x y → E x y)
    (hbelow : ∀ i j, (t.slot a).inner = some i → (t.slot b).inner = some j → E i j)
    (hi : Given fs n i) : ∃ k, ((t.merge a b).slot n).inner = some k ∧ E k i := by
  obtain ⟨k, hk, hki⟩ := h.inner n i hi
  have hki := hupto k i hki
  rcases h.closed.merge_cases ha hb hne n with ⟨-, hhalf, hslot⟩ | ⟨-, hslot⟩
  · rw [hslot]
    cases hfirst : (t.slot a).inner with
    | some j =>
      refine ⟨j, by simp [Slot.combine, hfirst], ?_⟩
      rcases hhalf with hhalf | hhalf <;> rw [hhalf] at hk
      · rw [hfirst] at hk
        cases hk
        exact hki
      · exact hE.trans (hbelow j k hfirst hk) hki
    | none =>
      refine ⟨k, ?_, hki⟩
      rcases hhalf with hhalf | hhalf <;> rw [hhalf] at hk
      · rw [hfirst] at hk
        cases hk
      · simp [Slot.combine, hfirst, hk]
  · exact ⟨k, by rw [hslot, hk], hki⟩

/-- The set of a joined group is the one of its first half, to which the other one is related. -/
theorem Grouped.types_unite (hR : Equivalence R) (htypes : R (t.slot a).types (t.slot b).types)
    {s : SetId} (hs : Created fs n s) : R s ((t.merge a b).slot n).types := by
  have hold := h.types n s hs
  rcases h.closed.merge_cases ha hb hne n with ⟨-, hhalf, hslot⟩ | ⟨-, hslot⟩ <;> rw [hslot]
  · rcases hhalf with hhalf | hhalf <;> rw [hhalf] at hold
    · exact hold
    · exact hR.trans hold (hR.symm htypes)
  · exact hold

/-- A joined group has the marks of both halves. -/
theorem Grouped.marks_unite (k : SlotMark) (hn : t.Has n) :
    ((t.merge a b).slot n).has k = true ↔
      ∃ m flags, .marked m flags ∈ fs ∧ flags.has k = true ∧ (t.merge a b).Same n m := by
  rcases h.closed.merge_cases ha hb hne n with ⟨hjoined, -, hslot⟩ | ⟨hapart, hslot⟩
  · simp only [h.closed.same_merge_joined hb hne hjoined, and_or_left, exists_or]
    rw [hslot, Slot.has_combine, Bool.or_eq_true, h.marks k a ha, h.marks k b hb]
  · simp only [h.closed.same_merge_apart hb hne hapart]
    rw [hslot, h.marks k n hn]

/-- Joining two groups of related nodes leaves a table in agreement, up to any relation that has the
new groups and the pair below. -/
theorem Grouped.unite (hR : Equivalence R) (hrelated : Related fs a b)
    (htypes : R (t.slot a).types (t.slot b).types) (hE : Equivalence E)
    (hsame : ∀ x y, (t.merge a b).Same x y → E x y)
    (hbelow : ∀ i j, (t.slot a).inner = some i → (t.slot b).inner = some j → E i j) :
    Grouped fs R E (t.merge a b) := by
  have hhas : ∀ n, (t.merge a b).Has n ↔ t.Has n := fun n => by rw [Has, size_merge, Has]
  have hjoin : ∀ {x y}, (t.merge a b).Same x y ↔
      t.Same x y ∨ t.Same x a ∧ t.Same y b ∨ t.Same x b ∧ t.Same y a :=
    h.closed.same_merge hb hne
  have hupto : ∀ x y, t.Upto a b x y → E x y := fun x y hxy =>
    hxy E hE (fun _ _ hold => hsame _ _ (hjoin.mpr (.inl hold)))
      (hsame a b (hjoin.mpr (.inr (.inl ⟨rfl, rfl⟩))))
  exact {
    closed := h.closed.merge ha hb
    nodes := fun f hf n hn => (hhas n).mpr (h.nodes f hf n hn)
    sound := by
      intro m n hm hn hmn
      rw [hhas] at hm hn
      rcases hjoin.mp hmn with hold | ⟨hma, hnb⟩ | ⟨hmb, hna⟩
      · exact h.sound m n hm hn hold
      · exact ((h.sound m a hm ha hma).trans hrelated).trans (h.sound n b hn hb hnb).symm
      · exact ((h.sound m b hm hb hmb).trans hrelated.symm).trans (h.sound n a hn ha hna).symm
    given := fun n i hn hi => h.given_unite ha hb hne ((hhas n).mp hn) hi
    inner := fun n i hi => h.inner_unite ha hb hne hE hupto hbelow hi
    merged := fun x y hxy => hupto x y (h.merged x y hxy)
    made := fun n hn => h.made n ((hhas n).mp hn)
    types := fun n s hs => h.types_unite ha hb hne hR htypes hs
    marks := fun k n hn => h.marks_unite ha hb hne k ((hhas n).mp hn) }

end Unite

/-- Merging two related nodes, and those below them, leaves a table in agreement. -/
theorem Grouped.unites (h : Grouped fs R (t.Upto a b) t) (hR : Equivalence R) (ha : t.Has a)
    (hb : t.Has b) (hrelated : Related fs a b) (hunites : Unites R t a b t') :
    Grouped fs R t'.Same t' := by
  induction hunites with
  | already hsame => exact h.imp fun x y hxy => hxy.same hsame
  | @last t a b hne htypes hends =>
    exact h.unite ha hb hne hR hrelated htypes (equivalence_same _) (fun _ _ h => h)
      fun i j hi hj => absurd hj (hends i j hi)
  | @next t t' a b i j hne htypes hi hj _ ih =>
    have hinner : ∀ {n k}, t.Has n → (t.slot n).inner = some k → (t.merge a b).Has k := by
      intro n k hn hk
      rw [Has, size_merge]
      exact h.closed.has_inner hn hk
    have hbelow : Related fs i j := by
      obtain ⟨m, hm, hgivenᵢ⟩ := h.given a i ha hi
      obtain ⟨n, hn, hgivenⱼ⟩ := h.given b j hb hj
      refine .down ?_ hgivenᵢ hgivenⱼ
      exact ((h.sound a m ha (h.has_of_given hgivenᵢ).1 hm).symm.trans hrelated).trans
        (h.sound b n hb (h.has_of_given hgivenⱼ).1 hn)
    refine ih ?_ (hinner ha hi) (hinner hb hj) hbelow
    refine h.unite ha hb hne hR hrelated htypes (equivalence_upto _ i j) (fun _ _ h => h.upto) ?_
    intro k l hk hl
    rw [hi] at hk
    rw [hj] at hl
    cases hk
    cases hl
    exact upto_pair

/-! ## Requests -/

/-- A fact about a table whose groups stay as they are.  What the records of the groups have beyond
what they had is what the fact says. -/
theorem Grouped.append {f : StackFact} (h : Grouped fs R t.Same t) (hclosed : t'.Closed)
    (hhas : ∀ n, t'.Has n ↔ t.Has n) (hsame : ∀ x y, t'.Same x y ↔ t.Same x y)
    (hE : ∀ x y, t.Same x y → E x y) (hnodes : ∀ n ∈ f.nodes, t.Has n)
    (hinner : ∀ n, (t'.slot n).inner = (t.slot n).inner ∨ (t.slot n).inner = none ∧
      ∃ m i, t.Same n m ∧ f = .placed m i ∧ (t'.slot n).inner = some i)
    (hplaced : ∀ n i, f = .placed n i → ∃ k, (t'.slot n).inner = some k ∧ E k i)
    (hmade : ∀ n s inner, f ≠ .made n s inner) (hmerged : ∀ a b, f = .merged a b → E a b)
    (htypes : ∀ n, (t'.slot n).types = (t.slot n).types)
    (hmarks : ∀ k n, (t'.slot n).has k = true ↔ (t.slot n).has k = true ∨
      ∃ m flags, f = .marked m flags ∧ flags.has k = true ∧ t.Same n m) :
    Grouped (fs ++ [f]) R E t' where
  closed := hclosed
  nodes g hg n hn := by
    rw [hhas]
    obtain hg | hg := List.mem_append.mp hg
    · exact h.nodes g hg n hn
    · rw [List.mem_singleton.mp hg] at hn
      exact hnodes n hn
  sound m n hm hn hmn := by
    rw [hhas] at hm hn
    exact (h.sound m n hm hn ((hsame m n).mp hmn)).mono subset_append
  given n i hn hi := by
    rw [hhas] at hn
    simp only [hsame]
    obtain hold | ⟨-, m, j, hm, rfl, hj⟩ := hinner n
    · rw [hold] at hi
      exact (h.given n i hn hi).imp fun m hm => ⟨hm.1, hm.2.mono subset_append⟩
    · rw [hj] at hi
      cases hi
      exact ⟨m, hm, .inl mem_append_self⟩
  inner n i hi := by
    obtain hi | hi | ⟨s, hi⟩ := given_append.mp hi
    · obtain ⟨k, hk, hki⟩ := h.inner n i hi
      obtain hold | ⟨hnone, -⟩ := hinner n
      · exact ⟨k, hold.trans hk, hE k i hki⟩
      · rw [hnone] at hk
        cases hk
    · exact hplaced n i hi
    · exact absurd hi (hmade n s _)
  merged x y hxy := by
    obtain hxy | hxy := List.mem_append.mp hxy
    · exact hE x y (h.merged x y hxy)
    · exact hmerged x y (List.mem_singleton.mp hxy).symm
  made n hn := (h.made n ((hhas n).mp hn)).imp fun _ hs => created_append.mpr (.inl hs)
  types n s hs := by
    rw [htypes]
    obtain hs | ⟨inner, hs⟩ := created_append.mp hs
    · exact h.types n s hs
    · exact absurd hs (hmade n s inner)
  marks k n hn := by
    rw [hhas] at hn
    simp only [hmarks, h.marks k n hn, hsame, List.mem_append, List.mem_singleton, or_and_right,
      exists_or, eq_comm (a := StackFact.marked _ _)]

section Make

variable (h : Grouped fs R t.Same t) {inner : Option StackId} (hinner : ∀ i ∈ inner, t.Has i)
  (types : SetId)
include h hinner

/-- What was put below a node is in the group below it, also for the new node. -/
theorem Grouped.inner_make (hi : Given (fs ++ [.made ⟨t.size⟩ types inner]) n i) :
    ∃ k, ((t.push { types, inner }).slot n).inner = some k ∧ (t.push { types, inner }).Same k i := by
  rcases given_append.mp hi with hi | hi | ⟨s, hi⟩
  · obtain ⟨hn, hi'⟩ := h.has_of_given hi
    obtain ⟨k, hk, hki⟩ := h.inner n i hi
    refine ⟨k, by rw [h.closed.slot_push hn, hk], ?_⟩
    have hk' := h.closed.has_inner hn hk
    exact (h.closed.same_push (has_push_old hk') (has_push_old hi')).mpr (.inr ⟨hk', hi', hki⟩)
  · cases hi
  · cases hi
    exact ⟨i, by rw [h.closed.slot_push_self], rfl⟩

omit hinner in
/-- The new node has no marks, and no other node is in its group. -/
theorem Grouped.marks_make (k : SlotMark) (hn : (t.push { types, inner }).Has n) :
    ((t.push { types, inner }).slot n).has k = true ↔
      ∃ m flags, .marked m flags ∈ fs ++ [.made ⟨t.size⟩ types inner] ∧ flags.has k = true ∧
        (t.push { types, inner }).Same n m := by
  have hmarked : ∀ m flags, .marked m flags ∈ fs ++ [.made ⟨t.size⟩ types inner] ↔
      .marked m flags ∈ fs := by simp
  have hold : ∀ {m flags}, .marked m flags ∈ fs → t.Has m :=
    fun hm => h.nodes _ hm _ (by simp [StackFact.nodes])
  simp only [hmarked]
  rcases has_push.mp hn with hn' | rfl
  · rw [h.closed.slot_push hn', h.marks k n hn']
    refine exists_congr fun m => exists_congr fun flags => and_congr_right fun hm =>
      and_congr_right fun _ => ?_
    rw [h.closed.same_push hn (has_push_old (hold hm))]
    constructor
    · exact fun hmn => .inr ⟨hn', hold hm, hmn⟩
    · rintro (rfl | ⟨-, -, hmn⟩)
      · rfl
      · exact hmn
  · have hout : ¬ t.Has ⟨t.size⟩ := Nat.lt_irrefl _
    rw [h.closed.slot_push_self]
    constructor
    · intro hk
      cases k <;> cases hk
    · rintro ⟨m, flags, hm, -, hnm⟩
      rcases (h.closed.same_push hn (has_push_old (hold hm))).mp hnm with rfl | ⟨hnew, -⟩
      · exact absurd (hold hm) hout
      · exact absurd hnew hout

/-- A new node, in a group of its own. -/
theorem Grouped.make (hR : Equivalence R) :
    Grouped (fs ++ [.made ⟨t.size⟩ types inner]) R (t.push { types, inner }).Same
      (t.push { types, inner }) where
  closed := h.closed.push hinner
  nodes f hf n hn := by
    rcases List.mem_append.mp hf with hf | hf
    · exact has_push_old (h.nodes f hf n hn)
    · rw [List.mem_singleton.mp hf] at hn
      obtain rfl | hn : n = ⟨t.size⟩ ∨ inner = some n := by simpa [StackFact.nodes] using hn
      · exact has_push.mpr (.inr rfl)
      · exact has_push_old (hinner n hn)
  sound m n hm hn hmn := by
    rcases (h.closed.same_push hm hn).mp hmn with rfl | ⟨hm, hn, hmn⟩
    · exact .refl m
    · exact (h.sound m n hm hn hmn).mono subset_append
  given n i hn hi := by
    rcases has_push.mp hn with hn | rfl
    · rw [h.closed.slot_push hn] at hi
      obtain ⟨m, hm, hgiven⟩ := h.given n i hn hi
      have hm' := (h.has_of_given hgiven).1
      refine ⟨m, ?_, hgiven.mono subset_append⟩
      exact (h.closed.same_push (has_push_old hn) (has_push_old hm')).mpr (.inr ⟨hn, hm', hm⟩)
    · rw [h.closed.slot_push_self] at hi
      exact ⟨⟨t.size⟩, rfl, given_append.mpr (.inr (.inr ⟨types, by rw [← hi]⟩))⟩
  inner n i hi := h.inner_make hinner types hi
  merged x y hxy := by
    rcases List.mem_append.mp hxy with hxy | hxy
    · have hx := h.nodes _ hxy x (by simp [StackFact.nodes])
      have hy := h.nodes _ hxy y (by simp [StackFact.nodes])
      exact (h.closed.same_push (has_push_old hx) (has_push_old hy)).mpr
        (.inr ⟨hx, hy, h.merged x y hxy⟩)
    · cases List.mem_singleton.mp hxy
  made n hn := by
    rcases has_push.mp hn with hn | rfl
    · exact (h.made n hn).imp fun _ hs => created_append.mpr (.inl hs)
    · exact ⟨types, inner, mem_append_self⟩
  types n s hs := by
    rcases created_append.mp hs with ⟨below, hs⟩ | ⟨below, hs⟩
    · rw [h.closed.slot_push (h.nodes _ hs n (by simp [StackFact.nodes]))]
      exact h.types n s ⟨below, hs⟩
    · cases hs
      rw [h.closed.slot_push_self]
      exact hR.refl types
  marks k n hn := h.marks_make types k hn

end Make

/-- A merged pair is related from then on. -/
theorem Grouped.merge (h : Grouped fs R t.Same t) (hR : Equivalence R) (ha : t.Has a) (hb : t.Has b)
    (hunites : Unites R t a b t') : Grouped (fs ++ [.merged a b]) R t'.Same t' := by
  refine Grouped.unites (t := t) ?_ hR ha hb (.merged mem_append_self) hunites
  refine h.append h.closed (fun _ => Iff.rfl) (fun _ _ => Iff.rfl) (fun _ _ h => h.upto) ?_
    (fun _ => .inl rfl) nofun nofun ?_ (fun _ => rfl) fun k n => ?_
  · intro n hn
    obtain rfl | rfl : n = a ∨ n = b := by simpa [StackFact.nodes] using hn
    · exact ha
    · exact hb
  · rintro x y ⟨⟩
    exact upto_pair
  · simp

/-- A node that is put below another one goes to the node that is there already. -/
theorem Grouped.placeMore (h : Grouped fs R t.Same t) (hR : Equivalence R) (hn : t.Has n)
    (hi : t.Has i) (hoccupied : (t.slot n).inner = some j) (hunites : Unites R t j i t') :
    Grouped (fs ++ [.placed n i]) R t'.Same t' := by
  have hrelated : Related (fs ++ [.placed n i]) j i := by
    obtain ⟨m, hm, hgiven⟩ := h.given n j hn hoccupied
    have hmn := (h.sound n m hn (h.has_of_given hgiven).1 hm).symm
    exact .down (hmn.mono subset_append) (hgiven.mono subset_append) (.inl mem_append_self)
  refine Grouped.unites (t := t) ?_ hR (h.closed.has_inner hn hoccupied) hi hrelated hunites
  refine h.append h.closed (fun _ => Iff.rfl) (fun _ _ => Iff.rfl) (fun _ _ h => h.upto) ?_
    (fun _ => .inl rfl) ?_ nofun nofun (fun _ => rfl) fun k m => ?_
  · intro m hm
    obtain rfl | rfl : m = n ∨ m = i := by simpa [StackFact.nodes] using hm
    · exact hn
    · exact hi
  · rintro m k ⟨⟩
    exact ⟨j, hoccupied, upto_pair⟩
  · simp

/-- A node that is put below another one with nothing below it. -/
theorem Grouped.place (h : Grouped fs R t.Same t) (hn : t.Has n) (hi : t.Has i)
    (hfree : (t.slot n).inner = none) :
    Grouped (fs ++ [.placed n i]) R (t.update n { t.slot n with inner := some i }).Same
      (t.update n { t.slot n with inner := some i }) := by
  have hslot : ∀ m, (t.update n { t.slot n with inner := some i }).slot m =
      if t.find m = t.find n then { t.slot m with inner := some i } else t.slot m :=
    fun _ => slot_change h.closed hn fun s => { s with inner := some i }
  refine h.append (h.closed.update ?_) (fun _ => Iff.rfl) (fun _ _ => Iff.rfl) (fun _ _ h => h) ?_ ?_
    ?_ nofun nofun (fun m => ?_) fun k m => ?_
  · rintro _ ⟨⟩
    exact hi
  · intro m hm
    obtain rfl | rfl : m = n ∨ m = i := by simpa [StackFact.nodes] using hm
    · exact hn
    · exact hi
  · intro m
    rw [hslot]
    split
    · rename_i hm
      refine .inr ⟨?_, n, i, hm, rfl, rfl⟩
      rw [Same.slot_eq (t := t) (a := m) (b := n) hm, hfree]
    · exact .inl rfl
  · rintro m k ⟨⟩
    refine ⟨i, ?_, rfl⟩
    rw [hslot, if_pos rfl]
  · rw [hslot]
    split <;> rfl
  · rw [hslot]
    have : ∀ s : Slot, ({ s with inner := some i } : Slot).has k = s.has k := fun s => by
      cases k <;> rfl
    split <;> simp [this]

/-- Marks that are set on a node. -/
theorem Grouped.mark (h : Grouped fs R t.Same t) (hn : t.Has n) (flags : SlotFlags) :
    Grouped (fs ++ [.marked n flags]) R (t.update n ((t.slot n).mark flags)).Same
      (t.update n ((t.slot n).mark flags)) := by
  have hslot : ∀ m, (t.update n ((t.slot n).mark flags)).slot m =
      if t.find m = t.find n then (t.slot m).mark flags else t.slot m :=
    fun _ => slot_change h.closed hn (·.mark flags)
  refine h.append (h.closed.update ?_) (fun _ => Iff.rfl) (fun _ _ => Iff.rfl) (fun _ _ h => h) ?_ ?_
    nofun nofun nofun (fun m => ?_) fun k m => ?_
  · exact fun i hi => h.closed.has_inner hn hi
  · intro m hm
    obtain rfl : m = n := by simpa [StackFact.nodes] using hm
    exact hn
  · intro m
    rw [hslot]
    split <;> exact .inl rfl
  · rw [hslot]
    split <;> rfl
  · rw [hslot]
    split
    · rename_i hm
      have hm : t.Same m n := hm
      rw [Slot.has_mark, Bool.or_eq_true]
      simp [hm]
    · rename_i hm
      have hm : ¬ t.Same m n := hm
      simp only [StackFact.marked.injEq, iff_self_or]
      rintro ⟨_, _, ⟨rfl, rfl⟩, -, hsame⟩
      exact absurd hsame hm

end StackTable

end FlowTypes
