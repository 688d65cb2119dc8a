import BlogMarkdown.Proofs.Dom.Forest
/-!
# The links of a node store

`Store.Holds s f` says that the five links of each node of `s` tell the ordered forest `f`; a store is well formed when
its links tell some forest.  For each of the elementary operations one lemma gives every field of every node
afterwards (`get?_detach`, `get?_append`, `get?_insertBefore`), and from it follows the forest the links tell then.
-/
namespace BlogMarkdown.Dom

open Relation (TransGen)

attribute [ext] Node

variable {s : Store} {f : Forest}

/-- **The links of a node fit a forest**: the parent link is membership in a child list, the first and the last child
are the ends of the node's own list, and its siblings are its neighbours in the list it stands in. -/
structure Node.Fits (f : Forest) (id : NodeId) (n : Node) : Prop where
  data : f.data id = some n.data
  parent : ∀ p, n.parent = some p ↔ id ∈ f.children p
  first : n.firstChild = (f.children id).head?
  last : n.lastChild = (f.children id).getLast?
  prev : ∀ {p}, id ∈ f.children p → n.prevSibling = predecessor id (f.children p)
  next : ∀ {p}, id ∈ f.children p → n.nextSibling = successor id (f.children p)
  alone : n.parent = none → n.prevSibling = none ∧ n.nextSibling = none

theorem Node.Fits.not_mem {id : NodeId} {n : Node} (h : n.Fits f id) (hn : n.parent = none) (p : NodeId) :
    id ∉ f.children p := fun hp => by
  rw [(h.parent p).2 hp] at hn
  cases hn

namespace Store

/-- The links of a store tell a valid forest. -/
structure Holds (s : Store) (f : Forest) : Prop where
  valid : f.Valid
  size : s.size = f.size
  fits : ∀ {id n}, s.get? id = some n → n.Fits f id

/-- **A store is well formed** if its links encode a finite ordered forest. -/
def WellFormed (s : Store) : Prop := ∃ f, s.Holds f

theorem Holds.of_eq {g : Forest} (h : s.Holds f) (he : f = g) : s.Holds g := he ▸ h

/-! ## The links by name -/

theorem get?_eq_none_iff {id : NodeId} : s.get? id = none ↔ s.size ≤ id := Array.getElem?_eq_none_iff

theorem Holds.exists_node (h : s.Holds f) {id : NodeId} (hid : id < f.size) : ∃ n, s.get? id = some n := by
  rw [← h.size] at hid
  exact Option.ne_none_iff_exists'.1 fun hn => absurd (get?_eq_none_iff.1 hn) (Nat.not_le.2 hid)

theorem Holds.cases_node (h : s.Holds f) (id : NodeId) :
    (f.size ≤ id ∧ s.get? id = none) ∨ ∃ n, s.get? id = some n ∧ n.Fits f id := by
  cases hn : s.get? id with
  | none => exact .inl ⟨h.size ▸ get?_eq_none_iff.1 hn, rfl⟩
  | some n => exact .inr ⟨n, rfl, h.fits hn⟩

theorem Holds.data?_eq (h : s.Holds f) (id : NodeId) : s.data? id = f.data id := by
  rcases h.cases_node id with ⟨hid, hn⟩ | ⟨n, hn, hf⟩
  · rw [data?, hn, h.valid.data_eq_none hid, Option.map_none]
  · rw [data?, hn, hf.data, Option.map_some]

theorem Holds.parent_eq_some_iff (h : s.Holds f) {c p : NodeId} : s.parent c = some p ↔ c ∈ f.children p := by
  rcases h.cases_node c with ⟨hc, hn⟩ | ⟨n, hn, hf⟩
  · rw [parent, hn, Option.bind_none]
    exact ⟨(nomatch ·), fun hp => absurd (h.valid.child_lt hp) (Nat.not_lt.2 hc)⟩
  · rw [parent, hn, Option.bind_some, hf.parent]

theorem Holds.parent_eq_none_iff (h : s.Holds f) {c : NodeId} : s.parent c = none ↔ ∀ p, c ∉ f.children p := by
  rw [Option.eq_none_iff_forall_ne_some]
  exact forall_congr' fun p => not_congr h.parent_eq_some_iff

theorem Holds.firstChild_eq (h : s.Holds f) (p : NodeId) : s.firstChild p = (f.children p).head? := by
  rcases h.cases_node p with ⟨hp, hn⟩ | ⟨n, hn, hf⟩
  · rw [firstChild, hn, h.valid.children_eq_nil hp]
    rfl
  · rw [firstChild, hn, Option.bind_some, hf.first]

theorem Holds.lastChild_eq (h : s.Holds f) (p : NodeId) : s.lastChild p = (f.children p).getLast? := by
  rcases h.cases_node p with ⟨hp, hn⟩ | ⟨n, hn, hf⟩
  · rw [lastChild, hn, h.valid.children_eq_nil hp]
    rfl
  · rw [lastChild, hn, Option.bind_some, hf.last]

theorem Holds.prevSibling_eq (h : s.Holds f) {c p : NodeId} (hc : c ∈ f.children p) :
    s.prevSibling c = predecessor c (f.children p) := by
  obtain ⟨n, hn⟩ := h.exists_node (h.valid.child_lt hc)
  rw [prevSibling, hn, Option.bind_some, (h.fits hn).prev hc]

theorem Holds.nextSibling_eq (h : s.Holds f) {c p : NodeId} (hc : c ∈ f.children p) :
    s.nextSibling c = successor c (f.children p) := by
  obtain ⟨n, hn⟩ := h.exists_node (h.valid.child_lt hc)
  rw [nextSibling, hn, Option.bind_some, (h.fits hn).next hc]

theorem Holds.siblings_eq_none (h : s.Holds f) {c : NodeId} (hc : ∀ p, c ∉ f.children p) :
    s.prevSibling c = none ∧ s.nextSibling c = none := by
  rcases h.cases_node c with ⟨-, hn⟩ | ⟨n, hn, hf⟩
  · rw [prevSibling, nextSibling, hn]
    exact ⟨rfl, rfl⟩
  · rw [prevSibling, nextSibling, hn]
    refine hf.alone (Option.eq_none_iff_forall_ne_some.2 fun p hp => hc p ((hf.parent p).1 hp))

/-- **Sibling links are mutually inverse**, and they stay in one child list. -/
theorem Holds.nextSibling_eq_some_iff (h : s.Holds f) {a b p : NodeId} (hb : b ∈ f.children p) :
    s.nextSibling a = some b ↔ predecessor b (f.children p) = some a := by
  rw [predecessor_eq_some_iff (h.valid.nodup p)]
  by_cases ha : ∃ q, a ∈ f.children q
  · obtain ⟨q, ha⟩ := ha
    rw [h.nextSibling_eq ha]
    constructor
    · intro hs
      rwa [h.valid.unique hb (mem_of_successor hs)]
    · intro hs
      obtain ⟨u, v, huv⟩ := (successor_eq_some_iff (h.valid.nodup p)).1 hs
      rwa [h.valid.unique ha (show a ∈ f.children p by rw [huv]; simp)]
  · rw [(h.siblings_eq_none fun p hp => ha ⟨p, hp⟩).2,
      successor_of_not_mem fun hp => ha ⟨p, hp⟩]

theorem Holds.prevSibling_eq_some_iff (h : s.Holds f) {a b p : NodeId} (ha : a ∈ f.children p) :
    s.prevSibling b = some a ↔ successor a (f.children p) = some b := by
  by_cases hb : ∃ q, b ∈ f.children q
  · obtain ⟨q, hb⟩ := hb
    rw [h.prevSibling_eq hb, predecessor_eq_some_iff (h.valid.nodup q)]
    constructor
    · intro hs
      obtain ⟨u, v, huv⟩ := (successor_eq_some_iff (h.valid.nodup q)).1 hs
      rwa [h.valid.unique ha (show a ∈ f.children q by rw [huv]; simp)]
    · intro hs
      rwa [h.valid.unique hb (mem_of_successor hs)]
  · rw [(h.siblings_eq_none fun p hp => hb ⟨p, hp⟩).1]
    exact ⟨(nomatch ·), fun hs => absurd ⟨p, mem_of_successor hs⟩ hb⟩

theorem Holds.exists_parent_of_nextSibling (h : s.Holds f) {a b : NodeId} (hs : s.nextSibling a = some b) :
    ∃ p, a ∈ f.children p ∧ b ∈ f.children p := by
  by_cases ha : ∃ p, a ∈ f.children p
  · obtain ⟨p, ha⟩ := ha
    rw [h.nextSibling_eq ha] at hs
    exact ⟨p, ha, mem_of_successor hs⟩
  · rw [(h.siblings_eq_none fun p hp => ha ⟨p, hp⟩).2] at hs
    cases hs

theorem Holds.exists_parent_of_prevSibling (h : s.Holds f) {a b : NodeId} (hs : s.prevSibling a = some b) :
    ∃ p, a ∈ f.children p ∧ b ∈ f.children p := by
  by_cases ha : ∃ p, a ∈ f.children p
  · obtain ⟨p, ha⟩ := ha
    rw [h.prevSibling_eq ha] at hs
    exact ⟨p, ha, mem_of_predecessor hs⟩
  · rw [(h.siblings_eq_none fun p hp => ha ⟨p, hp⟩).1] at hs
    cases hs

/-- No sibling link leads to a node that stands nowhere. -/
theorem Holds.siblings_ne (h : s.Holds f) {id : NodeId} (hid : ∀ p, id ∉ f.children p) (t : NodeId) :
    s.prevSibling t ≠ some id ∧ s.nextSibling t ≠ some id := by
  constructor
  · intro he
    obtain ⟨p, -, hp⟩ := h.exists_parent_of_prevSibling he
    exact hid p hp
  · intro he
    obtain ⟨p, -, hp⟩ := h.exists_parent_of_nextSibling he
    exact hid p hp

theorem Holds.chain_eq (h : s.Holds f) {p : NodeId} : ∀ (l r : List NodeId) (steps : Nat), f.children p = l ++ r →
    r.length ≤ steps → s.chain steps r.head? = r
  | l, [], 0, _, _ => rfl
  | l, [], _ + 1, _, _ => rfl
  | l, c :: r, 0, _, hr => absurd hr (Nat.not_succ_le_zero _)
  | l, c :: r, steps + 1, hl, hr => by
    have hnd := h.valid.nodup p
    have hnext : s.nextSibling c = r.head? := by
      rw [h.nextSibling_eq (show c ∈ f.children p by rw [hl]; simp), hl]
      exact (neighbours_of_split (hl ▸ hnd)).1
    show c :: s.chain steps (s.nextSibling c) = c :: r
    rw [hnext, h.chain_eq (l ++ [c]) r steps (by rw [hl, List.append_assoc]; rfl) (Nat.le_of_succ_le_succ hr)]

theorem length_le_of_nodup {l : List NodeId} {n : Nat} (h : l.Nodup) (hl : ∀ x ∈ l, x < n) : l.length ≤ n := by
  have := (List.subperm_of_subset h fun x hx => List.mem_range.2 (hl x hx)).length_le
  rwa [List.length_range] at this

/-- **Walking from the first child along the next links gives all children in order.** -/
theorem Holds.children_eq (h : s.Holds f) (p : NodeId) : s.children p = f.children p := by
  have hlen := length_le_of_nodup (h.valid.nodup p) fun _ hx => h.valid.child_lt hx
  rw [children, h.firstChild_eq, h.size]
  exact h.chain_eq [] _ _ rfl (Nat.le_succ_of_le hlen)

def chainBack (s : Store) : Nat → Option NodeId → List NodeId
  | 0, _ => []
  | _, none => []
  | steps + 1, some id => id :: s.chainBack steps (s.prevSibling id)

theorem Holds.chainBack_eq (h : s.Holds f) {p : NodeId} : ∀ (l r : List NodeId) (steps : Nat),
    f.children p = l.reverse ++ r → l.length ≤ steps → s.chainBack steps l.head? = l
  | [], r, 0, _, _ => rfl
  | [], r, _ + 1, _, _ => rfl
  | c :: l, r, 0, _, hl => absurd hl (Nat.not_succ_le_zero _)
  | c :: l, r, steps + 1, hcut, hl => by
    rw [List.reverse_cons, List.append_assoc, List.singleton_append] at hcut
    have hnd := h.valid.nodup p
    have hprev : s.prevSibling c = l.head? := by
      rw [h.prevSibling_eq (show c ∈ f.children p by rw [hcut]; simp), hcut, ← List.getLast?_reverse]
      exact (neighbours_of_split (hcut ▸ hnd)).2
    show c :: s.chainBack steps (s.prevSibling c) = c :: l
    rw [hprev, h.chainBack_eq l (c :: r) steps hcut (Nat.le_of_succ_le_succ hl)]

theorem Holds.children_reverse_eq (h : s.Holds f) (p : NodeId) :
    s.chainBack (s.size + 1) (s.lastChild p) = (f.children p).reverse := by
  have hlen := length_le_of_nodup (h.valid.nodup p) fun _ hx => h.valid.child_lt hx
  rw [h.lastChild_eq, h.size, ← List.head?_reverse]
  refine h.chainBack_eq (p := p) _ [] _ ?_ (List.length_reverse.trans_le (Nat.le_succ_of_le hlen))
  rw [List.reverse_reverse, List.append_nil]

theorem Holds.nextSibling_iff_prevSibling (h : s.Holds f) {a b : NodeId} :
    s.nextSibling a = some b ↔ s.prevSibling b = some a := by
  constructor
  · intro hs
    obtain ⟨p, -, hb⟩ := h.exists_parent_of_nextSibling hs
    exact (h.prevSibling_eq hb).trans ((h.nextSibling_eq_some_iff hb).1 hs)
  · intro hs
    obtain ⟨p, hb, -⟩ := h.exists_parent_of_prevSibling hs
    rw [h.nextSibling_eq_some_iff hb, ← h.prevSibling_eq hb, hs]

/-- The parent links say what is below what. -/
theorem Holds.parent_eq_below (h : s.Holds f) : (fun c p => s.parent c = some p) = f.Below :=
  funext fun _ => funext fun _ => propext h.parent_eq_some_iff

/-- **What well-formed links say**: sibling links are mutually inverse, the walk from the first child gives the nodes
whose parent link leads to a node, the walk back from the last child gives the same in reverse, and parent links make
no cycle. -/
theorem WellFormed.links (h : s.WellFormed) :
    (∀ a b, s.nextSibling a = some b ↔ s.prevSibling b = some a) ∧
      (∀ p c, c ∈ s.children p ↔ s.parent c = some p) ∧
      (∀ p, s.chainBack (s.size + 1) (s.lastChild p) = (s.children p).reverse) ∧
      ∀ id, ¬ TransGen (fun c p => s.parent c = some p) id id := by
  obtain ⟨f, h⟩ := h
  refine ⟨fun a b => h.nextSibling_iff_prevSibling, fun p c => ?_, fun p => ?_, fun id => ?_⟩
  · rw [h.children_eq, h.parent_eq_some_iff]
  · rw [h.children_reverse_eq, h.children_eq]
  · rw [h.parent_eq_below]
    exact h.valid.acyclic id

/-! ## What an operation does to each node -/

/-- A change that reaches a node only through `link`. -/
def through (link : Option NodeId) (id : NodeId) (g : Node → Node) (n : Node) : Node :=
  if link = some id then g n else n

theorem get?_modify (s : Store) (link : Option NodeId) (g : Node → Node) (id : NodeId) :
    (s.modify link g).get? id = (s.get? id).map (through link id g) := by
  have hne (h : link ≠ some id) : through link id g = fun n => n := funext fun n => if_neg h
  cases link with
  | none =>
    rw [hne (by simp), Option.map_id']
    rfl
  | some i =>
    show (s.nodes.modify i g)[id]? = s.nodes[id]?.map (through (some i) id g)
    rw [Array.getElem?_modify]
    by_cases h : i = id
    · have : through (some i) id g = g := funext fun n => if_pos (by rw [h])
      rw [if_pos h, this]
    · rw [if_neg h, hne (by simpa using h), Option.map_id']

theorem size_modify (s : Store) (link : Option NodeId) (g : Node → Node) : (s.modify link g).size = s.size := by
  cases link with
  | none => rfl
  | some i => exact Array.size_modify

/-- A node as `detach target` leaves it. -/
def unlinked (s : Store) (target id : NodeId) (n : Node) : Node :=
  { data := n.data
    parent := if id = target then none else n.parent
    firstChild := if s.parent target = some id ∧ s.prevSibling target = none then s.nextSibling target else n.firstChild
    lastChild := if s.parent target = some id ∧ s.nextSibling target = none then s.prevSibling target else n.lastChild
    prevSibling := if id = target then none
      else if s.nextSibling target = some id then s.prevSibling target else n.prevSibling
    nextSibling := if id = target then none
      else if s.prevSibling target = some id then s.nextSibling target else n.nextSibling }

theorem detach_eq_modify {t : Node} {target : NodeId} (ht : s.get? target = some t) :
    s.detach target =
      ((((s.modify t.prevSibling fun n => { n with nextSibling := t.nextSibling }).modify
        (if t.prevSibling = none then t.parent else none) fun n => { n with firstChild := t.nextSibling }).modify
        t.nextSibling fun n => { n with prevSibling := t.prevSibling }).modify
        (if t.nextSibling = none then t.parent else none) fun n => { n with lastChild := t.prevSibling }).modify
        (some target) fun n => { n with parent := none, prevSibling := none, nextSibling := none } := by
  rw [detach, ht]
  cases hp : t.prevSibling <;> cases hx : t.nextSibling <;> simp only [hp, hx] <;> rfl

theorem get?_detach (s : Store) (target id : NodeId) :
    (s.detach target).get? id = (s.get? id).map (s.unlinked target id) := by
  cases ht : s.get? target with
  | none =>
    have hid : id = target → s.get? id = none := fun h => h ▸ ht
    cases hn : s.get? id with
    | none => simp [detach, ht, hn]
    | some n =>
      have : id ≠ target := fun h => by rw [hid h] at hn; cases hn
      simp [detach, ht, hn, unlinked, parent, prevSibling, nextSibling, this]
  | some t =>
    -- five changes in a row, each through one link; field by field they come to the conditions of `unlinked`
    rw [detach_eq_modify ht]
    simp only [get?_modify, Option.map_map]
    congr 1
    funext n
    simp only [Function.comp_apply, unlinked, through, parent, prevSibling, nextSibling, ht, Option.bind_some]
    apply Node.ext <;> simp only [apply_ite Node.data, apply_ite Node.parent, apply_ite Node.firstChild,
      apply_ite Node.lastChild, apply_ite Node.prevSibling, apply_ite Node.nextSibling] <;> grind

/-- A node as `append` leaves it, once the child stands nowhere. -/
def adopted (s : Store) (p c id : NodeId) (n : Node) : Node :=
  { data := n.data
    parent := if id = c then some p else n.parent
    firstChild := if id = p ∧ n.firstChild = none then some c else n.firstChild
    lastChild := if id = p then some c else n.lastChild
    prevSibling := if id = c then s.lastChild p else n.prevSibling
    nextSibling := if s.lastChild p = some id then some c else if id = c then none else n.nextSibling }

theorem get?_append (s : Store) (p c id : NodeId) :
    (s.append (some p) (some c)).get? id =
      ((s.detachAttached (some c)).get? id).map ((s.detachAttached (some c)).adopted p c id) := by
  rw [append]
  simp only [get?_modify, Option.map_map]
  congr 1
  funext n
  simp only [Function.comp_apply, adopted, through, Option.bind_some, Option.isNone_iff_eq_none]
  apply Node.ext <;> simp only [ite_self, apply_ite Node.data, apply_ite Node.parent, apply_ite Node.firstChild,
    apply_ite Node.lastChild, apply_ite Node.prevSibling, apply_ite Node.nextSibling] <;> grind

/-- A node as `insertBefore` leaves it, once the new node stands nowhere. -/
def parted (s : Store) (sibling new id : NodeId) (n : Node) : Node :=
  { data := n.data
    parent := if id = new then s.parent sibling else n.parent
    firstChild := if s.parent sibling = some id ∧ s.prevSibling sibling = none then some new else n.firstChild
    lastChild := n.lastChild
    prevSibling := if id = sibling then some new else if id = new then s.prevSibling sibling else n.prevSibling
    nextSibling := if s.prevSibling sibling = some id then some new
      else if id = new then some sibling else n.nextSibling }

theorem get?_insertBefore (s : Store) (sibling new id : NodeId) :
    (s.insertBefore (some sibling) (some new)).get? id =
      ((s.detachAttached (some new)).get? id).map ((s.detachAttached (some new)).parted sibling new id) := by
  rw [insertBefore]
  simp only [Option.bind_some]
  cases hp : (s.detachAttached (some new)).prevSibling sibling <;>
  · simp only [Option.isSome_none, Option.isSome_some, Bool.false_eq_true, if_true, if_false, get?_modify,
      Option.map_map]
    congr 1
    funext n
    simp only [Function.comp_apply, parted, through, hp]
    apply Node.ext <;> simp only [apply_ite Node.data, apply_ite Node.parent, apply_ite Node.firstChild,
      apply_ite Node.lastChild, apply_ite Node.prevSibling, apply_ite Node.nextSibling] <;> grind

/-! ## The forest afterwards -/

theorem holds_empty : empty.Holds Forest.empty where
  valid := Forest.valid_empty
  size := rfl
  fits {id n} hn := by
    have hid : id = 0 := by
      by_contra hid
      rw [get?_eq_none_iff.2 (Nat.one_le_iff_ne_zero.2 hid)] at hn
      cases hn
    subst hid
    cases hn
    exact
      { data := rfl
        parent := fun p => ⟨(nomatch ·), fun hp => absurd hp List.not_mem_nil⟩
        first := rfl
        last := rfl
        prev := fun hp => absurd hp List.not_mem_nil
        next := fun hp => absurd hp List.not_mem_nil
        alone := fun _ => ⟨rfl, rfl⟩ }

theorem get?_create (s : Store) (data : NodeData) (id : NodeId) :
    (s.create data).1.get? id = if id = s.size then some (.detached data) else s.get? id := by
  show (s.nodes.push _)[id]? = _
  rw [Array.getElem?_push]
  rfl

theorem Holds.create (h : s.Holds f) (data : NodeData) : (s.create data).1.Holds (f.create data) where
  valid := h.valid.create data
  size := by
    show (s.nodes.push _).size = f.size + 1
    rw [Array.size_push, ← h.size]
    rfl
  fits {id n} hn := by
    rw [get?_create, h.size] at hn
    by_cases hid : id = f.size
    · rw [if_pos hid, Option.some.injEq] at hn
      subst hn hid
      have hnil := h.valid.children_eq_nil (Nat.le_refl f.size)
      exact
        { data := if_pos rfl
          parent := fun p => ⟨(nomatch ·), fun hp => absurd hp (h.valid.not_mem_new p)⟩
          first := by rw [Forest.create, hnil]; rfl
          last := by rw [Forest.create, hnil]; rfl
          prev := fun hp => absurd hp (h.valid.not_mem_new _)
          next := fun hp => absurd hp (h.valid.not_mem_new _)
          alone := fun _ => ⟨rfl, rfl⟩ }
    · rw [if_neg hid] at hn
      exact { h.fits hn with data := (if_neg hid).trans (h.fits hn).data }

theorem create_snd (h : s.Holds f) (data : NodeData) : (s.create data).2 = f.size := h.size

theorem Holds.modifyData (h : s.Holds f) (id : NodeId) (g : NodeData → NodeData) :
    (s.modify (some id) fun n => { n with data := g n.data }).Holds (f.modifyData id g) where
  valid := h.valid.modifyData id g
  size := by rw [size_modify, h.size]; rfl
  fits {x n} hn := by
    rw [get?_modify, Option.map_eq_some_iff] at hn
    obtain ⟨m, hm, rfl⟩ := hn
    have hf := h.fits hm
    by_cases hx : x = id
    · rw [through, if_pos (by rw [hx])]
      exact { hf with data := (if_pos hx).trans (congrArg (Option.map g) hf.data) }
    · rw [through, if_neg fun he => hx (Option.some.inj he).symm]
      exact { hf with data := (if_neg hx).trans hf.data }

theorem Holds.setText (h : s.Holds f) (id : NodeId) (content : List Char) :
    (s.setText id content).Holds (f.setText id content) := by
  have hg : (fun n : Node => if n.data.isText then { n with data := .text content } else n) =
      fun n => { n with data := if n.data.isText then .text content else n.data } :=
    funext fun n => by split <;> rfl
  rw [Store.setText, hg]
  exact h.modifyData id fun d => if d.isText then .text content else d

theorem Holds.detach (h : s.Holds f) (t : NodeId) : (s.detach t).Holds (f.remove t) where
  valid := h.valid.remove t
  size := by
    rw [Store.detach]
    split
    · exact h.size
    · simp only []
      split <;> split <;> simp only [size_modify, h.size] <;> rfl
  fits {id n} hn := by
    rw [get?_detach, Option.map_eq_some_iff] at hn
    obtain ⟨m, hm, rfl⟩ := hn
    have hf := h.fits hm
    have hnd := h.valid.nodup
    exact
      { data := hf.data
        parent := fun p => by
          rw [Forest.mem_remove, ← hf.parent]
          by_cases hid : id = t <;> simp [unlinked, hid]
        first := by
          unfold unlinked Forest.remove
          dsimp only
          rw [head?_filter_ne (hnd id), ← hf.first]
          by_cases ht : t ∈ f.children id
          · simp only [h.parent_eq_some_iff, ht, true_and, h.prevSibling_eq ht, predecessor_eq_none_iff (hnd id) ht,
              hf.first, h.nextSibling_eq ht]
          · rw [if_neg fun hc => ht (h.parent_eq_some_iff.1 hc.1),
              if_neg fun hc => ht (List.mem_of_head? (hf.first ▸ hc))]
        last := by
          unfold unlinked Forest.remove
          dsimp only
          rw [getLast?_filter_ne (hnd id), ← hf.last]
          by_cases ht : t ∈ f.children id
          · simp only [h.parent_eq_some_iff, ht, true_and, h.nextSibling_eq ht, successor_eq_none_iff (hnd id) ht,
              hf.last, h.prevSibling_eq ht]
          · rw [if_neg fun hc => ht (h.parent_eq_some_iff.1 hc.1),
              if_neg fun hc => ht (List.mem_of_getLast? (hf.last ▸ hc))]
        prev := fun {p} hp => by
          obtain ⟨hp, hid⟩ := Forest.mem_remove.1 hp
          unfold unlinked Forest.remove
          dsimp only
          rw [predecessor_filter_ne hid (hnd p), if_neg hid, hf.prev hp]
          by_cases hc : predecessor id (f.children p) = some t
          · rw [if_pos hc, if_pos ((h.nextSibling_eq_some_iff hp).2 hc), h.prevSibling_eq (mem_of_predecessor hc)]
          · rw [if_neg hc, if_neg fun he => hc ((h.nextSibling_eq_some_iff hp).1 he)]
        next := fun {p} hp => by
          obtain ⟨hp, hid⟩ := Forest.mem_remove.1 hp
          unfold unlinked Forest.remove
          dsimp only
          rw [successor_filter_ne hid (hnd p), if_neg hid, hf.next hp]
          by_cases hc : successor id (f.children p) = some t
          · rw [if_pos hc, if_pos ((h.prevSibling_eq_some_iff hp).2 hc), h.nextSibling_eq (mem_of_successor hc)]
          · rw [if_neg hc, if_neg fun he => hc ((h.prevSibling_eq_some_iff hp).1 he)]
        alone := fun ha => by
          by_cases hid : id = t
          · simp [unlinked, hid]
          · have ha : m.parent = none := (if_neg hid).symm.trans ha
            obtain ⟨hprev, hnext⟩ := h.siblings_ne (hf.not_mem ha) t
            simpa only [unlinked, if_neg hid, if_neg hnext, if_neg hprev] using hf.alone ha }

theorem Holds.detachAttached (h : s.Holds f) (c : NodeId) : (s.detachAttached (some c)).Holds (f.remove c) := by
  show (if (s.parent c).isSome then s.detach c else s).Holds _
  by_cases hc : (s.parent c).isSome = true
  · rw [if_pos hc]
    exact h.detach c
  · rw [if_neg hc]
    rw [Bool.not_eq_true, Option.isSome_eq_false_iff, Option.isNone_iff_eq_none, h.parent_eq_none_iff] at hc
    have hf : f.remove c = f := by
      refine Forest.ext rfl rfl (funext fun p => filter_ne_of_not_mem (hc p))
    rwa [hf]

theorem Holds.append (h : s.Holds f) {p c : NodeId} (hp : p < f.size) (hc : c < f.size) (hpc : ¬ f.Within p c) :
    (s.append (some p) (some c)).Holds (f.append p c) where
  valid := h.valid.append hp hc hpc
  size := by
    rw [Store.append]
    simp only [size_modify]
    exact (h.detachAttached c).size
  fits {id n} hn := by
    rw [get?_append, Option.map_eq_some_iff] at hn
    obtain ⟨m, hm, rfl⟩ := hn
    have h₁ := h.detachAttached c
    have hf := h₁.fits hm
    have hcs := Forest.not_mem_remove (f := f) c
    have hend : (f.append p c).children p = (f.remove c).children p ++ [c] := Forest.children_append_self
    have hsame {q : NodeId} (hq : q ≠ p) : (f.append p c).children q = (f.remove c).children q :=
      Forest.children_append_of_ne hq
    have hnd : ((f.remove c).children p ++ [c]).Nodup := hend ▸ (h.valid.append hp hc hpc).nodup p
    exact
      { data := hf.data
        parent := fun q => by
          unfold adopted
          dsimp only
          rw [Forest.mem_append, ← Forest.mem_remove, ← hf.parent]
          by_cases hid : id = c
          · subst hid
            simp [hf.parent, hcs, eq_comm]
          · simp [hid]
        first := by
          unfold adopted
          dsimp only
          by_cases hid : id = p
          · rw [hid, hend, List.head?_append, ← hid, ← hf.first]
            cases m.firstChild <;> simp [hid]
          · rw [hsame hid, ← hf.first, if_neg fun he => hid he.1]
        last := by
          unfold adopted
          dsimp only
          by_cases hid : id = p
          · rw [hid, hend, List.getLast?_concat, if_pos rfl]
          · rw [hsame hid, ← hf.last, if_neg hid]
        prev := fun {q} hq => by
          unfold adopted
          dsimp only
          rcases Forest.mem_append.1 hq with ⟨hq₀, hid⟩ | ⟨rfl, rfl⟩
          · rw [if_neg hid, hf.prev (Forest.mem_remove.2 ⟨hq₀, hid⟩)]
            by_cases hqp : q = p
            · rw [hqp, hend, predecessor_concat hid]
            · rw [hsame hqp]
          · rw [if_pos rfl, hend, h₁.lastChild_eq]
            exact (neighbours_of_split hnd).2.symm
        next := fun {q} hq => by
          unfold adopted
          dsimp only
          rw [h₁.lastChild_eq]
          rcases Forest.mem_append.1 hq with ⟨hq₀, hid⟩ | ⟨rfl, rfl⟩
          · have hq₁ := Forest.mem_remove.2 ⟨hq₀, hid⟩
            rw [if_neg hid, hf.next hq₁]
            by_cases hqp : q = p
            · subst hqp
              rw [hend, successor_concat hq₁ (h₁.valid.nodup q)]
            · rw [hsame hqp, if_neg fun he => hqp (h₁.valid.unique hq₁ (List.mem_of_getLast? he))]
          · rw [if_neg fun he => hcs q (List.mem_of_getLast? he), if_pos rfl, hend]
            exact (neighbours_of_split hnd).1.symm
        alone := fun ha => by
          have hid : id ≠ c := fun he => by simp [adopted, he] at ha
          have ha : m.parent = none := (if_neg hid).symm.trans ha
          have hlast : (s.detachAttached (some c)).lastChild p ≠ some id := fun he => by
            rw [h₁.lastChild_eq] at he
            exact hf.not_mem ha p (List.mem_of_getLast? he)
          simpa only [adopted, if_neg hid, if_neg hlast] using hf.alone ha }

theorem Holds.insertBefore (h : s.Holds f) {sibling new p : NodeId} (hs : sibling ∈ f.children p)
    (hn : new < f.size) (hw : ¬ f.Within sibling new) :
    (s.insertBefore (some sibling) (some new)).Holds (f.insertBefore sibling new) where
  valid := h.valid.insertBefore hs hn hw
  size := by
    rw [Store.insertBefore]
    simp only [apply_ite Store.size, size_modify, ite_self]
    exact (h.detachAttached new).size
  fits {id n} hid := by
    rw [get?_insertBefore, Option.map_eq_some_iff] at hid
    obtain ⟨m, hm, rfl⟩ := hid
    have h₁ := h.detachAttached new
    have hf := h₁.fits hm
    have hnd := h₁.valid.nodup
    have hns := Forest.not_mem_remove (f := f) new
    have hsn : sibling ≠ new := fun he => hw (he ▸ .refl)
    have hs₁ : sibling ∈ (f.remove new).children p := Forest.mem_remove.2 ⟨hs, hsn⟩
    have hchildren (q : NodeId) :
        (f.insertBefore sibling new).children q = insertBeforeIn sibling new ((f.remove new).children q) := rfl
    exact
      { data := hf.data
        parent := fun q => by
          unfold parted
          dsimp only
          rw [hchildren, mem_insertBeforeIn, ← hf.parent]
          by_cases hid : id = new
          · subst hid
            simp [hf.parent, hns, h₁.parent_eq_some_iff]
          · simp [hid]
        first := by
          unfold parted
          dsimp only
          rw [hchildren, head?_insertBeforeIn (hnd id), ← hf.first]
          by_cases hi : sibling ∈ (f.remove new).children id
          · simp only [h₁.parent_eq_some_iff, hi, true_and, h₁.prevSibling_eq hi, predecessor_eq_none_iff (hnd id) hi,
              hf.first]
          · rw [if_neg fun hc => hi (h₁.parent_eq_some_iff.1 hc.1),
              if_neg fun hc => hi (List.mem_of_head? (hf.first ▸ hc))]
        last := by
          rw [hchildren, getLast?_insertBeforeIn (hnd id), ← hf.last]
          rfl
        prev := fun {q} hq => by
          unfold parted
          dsimp only
          rw [hchildren] at hq ⊢
          rcases mem_insertBeforeIn.1 hq with hq | ⟨rfl, hq⟩
          · have hid : id ≠ new := fun he => hns q (he ▸ hq)
            rw [predecessor_insertBeforeIn hid (hnd q) hq, if_neg hid, hf.prev hq]
          · rw [predecessor_new_insertBeforeIn (hnd q) (hns q) hq, if_neg (Ne.symm hsn), if_pos rfl,
              h₁.prevSibling_eq hq]
        next := fun {q} hq => by
          unfold parted
          dsimp only
          rw [hchildren] at hq ⊢
          rcases mem_insertBeforeIn.1 hq with hq | ⟨rfl, hq⟩
          · have hid : id ≠ new := fun he => hns q (he ▸ hq)
            rw [successor_insertBeforeIn hid (hnd q), if_neg hid, hf.next hq]
            simp only [h₁.prevSibling_eq_some_iff hq]
          · have hne := (h₁.siblings_ne hns sibling).1
            rw [successor_new_insertBeforeIn (hnd q) (hns q) hq, if_neg hne, if_pos rfl]
        alone := fun ha => by
          have hid : id ≠ new := fun he => by
            have ha : (s.detachAttached (some new)).parent sibling = none := (if_pos he).symm.trans ha
            rw [h₁.parent_eq_some_iff.2 hs₁] at ha
            cases ha
          have ha : m.parent = none := (if_neg hid).symm.trans ha
          have his : id ≠ sibling := fun he => hf.not_mem ha p (he ▸ hs₁)
          have hprev := (h₁.siblings_ne (hf.not_mem ha) sibling).1
          simpa only [parted, if_neg hid, if_neg his, if_neg hprev] using hf.alone ha }

end Store

end BlogMarkdown.Dom
