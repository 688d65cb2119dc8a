import BlogMarkdown.Proofs.Dom.Operations
import BlogMarkdown.Proofs.Dom.Paths
/-!
# Document order

A node comes before everything below it, and its children come one after the other, each with all that is below it.
A search works off a stack of nodes, where the children of a node take its place, and so it visits the nodes at and
below its root in document order.  In a well-formed store the walks along the sibling links end, and so does the
search: the nodes that the stack leads to are fewer with each step.
-/
namespace BlogMarkdown.Dom

open Relation (ReflTransGen)

variable {s : Store} {f : Forest}

namespace Store

/-! ## The nodes at and below a node -/

/-- **The nodes at and below a node, in document order**: the node, and then those at and below each of its children. -/
def preorder (s : Store) (id : NodeId) : List NodeId := (s.numbered id).ids

theorem Holds.preorder_eq (h : s.Holds f) (id : NodeId) :
    s.preorder id = id :: (f.children id).flatMap s.preorder := by
  rw [preorder, h.numbered_eq, Numbered.ids, Numbered.idsAll_eq_flatMap, List.flatMap_map]
  rfl

theorem Holds.mem_preorder_iff (h : s.Holds f) {id x : NodeId} : x ∈ s.preorder id ↔ f.Within x id := by
  induction id using h.valid.leaf_induction with
  | node id ih =>
    rw [h.preorder_eq, List.mem_cons, List.mem_flatMap]
    constructor
    · rintro (rfl | ⟨c, hc, hx⟩)
      · exact .refl
      · exact ((ih c hc).1 hx).tail hc
    · intro hw
      rcases ReflTransGen.cases_tail hw with rfl | ⟨c, hxc, hc⟩
      · exact .inl rfl
      · exact .inr ⟨c, hc, (ih c hc).2 hxc⟩

theorem Holds.length_preorder_le (h : s.Holds f) (id : NodeId) : (s.preorder id).length ≤ s.size + 1 := by
  by_cases hid : id < f.size
  · obtain ⟨t, ht, rfl⟩ := Numbered.exists_stands h.valid id hid
    rw [preorder, ht.numbered_eq h, h.size]
    exact Nat.le_succ_of_le (ht.length_ids_le h.valid)
  · rw [h.preorder_eq, h.valid.children_eq_nil (Nat.le_of_not_lt hid)]
    exact Nat.succ_le_succ (Nat.zero_le _)

/-- A stack leads to its first node, and then to what the rest leads to once the children are in the node's place. -/
theorem Holds.flatMap_preorder_cons (h : s.Holds f) (id : NodeId) (pending : List NodeId) :
    (id :: pending).flatMap s.preorder = id :: (f.children id ++ pending).flatMap s.preorder := by
  rw [List.flatMap_cons, h.preorder_eq, List.flatMap_append, List.cons_append]

/-- **What holds of the empty stack, and of each stack if it holds once the children are in the place of the first
node, holds of every stack.** -/
theorem Holds.stack_induction (h : s.Holds f) {P : List NodeId → Prop} (empty : P [])
    (step : ∀ id pending, P (f.children id ++ pending) → P (id :: pending)) (stack : List NodeId) : P stack := by
  -- the stack gets longer where a node has many children, but it leads to one node less
  induction hn : (stack.flatMap s.preorder).length generalizing stack with
  | zero =>
    cases stack with
    | nil => exact empty
    | cons id pending =>
      rw [h.flatMap_preorder_cons] at hn
      cases hn
  | succ n ih =>
    cases stack with
    | nil => exact empty
    | cons id pending =>
      rw [h.flatMap_preorder_cons, List.length_cons, Nat.succ_inj] at hn
      exact step id pending (ih _ hn)

/-! ## The walk along the children -/

/-- The walk from a link on along the next siblings comes to its end, and these are the nodes on it. -/
inductive Walk (s : Store) : Option NodeId → List NodeId → Prop
  | done : Walk s none []
  | step {id : NodeId} {behind : List NodeId} (rest : Walk s (s.nextSibling id) behind) : Walk s (some id) (id :: behind)

theorem Walk.unique {link : Option NodeId} {l l' : List NodeId} (h : s.Walk link l) (h' : s.Walk link l') : l = l' := by
  induction h generalizing l' with
  | done =>
    cases h'
    rfl
  | step _ ih =>
    cases h' with
    | step rest' => rw [ih rest']

/-- A walk that is cut off by no bound has come to its end. -/
theorem walk_chain (s : Store) : ∀ {steps : Nat} {link : Option NodeId}, (s.chain steps link).length < steps →
    s.Walk link (s.chain steps link)
  | 0, _, h => absurd h (Nat.not_lt_zero _)
  | _ + 1, none, _ => .done
  | _ + 1, some _, h => .step (s.walk_chain (Nat.lt_of_succ_lt_succ h))

theorem Holds.walk (h : s.Holds f) (id : NodeId) : s.Walk (s.firstChild id) (f.children id) := by
  have hlt : (s.children id).length < s.size + 1 := by
    rw [h.children_eq, h.size]
    exact Nat.lt_succ_of_le (length_le_of_nodup (h.valid.nodup id) fun _ => h.valid.child_lt)
  rw [← h.children_eq]
  exact s.walk_chain hlt

/-! ## The search -/

/-- **A search with a stack comes to its end** with an answer: a number that no node has is dropped, a node with the
property is the answer, and the children of any other node take its place, in their order. -/
inductive Searches (s : Store) (p : Node → Bool) : List NodeId → Option NodeId → Prop
  | exhausted : Searches s p [] none
  | absent {id : NodeId} {pending : List NodeId} {answer : Option NodeId} (hid : s.get? id = none)
    (rest : Searches s p pending answer) : Searches s p (id :: pending) answer
  | found {id : NodeId} {pending : List NodeId} {node : Node} (hid : s.get? id = some node) (hp : p node = true) :
    Searches s p (id :: pending) (some id)
  | passed {id : NodeId} {pending children : List NodeId} {node : Node} {answer : Option NodeId}
    (hid : s.get? id = some node) (hp : p node = false) (walk : s.Walk (s.firstChild id) children)
    (rest : Searches s p (children ++ pending) answer) : Searches s p (id :: pending) answer

variable {p : Node → Bool}

theorem Searches.unique {stack : List NodeId} {a b : Option NodeId} (h : s.Searches p stack a)
    (h' : s.Searches p stack b) : a = b := by
  induction h generalizing b with
  | exhausted =>
    cases h'
    rfl
  | absent hid _ ih =>
    cases h' with
    | absent _ rest' => exact ih rest'
    | found hid' | passed hid' => rw [hid] at hid'; cases hid'
  | found hid hp =>
    cases h' with
    | absent hid' => rw [hid] at hid'; cases hid'
    | found => rfl
    | passed hid' hp' =>
      rw [hid] at hid'
      cases hid'
      rw [hp] at hp'
      cases hp'
  | passed hid hp walk _ ih =>
    cases h' with
    | absent hid' => rw [hid] at hid'; cases hid'
    | found hid' hp' =>
      rw [hid] at hid'
      cases hid'
      rw [hp] at hp'
      cases hp'
    | passed _ _ walk' rest' =>
      cases walk.unique walk'
      exact ih rest'

/-- The first of some nodes that has a property. -/
def firstOf (s : Store) (p : Node → Bool) (ids : List NodeId) : Option NodeId := ids.find? fun id => (s.get? id).any p

theorem firstOf_cons_of_some {id : NodeId} {ids : List NodeId} {node : Node} (hid : s.get? id = some node) :
    s.firstOf p (id :: ids) = if p node then some id else s.firstOf p ids := by
  rw [firstOf, List.find?_cons, hid, Option.any_some]
  cases p node <;> rfl

theorem firstOf_cons_of_none {id : NodeId} {ids : List NodeId} (hid : s.get? id = none) :
    s.firstOf p (id :: ids) = s.firstOf p ids := by
  rw [firstOf, List.find?_cons, hid]
  rfl

theorem Holds.children_of_none (h : s.Holds f) {id : NodeId} (hid : s.get? id = none) : f.children id = [] :=
  h.valid.children_eq_nil (h.size ▸ get?_eq_none_iff.1 hid)

/-- **The search ends with the first node that the stack leads to.** -/
theorem Holds.searches (h : s.Holds f) (p : Node → Bool) (stack : List NodeId) :
    s.Searches p stack (s.firstOf p (stack.flatMap s.preorder)) := by
  induction stack using h.stack_induction with
  | empty => exact .exhausted
  | step id pending ih =>
    rw [h.flatMap_preorder_cons]
    cases hid : s.get? id with
    | none =>
      rw [h.children_of_none hid, List.nil_append] at ih ⊢
      rw [firstOf_cons_of_none hid]
      exact .absent hid ih
    | some node =>
      rw [firstOf_cons_of_some hid]
      cases hp : p node with
      | true => exact .found hid hp
      | false => exact .passed hid hp (h.walk id) ih

/-- A bound that is not below the number of these nodes is not reached. -/
theorem Holds.findIn_eq (h : s.Holds f) (stack : List NodeId) : ∀ {steps : Nat},
    (stack.flatMap s.preorder).length ≤ steps → s.findIn p steps stack = s.firstOf p (stack.flatMap s.preorder) := by
  induction stack using h.stack_induction with
  | empty => rintro (_ | steps) _ <;> rfl
  | step id pending ih =>
    intro steps hsteps
    rw [h.flatMap_preorder_cons] at hsteps ⊢
    cases steps with
    | zero => cases hsteps
    | succ steps =>
      have ih := ih (Nat.le_of_succ_le_succ hsteps)
      rw [findIn]
      cases hid : s.get? id with
      | none =>
        rw [h.children_of_none hid, List.nil_append] at ih ⊢
        rw [firstOf_cons_of_none hid]
        exact ih
      | some node =>
        rw [firstOf_cons_of_some hid]
        dsimp only
        rw [h.children_eq, ih]

theorem Holds.find?_eq (h : s.Holds f) (root : NodeId) (p : Node → Bool) :
    s.find? root p = s.firstOf p (s.preorder root) := by
  have hle : s.size + 1 ≤ (s.size + 1) * (s.size + 1) := Nat.le_mul_of_pos_left _ (Nat.succ_pos _)
  have hlen := Nat.le_trans (h.length_preorder_le root) hle
  rw [find?, h.findIn_eq [root] (by rwa [List.flatMap_singleton]), List.flatMap_singleton]

/-- Being above is being at the end of a way along the parent links. -/
theorem Holds.within_iff (h : s.Holds f) {x root : NodeId} :
    f.Within x root ↔ ReflTransGen (fun c q => s.parent c = some q) x root := by
  rw [h.parent_eq_below]
  rfl

theorem Holds.firstOf_eq_none_iff (h : s.Holds f) {root : NodeId} : s.firstOf p (s.preorder root) = none ↔
    ∀ id node, ReflTransGen (fun c q => s.parent c = some q) id root → s.get? id = some node → p node = false := by
  rw [firstOf, List.find?_eq_none]
  constructor
  · intro hnone id node hw hid
    have hmem := h.mem_preorder_iff.2 (h.within_iff.2 hw)
    simpa [hid] using hnone id hmem
  · intro hall id hid
    have hw := h.within_iff.1 (h.mem_preorder_iff.1 hid)
    cases hnode : s.get? id with
    | none => simp
    | some node => simp [hall id node hw hnode]

/-- **A search ends, and finds the first node in document order.**  The nodes at and below a node are listed with the
node first and then child by child; the search from a root ends with the first of those at and below it that has the
property, and with nothing just if none of them has it.  An element looked up by its tag is the first of the document
that has the tag. -/
theorem first_of_search (h : s.WellFormed) (root : NodeId) (p : Node → Bool) :
    (∀ id, s.preorder id = id :: (s.children id).flatMap s.preorder) ∧
      (∀ answer, s.Searches p [root] answer ↔ answer = s.find? root p) ∧
      s.find? root p = (s.preorder root).find? (fun id => (s.get? id).any p) ∧
      (s.find? root p = none ↔ ∀ id node, ReflTransGen (fun c q => s.parent c = some q) id root →
        s.get? id = some node → p node = false) ∧
      ∀ tag, s.findTag? tag = (s.preorder document).find? fun id => (s.data? id).any (·.tag? = some tag) := by
  obtain ⟨f, hf⟩ := h
  have hfirst := hf.find?_eq root p
  have hends : s.Searches p [root] (s.find? root p) := by
    have := hf.searches p [root]
    rwa [List.flatMap_singleton, ← hfirst] at this
  refine ⟨fun id => ?_, fun answer => ⟨fun ha => ha.unique hends, fun ha => ha ▸ hends⟩, hfirst, ?_, fun tag => ?_⟩
  · rw [hf.children_eq, hf.preorder_eq]
  · rw [hfirst, hf.firstOf_eq_none_iff]
  · rw [findTag?, hf.find?_eq]
    refine congrArg (fun q => List.find? q _) (funext fun id => ?_)
    rw [data?, Option.any_map]

/-- A division with an emphasis in it that was made last, in front of another emphasis. -/
def emphasisPage : Store :=
  let s := (Store.empty.create (.element (.html "div") [])).1.append (some 0) (some 1)
  let s := (s.create (.element (.html "em") [])).1.append (some 0) (some 2)
  (s.create (.element (.html "em") [])).1.append (some 1) (some 3)

/-- The emphasis deeper down comes first, and below the other one there is no division. -/
theorem first_of_emphasisPage :
    emphasisPage.WellFormed ∧ emphasisPage.preorder 0 = [0, 1, 3, 2] ∧ emphasisPage.findTag? "em" = some 3 ∧
      emphasisPage.Searches (·.data.tag? = some "div") [2] none ∧
      ∀ id node, ReflTransGen (fun c q => emphasisPage.parent c = some q) id 2 → emphasisPage.get? id = some node →
        node.data.tag? ≠ some "div" := by
  have hs : emphasisPage.WellFormed :=
    ⟨_, ((Store.holds_empty.appendNew (by decide) _).appendNew (by decide) _).appendNew (by decide) _⟩
  have hlist : emphasisPage.preorder 0 = [0, 1, 3, 2] := by decide
  have hnone : emphasisPage.find? 2 (·.data.tag? = some "div") = none := by decide
  obtain ⟨-, hends, -, hall, htag⟩ := first_of_search hs 2 (·.data.tag? = some "div")
  have hem : emphasisPage.findTag? "em" = some 3 := (htag "em").trans (by decide)
  refine ⟨hs, hlist, hem, (hends none).2 hnone.symm, fun id node hw hid => ?_⟩
  simpa using hall.1 hnone id node hw hid

end Store

end BlogMarkdown.Dom
