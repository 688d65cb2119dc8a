import BlogMarkdown.Proofs.Dom.DocumentOrder
import BlogMarkdown.Proofs.Dom.Keeping
/-!
# What removing the empty texts leaves

The pass works off a stack.  For each node on it the children are listed first, then the empty texts among them are
detached, and then the elements among them come on the stack.  The lists only get shorter on the way, so the pass ends.
Afterwards exactly the empty texts below the root that only elements lead to are gone, and every other node is where it
was.
-/
namespace BlogMarkdown.Dom

open Relation (ReflTransGen)

variable {s s' : Store} {f g : Forest}

namespace Store

/-! ## The empty texts that the pass is about -/

/-- `p` is `root`, whatever that is, or an element below it with nothing but elements on the way up. -/
def Reaches (s : Store) (root p : NodeId) : Prop :=
  ReflTransGen (fun c q => s.parent c = some q ∧ s.isElement c = true) p root

/-- **An empty text below `root`** with nothing but elements on the way up. -/
def EmptyBelow (s : Store) (root id : NodeId) : Prop :=
  s.text? id = some [] ∧ ∃ p, s.parent id = some p ∧ s.Reaches root p

/-- **Exactly the empty texts below `root` are gone** when the store `s` turns into `s'`. -/
structure Cleared (s : Store) (root : NodeId) (s' : Store) : Prop where
  wellFormed : s'.WellFormed
  clean : ∀ id, ¬ s'.EmptyBelow root id
  detached : ∀ id, s.EmptyBelow root id → s'.parent id = none ∧ s'.prevSibling id = none ∧ s'.nextSibling id = none
  parent : ∀ id, ¬ s.EmptyBelow root id → s'.parent id = s.parent id
  data : ∀ id, s'.data? id = s.data? id
  order : ∀ p, (s'.children p).Sublist (s.children p)
  members : ∀ p id, id ∈ s'.children p ↔ id ∈ s.children p ∧ ¬ s.EmptyBelow root id

theorem Holds.isEmptyText_iff (h : s.Holds f) {id : NodeId} : f.isEmptyText id = true ↔ s.text? id = some [] := by
  rw [Forest.isEmptyText, Option.any_eq_true, h.text?_eq, Forest.text?, Option.bind_eq_some_iff]
  simp only [NodeData.text?_eq_nil_iff]

theorem Holds.reaches_iff (h : s.Holds f) {root p : NodeId} : s.Reaches root p ↔ f.Reaches root p := by
  have hstep : (fun c q => s.parent c = some q ∧ s.isElement c = true) =
      Function.swap fun q c => c ∈ f.children q ∧ f.isElement c = true := by
    funext c q
    rw [h.isElement_eq, h.parent_eq_some_iff]
  rw [Reaches, hstep]
  exact Relation.reflTransGen_swap

theorem Holds.emptyBelow_iff (h : s.Holds f) {root id : NodeId} :
    s.EmptyBelow root id ↔ f.isEmptyText id = true ∧ ∃ p, id ∈ f.children p ∧ f.Reaches root p := by
  simp only [EmptyBelow, h.isEmptyText_iff, h.parent_eq_some_iff, h.reaches_iff]

end Store

/-! ## The lists afterwards -/

namespace Forest

variable {root : NodeId}

theorem children_clear_sublist (f : Forest) (ids : List NodeId) (p : NodeId) :
    ((f.clear ids).children p).Sublist (f.children p) := by
  unfold clear
  dsimp only
  split
  · exact List.filter_sublist
  · exact List.Sublist.refl _

theorem children_removeEmptyTexts_sublist (f : Forest) (root p : NodeId) :
    ((f.removeEmptyTexts root).children p).Sublist (f.children p) := by
  by_cases hp : f.Reaches root p
  · rw [children_removeEmptyTexts_of_reaches hp]
    exact List.filter_sublist
  · rw [children_removeEmptyTexts_of_not_reaches hp]

theorem Valid.eq_of_reaches (hv : f.Valid) (hroot : f.size ≤ root) {p : NodeId} (hp : f.Reaches root p) : p = root := by
  rcases ReflTransGen.cases_head hp with he | ⟨c, ⟨hc, -⟩, -⟩
  · exact he.symm
  · rw [hv.children_eq_nil hroot] at hc
    cases hc

theorem Valid.removeEmptyTexts_absent (hv : f.Valid) (hroot : f.size ≤ root) : f.removeEmptyTexts root = f := by
  refine Forest.ext rfl rfl (funext fun p => ?_)
  by_cases hp : f.Reaches root p
  · rw [children_removeEmptyTexts_of_reaches hp, hv.eq_of_reaches hroot hp, hv.children_eq_nil hroot, List.filter_nil]
  · exact children_removeEmptyTexts_of_not_reaches hp

end Forest

namespace Store

/-- The pass over any root, also over a number that no node has. -/
theorem Holds.removeEmptyTexts_at (h : s.Holds f) (root : NodeId) :
    (s.removeEmptyTexts root).Holds (f.removeEmptyTexts root) := by
  by_cases hroot : root < f.size
  · exact h.removeEmptyTexts hroot
  · rw [Nat.not_lt] at hroot
    have hself : s.removeEmptyTexts root = s := h.removeEmptyTexts_eq_self fun p hp c hc => by
      rw [h.valid.eq_of_reaches hroot hp, h.valid.children_eq_nil hroot] at hc
      cases hc
    rwa [hself, h.valid.removeEmptyTexts_absent hroot]

/-- **The changed lists say what has become of each node.** -/
theorem Holds.cleared (h : s.Holds f) {root : NodeId} (h' : s'.Holds (f.removeEmptyTexts root)) : s.Cleared root s' := by
  have hmembers : ∀ p id, id ∈ (f.removeEmptyTexts root).children p ↔ id ∈ f.children p ∧ ¬ s.EmptyBelow root id := by
    intro p id
    rw [Forest.mem_removeEmptyTexts_iff, h.emptyBelow_iff]
    refine and_congr_right fun hid => not_congr (and_congr_right fun _ => ⟨fun hp => ⟨p, hid, hp⟩, ?_⟩)
    rintro ⟨q, hq, hr⟩
    exact h.valid.unique hq hid ▸ hr
  refine ⟨⟨_, h'⟩, fun id hid => ?_, fun id hid => ?_, fun id hid => ?_, fun id => ?_, fun p => ?_, fun p id => ?_⟩
  · obtain ⟨hempty, p, hp, hr⟩ := h'.emptyBelow_iff.1 hid
    have hfull : f.isEmptyText id = false := Forest.isEmptyText_of_removeEmptyTexts hr hp
    exact Bool.false_ne_true (hfull.symm.trans hempty)
  · have hnone : ∀ p, id ∉ (f.removeEmptyTexts root).children p := fun p hp => ((hmembers p id).1 hp).2 hid
    exact ⟨h'.parent_eq_none_iff.2 hnone, h'.siblings_eq_none hnone⟩
  · refine Option.ext fun p => ?_
    rw [h'.parent_eq_some_iff, h.parent_eq_some_iff, hmembers, and_iff_left hid]
  · rw [h'.data?_eq, h.data?_eq]
    rfl
  · rw [h'.children_eq, h.children_eq]
    exact f.children_removeEmptyTexts_sublist root p
  · rw [h'.children_eq, h.children_eq, hmembers]

/-! ## The pass ends -/

/-- **The pass comes to its end**: the children of the first node on the stack are listed, the empty texts among them
are detached, and the elements among them come on the stack, the last one on top. -/
inductive Clears : Store → List NodeId → Store → Prop
  | done (s : Store) : Clears s [] s
  | step {s s' : Store} {id : NodeId} {pending children : List NodeId} (walk : s.Walk (s.firstChild id) children)
    (rest : Clears (s.detachEmptyTexts children) ((children.filter s.isElement).reverse ++ pending) s') :
    Clears s (id :: pending) s'

theorem Clears.unique {stack : List NodeId} {a b : Store} (h : s.Clears stack a) (h' : s.Clears stack b) : a = b := by
  induction h with
  | done =>
    cases h'
    rfl
  | step walk _ ih =>
    cases h' with
    | step walk' rest' =>
      cases walk.unique walk'
      exact ih rest'

/-- Shorter lists lead to fewer nodes. -/
theorem Holds.preorder_sublist (h : s.Holds f) (h' : s'.Holds g) (hsub : ∀ p, (g.children p).Sublist (f.children p))
    (id : NodeId) : (s'.preorder id).Sublist (s.preorder id) := by
  induction id using h.valid.leaf_induction with
  | node id ih =>
    rw [h.preorder_eq, h'.preorder_eq]
    refine List.Sublist.cons_cons id (((hsub id).flatMap s'.preorder).trans ?_)
    exact List.Sublist.flatMap_right _ ih

/-- The stack of the next step leads to no more nodes than all the children would, had nothing been detached. -/
theorem Holds.length_flatMap_preorder_le (h : s.Holds f) (h' : s'.Holds g)
    (hsub : ∀ p, (g.children p).Sublist (f.children p)) (p : NodeId → Bool) (children pending : List NodeId) :
    (((children.filter p).reverse ++ pending).flatMap s'.preorder).length ≤
      ((children ++ pending).flatMap s.preorder).length := by
  have hshort : ∀ l : List NodeId, (l.flatMap s'.preorder).length ≤ (l.flatMap s.preorder).length := fun l =>
    (List.Sublist.flatMap_right l fun id _ => h.preorder_sublist h' hsub id).length_le
  have hreverse := ((children.filter p).reverse_perm.flatMap_right s'.preorder).length_eq
  have hfilter : ((children.filter p).flatMap s'.preorder).length ≤ (children.flatMap s'.preorder).length :=
    (List.filter_sublist.flatMap s'.preorder).length_le
  have hchildren := hshort children
  have hpending := hshort pending
  rw [List.flatMap_append, List.flatMap_append, List.length_append, List.length_append]
  omega

/-- A bound that is not below the number of the nodes that the stack leads to is not reached. -/
theorem Holds.clears : ∀ {steps : Nat} {s : Store} {f : Forest} {stack : List NodeId}, s.Holds f →
    (stack.flatMap s.preorder).length ≤ steps → s.Clears stack (Store.removeEmptyTextsBelow steps s stack)
  | 0, s, _, [], _, _ => .done s
  | _ + 1, s, _, [], _, _ => .done s
  | 0, s, f, id :: pending, h, hsteps => by
    rw [h.flatMap_preorder_cons] at hsteps
    cases hsteps
  | steps + 1, s, f, id :: pending, h, hsteps => by
    rw [h.flatMap_preorder_cons] at hsteps
    -- the store has changed, and its lists with it, but none of them has got longer
    have h' := h.detachEmptyTexts_children id
    have hle := h.length_flatMap_preorder_le h' (f.children_clear_sublist [id]) s.isElement (f.children id) pending
    rw [h.children_eq] at h' hle
    rw [Store.removeEmptyTextsBelow, h.children_eq]
    exact .step (h.walk id) (h'.clears (Nat.le_trans hle (Nat.le_of_succ_le_succ hsteps)))

/-- **Removing the empty texts ends, and removes exactly the empty texts below the root that only elements lead to**:
in every well-formed store, below every root.  What is left is well formed, every other node keeps its parent, its data
and its place among the siblings that are left, and to remove the empty texts again changes nothing. -/
theorem cleared_removeEmptyTexts (h : s.WellFormed) (root : NodeId) :
    (∀ s', s.Clears [root] s' ↔ s' = s.removeEmptyTexts root) ∧ s.Cleared root (s.removeEmptyTexts root) ∧
      (s.removeEmptyTexts root).removeEmptyTexts root = s.removeEmptyTexts root := by
  obtain ⟨f, hf⟩ := h
  have hafter := hf.removeEmptyTexts_at root
  have hends : s.Clears [root] (s.removeEmptyTexts root) := hf.clears (by
    rw [List.flatMap_singleton]
    exact hf.length_preorder_le root)
  exact ⟨fun s' => ⟨fun hs' => hs'.unique hends, fun hs' => hs' ▸ hends⟩, hf.cleared hafter,
    hafter.removeEmptyTexts_again⟩

/-- A division with a text, and with empty texts in itself, in an emphasis and in a comment. -/
def paddedPage : Store :=
  let s := (Store.empty.create (.element (.html "div") [])).1.append (some 0) (some 1)
  let s := (s.create (.text [])).1.append (some 1) (some 2)
  let s := (s.create (.text ['x'])).1.append (some 1) (some 3)
  let s := (s.create (.element (.html "em") [])).1.append (some 1) (some 4)
  let s := (s.create (.text [])).1.append (some 4) (some 5)
  let s := (s.create (.comment [])).1.append (some 1) (some 6)
  (s.create (.text [])).1.append (some 6) (some 7)

/-- The empty text in the comment stays. -/
theorem cleared_paddedPage :
    paddedPage.WellFormed ∧ paddedPage.EmptyBelow 1 5 ∧ ¬ paddedPage.EmptyBelow 1 7 ∧
      paddedPage.Cleared 1 (paddedPage.removeEmptyTexts 1) ∧
      (paddedPage.removeEmptyTexts 1).children 1 = [3, 4, 6] ∧ (paddedPage.removeEmptyTexts 1).children 4 = [] ∧
      (paddedPage.removeEmptyTexts 1).children 6 = [7] := by
  have hs : paddedPage.WellFormed := ⟨_, ((((((Store.holds_empty.appendNew (by decide) _).appendNew (by decide)
    _).appendNew (by decide) _).appendNew (by decide) _).appendNew (by decide) _).appendNew (by decide)
    _).appendNew (by decide) _⟩
  have hcleared := (cleared_removeEmptyTexts hs 1).2.1
  have hcomment : (paddedPage.removeEmptyTexts 1).children 6 = [7] := by decide +kernel
  have hin : paddedPage.EmptyBelow 1 5 :=
    ⟨by decide +kernel, 4, by decide +kernel, .single ⟨by decide +kernel, by decide +kernel⟩⟩
  have hout : ¬ paddedPage.EmptyBelow 1 7 := ((hcleared.members 6 7).1 (by rw [hcomment]; simp)).2
  exact ⟨hs, hin, hout, hcleared, by decide +kernel, by decide +kernel, hcomment⟩

end Store

end BlogMarkdown.Dom
