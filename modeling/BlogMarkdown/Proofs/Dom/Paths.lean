import BlogMarkdown.Proofs.Dom.Numbered
/-!
# The tree and the place of a node

In a well-formed store the tree below a node has below it the trees of its children, and the way up from a child is its
place among its siblings and then the way up from its parent: the bounds that end the two walks are never reached.
-/
namespace BlogMarkdown.Dom

variable {s : Store} {f : Forest}

namespace Store

/-! ## Down -/

/-- The numbered tree of a node has below it those of its children. -/
theorem Holds.numbered_eq (h : s.Holds f) (id : NodeId) :
    s.numbered id = .node id ((f.data id).getD .document) ((f.children id).map s.numbered) := by
  by_cases hid : id < f.size
  · obtain ⟨t, ht, rfl⟩ := Numbered.exists_stands h.valid id hid
    obtain ⟨id, data, cs⟩ := t
    have hcs : (cs.map Numbered.id).map s.numbered = cs := by
      rw [List.map_map]
      exact (List.map_congr_left fun c hc => (ht.standAll.of_mem hc).numbered_eq h).trans (List.map_id cs)
    rw [ht.numbered_eq h, ht.data_eq, ht.children_eq]
    exact congrArg _ hcs.symm
  · rw [Nat.not_lt] at hid
    rw [numbered, numberedWithin, h.data?_eq, h.children_eq, h.valid.children_eq_nil hid]
    rfl

/-- The tree of a node has below it those of its children. -/
theorem Holds.tree_eq (h : s.Holds f) (id : NodeId) :
    s.tree id = .node ((f.data id).getD .document) ((f.children id).map s.tree) := by
  rw [← s.tree_numbered, h.numbered_eq, Numbered.tree, Numbered.trees_eq_map, List.map_map]
  exact congrArg _ (List.map_congr_left fun c _ => s.tree_numbered c)

/-! ## Up -/

/-- A longer bound makes no difference to a way up that has ended. -/
theorem Holds.pathWithin_succ (h : s.Holds f) : ∀ {depth : Nat} {id : NodeId}, f.size < depth + f.rank id →
    s.pathWithin (depth + 1) id = s.pathWithin depth id
  | 0, id, hd => absurd (f.rank_le_size id) (by omega)
  | depth + 1, id, hd => by
    rw [pathWithin, pathWithin]
    cases hp : s.parent id with
    | none => rfl
    | some p =>
      have hlt := h.valid.rank_lt (h.parent_eq_some_iff.1 hp)
      exact congrArg _ (h.pathWithin_succ (by omega))

theorem Holds.path_of_root (h : s.Holds f) {id : NodeId} (hid : ∀ p, id ∉ f.children p) : s.path id = [] := by
  rw [path, pathWithin, h.parent_eq_none_iff.2 hid]

/-- The siblings of a child are next to it in the list of its parent. -/
theorem Holds.siblings_of_split (h : s.Holds f) {id p : NodeId} {l r : List NodeId} (hc : f.children p = l ++ id :: r) :
    s.prevSibling id = l.getLast? ∧ s.nextSibling id = r.head? := by
  have hmem : id ∈ f.children p := by rw [hc]; simp
  rw [h.prevSibling_eq hmem, h.nextSibling_eq hmem, hc]
  exact (neighbours_of_split (hc ▸ h.valid.nodup p)).symm

/-- **The way up from a child** is its place among its siblings and the way up from its parent. -/
theorem Holds.path_of_child (h : s.Holds f) {id p : NodeId} {l r : List NodeId} (hc : f.children p = l ++ id :: r) :
    s.path id = ⟨(f.data p).getD .document, l.reverse.map s.tree, r.map s.tree⟩ :: s.path p := by
  have hmem : id ∈ f.children p := by rw [hc]; simp
  have hl : ∀ x ∈ l, decide (x ≠ id) = true := by
    intro x hx
    have hnodup := h.valid.nodup p
    rw [hc] at hnodup
    exact decide_eq_true fun he => (List.nodup_append.1 hnodup).2.2 x hx id List.mem_cons_self he
  have hlt := h.valid.rank_lt hmem
  have hpath : s.pathWithin s.size p = s.path p := by
    rw [path, h.pathWithin_succ (by rw [h.size]; omega)]
  rw [path, pathWithin, h.parent_eq_some_iff.2 hmem]
  dsimp only
  rw [hpath, h.data?_eq, h.children_eq, hc, List.takeWhile_append_of_pos hl, List.dropWhile_append_of_pos hl]
  simp

end Store

end BlogMarkdown.Dom
