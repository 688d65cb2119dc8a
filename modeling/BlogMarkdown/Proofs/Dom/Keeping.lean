import BlogMarkdown.Proofs.Dom.History
import BlogMarkdown.Proofs.Dom.Splice
/-!
# What a pass leaves as it was

A pass over the tree below a node changes that tree where it stands, and some passes take out the empty texts at the
end.  What stands elsewhere keeps its links and its data, and what stood below the node is still there, once and in the
same order.  Of a pass that ends with the empty texts taken out, exactly the nodes at and below these are gone.
-/
namespace BlogMarkdown.Dom

open Relation (ReflTransGen)

/-- The nodes that were at or below a text that is empty in `s'`, if only elements led from `root` to the text. -/
def Store.emptied (s : Store) (root : NodeId) (s' : Store) : List NodeId :=
  ((s.numbered root).textNodes.filter fun y => s'.text? y.id = some []).flatMap Numbered.ids

/-- **What a pass over the tree below `root` keeps**, if it turns the store `s` into `s'`: of the nodes that were there,
`gone` are the ones that are not any more. -/
structure Store.Keeps (s : Store) (root : NodeId) (s' : Store) (gone : List NodeId) : Prop where
  wellFormed : s'.WellFormed
  outside : ∀ x < s.size, ¬ s.forest.Within x root → s'.get? x = s.get? x
  once : (s'.numbered root).ids.Nodup
  order : ((s'.numbered root).ids.filter (· < s.size)).Sublist (s.numbered root).ids
  there : ∀ x ∈ (s.numbered root).ids, x ∈ (s'.numbered root).ids ↔ x ∉ gone

variable {s s' : Store} {f f' g : Forest}

/-! ## The numbers of a tree -/

namespace Numbered

variable {t t' : Numbered}

mutual
theorem Stands.mem_of_child : ∀ {t : Numbered}, t.Stands f → ∀ {p c : NodeId}, p ∈ t.ids → c ∈ f.children p → c ∈ t.ids
  | .node id data cs, h, p, c, hp, hc => by
    rcases List.mem_cons.1 hp with rfl | hp
    · rw [show f.children p = cs.map Numbered.id from h.children_eq] at hc
      obtain ⟨u, hu, rfl⟩ := List.mem_map.1 hc
      exact List.mem_cons_of_mem _ (mem_idsAll.2 ⟨u, hu, u.id_mem_ids⟩)
    · exact List.mem_cons_of_mem _ (StandAll.mem_of_child h.standAll hp hc)
theorem StandAll.mem_of_child : ∀ {ts : List Numbered}, StandAll f ts → ∀ {p c : NodeId}, p ∈ idsAll ts →
    c ∈ f.children p → c ∈ idsAll ts
  | t :: ts, h, p, c, hp, hc => by
    rw [StandAll] at h
    rw [idsAll, List.mem_append] at hp ⊢
    exact hp.imp (fun hp => Stands.mem_of_child h.1 hp hc) fun hp => StandAll.mem_of_child h.2 hp hc
end

/-- **A tree has the numbers of the nodes that stand below its root.** -/
theorem Stands.mem_ids_iff (h : t.Stands f) {x : NodeId} : x ∈ t.ids ↔ f.Within x t.id := by
  refine ⟨h.within, fun hw => ?_⟩
  induction hw using ReflTransGen.head_induction_on with
  | refl => exact t.id_mem_ids
  | head hxp _ ih => exact h.mem_of_child ih hxp

mutual
theorem ids_withoutEmptyTexts_sublist : ∀ t : Numbered, t.withoutEmptyTexts.ids.Sublist t.ids
  | .node id _ cs => (idsAll_dropEmptyTexts_sublist cs).cons_cons id
theorem idsAll_dropEmptyTexts_sublist : ∀ ts : List Numbered, (idsAll (dropEmptyTexts ts)).Sublist (idsAll ts)
  | [] => .slnil
  | t :: ts => by
    have hts := idsAll_dropEmptyTexts_sublist ts
    rw [dropEmptyTexts, idsAll]
    split
    · exact hts.trans (List.sublist_append_right ..)
    · rw [idsAll]
      split
      · exact (ids_withoutEmptyTexts_sublist t).append hts
      · exact hts.append_left t.ids
end

theorem dropEmptyTexts_cons (t : Numbered) (ts : List Numbered) :
    dropEmptyTexts (t :: ts) = dropEmptyTexts [t] ++ dropEmptyTexts ts := by
  rw [dropEmptyTexts, dropEmptyTexts]
  split <;> rfl

mutual
/-- **With the empty texts go the nodes at and below them**, and no others. -/
theorem mem_withoutEmptyTexts_iff : ∀ {t : Numbered}, t.ids.Nodup → ∀ {x : NodeId}, x ∈ t.ids →
    (x ∈ t.withoutEmptyTexts.ids ↔ ∀ y ∈ t.textNodes, y.data.isEmptyText = true → x ∉ y.ids)
  | .node id _ cs, hnd, x, hx => by
    obtain ⟨hid, hnd⟩ := List.nodup_cons.1 hnd
    rcases List.mem_cons.1 hx with rfl | hx
    · exact iff_of_true List.mem_cons_self fun y hy _ hm => hid (ids_subset_of_mem_textNodesAll hy _ hm)
    · rw [withoutEmptyTexts, ids, List.mem_cons, or_iff_right fun he : x = id => hid (he ▸ hx)]
      exact mem_dropEmptyTexts_iff hnd hx
theorem mem_dropEmptyTexts_iff : ∀ {ts : List Numbered}, (idsAll ts).Nodup → ∀ {x : NodeId}, x ∈ idsAll ts →
    (x ∈ idsAll (dropEmptyTexts ts) ↔ ∀ y ∈ textNodesAll ts, y.data.isEmptyText = true → x ∉ y.ids)
  | .node id data cs :: ts, hnd, x, hx => by
    obtain ⟨hnt, hnts, hdis⟩ := List.nodup_append.1 hnd
    have hfirst := idsAll_dropEmptyTexts_sublist [.node id data cs]
    rw [idsAll_singleton] at hfirst
    rw [dropEmptyTexts_cons, idsAll_append, textNodesAll_cons, List.mem_append, List.forall_mem_append]
    -- the node is in the first tree or behind it, and the texts of the other part say nothing of it
    rcases List.mem_append.1 hx with hx | hx
    · have hbehind : x ∉ idsAll ts := fun hm => hdis x hx x hm rfl
      rw [or_iff_left (fun hm => hbehind ((idsAll_dropEmptyTexts_sublist ts).subset hm)),
        and_iff_left fun y hy _ hm => hbehind (ids_subset_of_mem_textNodesAll hy x hm)]
      cases data with
      | text content =>
        rw [textNodesAll_of_isText rfl, List.forall_mem_singleton]
        show x ∈ idsAll (if (NodeData.text content).isEmptyText then [] else [.node id (.text content) cs]) ↔
          ((NodeData.text content).isEmptyText = true → x ∉ ids (.node id (.text content) cs))
        by_cases hempty : (NodeData.text content).isEmptyText = true
        · rw [if_pos hempty]
          exact iff_of_false List.not_mem_nil fun h => h hempty hx
        · rw [if_neg hempty]
          exact iff_of_true (List.mem_append_left _ hx) fun h => absurd h hempty
      | element name attributes =>
        rw [textNodesAll_of_isElement rfl, ← mem_withoutEmptyTexts_iff hnt hx]
        exact Iff.of_eq (congrArg _ (idsAll_singleton _))
      | _ => exact iff_of_true (List.mem_append_left _ hx) fun y hy => by cases hy
    · have hbefore : x ∉ ids (.node id data cs) := fun hm => hdis x hm x hx rfl
      have hnone : ∀ y ∈ textNodesAll [.node id data cs], y.data.isEmptyText = true → x ∉ y.ids := fun y hy _ hm => by
        have hm' := ids_subset_of_mem_textNodesAll hy x hm
        rw [idsAll_singleton] at hm'
        exact hbefore hm'
      rw [or_iff_right fun hm => hbefore (hfirst.subset hm), and_iff_right hnone, mem_dropEmptyTexts_iff hnts hx]
end

end Numbered

/-! ## Nodes elsewhere -/

/-- **A node is as it was** if it holds what it held, and its own list and the one it stands in are the same. -/
theorem Store.Holds.get?_eq (h : s.Holds f) (h' : s'.Holds g) {x : NodeId} (hdata : g.data x = f.data x)
    (hown : g.children x = f.children x)
    (hlist : ∀ p, x ∈ f.children p ∨ x ∈ g.children p → g.children p = f.children p) : s'.get? x = s.get? x := by
  have hmem : ∀ p, x ∈ g.children p ↔ x ∈ f.children p := fun p =>
    ⟨fun hx => hlist p (.inr hx) ▸ hx, fun hx => (hlist p (.inl hx)).symm ▸ hx⟩
  rcases h.cases_node x with ⟨hx, hn⟩ | ⟨n, hn, hfits⟩ <;> rcases h'.cases_node x with ⟨hx', hn'⟩ | ⟨n', hn', hfits'⟩
  · rw [hn, hn']
  · rw [hfits'.data, h.valid.data_eq_none hx] at hdata
    cases hdata
  · rw [hfits.data, h'.valid.data_eq_none hx'] at hdata
    cases hdata
  · have hparent : n'.parent = n.parent := Option.ext fun p =>
      (hfits'.parent p).trans ((hmem p).trans (hfits.parent p).symm)
    have hsiblings : n'.prevSibling = n.prevSibling ∧ n'.nextSibling = n.nextSibling := by
      cases hp : n.parent with
      | none =>
        obtain ⟨hprev, hnext⟩ := hfits.alone hp
        obtain ⟨hprev', hnext'⟩ := hfits'.alone (hparent.trans hp)
        exact ⟨hprev'.trans hprev.symm, hnext'.trans hnext.symm⟩
      | some p =>
        have hx := (hfits.parent p).1 hp
        have hx' := (hmem p).2 hx
        rw [hfits.prev hx, hfits.next hx, hfits'.prev hx', hfits'.next hx', hlist p (.inl hx)]
        exact ⟨rfl, rfl⟩
    have hdata' : n'.data = n.data := Option.some.inj (hfits'.data.symm.trans (hdata.trans hfits.data))
    have hfirst : n'.firstChild = n.firstChild := by rw [hfits'.first, hfits.first, hown]
    have hlast : n'.lastChild = n.lastChild := by rw [hfits'.last, hfits.last, hown]
    rw [hn, hn']
    exact congrArg some (Node.ext hdata' hparent hfirst hlast hsiblings.1 hsiblings.2)

namespace Numbered

variable {t t' : Numbered}

theorem Becomes.not_mem (hb : Becomes f t f' t') {x : NodeId} (hx : x < f.size) (hxt : x ∉ t.ids) : x ∉ t'.ids :=
  fun hm => (hb.mem hm).elim hxt (Nat.not_le.2 hx)

/-- The list that a node elsewhere stands in, before or after, belongs to a node elsewhere. -/
theorem Becomes.parent_outside (hv : f.Valid) (ht : t.Stands f) (hv' : f'.Valid) (hb : Becomes f t f' t') {x p : NodeId}
    (hx : x < f.size) (hxt : x ∉ t.ids) (hm : x ∈ f.children p ∨ x ∈ f'.children p) : p < f.size ∧ p ∉ t.ids := by
  rcases hm with hm | hm
  · exact ⟨hv.parent_lt hm, fun hp => hxt (ht.mem_of_child hp hm)⟩
  · have hp' : p ∉ t'.ids := fun hp => hb.not_mem hx hxt (hb.stands.mem_of_child hp hm)
    refine ⟨Nat.lt_of_not_le fun hle => hp' (hb.fresh p hle (hv'.parent_lt hm)), fun hp => hp' (hb.mem_of_mem hp)⟩

/-- **A change of one tree leaves the nodes elsewhere as they were**, also if some children of its nodes go away. -/
theorem Becomes.get?_eq (h : s.Holds f) (ht : t.Stands f) (hv' : f'.Valid) (hb : Becomes f t f' t') (h' : s'.Holds g)
    (hdata : ∀ x, g.data x = f'.data x) (hsub : ∀ {p c}, c ∈ g.children p → c ∈ f'.children p)
    (hsame : ∀ p, p ∉ t'.ids → g.children p = f'.children p) {x : NodeId} (hx : x < f.size) (hxt : x ∉ t.ids) :
    s'.get? x = s.get? x := by
  have hlist : ∀ p < f.size, p ∉ t.ids → g.children p = f.children p := fun p hp hpt =>
    (hsame p (hb.not_mem hp hpt)).trans (hb.same p hp hpt).2
  refine h.get?_eq h' ((hdata x).trans (hb.same x hx hxt).1) (hlist x hx hxt) fun p hm => ?_
  obtain ⟨hp, hpt⟩ := hb.parent_outside h.valid ht hv' hx hxt (hm.imp_right hsub)
  exact hlist p hp hpt

/-- **A pass that only changes the tree** keeps everything. -/
theorem Becomes.keeps (h : s.Holds f) (ht : t.Stands f) (hb : Becomes f t f' t') (hid : t'.id = t.id)
    (h' : s'.Holds f') : s.Keeps t.id s' [] := by
  have hbefore : s.numbered t.id = t := ht.numbered_eq h
  have hafter : s'.numbered t.id = t' := hid ▸ hb.stands.numbered_eq h'
  refine ⟨⟨f', h'⟩, fun x hx hxt => ?_, ?_, ?_, fun x hx => ?_⟩
  · rw [h.forest_eq, ← ht.mem_ids_iff] at hxt
    exact hb.get?_eq h ht h'.valid h' (fun _ => rfl) (fun hc => hc) (fun _ _ => rfl) (h.size ▸ hx) hxt
  · rw [hafter]
    exact hb.stands.nodup h'.valid
  · rw [hafter, hbefore, h.size, hb.order]
  · rw [hbefore] at hx
    rw [hafter]
    exact iff_of_true (hb.mem_of_mem hx) List.not_mem_nil

end Numbered

/-! ## With the empty texts taken out -/

theorem NodeData.text?_eq_nil_iff {data : NodeData} : data.text? = some [] ↔ data.isEmptyText = true := by
  rw [NodeData.isEmptyText, Option.any_eq_true]
  exact ⟨fun h => ⟨[], h, rfl⟩, fun ⟨_, h, hempty⟩ => List.isEmpty_iff.1 hempty ▸ h⟩

namespace Numbered

variable {t t' : Numbered}

theorem Becomes.isEmptyText_iff (hb : Becomes f t f' t') (h' : s'.Holds g) (hdata : ∀ x, g.data x = f'.data x)
    {y : Numbered} (hy : y ∈ t'.textNodes) : s'.text? y.id = some [] ↔ y.data.isEmptyText = true := by
  rw [h'.text?_eq, Forest.text?, hdata, (hb.stands.of_mem_textNodes hy).data_eq, Option.bind_some,
    NodeData.text?_eq_nil_iff]

/-- **A node that was there is at or below a text that is empty now** just if it was. -/
theorem Becomes.mem_emptied_iff (h : s.Holds f) (ht : t.Stands f) (hb : Becomes f t f' t') (h' : s'.Holds g)
    (hdata : ∀ x, g.data x = f'.data x) {x : NodeId} (hx : x ∈ t.ids) :
    x ∈ s.emptied t.id s' ↔ ∃ y ∈ t'.textNodes, y.data.isEmptyText = true ∧ x ∈ y.ids := by
  have htext : ∀ y ∈ t'.textNodes, s'.text? y.id = some [] ↔ y.data.isEmptyText = true := fun _ =>
    hb.isEmptyText_iff h' hdata
  have hhung : ∀ a, (a, x) ∈ hung t.textNodes ↔ (a, x) ∈ hung t'.textNodes := fun a => by
    rw [← hb.texts, List.mem_filter, and_iff_left (by simpa using ht.lt_size h.valid hx)]
  simp only [Store.emptied, ht.numbered_eq h, List.mem_flatMap, List.mem_filter, decide_eq_true_eq, and_assoc]
  constructor
  · rintro ⟨y, hy, hempty, hxy⟩
    obtain ⟨y', hy', hid, hxy'⟩ := mem_hung.1 ((hhung y.id).1 (mem_hung.2 ⟨y, hy, rfl, hxy⟩))
    exact ⟨y', hy', (htext y' hy').1 (hid ▸ hempty), hxy'⟩
  · rintro ⟨y', hy', hempty, hxy'⟩
    obtain ⟨y, hy, hid, hxy⟩ := mem_hung.1 ((hhung y'.id).2 (mem_hung.2 ⟨y', hy', rfl, hxy'⟩))
    exact ⟨y, hy, hid ▸ (htext y' hy').2 hempty, hxy⟩

/-- **A pass that changes the tree and then takes out its empty texts** keeps the rest. -/
theorem Becomes.keeps_removeEmptyTexts (h : s.Holds f) (ht : t.Stands f) (hv' : f'.Valid) (hb : Becomes f t f' t')
    (hid : t'.id = t.id) (h' : s'.Holds (f'.removeEmptyTexts t.id)) : s.Keeps t.id s' (s.emptied t.id s') := by
  have hstands : t'.withoutEmptyTexts.Stands (f'.removeEmptyTexts t.id) := hid ▸ hb.stands.withoutEmptyTexts hv'
  have hbefore : s.numbered t.id = t := ht.numbered_eq h
  have hafter : s'.numbered t.id = t'.withoutEmptyTexts := by
    rw [← hid, ← id_withoutEmptyTexts t', hstands.numbered_eq h']
  have hreached : ∀ p, p ∉ t'.ids → ¬ f'.Reaches t.id p := fun p hp hr =>
    hp (reached_subset (hb.stands.mem_reached_iff.2 (hid.symm ▸ hr)))
  refine ⟨⟨_, h'⟩, fun x hx hxt => ?_, ?_, ?_, fun x hx => ?_⟩
  · rw [h.forest_eq, ← ht.mem_ids_iff] at hxt
    exact hb.get?_eq h ht hv' h' (fun _ => rfl) Forest.mem_of_removeEmptyTexts
      (fun p hp => Forest.children_removeEmptyTexts_of_not_reaches (hreached p hp)) (h.size ▸ hx) hxt
  · rw [hafter]
    exact hstands.nodup h'.valid
  · rw [hafter, hbefore, h.size, ← hb.order]
    exact (ids_withoutEmptyTexts_sublist t').filter _
  · rw [hbefore] at hx
    rw [hafter, mem_withoutEmptyTexts_iff (hb.stands.nodup hv') (hb.mem_of_mem hx),
      hb.mem_emptied_iff h ht h' (fun _ => rfl) hx]
    simp only [not_exists, not_and]

end Numbered

end BlogMarkdown.Dom
