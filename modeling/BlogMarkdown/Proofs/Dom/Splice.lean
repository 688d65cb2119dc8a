import BlogMarkdown.Proofs.Dom.Numbered
import BlogMarkdown.Proofs.Dom.Operations
/-!
# Changing a tree where it stands

`Becomes f t f' t'` says that the forest `f` changed to `f'` only in the tree `t`, where `t'` stands now: what is
outside keeps its data and children, new nodes have new numbers, the numbers that were there keep their order, and what
hangs below a text keeps hanging there.  The lemmas below change the children of a node one at a time.
-/
namespace BlogMarkdown.Dom

open Relation (ReflTransGen)

namespace Numbered

/-- **A tree that changed where it stands.** -/
structure Becomes (f : Forest) (t : Numbered) (f' : Forest) (t' : Numbered) : Prop where
  stands : t'.Stands f'
  isText : t'.data.isText = t.data.isText
  isElement : t'.data.isElement = t.data.isElement
  size_le : f.size ≤ f'.size
  same : ∀ x < f.size, x ∉ t.ids → f'.data x = f.data x ∧ f'.children x = f.children x
  order : t'.ids.filter (· < f.size) = t.ids
  fresh : ∀ x, f.size ≤ x → x < f'.size → x ∈ t'.ids
  texts : (hung t'.textNodes).filter (·.2 < f.size) = hung t.textNodes

variable {f f' f'' : Forest} {t t' t'' : Numbered}

theorem Stands.filter_lt_size (hv : f.Valid) (h : t.Stands f) {l : List NodeId} (hl : ∀ x ∈ l, x ∈ t.ids) :
    l.filter (· < f.size) = l :=
  List.filter_eq_self.2 fun x hx => by simpa using h.lt_size hv (hl x hx)

theorem Stands.filter_hung (hv : f.Valid) (h : t.Stands f) {texts : List Numbered}
    (hl : ∀ y ∈ texts, ∀ x ∈ y.ids, x ∈ t.ids) : (hung texts).filter (·.2 < f.size) = hung texts :=
  List.filter_eq_self.2 fun ⟨_, x⟩ hp => by
    obtain ⟨y, hy, -, hx⟩ := mem_hung.1 hp
    simpa using h.lt_size hv (hl y hy x hx)

theorem Becomes.mem (h : Becomes f t f' t') {x : NodeId} (hx : x ∈ t'.ids) : x ∈ t.ids ∨ f.size ≤ x := by
  by_cases hlt : x < f.size
  · rw [← h.order]
    exact .inl (List.mem_filter.2 ⟨hx, by simpa using hlt⟩)
  · exact .inr (Nat.le_of_not_lt hlt)

theorem Becomes.mem_of_mem (h : Becomes f t f' t') {x : NodeId} (hx : x ∈ t.ids) : x ∈ t'.ids := by
  rw [← h.order] at hx
  exact (List.mem_filter.1 hx).1

theorem Becomes.refl (hv : f.Valid) (h : t.Stands f) : Becomes f t f t where
  stands := h
  isText := rfl
  isElement := rfl
  size_le := Nat.le_refl _
  same _ _ _ := ⟨rfl, rfl⟩
  order := h.filter_lt_size hv fun _ hx => hx
  fresh _ hx hlt := absurd hlt (Nat.not_lt.2 hx)
  texts := h.filter_hung hv fun _ hy => ids_subset_of_mem_textNodes hy

theorem filter_lt_filter_lt {α : Type} (number : α → NodeId) {m n : Nat} (h : m ≤ n) (l : List α) :
    (l.filter (number · < n)).filter (number · < m) = l.filter (number · < m) := by
  rw [List.filter_filter]
  refine List.filter_congr fun x _ => ?_
  by_cases hx : number x < m
  · simp [hx, Nat.lt_of_lt_of_le hx h]
  · simp [hx]

theorem Becomes.trans (h : Becomes f t f' t') (h' : Becomes f' t' f'' t'') : Becomes f t f'' t'' where
  stands := h'.stands
  isText := h'.isText.trans h.isText
  isElement := h'.isElement.trans h.isElement
  size_le := Nat.le_trans h.size_le h'.size_le
  same x hx ht := by
    have ht' : x ∉ t'.ids := fun hm => (h.mem hm).elim ht (Nat.not_le.2 hx)
    obtain ⟨hd, hc⟩ := h.same x hx ht
    obtain ⟨hd', hc'⟩ := h'.same x (Nat.lt_of_lt_of_le hx h.size_le) ht'
    exact ⟨hd'.trans hd, hc'.trans hc⟩
  order := by rw [← h.order, ← h'.order, filter_lt_filter_lt (fun x => x) h.size_le]
  fresh x hx hlt := by
    by_cases hx' : x < f'.size
    · exact h'.mem_of_mem (h.fresh x hx hx')
    · exact h'.fresh x (Nat.le_of_not_lt hx') hlt
  texts := by rw [← h.texts, ← h'.texts, filter_lt_filter_lt Prod.snd h.size_le]

/-! ## One child among the children of a node -/

variable {top : NodeId} {data : NodeData} {before after : List Numbered}

theorem Stands.children_split (h : (node top data (before ++ t :: after)).Stands f) :
    f.children top = before.map Numbered.id ++ t.id :: after.map Numbered.id := by
  rw [show f.children top = (before ++ t :: after).map Numbered.id from h.children_eq, List.map_append, List.map_cons]

theorem Stands.split (h : (node top data (before ++ t :: after)).Stands f) :
    StandAll f before ∧ t.Stands f ∧ StandAll f after := by
  obtain ⟨hbefore, hrest⟩ := standAll_append.1 h.standAll
  exact ⟨hbefore, hrest.1, hrest.2⟩

theorem Stands.firstChild_eq {s : Store} (hs : s.Holds f) (h : t.Stands f) :
    s.firstChild t.id = (t.children.map Numbered.id).head? := by
  rw [hs.firstChild_eq, h.children_eq]

theorem Stands.nextSibling_eq {s : Store} (hs : s.Holds f) (h : (node top data (before ++ t :: after)).Stands f) :
    s.nextSibling t.id = (after.map Numbered.id).head? := by
  have hmem : t.id ∈ f.children top := h.child_mem (List.mem_append_right _ List.mem_cons_self)
  have hnodup := hs.valid.nodup top
  rw [h.children_split] at hnodup
  rw [hs.nextSibling_eq hmem, h.children_split]
  exact (neighbours_of_split hnodup).1

theorem mem_ids_split {x : NodeId} : x ∈ (node top data (before ++ t :: after)).ids ↔
    x = top ∨ x ∈ idsAll before ∨ x ∈ t.ids ∨ x ∈ idsAll after := by
  rw [ids, idsAll_append, idsAll, List.mem_cons, List.mem_append, List.mem_append]

/-- The numbers of a node and of what stands before, in and behind one of its children are apart. -/
theorem Stands.apart (hv : f.Valid) (h : (node top data (before ++ t :: after)).Stands f) :
    top ∉ t.ids ∧ ∀ x, x ∈ idsAll before ∨ x ∈ idsAll after → x ≠ top ∧ x ∉ t.ids := by
  have hnd := h.nodup hv
  rw [ids, idsAll_append, idsAll, List.nodup_cons, List.mem_append, List.mem_append] at hnd
  obtain ⟨htop, hnd⟩ := hnd
  obtain ⟨-, hrest, hdis⟩ := List.nodup_append.1 hnd
  obtain ⟨-, -, hdis'⟩ := List.nodup_append.1 hrest
  refine ⟨fun hm => htop (.inr (.inl hm)), fun x hx => ⟨fun he => htop (he ▸ hx.imp_right .inr), fun hm => ?_⟩⟩
  rcases hx with hx | hx
  · exact hdis x hx x (List.mem_append_left _ hm) rfl
  · exact hdis' x hm x hx rfl

theorem Stands.splice {us : List Numbered} (h : (node top data (before ++ t :: after)).Stands f)
    (hdata : f'.data top = f.data top)
    (hchildren : f'.children top = before.map Numbered.id ++ (us.map Numbered.id ++ after.map Numbered.id))
    (hsame : ∀ x, x ∈ idsAll before ∨ x ∈ idsAll after → f'.data x = f.data x ∧ f'.children x = f.children x)
    (hus : StandAll f' us) : (node top data (before ++ (us ++ after))).Stands f' := by
  obtain ⟨hbefore, -, hafter⟩ := h.split
  refine ⟨hdata.trans h.data_eq, ?_, ?_⟩
  · rw [hchildren, List.map_append, List.map_append]
  · exact standAll_append.2 ⟨hbefore.congr fun x hx => hsame x (.inl hx),
      standAll_append.2 ⟨hus, hafter.congr fun x hx => hsame x (.inr hx)⟩⟩

theorem hung_split : hung (node top data (before ++ t :: after)).textNodes =
    hung (textNodesAll before) ++ (hung (textNodesAll [t]) ++ hung (textNodesAll after)) := by
  rw [textNodes, textNodesAll_append, textNodesAll_cons, hung_append, hung_append]

/-- What hangs below the texts before and behind a child is old. -/
theorem Stands.filter_hung_beside (hv : f.Valid) (h : (node top data (before ++ t :: after)).Stands f) :
    (hung (textNodesAll before)).filter (·.2 < f.size) = hung (textNodesAll before) ∧
      (hung (textNodesAll after)).filter (·.2 < f.size) = hung (textNodesAll after) :=
  ⟨h.filter_hung hv fun _ hy x hx => mem_ids_split.2 (.inr (.inl (ids_subset_of_mem_textNodesAll hy x hx))),
    h.filter_hung hv fun _ hy x hx => mem_ids_split.2 (.inr (.inr (.inr (ids_subset_of_mem_textNodesAll hy x hx))))⟩

theorem Becomes.hung_child (h : Becomes f t f' t') (hid : t'.id = t.id) :
    (hung (textNodesAll [t'])).filter (·.2 < f.size) = hung (textNodesAll [t]) := by
  by_cases hx : t.data.isText = true
  · rw [textNodesAll_of_isText (h.isText.trans hx), textNodesAll_of_isText hx, hung, hung,
      List.flatMap_singleton, List.flatMap_singleton, List.filter_map, hid, ← h.order]
    rfl
  by_cases he : t.data.isElement = true
  · rw [textNodesAll_of_isElement (h.isElement.trans he), textNodesAll_of_isElement he, h.texts]
  · rw [Bool.not_eq_true] at hx he
    rw [textNodesAll_of_other (h.isElement.trans he) (h.isText.trans hx), textNodesAll_of_other he hx]
    rfl

/-- **One child changes** where it stands. -/
theorem Stands.becomes_of_child (hv : f.Valid) (h : (node top data (before ++ t :: after)).Stands f)
    (ht : Becomes f t f' t') (hid : t'.id = t.id) :
    Becomes f (node top data (before ++ t :: after)) f' (node top data (before ++ t' :: after)) := by
  obtain ⟨htop, hapart⟩ := h.apart hv
  have htop' := ht.same top (h.lt_size hv List.mem_cons_self) htop
  have hsame : ∀ x, x ∈ idsAll before ∨ x ∈ idsAll after → f'.data x = f.data x ∧ f'.children x = f.children x := by
    intro x hx
    exact ht.same x (h.lt_size hv (mem_ids_split.2 (.inr (hx.imp_right .inr)))) (hapart x hx).2
  have hchildren : f'.children top = before.map Numbered.id ++ ([t'].map Numbered.id ++ after.map Numbered.id) := by
    rw [htop'.2, h.children_split, List.map_singleton, hid, List.singleton_append]
  obtain ⟨hungBefore, hungAfter⟩ := h.filter_hung_beside hv
  refine ⟨h.splice htop'.1 hchildren hsame ⟨ht.stands, trivial⟩, rfl, rfl, ht.size_le, fun x hx hxm => ?_, ?_,
    fun x hx hlt => mem_ids_split.2 (.inr (.inr (.inl (ht.fresh x hx hlt)))), ?_⟩
  · exact ht.same x hx fun hm => hxm (mem_ids_split.2 (.inr (.inr (.inl hm))))
  · have hbefore := h.filter_lt_size hv (l := idsAll before) fun x hx => mem_ids_split.2 (.inr (.inl hx))
    have hafter := h.filter_lt_size hv (l := idsAll after) fun x hx => mem_ids_split.2 (.inr (.inr (.inr hx)))
    rw [ids, ids, idsAll_append, idsAll_append, idsAll, idsAll, List.filter_cons_of_pos (by
      simpa using h.lt_size hv List.mem_cons_self), List.filter_append, List.filter_append, ht.order, hbefore, hafter]
  · rw [hung_split, hung_split, List.filter_append, List.filter_append, hungBefore, ht.hung_child hid, hungAfter]

/-! ## Another text, and a new sibling -/

theorem Stands.becomes_setText (hv : f.Valid) {id : NodeId} {content : List Char} {below : List Numbered}
    (h : (node id (.text content) below).Stands f) (new : List Char) :
    Becomes f (node id (.text content) below) (f.setText id new) (node id (.text new) below) := by
  obtain ⟨hid, -⟩ := List.nodup_cons.1 (h.nodup hv)
  have hdata : (f.setText id new).data id = some (.text new) := by
    refine (if_pos rfl).trans ?_
    rw [show f.data id = some (.text content) from h.data_eq]
    rfl
  have hother : ∀ x, x ≠ id → (f.setText id new).data x = f.data x := fun x hx => if_neg hx
  refine ⟨⟨hdata, h.children_eq, ?_⟩, rfl, rfl, Nat.le_refl _, fun x _ hx => ⟨hother x fun he => hx ?_, rfl⟩, ?_,
    fun x hx hlt => absurd hlt (Nat.not_lt.2 hx), h.filter_hung hv fun _ hy => ids_subset_of_mem_textNodes hy⟩
  · exact h.standAll.congr fun x hx => ⟨hother x fun he => hid (he ▸ hx), rfl⟩
  · exact he ▸ List.mem_cons_self
  · exact h.filter_lt_size hv fun x hx => hx

theorem children_insertAfter_of_not_mem (hv : f.Valid) {p sibling new : NodeId} {u v : List NodeId}
    (h : f.children p = u ++ sibling :: v) (hnew : ∀ q, new ∉ f.children q) (q : NodeId) :
    (f.insertAfter sibling new).children q = if q = p then u ++ sibling :: new :: v else f.children q := by
  show insertAfterIn sibling new ((f.children q).filter (· ≠ new)) = _
  rw [filter_ne_of_not_mem (hnew q)]
  by_cases hq : q = p
  · rw [if_pos hq, hq, h]
    exact insertAfterIn_split (h ▸ hv.nodup p)
  · rw [if_neg hq]
    exact insertAfterIn_of_not_mem fun hm => hq (hv.unique hm (h ▸ List.mem_append_right _ List.mem_cons_self))

theorem children_insertAfter_new (hv : f.Valid) {p sibling : NodeId} {u v : List NodeId}
    (h : f.children p = u ++ sibling :: v) (d : NodeData) (q : NodeId) :
    ((f.create d).insertAfter sibling f.size).children q =
      if q = p then u ++ sibling :: f.size :: v else f.children q :=
  children_insertAfter_of_not_mem (hv.create d) h hv.not_mem_new q

/-- **A tree of new nodes comes right behind a child.** -/
theorem Stands.becomes_of_inserted (hv : f.Valid) (h : (node top data (before ++ t :: after)).Stands f)
    (hold : ∀ x < f.size, f'.data x = f.data x ∧ (x ≠ top → f'.children x = f.children x))
    (hchildren : f'.children top = before.map Numbered.id ++ t.id :: t'.id :: after.map Numbered.id)
    (hstands : t'.Stands f') (hsize : f.size ≤ f'.size) (hnew : ∀ x ∈ t'.ids, f.size ≤ x)
    (hfresh : ∀ x, f.size ≤ x → x < f'.size → x ∈ t'.ids) :
    Becomes f (node top data (before ++ t :: after)) f' (node top data (before ++ t :: t' :: after)) := by
  have htopLt : top < f.size := h.lt_size hv List.mem_cons_self
  obtain ⟨htop, hapart⟩ := h.apart hv
  have hmem : ∀ x, x ∈ idsAll before ∨ x ∈ t.ids ∨ x ∈ idsAll after →
      x ∈ (node top data (before ++ t :: after)).ids := fun x hx => mem_ids_split.2 (.inr hx)
  have hkept : ∀ x < f.size, x ≠ top → f'.data x = f.data x ∧ f'.children x = f.children x := fun x hx hne =>
    ⟨(hold x hx).1, (hold x hx).2 hne⟩
  have hsame : ∀ x, x ∈ idsAll before ∨ x ∈ idsAll after → f'.data x = f.data x ∧ f'.children x = f.children x :=
    fun x hx => hkept x (h.lt_size hv (hmem x (hx.imp_right .inr))) (hapart x hx).1
  have hthere : t.Stands f' :=
    h.split.2.1.congr fun x hx => hkept x (h.lt_size hv (hmem x (.inr (.inl hx)))) fun he => htop (he ▸ hx)
  have hall : (node top data (before ++ ([t, t'] ++ after))).Stands f' :=
    h.splice (hold top htopLt).1 hchildren hsame ⟨hthere, hstands, trivial⟩
  refine ⟨hall, rfl, rfl, hsize,
    fun x hx hxm => hkept x hx fun he => hxm (he ▸ List.mem_cons_self), ?_, fun x hx hlt => ?_, ?_⟩
  · have hbefore := h.filter_lt_size hv (l := idsAll before) fun x hx => hmem x (.inl hx)
    have hchild := h.filter_lt_size hv (l := t.ids) fun x hx => hmem x (.inr (.inl hx))
    have hafter := h.filter_lt_size hv (l := idsAll after) fun x hx => hmem x (.inr (.inr hx))
    have hnone : t'.ids.filter (· < f.size) = [] :=
      List.filter_eq_nil_iff.2 fun x hx => by simpa using hnew x hx
    rw [ids, ids, idsAll_append, idsAll_append, idsAll, idsAll, idsAll, List.filter_cons_of_pos (by simpa using htopLt),
      List.filter_append, List.filter_append, List.filter_append, hnone, hbefore, hchild, hafter, List.nil_append]
  · rw [List.append_cons]
    exact mem_ids_split.2 (.inr (.inr (.inl (hfresh x hx hlt))))
  · obtain ⟨hungBefore, hungAfter⟩ := h.filter_hung_beside hv
    have hchild : (hung (textNodesAll [t])).filter (·.2 < f.size) = hung (textNodesAll [t]) :=
      (Becomes.refl hv h.split.2.1).hung_child rfl
    have hnone : (hung (textNodesAll [t'])).filter (·.2 < f.size) = [] :=
      List.filter_eq_nil_iff.2 fun ⟨_, x⟩ hp => by
        obtain ⟨y, hy, -, hx⟩ := mem_hung.1 hp
        have hx' := ids_subset_of_mem_textNodesAll hy x hx
        rw [idsAll_singleton] at hx'
        simpa using hnew x hx'
    rw [hung_split, hung_split, textNodesAll_cons t', hung_append, List.filter_append, List.filter_append,
      List.filter_append, hungBefore, hchild, hnone, hungAfter, List.nil_append]

theorem Stands.becomes_insertAfter (hv : f.Valid) (h : (node top data (before ++ t :: after)).Stands f)
    (d : NodeData) :
    Becomes f (node top data (before ++ t :: after)) ((f.create d).insertAfter t.id f.size)
      (node top data (before ++ t :: node f.size d [] :: after)) := by
  have htopLt : top < f.size := h.lt_size hv List.mem_cons_self
  have hchildren := children_insertAfter_new hv h.children_split d
  refine h.becomes_of_inserted hv (fun x hx => ⟨if_neg (Nat.ne_of_lt hx), fun hne => (hchildren x).trans (if_neg hne)⟩)
    ((hchildren top).trans (if_pos rfl)) ⟨if_pos rfl, (hchildren f.size).trans ?_, trivial⟩ (Nat.le_succ _)
    (fun x hx => Nat.le_of_eq (List.mem_singleton.1 hx).symm)
    fun x hx hlt => List.mem_singleton.2 (Nat.le_antisymm (Nat.le_of_lt_succ hlt) hx)
  rw [if_neg (Nat.ne_of_gt htopLt), hv.children_eq_nil (Nat.le_refl _)]
  rfl

theorem children_append_moved (hv : f.Valid) {p q c : NodeId} {u v : List NodeId} (h : f.children p = u ++ c :: v)
    (hq : q ≠ p) (x : NodeId) :
    (f.append q c).children x = if x = p then u ++ v else if x = q then f.children q ++ [c] else f.children x := by
  have hother : ∀ y, y ≠ p → (f.remove c).children y = f.children y := fun y hy =>
    filter_ne_of_not_mem fun hm => hy (hv.unique hm (h ▸ List.mem_append_right _ List.mem_cons_self))
  by_cases hxp : x = p
  · subst hxp
    have hnd := hv.nodup x
    rw [h] at hnd
    obtain ⟨-, hcv, hdis⟩ := List.nodup_append.1 hnd
    rw [if_pos rfl, Forest.children_append_of_ne (Ne.symm hq)]
    show (f.children x).filter (· ≠ c) = _
    rw [h, List.filter_append, List.filter_cons_of_neg (by simp),
      filter_ne_of_not_mem fun hm => hdis c hm c List.mem_cons_self rfl,
      filter_ne_of_not_mem (List.nodup_cons.1 hcv).1]
  · rw [if_neg hxp]
    by_cases hxq : x = q
    · rw [if_pos hxq, hxq, Forest.children_append_self, hother q hq]
    · rw [if_neg hxq, Forest.children_append_of_ne hxq, hother x hxp]

end Numbered

end BlogMarkdown.Dom
