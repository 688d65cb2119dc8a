import BlogMarkdown.Proofs.Dom.Numbered
import Mathlib.Data.List.Flatten
/-!
# Empty texts

Working off the elements below a root takes out exactly the empty texts that stand right below the root or right below
an element to which only elements lead (`Holds.removeEmptyTexts`).  For trees this is one recursion through elements.
-/
namespace BlogMarkdown.Dom

open Relation (ReflTransGen)

mutual
/-- The tree without the empty texts that only elements lead to. -/
def Tree.withoutEmptyTexts : Tree → Tree
  | .node data children => .node data (dropEmptyTexts children)
def dropEmptyTexts : List Tree → List Tree
  | [] => []
  | t :: rest =>
    if t.data.isEmptyText then dropEmptyTexts rest
    else (if t.data.isElement then t.withoutEmptyTexts else t) :: dropEmptyTexts rest
end

/-- The empty texts leave the lists of some nodes. -/
def Forest.clear (f : Forest) (ids : List NodeId) : Forest :=
  { f with children := fun p => if p ∈ ids then (f.children p).filter fun c => !f.isEmptyText c else f.children p }

namespace Forest

variable {f : Forest} {l m : List NodeId}

theorem clear_congr (h : ∀ x, x ∈ l ↔ x ∈ m) : f.clear l = f.clear m := by
  refine Forest.ext rfl rfl (funext fun p => ?_)
  show (if p ∈ l then _ else _) = if p ∈ m then _ else _
  by_cases hp : p ∈ l
  · rw [if_pos hp, if_pos ((h p).1 hp)]
  · rw [if_neg hp, if_neg (mt (h p).2 hp)]

theorem clear_clear : (f.clear l).clear m = f.clear (l ++ m) := by
  refine Forest.ext rfl rfl (funext fun p => ?_)
  show (if p ∈ m then ((f.clear l).children p).filter fun c => !f.isEmptyText c else (f.clear l).children p) =
    if p ∈ l ++ m then (f.children p).filter fun c => !f.isEmptyText c else f.children p
  rw [clear]
  by_cases hl : p ∈ l <;> by_cases hm : p ∈ m <;> simp [hl, hm]

end Forest

namespace Numbered

mutual
/-- The root, and the elements below it to which only elements lead. -/
def reached : Numbered → List NodeId
  | .node id _ children => id :: reachedAll children
def reachedAll : List Numbered → List NodeId
  | [] => []
  | t :: rest => (if t.data.isElement then t.reached else []) ++ reachedAll rest
end

variable {f : Forest}

mutual
theorem reached_subset : ∀ {t : Numbered} {x : NodeId}, x ∈ t.reached → x ∈ t.ids
  | .node id data cs, x, hx => by
    rcases List.mem_cons.1 hx with rfl | hx
    · exact List.mem_cons_self
    · exact List.mem_cons_of_mem _ (reachedAll_subset hx)
theorem reachedAll_subset : ∀ {ts : List Numbered} {x : NodeId}, x ∈ reachedAll ts → x ∈ idsAll ts
  | t :: ts, x, hx => by
    rw [reachedAll, List.mem_append] at hx
    rw [idsAll, List.mem_append]
    refine hx.imp (fun hx => ?_) reachedAll_subset
    split at hx
    · exact reached_subset hx
    · cases hx
end

theorem reachedAll_eq_flatMap : ∀ ts : List Numbered,
    reachedAll ts = (ts.filter (·.data.isElement)).flatMap reached
  | [] => rfl
  | t :: ts => by
    rw [reachedAll, reachedAll_eq_flatMap ts]
    by_cases ht : t.data.isElement = true
    · rw [if_pos ht, List.filter_cons_of_pos (by exact ht), List.flatMap_cons]
    · rw [if_neg ht, List.filter_cons_of_neg (by exact ht), List.nil_append]

/-- The elements among some children, the last one in front. -/
def elementsOf (cs : List Numbered) : List Numbered := (cs.filter (·.data.isElement)).reverse

theorem elementsOf_subperm (cs ts : List Numbered) :
    (idsAll (elementsOf cs ++ ts)).Subperm (idsAll cs ++ idsAll ts) := by
  rw [idsAll_append, List.subperm_append_right, idsAll_eq_flatMap, idsAll_eq_flatMap]
  have hperm := (List.reverse_perm (cs.filter (·.data.isElement))).flatMap_right ids
  exact hperm.subperm.trans (List.filter_sublist.flatMap ids).subperm

theorem mem_reached_cons {top x : NodeId} {data : NodeData} {cs ts : List Numbered} :
    x ∈ [top] ++ (elementsOf cs ++ ts).flatMap reached ↔ x ∈ (node top data cs :: ts).flatMap reached := by
  rw [List.flatMap_cons, reached, reachedAll_eq_flatMap, List.flatMap_append, elementsOf]
  simp

theorem Stands.isElement_eq {t : Numbered} (h : t.Stands f) : f.isElement t.id = t.data.isElement := by
  rw [Forest.isElement, h.data_eq, Option.any_some]

theorem Stands.isEmptyText_eq {t : Numbered} (h : t.Stands f) : f.isEmptyText t.id = t.data.isEmptyText := by
  rw [Forest.isEmptyText, h.data_eq, Option.any_some]

mutual
/-- **The nodes that only elements lead to**, as numbers of a tree. -/
theorem Stands.reaches : ∀ {t : Numbered}, t.Stands f → ∀ {x}, x ∈ t.reached → f.Reaches t.id x
  | .node id data cs, h, x, hx => by
    rcases List.mem_cons.1 hx with rfl | hx
    · exact .refl
    · obtain ⟨c, hc, he, hw⟩ := StandAll.reaches h.standAll hx
      exact .head ⟨h.child_mem hc, he⟩ hw
theorem StandAll.reaches : ∀ {ts : List Numbered}, StandAll f ts → ∀ {x}, x ∈ reachedAll ts →
    ∃ t ∈ ts, f.isElement t.id = true ∧ f.Reaches t.id x
  | t :: ts, h, x, hx => by
    rw [StandAll] at h
    rcases List.mem_append.1 hx with hx | hx
    · split at hx
      · next ht => exact ⟨t, List.mem_cons_self, h.1.isElement_eq.trans ht, Stands.reaches h.1 hx⟩
      · cases hx
    · obtain ⟨u, hu, hw⟩ := StandAll.reaches h.2 hx
      exact ⟨u, List.mem_cons_of_mem _ hu, hw⟩
end

mutual
theorem Stands.child_reached : ∀ {t : Numbered}, t.Stands f → ∀ {p c}, p ∈ t.reached → c ∈ f.children p →
    f.isElement c = true → c ∈ t.reached
  | .node id data cs, h, p, c, hp, hc, he => by
    refine List.mem_cons_of_mem _ ?_
    rcases List.mem_cons.1 hp with rfl | hp
    · rw [show f.children p = cs.map Numbered.id from h.children_eq] at hc
      obtain ⟨t, ht, rfl⟩ := List.mem_map.1 hc
      rw [reachedAll_eq_flatMap]
      refine List.mem_flatMap.2 ⟨t, List.mem_filter.2 ⟨ht, ?_⟩, ?_⟩
      · rwa [← (h.standAll.of_mem ht).isElement_eq]
      · cases t; exact List.mem_cons_self
    · exact StandAll.child_reached h.standAll hp hc he
theorem StandAll.child_reached : ∀ {ts : List Numbered}, StandAll f ts → ∀ {p c}, p ∈ reachedAll ts →
    c ∈ f.children p → f.isElement c = true → c ∈ reachedAll ts
  | t :: ts, h, p, c, hp, hc, he => by
    rw [StandAll] at h
    rw [reachedAll, List.mem_append] at hp ⊢
    refine hp.imp (fun hp => ?_) fun hp => StandAll.child_reached h.2 hp hc he
    split at hp
    · next ht =>
      rw [if_pos ht]
      exact Stands.child_reached h.1 hp hc he
    · cases hp
end

theorem Stands.mem_reached_iff {t : Numbered} (h : t.Stands f) {x : NodeId} :
    x ∈ t.reached ↔ f.Reaches t.id x := by
  refine ⟨h.reaches, fun hr => ?_⟩
  induction hr with
  | refl => cases t; exact List.mem_cons_self
  | tail _ hyz ih => exact h.child_reached ih hyz.1 hyz.2

end Numbered

namespace Store

variable {s : Store} {f : Forest}

theorem Holds.detachEmptyTexts : ∀ {s : Store} {f : Forest} (l : List NodeId), s.Holds f →
    (s.detachEmptyTexts l).Holds
      { f with children := fun p => (f.children p).filter fun c => !(decide (c ∈ l) && f.isEmptyText c) }
  | s, f, [], h => by
    have : ∀ p, (f.children p).filter (fun c => !(decide (c ∈ []) && f.isEmptyText c)) = f.children p := fun p =>
      List.filter_eq_self.2 fun x _ => by simp
    simp only [this]
    exact h
  | s, f, a :: l, h => by
    have hempty : (s.data? a).any (·.isEmptyText) = f.isEmptyText a := by rw [h.data?_eq]; rfl
    show (l.foldl _ (if (s.data? a).any (·.isEmptyText) then s.detach a else s)).Holds _
    rw [hempty]
    by_cases ha : f.isEmptyText a = true
    · rw [if_pos ha]
      refine ((h.detach a).detachEmptyTexts l).of_eq (Forest.ext rfl rfl (funext fun p => ?_))
      show ((f.children p).filter (· ≠ a)).filter _ = _
      rw [List.filter_filter]
      refine List.filter_congr fun x _ => ?_
      by_cases hx : x = a
      · subst hx; simp [ha]
      · simp [hx]; rfl
    · rw [if_neg ha]
      refine (h.detachEmptyTexts l).of_eq (Forest.ext rfl rfl (funext fun p => ?_))
      refine List.filter_congr fun x _ => ?_
      by_cases hx : x = a
      · subst hx; simp [ha]
      · simp [hx]

theorem Holds.detachEmptyTexts_children (h : s.Holds f) (id : NodeId) :
    (s.detachEmptyTexts (s.children id)).Holds (f.clear [id]) := by
  rw [h.children_eq]
  refine (h.detachEmptyTexts (f.children id)).of_eq (Forest.ext rfl rfl (funext fun p => ?_))
  show (f.children p).filter _ = if p ∈ [id] then _ else _
  by_cases hp : p = id
  · subst hp
    rw [if_pos List.mem_cons_self]
    exact List.filter_congr fun x hx => by simp [hx]
  · rw [if_neg (by simpa using hp)]
    exact List.filter_eq_self.2 fun x hx => by simpa using .inl fun hm => hp (h.valid.unique hx hm)

theorem Holds.isElement_eq (h : s.Holds f) (id : NodeId) : s.isElement id = f.isElement id := by
  rw [Store.isElement, h.data?_eq]
  rfl

theorem Holds.elementsOf_eq (h : s.Holds f) {top : NodeId} {data : NodeData} {cs : List Numbered}
    (ht : (Numbered.node top data cs).Stands f) :
    ((s.children top).filter s.isElement).reverse = (Numbered.elementsOf cs).map Numbered.id := by
  rw [h.children_eq, show f.children top = cs.map Numbered.id from ht.children_eq, Numbered.elementsOf,
    List.map_reverse, List.filter_map]
  refine congrArg (fun l => (l.map Numbered.id).reverse) (List.filter_congr fun c hc => ?_)
  rw [Function.comp_apply, ← (ht.standAll.of_mem hc).isElement_eq, h.isElement_eq]

open Numbered in
/-- **Working off a list of elements** clears every node that they reach. -/
theorem Holds.removeEmptyTextsBelow : ∀ (steps : Nat) {s : Store} {f : Forest} {ts : List Numbered}, s.Holds f →
    StandAll f ts → (idsAll ts).Nodup → (idsAll ts).length ≤ steps →
    (Store.removeEmptyTextsBelow steps s (ts.map Numbered.id)).Holds (f.clear (ts.flatMap reached))
  | steps, s, f, [], h, _, _, _ => by
    cases steps <;> exact h
  | 0, s, f, .node top data cs :: ts, _, _, _, hlen => by
    rw [idsAll, ids] at hlen
    cases hlen
  | steps + 1, s, f, .node top data cs :: ts, h, hts, hnd, hlen => by
    rw [StandAll] at hts
    obtain ⟨ht, hts⟩ := hts
    rw [idsAll, ids, List.cons_append] at hnd hlen
    obtain ⟨htop, hnd⟩ := List.nodup_cons.1 hnd
    -- the list that is left has one node less below it, which pays for this step
    have hsub := elementsOf_subperm cs ts
    have hstand : StandAll (f.clear [top]) (elementsOf cs ++ ts) := by
      have hall : StandAll f (elementsOf cs ++ ts) := by
        refine standAll_append.2 ⟨standAll_of_forall fun t ht' => ?_, hts⟩
        exact ht.standAll.of_mem (List.mem_filter.1 (List.mem_reverse.1 ht')).1
      refine hall.congr fun x hx => ⟨rfl, if_neg fun hm => htop ?_⟩
      have hx' := hsub.subset hx
      rwa [List.mem_singleton.1 hm] at hx'
    have hnodup : (idsAll (elementsOf cs ++ ts)).Nodup := by
      obtain ⟨l, hperm, hl⟩ := hsub
      exact hperm.nodup_iff.1 (hnd.sublist hl)
    have hsteps : (idsAll (elementsOf cs ++ ts)).length ≤ steps :=
      Nat.le_trans hsub.length_le (Nat.le_of_succ_le_succ hlen)
    have hstep := (h.detachEmptyTexts_children top).removeEmptyTextsBelow steps hstand hnodup hsteps
    rw [Forest.clear_clear, Forest.clear_congr fun x => mem_reached_cons, List.map_append] at hstep
    show (Store.removeEmptyTextsBelow steps (s.detachEmptyTexts (s.children top))
      (((s.children top).filter s.isElement).reverse ++ ts.map Numbered.id)).Holds _
    rwa [h.elementsOf_eq ht]

open Classical in
theorem removeEmptyTexts_eq_clear {t : Numbered} (h : t.Stands f) : f.removeEmptyTexts t.id = f.clear t.reached := by
  refine Forest.ext rfl rfl (funext fun p => ?_)
  show (if f.Reaches t.id p then _ else _) = _
  by_cases hp : p ∈ t.reached
  · exact (if_pos (h.mem_reached_iff.1 hp)).trans (if_pos hp).symm
  · exact (if_neg (mt h.mem_reached_iff.2 hp)).trans (if_neg hp).symm

/-- **The pass over a whole subtree** takes the empty texts out of the list of every node it reaches. -/
theorem Holds.removeEmptyTexts (h : s.Holds f) {root : NodeId} (hr : root < f.size) :
    (s.removeEmptyTexts root).Holds (f.removeEmptyTexts root) := by
  obtain ⟨t, ht, rfl⟩ := Numbered.exists_stands h.valid root hr
  have hlen := ht.length_ids_le h.valid
  have hids := Numbered.idsAll_singleton t
  have hstand : Numbered.StandAll f [t] := ⟨ht, trivial⟩
  have := h.removeEmptyTextsBelow (s.size + 1) hstand (hids ▸ ht.nodup h.valid) (by
    rw [hids, h.size]
    omega)
  rw [removeEmptyTexts_eq_clear ht]
  rwa [List.flatMap_singleton] at this

/-! ## Nothing to remove -/

theorem Holds.detachEmptyTexts_eq_self (h : s.Holds f) : ∀ {l : List NodeId},
    (∀ c ∈ l, f.isEmptyText c = false) → s.detachEmptyTexts l = s
  | [], _ => rfl
  | c :: l, hl => by
    have hempty : (s.data? c).any (·.isEmptyText) = false := by
      rw [h.data?_eq]
      exact hl c List.mem_cons_self
    show l.foldl _ (if (s.data? c).any (·.isEmptyText) then s.detach c else s) = s
    rw [hempty]
    exact h.detachEmptyTexts_eq_self fun d hd => hl d (List.mem_cons_of_mem _ hd)

theorem Holds.removeEmptyTextsBelow_eq_self (h : s.Holds f) : ∀ (steps : Nat) {l : List NodeId},
    (∀ root ∈ l, ∀ p, f.Reaches root p → ∀ c ∈ f.children p, f.isEmptyText c = false) →
    Store.removeEmptyTextsBelow steps s l = s
  | 0, _, _ => rfl
  | _ + 1, [], _ => rfl
  | steps + 1, root :: l, hl => by
    have hroot := hl root List.mem_cons_self
    rw [Store.removeEmptyTextsBelow, h.children_eq, h.detachEmptyTexts_eq_self (hroot root .refl)]
    refine h.removeEmptyTextsBelow_eq_self steps fun x hx => ?_
    rcases List.mem_append.1 hx with hx | hx
    · obtain ⟨hx, he⟩ := List.mem_filter.1 (List.mem_reverse.1 hx)
      rw [h.isElement_eq] at he
      exact fun p hp => hroot p (.head ⟨hx, he⟩ hp)
    · exact hl x (List.mem_cons_of_mem _ hx)

/-- **Where no empty text is left, removing them changes nothing.** -/
theorem Holds.removeEmptyTexts_eq_self (h : s.Holds f) {root : NodeId}
    (hno : ∀ p, f.Reaches root p → ∀ c ∈ f.children p, f.isEmptyText c = false) : s.removeEmptyTexts root = s :=
  h.removeEmptyTextsBelow_eq_self _ fun x hx => by rwa [List.mem_singleton.1 hx]

end Store

namespace Forest

variable {f : Forest} {root p c : NodeId}

theorem children_removeEmptyTexts_of_reaches (hp : f.Reaches root p) :
    (f.removeEmptyTexts root).children p = (f.children p).filter fun c => !f.isEmptyText c := if_pos hp

theorem children_removeEmptyTexts_of_not_reaches (hp : ¬ f.Reaches root p) :
    (f.removeEmptyTexts root).children p = f.children p := if_neg hp

theorem mem_removeEmptyTexts_iff : c ∈ (f.removeEmptyTexts root).children p ↔
    c ∈ f.children p ∧ ¬ (f.isEmptyText c = true ∧ f.Reaches root p) := by
  by_cases hp : f.Reaches root p
  · rw [children_removeEmptyTexts_of_reaches hp, List.mem_filter]
    simp [hp]
  · rw [children_removeEmptyTexts_of_not_reaches hp]
    simp [hp]

theorem mem_of_removeEmptyTexts (h : c ∈ (f.removeEmptyTexts root).children p) : c ∈ f.children p :=
  (mem_removeEmptyTexts_iff.1 h).1

theorem reaches_of_removeEmptyTexts (h : (f.removeEmptyTexts root).Reaches root p) : f.Reaches root p :=
  ReflTransGen.mono (fun _ _ hxy => ⟨mem_of_removeEmptyTexts hxy.1, hxy.2⟩) _ _ h

theorem isEmptyText_of_removeEmptyTexts (hp : (f.removeEmptyTexts root).Reaches root p)
    (hc : c ∈ (f.removeEmptyTexts root).children p) : f.isEmptyText c = false := by
  have hfull := (mem_removeEmptyTexts_iff.1 hc).2
  simpa [reaches_of_removeEmptyTexts hp] using hfull

end Forest

/-- **A second pass finds nothing to remove.** -/
theorem Store.Holds.removeEmptyTexts_again {s : Store} {f : Forest} {root : NodeId}
    (h : s.Holds (f.removeEmptyTexts root)) : s.removeEmptyTexts root = s :=
  h.removeEmptyTexts_eq_self fun p hp c hc => by
    have hempty : f.isEmptyText c = false := Forest.isEmptyText_of_removeEmptyTexts hp hc
    exact hempty

/-! ## For trees -/

namespace Numbered

variable {f : Forest}

theorem data_tree (t : Numbered) : t.tree.data = t.data := by
  cases t
  rfl

mutual
/-- The numbered tree without the empty texts that only elements lead to. -/
def withoutEmptyTexts : Numbered → Numbered
  | .node id data children => .node id data (dropEmptyTexts children)
def dropEmptyTexts : List Numbered → List Numbered
  | [] => []
  | t :: rest =>
    if t.data.isEmptyText then dropEmptyTexts rest
    else (if t.data.isElement then t.withoutEmptyTexts else t) :: dropEmptyTexts rest
end

theorem id_withoutEmptyTexts (t : Numbered) : t.withoutEmptyTexts.id = t.id := by
  cases t
  rfl

mutual
theorem tree_withoutEmptyTexts : ∀ t : Numbered, t.withoutEmptyTexts.tree = t.tree.withoutEmptyTexts
  | .node _ _ cs => by rw [withoutEmptyTexts, tree, tree, Tree.withoutEmptyTexts, trees_dropEmptyTexts cs]
theorem trees_dropEmptyTexts : ∀ ts : List Numbered, trees (dropEmptyTexts ts) = Dom.dropEmptyTexts (trees ts)
  | [] => rfl
  | t :: ts => by
    rw [dropEmptyTexts, trees, Dom.dropEmptyTexts, data_tree, apply_ite trees, trees, trees_dropEmptyTexts ts,
      apply_ite tree, tree_withoutEmptyTexts t]
end

mutual
theorem Stands.clear {l : List NodeId} : ∀ {t : Numbered}, t.Stands f → t.ids.Nodup →
    (∀ x ∈ t.ids, x ∈ l ↔ x ∈ t.reached) → t.withoutEmptyTexts.Stands (f.clear l)
  | .node top data cs, h, hnd, hl => by
    rw [Stands] at h
    obtain ⟨hdata, hchildren, hstand⟩ := h
    obtain ⟨htop, hnd⟩ := List.nodup_cons.1 hnd
    have hcs : ∀ x ∈ idsAll cs, x ∈ l ↔ x ∈ reachedAll cs := fun x hx => by
      rw [hl x (List.mem_cons_of_mem _ hx), reached, List.mem_cons, or_iff_right fun he : x = top => htop (he ▸ hx)]
    obtain ⟨hus, hids⟩ := StandAll.clear hstand hnd hcs
    have htop : top ∈ l := (hl top List.mem_cons_self).2 List.mem_cons_self
    rw [← hchildren] at hids
    exact ⟨hdata, (if_pos htop).trans hids.symm, hus⟩
theorem StandAll.clear {l : List NodeId} : ∀ {ts : List Numbered}, StandAll f ts → (idsAll ts).Nodup →
    (∀ x ∈ idsAll ts, x ∈ l ↔ x ∈ reachedAll ts) →
    StandAll (f.clear l) (dropEmptyTexts ts) ∧
      (dropEmptyTexts ts).map Numbered.id = (ts.map Numbered.id).filter (fun c => !f.isEmptyText c)
  | [], _, _, _ => ⟨trivial, rfl⟩
  | t :: ts, h, hnd, hl => by
    rw [StandAll] at h
    obtain ⟨ht, hts⟩ := h
    obtain ⟨hnt, hnts, hdis⟩ := List.nodup_append.1 hnd
    have hrest : ∀ x ∈ idsAll ts, x ∈ l ↔ x ∈ reachedAll ts := fun x hx => by
      rw [hl x (List.mem_append_right _ hx), reachedAll, List.mem_append, or_iff_right]
      intro hm
      split at hm
      · exact hdis x (reached_subset hm) x hx rfl
      · cases hm
    have hhead : ∀ x ∈ t.ids, x ∈ l ↔ x ∈ if t.data.isElement then t.reached else [] := fun x hx => by
      rw [hl x (List.mem_append_left _ hx), reachedAll, List.mem_append, or_iff_left]
      exact fun hm => hdis x hx x (reachedAll_subset hm) rfl
    obtain ⟨hus, hids⟩ := StandAll.clear hts hnts hrest
    rw [List.map_cons, dropEmptyTexts]
    -- an empty text goes, an element is cleared below, and what stands below another child is not reached
    by_cases hempty : t.data.isEmptyText = true
    · rw [List.filter_cons_of_neg (by rw [ht.isEmptyText_eq, hempty]; simp), if_pos hempty]
      exact ⟨hus, hids⟩
    · rw [List.filter_cons_of_pos (by rw [ht.isEmptyText_eq]; simpa using hempty), if_neg hempty]
      by_cases helem : t.data.isElement = true
      · simp only [if_pos helem] at hhead ⊢
        exact ⟨⟨Stands.clear ht hnt hhead, hus⟩, by rw [List.map_cons, id_withoutEmptyTexts, hids]⟩
      · simp only [if_neg helem] at hhead ⊢
        have hu : t.Stands (f.clear l) := ht.congr fun x hx =>
          ⟨rfl, if_neg fun hm => absurd ((hhead x hx).1 hm) List.not_mem_nil⟩
        exact ⟨⟨hu, hus⟩, by rw [List.map_cons, hids]⟩
end

/-- **The tree that stands there afterwards** is the tree without its empty texts. -/
theorem Stands.withoutEmptyTexts (hv : f.Valid) {t : Numbered} (h : t.Stands f) :
    t.withoutEmptyTexts.Stands (f.removeEmptyTexts t.id) := by
  rw [Store.removeEmptyTexts_eq_clear h]
  exact h.clear (h.nodup hv) fun _ _ => Iff.rfl

theorem Stands.removeEmptyTexts (hv : f.Valid) {t : Numbered} (h : t.Stands f) :
    ∃ u : Numbered, u.Stands (f.removeEmptyTexts t.id) ∧ u.id = t.id ∧ u.tree = t.tree.withoutEmptyTexts :=
  ⟨t.withoutEmptyTexts, h.withoutEmptyTexts hv, id_withoutEmptyTexts t, tree_withoutEmptyTexts t⟩

end Numbered

end BlogMarkdown.Dom
