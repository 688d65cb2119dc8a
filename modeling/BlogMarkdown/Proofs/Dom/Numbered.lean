import BlogMarkdown.Dom.Tree
import BlogMarkdown.Proofs.Dom.Links
/-!
# Numbered trees

A tree whose nodes carry their numbers.  It stands in a forest when every node of it holds what the forest says and has
the children the forest says.  Below each node of a valid forest exactly one such tree stands, no number occurs twice
in it, and without its numbers it is the tree a store gives for the node.
-/
namespace BlogMarkdown.Dom

open Relation (ReflTransGen TransGen)

/-- A tree whose nodes carry their numbers. -/
inductive Numbered where
  | node (id : NodeId) (data : NodeData) (children : List Numbered)

namespace Numbered

def id : Numbered → NodeId
  | .node id _ _ => id

def data : Numbered → NodeData
  | .node _ data _ => data

def children : Numbered → List Numbered
  | .node _ _ children => children

mutual
/-- The numbers of all nodes, in document order. -/
def ids : Numbered → List NodeId
  | .node id _ children => id :: idsAll children
def idsAll : List Numbered → List NodeId
  | [] => []
  | t :: rest => t.ids ++ idsAll rest
end

mutual
/-- The tree without its numbers. -/
def tree : Numbered → Tree
  | .node _ data children => .node data (trees children)
def trees : List Numbered → List Tree
  | [] => []
  | t :: rest => t.tree :: trees rest
end

mutual
/-- Each node is in the forest with what it holds and the children it has. -/
def Stands (f : Forest) : Numbered → Prop
  | .node id data children => f.data id = some data ∧ f.children id = children.map Numbered.id ∧ StandAll f children
def StandAll (f : Forest) : List Numbered → Prop
  | [] => True
  | t :: rest => t.Stands f ∧ StandAll f rest
end

variable {f : Forest}

/-! ## Lists of trees -/

theorem idsAll_append : ∀ ts us : List Numbered, idsAll (ts ++ us) = idsAll ts ++ idsAll us
  | [], _ => rfl
  | t :: ts, us => by rw [List.cons_append, idsAll, idsAll_append, idsAll, List.append_assoc]

theorem idsAll_singleton (t : Numbered) : idsAll [t] = t.ids := List.append_nil _

theorem trees_eq_map : ∀ ts : List Numbered, trees ts = ts.map tree
  | [] => rfl
  | t :: ts => by rw [trees, trees_eq_map, List.map_cons]

theorem trees_append (ts us : List Numbered) : trees (ts ++ us) = trees ts ++ trees us := by
  rw [trees_eq_map, trees_eq_map, trees_eq_map, List.map_append]

theorem standAll_append : ∀ {ts us : List Numbered}, StandAll f (ts ++ us) ↔ StandAll f ts ∧ StandAll f us
  | [], us => by rw [List.nil_append, StandAll, true_and]
  | t :: ts, us => by rw [List.cons_append, StandAll, standAll_append, StandAll, and_assoc]

theorem StandAll.of_mem : ∀ {ts : List Numbered}, StandAll f ts → ∀ {t}, t ∈ ts → t.Stands f
  | _ :: _, h, t, ht => by
    rcases List.mem_cons.1 ht with rfl | ht
    · exact h.1
    · exact StandAll.of_mem h.2 ht

theorem standAll_of_forall : ∀ {ts : List Numbered}, (∀ t ∈ ts, t.Stands f) → StandAll f ts
  | [], _ => trivial
  | _ :: _, h => ⟨h _ List.mem_cons_self, standAll_of_forall fun t ht => h t (List.mem_cons_of_mem _ ht)⟩

theorem idsAll_eq_flatMap : ∀ ts : List Numbered, idsAll ts = ts.flatMap ids
  | [] => rfl
  | t :: ts => by rw [idsAll, idsAll_eq_flatMap, List.flatMap_cons]

theorem mem_idsAll : ∀ {ts : List Numbered} {x : NodeId}, x ∈ idsAll ts ↔ ∃ t ∈ ts, x ∈ t.ids
  | [], x => by simp [idsAll]
  | t :: ts, x => by simp [idsAll, mem_idsAll]

theorem length_ids_le_of_mem {t : Numbered} {ts : List Numbered} (h : t ∈ ts) : t.ids.length ≤ (idsAll ts).length := by
  rw [idsAll_eq_flatMap]
  exact (List.sublist_flatten_of_mem (List.mem_map_of_mem h)).length_le

theorem id_mem_ids : ∀ t : Numbered, t.id ∈ t.ids
  | .node _ _ _ => List.mem_cons_self

theorem Stands.data_eq : ∀ {t : Numbered}, t.Stands f → f.data t.id = some t.data
  | .node _ _ _, h => h.1

theorem Stands.children_eq : ∀ {t : Numbered}, t.Stands f → f.children t.id = t.children.map Numbered.id
  | .node _ _ _, h => h.2.1

theorem Stands.standAll : ∀ {t : Numbered}, t.Stands f → StandAll f t.children
  | .node _ _ _, h => h.2.2

theorem Stands.child_mem {id : NodeId} {data : NodeData} {cs : List Numbered} (h : (node id data cs).Stands f)
    {c : Numbered} (hc : c ∈ cs) : c.id ∈ f.children id := by
  rw [show f.children id = cs.map Numbered.id from h.children_eq]
  exact List.mem_map_of_mem hc

/-! ## A tree stands wherever its nodes are unchanged -/

mutual
theorem Stands.congr {f' : Forest} : ∀ {t : Numbered}, t.Stands f →
    (∀ x ∈ t.ids, f'.data x = f.data x ∧ f'.children x = f.children x) → t.Stands f'
  | .node id data cs, h, hf => by
    rw [Stands] at h ⊢
    obtain ⟨hd, hc⟩ := hf id List.mem_cons_self
    rw [hd, hc]
    exact ⟨h.1, h.2.1, StandAll.congr h.2.2 fun x hx => hf x (List.mem_cons_of_mem _ hx)⟩
theorem StandAll.congr {f' : Forest} : ∀ {ts : List Numbered}, StandAll f ts →
    (∀ x ∈ idsAll ts, f'.data x = f.data x ∧ f'.children x = f.children x) → StandAll f' ts
  | [], _, _ => trivial
  | t :: ts, h, hf => by
    rw [StandAll] at h ⊢
    exact ⟨Stands.congr h.1 fun x hx => hf x (List.mem_append_left _ hx),
      StandAll.congr h.2 fun x hx => hf x (List.mem_append_right _ hx)⟩
end

/-! ## No number occurs twice -/

mutual
theorem Stands.within : ∀ {t : Numbered}, t.Stands f → ∀ {x}, x ∈ t.ids → f.Within x t.id
  | .node id data cs, h, x, hx => by
    rcases List.mem_cons.1 hx with rfl | hx
    · exact .refl
    · obtain ⟨c, hc, hxc⟩ := StandAll.within h.standAll hx
      exact hxc.tail (h.child_mem hc)
theorem StandAll.within : ∀ {ts : List Numbered}, StandAll f ts → ∀ {x}, x ∈ idsAll ts → ∃ t ∈ ts, f.Within x t.id
  | t :: ts, h, x, hx => by
    rw [StandAll] at h
    rcases List.mem_append.1 hx with hx | hx
    · exact ⟨t, List.mem_cons_self, Stands.within h.1 hx⟩
    · obtain ⟨u, hu, hxu⟩ := StandAll.within h.2 hx
      exact ⟨u, List.mem_cons_of_mem _ hu, hxu⟩
end

mutual
theorem Stands.nodup (hv : f.Valid) : ∀ {t : Numbered}, t.Stands f → t.ids.Nodup
  | .node id data cs, h => by
    have hcs : (cs.map Numbered.id).Nodup := h.children_eq ▸ hv.nodup id
    refine List.nodup_cons.2 ⟨fun hid => ?_, StandAll.nodup hv h.standAll hcs fun _ => h.child_mem⟩
    obtain ⟨c, hc, hw⟩ := StandAll.within h.standAll hid
    exact hv.not_within_of_mem (h.child_mem hc) hw
theorem StandAll.nodup (hv : f.Valid) {p : NodeId} : ∀ {ts : List Numbered}, StandAll f ts →
    (ts.map Numbered.id).Nodup → (∀ t ∈ ts, t.id ∈ f.children p) → (idsAll ts).Nodup
  | [], _, _, _ => List.nodup_nil
  | t :: ts, h, hn, hp => by
    rw [StandAll] at h
    rw [List.map_cons, List.nodup_cons] at hn
    have hps := fun u hu => hp u (List.mem_cons_of_mem _ hu)
    refine List.nodup_append.2 ⟨Stands.nodup hv h.1, StandAll.nodup hv h.2 hn.2 hps, fun x hx y hy he => ?_⟩
    subst he
    obtain ⟨u, hu, hxu⟩ := StandAll.within h.2 hy
    have htu : t.id ≠ u.id := fun he => hn.1 (he ▸ List.mem_map_of_mem hu)
    exact hv.not_within_both (hp t List.mem_cons_self) (hps u hu) htu (Stands.within h.1 hx) hxu
end

mutual
theorem Stands.lt_size (hv : f.Valid) : ∀ {t : Numbered}, t.Stands f → ∀ {x}, x ∈ t.ids → x < f.size
  | .node id data cs, h, x, hx => by
    rw [Stands] at h
    rcases List.mem_cons.1 hx with rfl | hx
    · exact (hv.data_isSome x).1 (by rw [h.1]; rfl)
    · exact StandAll.lt_size hv h.2.2 hx
theorem StandAll.lt_size (hv : f.Valid) : ∀ {ts : List Numbered}, StandAll f ts → ∀ {x}, x ∈ idsAll ts → x < f.size
  | t :: ts, h, x, hx => by
    rw [StandAll] at h
    rcases List.mem_append.1 hx with hx | hx
    · exact Stands.lt_size hv h.1 hx
    · exact StandAll.lt_size hv h.2 hx
end

theorem Stands.length_ids_le (hv : f.Valid) {t : Numbered} (h : t.Stands f) : t.ids.length ≤ f.size :=
  Store.length_le_of_nodup (h.nodup hv) fun _ => h.lt_size hv

/-! ## The texts that only elements lead to -/

mutual
/-- The texts right below the root, and right below the elements to which only elements lead, each with all that is below
it. -/
def textNodes : Numbered → List Numbered
  | .node _ _ children => textNodesAll children
def textNodesAll : List Numbered → List Numbered
  | [] => []
  | t :: rest =>
    (match t.data with
      | .text _ => [t]
      | .element _ _ => t.textNodes
      | _ => []) ++ textNodesAll rest
end

theorem textNodes_eq (t : Numbered) : t.textNodes = textNodesAll t.children := by
  cases t
  rfl

theorem textNodesAll_append : ∀ ts us : List Numbered,
    textNodesAll (ts ++ us) = textNodesAll ts ++ textNodesAll us
  | [], _ => rfl
  | t :: ts, us => by rw [List.cons_append, textNodesAll, textNodesAll_append ts us, textNodesAll, List.append_assoc]

theorem textNodesAll_cons (t : Numbered) (rest : List Numbered) :
    textNodesAll (t :: rest) = textNodesAll [t] ++ textNodesAll rest := textNodesAll_append [t] rest

theorem textNodesAll_of_isText : ∀ {t : Numbered}, t.data.isText = true → textNodesAll [t] = [t]
  | .node _ (.text _) _, _ => rfl

theorem textNodesAll_of_isElement : ∀ {t : Numbered}, t.data.isElement = true → textNodesAll [t] = t.textNodes
  | .node _ (.element _ _) _, _ => List.append_nil _

theorem textNodesAll_of_other {t : Numbered} (he : t.data.isElement = false) (hx : t.data.isText = false) :
    textNodesAll [t] = [] := by
  obtain ⟨id, data, children⟩ := t
  cases data with
  | text => cases hx
  | element => cases he
  | _ => rfl

mutual
theorem ids_subset_of_mem_textNodes : ∀ {t y : Numbered}, y ∈ t.textNodes → ∀ x ∈ y.ids, x ∈ t.ids
  | .node _ _ _, _, hy, x, hx => List.mem_cons_of_mem _ (ids_subset_of_mem_textNodesAll hy x hx)
theorem ids_subset_of_mem_textNodesAll : ∀ {ts : List Numbered} {y : Numbered}, y ∈ textNodesAll ts →
    ∀ x ∈ y.ids, x ∈ idsAll ts
  | .node id data children :: rest, y, hy, x, hx => by
    rw [textNodesAll, List.mem_append] at hy
    rw [idsAll, List.mem_append]
    refine hy.imp (fun hy => ?_) fun hy => ids_subset_of_mem_textNodesAll hy x hx
    cases data with
    | text content =>
      rw [List.mem_singleton.1 hy] at hx
      exact hx
    | element name attributes => exact ids_subset_of_mem_textNodes hy x hx
    | _ => cases hy
end

mutual
theorem Stands.of_mem_textNodes : ∀ {t y : Numbered}, t.Stands f → y ∈ t.textNodes → y.Stands f
  | .node _ _ _, _, h, hy => StandAll.of_mem_textNodes h.standAll hy
theorem StandAll.of_mem_textNodes : ∀ {ts : List Numbered} {y : Numbered}, StandAll f ts → y ∈ textNodesAll ts →
    y.Stands f
  | .node id data children :: rest, y, h, hy => by
    rw [textNodesAll, List.mem_append] at hy
    refine hy.elim (fun hy => ?_) fun hy => StandAll.of_mem_textNodes h.2 hy
    cases data with
    | text content =>
      rw [List.mem_singleton.1 hy]
      exact h.1
    | element name attributes => exact Stands.of_mem_textNodes h.1 hy
    | _ => cases hy
end

/-- The nodes at and below some texts, each behind the number of its text. -/
def hung (texts : List Numbered) : List (NodeId × NodeId) := texts.flatMap fun y => y.ids.map (y.id, ·)

theorem hung_append (ts us : List Numbered) : hung (ts ++ us) = hung ts ++ hung us := List.flatMap_append

theorem mem_hung {texts : List Numbered} {a x : NodeId} : (a, x) ∈ hung texts ↔ ∃ y ∈ texts, y.id = a ∧ x ∈ y.ids := by
  simp only [hung, List.mem_flatMap, List.mem_map, Prod.mk.injEq]
  constructor
  · rintro ⟨y, hy, _, hx, hid, rfl⟩
    exact ⟨y, hy, hid, hx⟩
  · rintro ⟨y, hy, hid, hx⟩
    exact ⟨y, hy, x, hx, hid, rfl⟩

/-! ## Below each node a tree stands -/

theorem exists_standAll {ids : List NodeId} (h : ∀ c ∈ ids, ∃ t : Numbered, t.Stands f ∧ t.id = c) :
    ∃ ts, StandAll f ts ∧ ts.map Numbered.id = ids := by
  induction ids with
  | nil => exact ⟨[], trivial, rfl⟩
  | cons c ids ih =>
    obtain ⟨t, ht, rfl⟩ := h c List.mem_cons_self
    obtain ⟨ts, hts, rfl⟩ := ih fun x hx => h x (List.mem_cons_of_mem _ hx)
    exact ⟨t :: ts, ⟨ht, hts⟩, rfl⟩

theorem exists_stands (hv : f.Valid) (id : NodeId) (hid : id < f.size) :
    ∃ t : Numbered, t.Stands f ∧ t.id = id := by
  induction id using hv.leaf_induction with
  | node id ih =>
    obtain ⟨data, hd⟩ := Option.isSome_iff_exists.1 ((hv.data_isSome id).2 hid)
    obtain ⟨ts, hts, hids⟩ := exists_standAll fun c hc => ih c hc (hv.child_lt hc)
    exact ⟨.node id data ts, ⟨hd, hids.symm, hts⟩, rfl⟩

/-! ## The tree a store gives -/

end Numbered

namespace Store

/-- The tree below a node, with the numbers of its nodes. -/
def numberedWithin (s : Store) : Nat → NodeId → Numbered
  | 0, id => .node id ((s.data? id).getD .document) []
  | depth + 1, id => .node id ((s.data? id).getD .document) ((s.children id).map (s.numberedWithin depth))

@[inherit_doc numberedWithin]
def numbered (s : Store) (id : NodeId) : Numbered := s.numberedWithin (s.size + 1) id

theorem tree_numberedWithin (s : Store) : ∀ (depth : Nat) (id : NodeId),
    (s.numberedWithin depth id).tree = s.treeWithin depth id
  | 0, _ => rfl
  | depth + 1, id => by
    rw [numberedWithin, treeWithin, Numbered.tree, Numbered.trees_eq_map, List.map_map]
    exact congrArg _ (List.map_congr_left fun c _ => tree_numberedWithin s depth c)

theorem tree_numbered (s : Store) (id : NodeId) : (s.numbered id).tree = s.tree id := s.tree_numberedWithin _ id

end Store

namespace Numbered

variable {s : Store}

mutual
theorem Stands.numberedWithin_eq (hs : s.Holds f) : ∀ {t : Numbered}, t.Stands f → ∀ {depth : Nat},
    t.ids.length ≤ depth + 1 → s.numberedWithin depth t.id = t
  | .node id data cs, h, depth, hd => by
    have hdata : (s.data? id).getD .document = data := by
      rw [hs.data?_eq, show f.data id = some data from h.data_eq]
      rfl
    rw [ids, List.length_cons, Nat.succ_le_succ_iff] at hd
    cases depth with
    | zero =>
      -- the bound counts nodes, so it ends only at a node without children
      have : cs = [] := by
        cases cs with
        | nil => rfl
        | cons c cs =>
          have := List.length_pos_of_mem (List.mem_append_left (idsAll cs) (id_mem_ids c))
          rw [idsAll] at hd
          omega
      subst this
      rw [Store.numberedWithin, Numbered.id, hdata]
    | succ depth =>
      rw [Store.numberedWithin, Numbered.id, hdata, hs.children_eq,
        show f.children id = cs.map Numbered.id from h.children_eq]
      exact congrArg _ (StandAll.numberedWithin_eq hs h.standAll hd)
theorem StandAll.numberedWithin_eq (hs : s.Holds f) : ∀ {ts : List Numbered}, StandAll f ts → ∀ {depth : Nat},
    (idsAll ts).length ≤ depth + 1 → (ts.map Numbered.id).map (s.numberedWithin depth) = ts
  | [], _, _, _ => rfl
  | t :: ts, h, depth, hd => by
    rw [StandAll] at h
    rw [idsAll, List.length_append] at hd
    rw [List.map_cons, List.map_cons, Stands.numberedWithin_eq hs h.1 (by omega),
      StandAll.numberedWithin_eq hs h.2 (by omega)]
end

/-- **The numbered tree of a node is the tree that stands there.** -/
theorem Stands.numbered_eq (hs : s.Holds f) {t : Numbered} (h : t.Stands f) : s.numbered t.id = t := by
  refine h.numberedWithin_eq hs ?_
  have := h.length_ids_le hs.valid
  rw [hs.size]
  omega

theorem Stands.tree_eq (hs : s.Holds f) {t : Numbered} (h : t.Stands f) : s.tree t.id = t.tree := by
  rw [← s.tree_numbered, h.numbered_eq hs]

end Numbered

end BlogMarkdown.Dom
