import BlogMarkdown.Proofs.Dom.Paths
/-!
# Mirrored stores

With its forward and its backward links exchanged a store holds the forest in which every child list is reversed.  What
is shown of the way back in every store is so shown of the way ahead.
-/
namespace BlogMarkdown.Dom

variable {s : Store} {f : Forest}

/-- A node with its links to the two sides exchanged. -/
def Node.mirror (n : Node) : Node :=
  { n with
    firstChild := n.lastChild
    lastChild := n.firstChild
    prevSibling := n.nextSibling
    nextSibling := n.prevSibling }

/-- Every child list is reversed. -/
def Forest.mirror (f : Forest) : Forest := { f with children := fun p => (f.children p).reverse }

theorem Forest.Valid.mirror (h : f.Valid) : f.mirror.Valid where
  data_isSome := h.data_isSome
  child_lt hc := h.child_lt (List.mem_reverse.1 hc)
  parent_lt hc := h.parent_lt (List.mem_reverse.1 hc)
  nodup p := List.nodup_reverse.2 (h.nodup p)
  unique hp hq := h.unique (List.mem_reverse.1 hp) (List.mem_reverse.1 hq)
  acyclic id hid := h.acyclic id (Relation.TransGen.mono (fun _ _ => List.mem_reverse.1) _ _ hid)

theorem Node.Fits.mirror {id : NodeId} {n : Node} (h : n.Fits f id) : n.mirror.Fits f.mirror id where
  data := h.data
  parent p := (h.parent p).trans List.mem_reverse.symm
  first := h.last.trans List.head?_reverse.symm
  last := h.first.trans List.getLast?_reverse.symm
  prev {p} hp := by
    refine (h.next (List.mem_reverse.1 hp)).trans ?_
    show _ = successor id (f.children p).reverse.reverse
    rw [List.reverse_reverse]
  next hp := h.prev (List.mem_reverse.1 hp)
  alone hp := (h.alone hp).symm

namespace Store

/-- **The store in which every child list is reversed.** -/
def mirror (s : Store) : Store := ⟨s.nodes.map Node.mirror⟩

theorem size_mirror (s : Store) : s.mirror.size = s.size := Array.size_map

theorem get?_mirror (s : Store) (id : NodeId) : s.mirror.get? id = (s.get? id).map Node.mirror := Array.getElem?_map

theorem data?_mirror (s : Store) (id : NodeId) : s.mirror.data? id = s.data? id := by
  rw [data?, data?, get?_mirror, Option.map_map]
  rfl

theorem parent_mirror (s : Store) (id : NodeId) : s.mirror.parent id = s.parent id := by
  rw [parent, parent, get?_mirror, Option.bind_map]
  rfl

theorem prevSibling_mirror (s : Store) (id : NodeId) : s.mirror.prevSibling id = s.nextSibling id := by
  rw [prevSibling, nextSibling, get?_mirror, Option.bind_map]
  rfl

theorem lastChild_mirror (s : Store) (id : NodeId) : s.mirror.lastChild id = s.firstChild id := by
  rw [lastChild, firstChild, get?_mirror, Option.bind_map]
  rfl

theorem Holds.mirror (h : s.Holds f) : s.mirror.Holds f.mirror where
  valid := h.valid.mirror
  size := s.size_mirror.trans h.size
  fits {id n} hn := by
    rw [get?_mirror, Option.map_eq_some_iff] at hn
    obtain ⟨m, hm, rfl⟩ := hn
    exact (h.fits hm).mirror

theorem WellFormed.mirror (h : s.WellFormed) : s.mirror.WellFormed :=
  let ⟨_, hf⟩ := h
  ⟨_, hf.mirror⟩

theorem WellFormed.children_mirror (h : s.WellFormed) (p : NodeId) : s.mirror.children p = (s.children p).reverse := by
  obtain ⟨f, hf⟩ := h
  rw [hf.mirror.children_eq, hf.children_eq]
  rfl

end Store

end BlogMarkdown.Dom
