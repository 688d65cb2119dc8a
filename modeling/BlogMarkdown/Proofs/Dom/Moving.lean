import BlogMarkdown.Proofs.Dom.Keeping
/-!
# Moving a node behind its sibling

A node that is put behind another one leaves the place where it was, in the same list or elsewhere, and nothing but the
two lists changes.  There is one exception.  The node that already stands right behind its sibling is put before the
next sibling, which is itself: it falls out of the list, and its sibling links lead to itself.
-/
namespace BlogMarkdown.Dom

open Relation (ReflTransGen)

variable {s s' : Store} {f : Forest} {p sibling new : NodeId}

/-! ## Right behind the sibling -/

/-- **`new` comes right behind `sibling`**, a child of `p`, when the store `s` turns into `s'`: it leaves the list that
it stood in, and all else stays as it was.  A node elsewhere is one that is no parent of `sibling` or `new` and no child
of such a parent. -/
structure Store.MovesBehind (s : Store) (p sibling new : NodeId) (s' : Store) : Prop where
  wellFormed : s'.WellFormed
  behind : ∃ left right, (s.children p).filter (· ≠ new) = left ++ sibling :: right ∧
    s'.children p = left ++ sibling :: new :: right
  removed : ∀ q, q ≠ p → s'.children q = (s.children q).filter (· ≠ new)
  size : s'.size = s.size
  data : ∀ id, s'.data? id = s.data? id
  elsewhere : ∀ x, x ≠ new → (∀ q, q = p ∨ s.parent new = some q → x ≠ q ∧ s.parent x ≠ some q) →
    s'.get? x = s.get? x

theorem Forest.children_insertAfter_self (hv : f.Valid) (hs : sibling ∈ f.children p) (hsn : sibling ≠ new) :
    ∃ left right, (f.children p).filter (· ≠ new) = left ++ sibling :: right ∧
      (f.insertAfter sibling new).children p = left ++ sibling :: new :: right := by
  have hmem : sibling ∈ (f.children p).filter (· ≠ new) := List.mem_filter.2 ⟨hs, by simpa using hsn⟩
  obtain ⟨left, right, hcut⟩ := List.append_of_mem hmem
  refine ⟨left, right, hcut, ?_⟩
  show insertAfterIn sibling new ((f.children p).filter (· ≠ new)) = _
  rw [hcut]
  exact insertAfterIn_split (hcut ▸ (hv.nodup p).filter _)

theorem Forest.children_insertAfter_of_ne (hv : f.Valid) (hs : sibling ∈ f.children p) {q : NodeId} (hq : q ≠ p) :
    (f.insertAfter sibling new).children q = (f.children q).filter (· ≠ new) :=
  insertAfterIn_of_not_mem fun hm => hq (hv.unique (List.mem_filter.1 hm).1 hs)

theorem Store.Holds.movesBehind (h : s.Holds f) (h' : s'.Holds (f.insertAfter sibling new))
    (hs : sibling ∈ f.children p) (hsn : sibling ≠ new) : s.MovesBehind p sibling new s' where
  wellFormed := ⟨_, h'⟩
  behind := by
    rw [h.children_eq, h'.children_eq]
    exact Forest.children_insertAfter_self h.valid hs hsn
  removed q hq := by
    rw [h.children_eq, h'.children_eq]
    exact Forest.children_insertAfter_of_ne h.valid hs hq
  size := h'.size.trans h.size.symm
  data id := (h'.data?_eq id).trans (h.data?_eq id).symm
  elsewhere x hx hapart := by
    have hfree {q : NodeId} (hq : q ≠ p) (hnew : s.parent new ≠ some q) :
        (f.insertAfter sibling new).children q = f.children q := by
      rw [Forest.children_insertAfter_of_ne h.valid hs hq]
      exact filter_ne_of_not_mem fun hm => hnew (h.parent_eq_some_iff.2 hm)
    refine h.get?_eq h' rfl (hfree (hapart p (.inl rfl)).1 fun he => (hapart x (.inr he)).1 rfl) fun q hm => ?_
    -- the list that `x` stands in is neither the old one of `new` nor its new one
    have hxq : s.parent x = some q := by
      rw [h.parent_eq_some_iff]
      rcases hm with hm | hm
      · exact hm
      · by_cases hq : q = p
        · subst hq
          obtain ⟨left, right, hcut, hlist⟩ := Forest.children_insertAfter_self h.valid hs hsn
          have hmem : x ∈ left ++ sibling :: right := by
            rw [hlist] at hm
            simpa [hx] using hm
          exact (List.mem_filter.1 (hcut ▸ hmem)).1
        · rw [Forest.children_insertAfter_of_ne h.valid hs hq] at hm
          exact (List.mem_filter.1 hm).1
    exact hfree (fun hq => (hapart q (.inl hq)).2 hxq) fun hnew => (hapart q (.inr hnew)).2 hxq

/-! ## The node that is there already -/

theorem Store.get?_detach_self (s : Store) (target : NodeId) : (s.detach target).parent target = none ∧
    (s.detach target).prevSibling target = none := by
  rw [Store.parent, Store.prevSibling, Store.get?_detach]
  cases s.get? target with
  | none => exact ⟨rfl, rfl⟩
  | some n => exact ⟨if_pos rfl, if_pos rfl⟩

/-- **A node put behind the sibling that it is already behind** is taken out of the list, and then it is linked to
itself. -/
theorem Store.get?_insertAfter_next (hnext : s.nextSibling sibling = some new) (hp : s.parent new = some p)
    (id : NodeId) : (s.insertAfter (some sibling) (some new)).get? id = ((s.detach new).get? id).map fun n =>
      if id = new then { n with parent := none, prevSibling := some new, nextSibling := some new } else n := by
  obtain ⟨hparent, hprev⟩ := s.get?_detach_self new
  have hdetach : s.detachAttached (some new) = s.detach new := if_pos (by rw [hp]; rfl)
  rw [Store.insertAfter, Option.bind_some, hnext]
  dsimp only
  rw [Store.insertBefore, hdetach, Option.bind_some, Option.bind_some, hparent, hprev, if_neg (by decide)]
  simp only [Store.get?_modify, Option.map_map]
  congr 1
  funext n
  by_cases hid : id = new
  · subst hid
    simp [Store.through]
  · simp [Store.through, hid, Ne.symm hid]

theorem Store.not_wellFormed_insertAfter_next (hnext : s.nextSibling sibling = some new) (hp : s.parent new = some p) :
    ¬ (s.insertAfter (some sibling) (some new)).WellFormed := by
  rintro ⟨f, h⟩
  -- the node is there, for it has a parent
  obtain ⟨n, hn⟩ : ∃ n, (s.detach new).get? new = some n := by
    rw [Store.get?_detach]
    cases hget : s.get? new with
    | none =>
      rw [Store.parent, hget] at hp
      cases hp
    | some n => exact ⟨_, rfl⟩
  have hself := Store.get?_insertAfter_next hnext hp new
  rw [hn, Option.map_some, if_pos rfl] at hself
  have halone := (h.fits hself).alone rfl
  cases halone.1

/-! ## Wherever the node was -/

/-- **A node comes right behind its new sibling from wherever it was**, unless it is there already: for every
well-formed store, every sibling with a parent, and every node of the store that is neither the sibling nor above it.
A node that is right behind the sibling falls out of the tree, and the store is not well formed any more. -/
theorem movesBehind_insertAfter_iff (h : s.WellFormed) (hs : s.parent sibling = some p) (hn : new < s.size)
    (hw : ¬ ReflTransGen (fun c q => s.parent c = some q) sibling new) :
    (s.MovesBehind p sibling new (s.insertAfter (some sibling) (some new)) ↔ s.nextSibling sibling ≠ some new) ∧
      (s.nextSibling sibling = some new → ¬ (s.insertAfter (some sibling) (some new)).WellFormed ∧
        ∀ id, (s.insertAfter (some sibling) (some new)).get? id = ((s.detach new).get? id).map fun n =>
          if id = new then { n with parent := none, prevSibling := some new, nextSibling := some new } else n) := by
  obtain ⟨f, hf⟩ := h
  have hmem : sibling ∈ f.children p := hf.parent_eq_some_iff.1 hs
  have hparent (hnext : s.nextSibling sibling = some new) : s.parent new = some p := by
    rw [hf.nextSibling_eq hmem] at hnext
    exact hf.parent_eq_some_iff.2 (mem_of_successor hnext)
  refine ⟨⟨fun hmoves hnext => ?_, fun hnext => ?_⟩, fun hnext => ?_⟩
  · exact Store.not_wellFormed_insertAfter_next hnext (hparent hnext) hmoves.wellFormed
  · have hbelow : (fun c q => s.parent c = some q) = f.Below :=
      funext fun c => funext fun q => propext hf.parent_eq_some_iff
    rw [hbelow] at hw
    rw [hf.nextSibling_eq hmem] at hnext
    exact hf.movesBehind (hf.insertAfter hmem (hf.size ▸ hn) hw hnext) hmem fun he => hw (he ▸ .refl)
  · exact ⟨Store.not_wellFormed_insertAfter_next hnext (hparent hnext),
      Store.get?_insertAfter_next hnext (hparent hnext)⟩

/-- A document with two texts in it. -/
def twoTexts : Store :=
  let s := (Store.empty.create (.text ['a'])).1.append (some 0) (some 1)
  (s.create (.text ['b'])).1.append (some 0) (some 2)

theorem wellFormed_twoTexts : twoTexts.WellFormed :=
  ⟨_, (Store.holds_empty.appendNew (p := 0) (by decide) (.text ['a'])).appendNew (p := 0) (by decide) (.text ['b'])⟩

theorem not_above_in_twoTexts {a b : NodeId} (ha : twoTexts.parent a = some 0) (hab : a ≠ b) (hb : b ≠ 0) :
    ¬ ReflTransGen (fun c q => twoTexts.parent c = some q) a b := by
  intro hw
  -- above a text is only the document, and nothing is above that
  rcases ReflTransGen.cases_head hw with he | ⟨q, hq, hw⟩
  · exact hab he
  · obtain rfl := Option.some.inj (ha.symm.trans hq)
    rcases ReflTransGen.cases_head hw with he | ⟨q, hq, -⟩
    · exact hb he.symm
    · cases hq

/-- The text in front is put behind the other one. -/
theorem movesBehind_of_first_text :
    twoTexts.WellFormed ∧ twoTexts.parent 2 = some 0 ∧ 1 < twoTexts.size ∧
      ¬ ReflTransGen (fun c q => twoTexts.parent c = some q) 2 1 ∧ twoTexts.nextSibling 2 ≠ some 1 ∧
      twoTexts.MovesBehind 0 2 1 (twoTexts.insertAfter (some 2) (some 1)) := by
  have hs : twoTexts.parent 2 = some 0 := by decide
  have hn : 1 < twoTexts.size := by decide
  have hw : ¬ ReflTransGen (fun c q => twoTexts.parent c = some q) 2 1 :=
    not_above_in_twoTexts hs (by decide) (by decide)
  have hnext : twoTexts.nextSibling 2 ≠ some 1 := by decide
  exact ⟨wellFormed_twoTexts, hs, hn, hw, hnext, (movesBehind_insertAfter_iff wellFormed_twoTexts hs hn hw).1.2 hnext⟩

/-- The text behind the other one is put there once more, and is lost: it becomes its own sibling on both sides. -/
theorem lost_second_text :
    twoTexts.WellFormed ∧ twoTexts.parent 1 = some 0 ∧ 2 < twoTexts.size ∧
      ¬ ReflTransGen (fun c q => twoTexts.parent c = some q) 1 2 ∧ twoTexts.children 0 = [1, 2] ∧
      (twoTexts.insertAfter (some 1) (some 2)).children 0 = [1] ∧
      (twoTexts.insertAfter (some 1) (some 2)).nextSibling 2 = some 2 ∧
      ¬ (twoTexts.insertAfter (some 1) (some 2)).WellFormed :=
  ⟨wellFormed_twoTexts, by decide, by decide, not_above_in_twoTexts (by decide) (by decide) (by decide), by decide,
    by decide, by decide, Store.not_wellFormed_insertAfter_next (p := 0) (by decide) (by decide)⟩

end BlogMarkdown.Dom
