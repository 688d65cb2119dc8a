import BlogMarkdown.Proofs.Dom.Links
/-!
# The compound operations

Putting a node behind another, adding text, cutting a text in two and moving all children of a node are made of the
elementary operations.  Each of them does to the forest what its counterpart says.
-/
namespace BlogMarkdown.Dom

open Relation (ReflTransGen)

namespace Forest

variable {f : Forest}

/-- **Nothing stands below a node that was just made.** -/
theorem Valid.not_within_new (h : f.Valid) {x : NodeId} (hx : x < f.size) (data : NodeData) :
    ¬ (f.create data).Within x f.size := by
  intro hw
  rcases ReflTransGen.cases_tail hw with he | ⟨y, -, hy⟩
  · exact Nat.lt_irrefl _ (he ▸ hx)
  · have : y ∈ f.children f.size := hy
    rw [h.children_eq_nil (Nat.le_refl _)] at this
    cases this

theorem insertBefore_eq_insertAfter (h : f.Valid) {sibling next new p : NodeId}
    (hs : successor sibling (f.children p) = some next) (hn : next ≠ new) (hsn : sibling ≠ new) :
    f.insertBefore next new = f.insertAfter sibling new := by
  refine Forest.ext rfl rfl (funext fun q => ?_)
  show insertBeforeIn next new ((f.remove new).children q) = insertAfterIn sibling new ((f.remove new).children q)
  obtain ⟨u, v, huv⟩ := (successor_eq_some_iff (h.nodup p)).1 hs
  by_cases hq : q = p
  · subst hq
    have hcut : (f.remove new).children q = u.filter (· ≠ new) ++ sibling :: next :: v.filter (· ≠ new) := by
      show (f.children q).filter (· ≠ new) = _
      rw [huv, List.filter_append, List.filter_cons_of_pos (by simpa using hsn),
        List.filter_cons_of_pos (by simpa using hn)]
    have hnd := (h.remove new).nodup q
    rw [hcut] at hnd ⊢
    rw [insertAfterIn_split hnd]
    have hsplit : u.filter (· ≠ new) ++ sibling :: next :: v.filter (· ≠ new) =
        (u.filter (· ≠ new) ++ [sibling]) ++ next :: v.filter (· ≠ new) := by
      rw [List.append_assoc, List.singleton_append]
    rw [hsplit, insertBeforeIn_split (hsplit ▸ hnd), List.append_assoc, List.singleton_append]
  · rw [insertBeforeIn_of_not_mem fun hm => hq (h.unique (mem_remove.1 hm).1 (mem_of_successor hs)),
      insertAfterIn_of_not_mem fun hm => hq (h.unique (mem_remove.1 hm).1 (by rw [huv]; simp))]

theorem append_eq_insertAfter (h : f.Valid) {sibling new p : NodeId} (hs : (f.children p).getLast? = some sibling)
    (hsn : sibling ≠ new) : f.append p new = f.insertAfter sibling new := by
  refine Forest.ext rfl rfl (funext fun q => ?_)
  show (f.append p new).children q = insertAfterIn sibling new ((f.remove new).children q)
  by_cases hq : q = p
  · subst hq
    obtain ⟨u, hu⟩ := List.getLast?_eq_some_iff.1 hs
    have hcut : (f.remove new).children q = u.filter (· ≠ new) ++ [sibling] := by
      show (f.children q).filter (· ≠ new) = _
      rw [hu, List.filter_append, List.filter_cons_of_pos (by simpa using hsn), List.filter_nil]
    have hnd := (h.remove new).nodup q
    rw [children_append_self]
    rw [hcut] at hnd ⊢
    rw [insertAfterIn_split hnd, List.append_assoc, List.singleton_append]
  · rw [children_append_of_ne hq,
      insertAfterIn_of_not_mem fun hm => hq (h.unique (mem_remove.1 hm).1 (List.mem_of_getLast? hs))]

theorem splitText_of_cut {id : NodeId} {before between after : List Char}
    (h : f.text? id = some (before ++ between ++ after)) :
    f.splitText id (Text.Utf8.byteLength before) (Text.Utf8.byteLength (before ++ between)) =
      ((f.setText id before).create (.text after)).insertAfter id f.size := by
  rw [Forest.splitText, h, Option.getD_some, Text.Utf8.dropBytes_byteLength_append, List.append_assoc,
    Text.Utf8.takeBytes_byteLength_append]

end Forest

namespace Store

variable {s : Store} {f : Forest}

/-- **A node goes right behind its new sibling**, unless it stands there already. -/
theorem Holds.insertAfter (h : s.Holds f) {sibling new p : NodeId} (hs : sibling ∈ f.children p)
    (hn : new < f.size) (hw : ¬ f.Within sibling new) (hne : successor sibling (f.children p) ≠ some new) :
    (s.insertAfter (some sibling) (some new)).Holds (f.insertAfter sibling new) := by
  have hsn : sibling ≠ new := fun he => hw (he ▸ .refl)
  have hwp : ¬ f.Within p new := fun hp => hw (.head hs hp)
  have hnd := h.valid.nodup p
  rw [Store.insertAfter, Option.bind_some, Option.bind_some, h.nextSibling_eq hs, h.parent_eq_some_iff.2 hs]
  cases hnext : successor sibling (f.children p) with
  | none =>
    rw [← Forest.append_eq_insertAfter h.valid ((successor_eq_none_iff hnd hs).1 hnext) hsn]
    exact h.append (h.valid.parent_lt hs) hn hwp
  | some next =>
    have hnn : next ≠ new := fun he => hne (he ▸ hnext)
    have hmem := mem_of_successor hnext
    have hwn : ¬ f.Within next new := fun hw => by
      rcases ReflTransGen.cases_head hw with he | ⟨q, hq, hqn⟩
      · exact hnn he
      · exact hwp (h.valid.unique hq hmem ▸ hqn)
    rw [← Forest.insertBefore_eq_insertAfter h.valid hnext hnn hsn]
    exact h.insertBefore hmem hn hwn

theorem Holds.text?_eq (h : s.Holds f) (id : NodeId) : s.text? id = f.text? id := by
  rw [Store.text?, h.data?_eq]
  rfl

/-- A new node becomes the last child of `p`. -/
theorem Holds.appendNew (h : s.Holds f) {p : NodeId} (hp : p < f.size) (data : NodeData) :
    ((s.create data).1.append (some p) (some f.size)).Holds ((f.create data).append p f.size) :=
  (h.create data).append (Nat.lt_succ_of_lt hp) (Nat.lt_succ_self _) (h.valid.not_within_new hp data)

theorem Holds.appendText (h : s.Holds f) {p : NodeId} (hp : p < f.size) (content : List Char) :
    (s.appendText (some p) content).Holds (f.appendText p content) := by
  have hnew : ((s.create (.text content)).1.append (some p) (some (s.create (.text content)).2)).Holds
      ((f.create (.text content)).append p f.size) := by
    rw [create_snd h]
    exact h.appendNew hp _
  rw [Store.appendText, Forest.appendText, Option.bind_some, h.lastChild_eq]
  cases (f.children p).getLast? with
  | none => exact hnew
  | some last =>
    simp only [Option.bind_some, h.text?_eq]
    cases f.text? last with
    | none => exact hnew
    | some before => exact h.modifyData last fun _ => .text (before ++ content)

theorem Holds.splitText (h : s.Holds f) {id p : NodeId} (hid : id ∈ f.children p) (stop start : Nat) :
    (s.splitText id stop start).1.Holds (f.splitText id stop start) := by
  rw [Store.splitText, Forest.splitText, h.text?_eq]
  generalize Text.Utf8.takeBytes stop ((f.text? id).getD []) = head
  generalize Text.Utf8.dropBytes start ((f.text? id).getD []) = tail
  have h₁ := h.setText id head
  have hlt := h.valid.child_lt hid
  have hsucc : successor id (f.children p) ≠ some f.size := fun he => h.valid.not_mem_new p (mem_of_successor he)
  show (((s.setText id head).create (.text tail)).1.insertAfter (some id)
    (some ((s.setText id head).create (.text tail)).2)).Holds _
  rw [create_snd h₁]
  exact (h₁.create (.text tail)).insertAfter hid (Nat.lt_succ_self _) (h₁.valid.not_within_new hlt _) hsucc

theorem splitText_snd (h : s.Holds f) (id : NodeId) (stop start : Nat) : (s.splitText id stop start).2 = f.size :=
  create_snd (h.setText id (Text.Utf8.takeBytes stop ((s.text? id).getD [])))
    (.text (Text.Utf8.dropBytes start ((s.text? id).getD [])))

theorem ext_get? {s s' : Store} (h : ∀ id, s.get? id = s'.get? id) : s = s' := by
  obtain ⟨nodes⟩ := s
  obtain ⟨nodes'⟩ := s'
  exact congrArg Store.mk (Array.ext_getElem? h)

/-- **Giving a text the content it has** changes nothing. -/
theorem setText_eq_self {id : NodeId} {content : List Char} (h : s.text? id = some content) :
    s.setText id content = s := by
  refine ext_get? fun x => ?_
  rw [setText, get?_modify]
  cases hn : s.get? x with
  | none => rfl
  | some n =>
    rw [Option.map_some, through]
    by_cases hx : some id = some x
    · rw [if_pos hx]
      cases hx
      rw [text?, data?, hn, Option.map_some, Option.bind_some] at h
      obtain ⟨data, parent, first, last, prev, next⟩ := n
      cases data with
      | text old => cases h; rfl
      | _ => cases h
    · rw [if_neg hx]

/-! ## Moving all children -/

theorem within_of_append {p c x : NodeId} (hpc : ¬ f.Within p c) (hw : (f.append p c).Within p x) :
    f.Within p x := by
  induction hw with
  | refl => exact .refl
  | tail _ hxy ih =>
    rcases Forest.mem_append.1 hxy with ⟨hxy, -⟩ | ⟨rfl, -⟩
    · exact ih.tail hxy
    · exact absurd ih hpc

theorem Holds.foldl_append {p : NodeId} : ∀ {s : Store} {f : Forest} {cs : List NodeId}, s.Holds f → p < f.size →
    (∀ c ∈ cs, c < f.size ∧ ¬ f.Within p c) →
    (cs.foldl (fun s c => s.append (some p) (some c)) s).Holds (cs.foldl (fun f c => f.append p c) f)
  | _, _, [], h, _, _ => h
  | s, f, c :: cs, h, hp, hcs => by
    obtain ⟨hc, hpc⟩ := hcs c List.mem_cons_self
    refine (h.append hp hc hpc).foldl_append hp fun d hd => ?_
    obtain ⟨hd, hpd⟩ := hcs d (List.mem_cons_of_mem _ hd)
    exact ⟨hd, fun hw => hpd (within_of_append hpc hw)⟩

theorem foldl_append_eq {p : NodeId} : ∀ {f : Forest} {cs : List NodeId}, cs.Nodup →
    cs.foldl (fun f c => f.append p c) f =
      { f with children := fun q => (f.children q).filter (· ∉ cs) ++ if q = p then cs else [] }
  | f, [], _ => by
    refine Forest.ext rfl rfl (funext fun q => ?_)
    simp
  | f, c :: cs, hnd => by
    rw [List.nodup_cons] at hnd
    rw [List.foldl_cons, foldl_append_eq hnd.2]
    refine Forest.ext rfl rfl (funext fun q => ?_)
    show ((f.append p c).children q).filter (· ∉ cs) ++ (if q = p then cs else []) =
      (f.children q).filter (· ∉ c :: cs) ++ if q = p then c :: cs else []
    have hfilter : ((f.remove c).children q).filter (· ∉ cs) = (f.children q).filter (· ∉ c :: cs) := by
      show ((f.children q).filter (· ≠ c)).filter (· ∉ cs) = _
      rw [List.filter_filter]
      exact List.filter_congr fun x _ => by simp [Bool.and_comm]
    by_cases hq : q = p
    · subst hq
      rw [Forest.children_append_self, List.filter_append, hfilter, if_pos rfl, if_pos rfl, List.append_assoc,
        List.filter_cons_of_pos (by simpa using hnd.1), List.filter_nil, List.singleton_append]
    · rw [Forest.children_append_of_ne hq, hfilter, if_neg hq, if_neg hq]

theorem Holds.moveChildren (h : s.Holds f) {source target : NodeId} (ht : target < f.size)
    (hw : ∀ c ∈ f.children source, ¬ f.Within target c) :
    (s.moveChildren source target).Holds (f.moveChildren source target) := by
  have hfold := h.foldl_append ht fun c hc => ⟨h.valid.child_lt hc, hw c hc⟩
  rw [foldl_append_eq (h.valid.nodup source)] at hfold
  rw [Store.moveChildren, h.children_eq]
  have hforest : f.moveChildren source target = { f with
      children := fun q =>
        (f.children q).filter (· ∉ f.children source) ++ if q = target then f.children source else [] } := by
    refine Forest.ext rfl rfl (funext fun q => congrArg (· ++ _) ?_)
    show (if q = source then [] else f.children q) = _
    by_cases hq : q = source
    · rw [if_pos hq, hq]
      exact (List.filter_eq_nil_iff.2 fun x hx => by simpa using hx).symm
    · rw [if_neg hq]
      exact (List.filter_eq_self.2 fun x hx => by simpa using fun hm => hq (h.valid.unique hx hm)).symm
  rwa [hforest]

end Store

end BlogMarkdown.Dom
