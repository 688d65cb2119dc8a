import BlogMarkdown.Dom.Boundary
import BlogMarkdown.Proofs.Dom.Mirror
import BlogMarkdown.Proofs.Dom.Operations
/-!
# Block boundaries in the stream of tags

Written out, a tree is a stream of opening tags, closing tags and leaves.  Whether a block boundary is right before a
node can be read off the stream alone, back from the node up to the first leaf: the way up passes the opening tags, and
the way down the closing ones.  The way ahead is the way back in the mirrored store, and along the links of a
well-formed store both ways come to their end.
-/
namespace BlogMarkdown.Dom

open Relation (ReflTransGen)

/-! ## The stream of a tree -/

/-- What a piece of the stream is. -/
inductive StreamToken.Kind where
  | opening
  | closing
  /-- A node without children. -/
  | leaf
  deriving DecidableEq

/-- A piece of the stream, and the node it is of. -/
structure StreamToken where
  kind : StreamToken.Kind
  id : NodeId
  data : NodeData

mutual
/-- The tags and leaves of a tree in document order. -/
def Numbered.stream : Numbered → List StreamToken
  | .node id data children =>
    if children.isEmpty then [⟨.leaf, id, data⟩]
    else ⟨.opening, id, data⟩ :: (streamAll children ++ [⟨.closing, id, data⟩])
@[inherit_doc Numbered.stream]
def Numbered.streamAll : List Numbered → List StreamToken
  | [] => []
  | t :: rest => t.stream ++ streamAll rest
end

@[inherit_doc Numbered.stream]
def Store.stream (s : Store) (id : NodeId) : List StreamToken := (s.numbered id).stream

namespace StreamToken

/-- What is read up to the first leaf, with the leaf. -/
def upToLeaf : List StreamToken → List StreamToken
  | [] => []
  | t :: rest => t :: if t.kind = .leaf then [] else upToLeaf rest

/-- Whether something block-level is read up to the first leaf. -/
def seesBlock (tokens : List StreamToken) : Bool := (upToLeaf tokens).any (·.data.isBlock)

/-- Whether something block-level is read up to the first leaf, or the stream is read to its end and nothing is in it
but tags of one kind. -/
def meetsBoundary (passing : Kind) (tokens : List StreamToken) : Bool :=
  seesBlock tokens || tokens.all (·.kind = passing)

theorem seesBlock_cons (t : StreamToken) (tokens : List StreamToken) :
    seesBlock (t :: tokens) = (t.data.isBlock || (t.kind ≠ .leaf && seesBlock tokens)) := by
  rw [seesBlock, upToLeaf, List.any_cons]
  by_cases h : t.kind = .leaf <;> simp [h, seesBlock]

theorem meetsBoundary_opening (id : NodeId) (data : NodeData) (tokens : List StreamToken) :
    meetsBoundary .opening (⟨.opening, id, data⟩ :: tokens) = (data.isBlock || meetsBoundary .opening tokens) := by
  rw [meetsBoundary, seesBlock_cons, List.all_cons]
  simp [meetsBoundary, Bool.or_assoc]

theorem meetsBoundary_of_ne {t : StreamToken} {passing : Kind} (h : t.kind ≠ passing) (tokens : List StreamToken) :
    meetsBoundary passing (t :: tokens) = seesBlock (t :: tokens) := by
  rw [meetsBoundary, List.all_cons, decide_eq_false h, Bool.false_and, Bool.or_false]

def Kind.flip : Kind → Kind
  | opening => closing
  | closing => opening
  | leaf => leaf

/-- A tag of the other kind. -/
def flip (t : StreamToken) : StreamToken := { t with kind := t.kind.flip }

theorem seesBlock_flip : ∀ tokens : List StreamToken, seesBlock (tokens.map flip) = seesBlock tokens
  | [] => rfl
  | t :: tokens => by
    have hkind : t.flip.kind = .leaf ↔ t.kind = .leaf := by
      rw [flip]
      cases t.kind <;> simp [Kind.flip]
    rw [List.map_cons, seesBlock_cons, seesBlock_cons, seesBlock_flip tokens, decide_not, decide_not,
      decide_eq_decide.2 hkind]
    rfl

theorem meetsBoundary_flip (tokens : List StreamToken) :
    meetsBoundary .opening (tokens.map flip) = meetsBoundary .closing tokens := by
  have hkind (t : StreamToken) : t.flip.kind = .opening ↔ t.kind = .closing := by
    rw [flip]
    cases t.kind <;> simp [Kind.flip]
  rw [meetsBoundary, meetsBoundary, seesBlock_flip, List.all_map]
  exact congrArg _ (List.all_congr rfl fun t => decide_eq_decide.2 (hkind t))

end StreamToken

variable {s : Store} {f : Forest}

theorem Numbered.streamAll_eq_flatMap (ts : List Numbered) : streamAll ts = ts.flatMap stream := by
  induction ts with
  | nil => rfl
  | cons t ts ih => rw [streamAll, ih, List.flatMap_cons]

namespace Store

open StreamToken (seesBlock meetsBoundary seesBlock_cons meetsBoundary_opening meetsBoundary_of_ne)

/-- Whether a node is a block-level element. -/
def isBlock (s : Store) (id : NodeId) : Bool := (s.data? id).any (·.isBlock)

theorem Holds.isBlock_eq (h : s.Holds f) (id : NodeId) : ((f.data id).getD .document).isBlock = s.isBlock id := by
  rw [isBlock, h.data?_eq]
  cases f.data id <;> rfl

theorem Holds.stream_of_leaf (h : s.Holds f) {id : NodeId} (hid : f.children id = []) :
    s.stream id = [⟨.leaf, id, (f.data id).getD .document⟩] := by
  rw [stream, h.numbered_eq, hid]
  rfl

theorem Holds.stream_of_parent (h : s.Holds f) {id : NodeId} (hid : f.children id ≠ []) :
    s.stream id = ⟨.opening, id, (f.data id).getD .document⟩ ::
      ((f.children id).flatMap s.stream ++ [⟨.closing, id, (f.data id).getD .document⟩]) := by
  rw [stream, h.numbered_eq, Numbered.stream, if_neg (by simpa using hid), Numbered.streamAll_eq_flatMap,
    List.flatMap_map]
  rfl

/-- The stream of a node among those of its siblings. -/
theorem Holds.stream_of_child (h : s.Holds f) {id p : NodeId} {l r : List NodeId} (hc : f.children p = l ++ id :: r) :
    s.stream p = ⟨.opening, p, (f.data p).getD .document⟩ :: l.flatMap s.stream ++
      (s.stream id ++ (r.flatMap s.stream ++ [⟨.closing, p, (f.data p).getD .document⟩])) := by
  rw [h.stream_of_parent (by rw [hc]; simp), hc, List.flatMap_append, List.flatMap_cons]
  simp only [List.append_assoc, List.cons_append]

/-- A stream begins with an opening tag or a leaf of its node. -/
theorem Holds.exists_stream_eq (h : s.Holds f) (id : NodeId) :
    ∃ t rest, s.stream id = t :: rest ∧ t.id = id := by
  by_cases hid : f.children id = []
  · exact ⟨_, _, h.stream_of_leaf hid, rfl⟩
  · exact ⟨_, _, h.stream_of_parent hid, rfl⟩

/-- In the mirrored store the stream is read from its end, with opening tags for closing ones. -/
theorem Holds.stream_mirror (h : s.Holds f) (id : NodeId) :
    s.mirror.stream id = (s.stream id).reverse.map StreamToken.flip := by
  induction id using h.valid.leaf_induction with
  | node id ih =>
    have hchildren : f.mirror.children id = (f.children id).reverse := rfl
    by_cases hid : f.children id = []
    · rw [h.stream_of_leaf hid, h.mirror.stream_of_leaf (by rw [hchildren, hid]; rfl)]
      rfl
    · have hflat : (f.children id).reverse.flatMap s.mirror.stream =
          ((f.children id).flatMap s.stream).reverse.map StreamToken.flip := by
        rw [List.reverse_flatMap, List.map_flatMap]
        exact List.flatMap_congr fun c hc => ih c (List.mem_reverse.1 hc)
      rw [h.stream_of_parent hid, h.mirror.stream_of_parent (by rwa [hchildren, ne_eq, List.reverse_eq_nil_iff]),
        hchildren, hflat]
      simp [StreamToken.flip, StreamToken.Kind.flip, Forest.mirror]

/-! ## Where a node is in the stream -/

theorem Holds.within_of_mem_stream (h : s.Holds f) {id : NodeId} {t : StreamToken} (ht : t ∈ s.stream id) :
    f.Within t.id id := by
  induction id using h.valid.leaf_induction with
  | node id ih =>
    by_cases hid : f.children id = []
    · rw [h.stream_of_leaf hid, List.mem_singleton] at ht
      subst ht
      exact .refl
    · rw [h.stream_of_parent hid, List.mem_cons, List.mem_append, List.mem_singleton, List.mem_flatMap] at ht
      rcases ht with rfl | ⟨c, hc, ht⟩ | rfl
      · exact .refl
      · exact (ih c hc ht).tail hc
      · exact .refl

/-- No tag and no leaf is in the stream twice. -/
theorem Holds.nodup_stream (h : s.Holds f) (id : NodeId) : (s.stream id).Nodup := by
  induction id using h.valid.leaf_induction with
  | node id ih =>
    by_cases hid : f.children id = []
    · rw [h.stream_of_leaf hid]
      exact List.nodup_singleton _
    · have hinner : ∀ t ∈ (f.children id).flatMap s.stream, t.id ≠ id := by
        rintro t ht rfl
        obtain ⟨c, hc, ht⟩ := List.mem_flatMap.1 ht
        exact h.valid.not_within_of_mem hc (h.within_of_mem_stream ht)
      have hflat : ((f.children id).flatMap s.stream).Nodup := by
        refine List.nodup_flatMap.2 ⟨ih, (h.valid.nodup id).imp_of_mem fun ha hb hab t hta htb => ?_⟩
        exact h.valid.not_within_both ha hb hab (h.within_of_mem_stream hta) (h.within_of_mem_stream htb)
      rw [h.stream_of_parent hid, List.nodup_cons, List.mem_append, List.mem_singleton, not_or]
      refine ⟨⟨fun ht => hinner _ ht rfl, by simp⟩, ?_⟩
      refine List.nodup_append.2 ⟨hflat, List.nodup_singleton _, fun t ht u hu htu => hinner t ht ?_⟩
      rw [htu, List.mem_singleton.1 hu]

/-- The stream of a tree holds that of a node at one place only. -/
theorem Holds.stream_split_unique (h : s.Holds f) {root id : NodeId} {before after before' after' : List StreamToken}
    (hsplit : s.stream root = before ++ (s.stream id ++ after))
    (hsplit' : s.stream root = before' ++ (s.stream id ++ after')) : before = before' := by
  obtain ⟨t, rest, ht, -⟩ := h.exists_stream_eq id
  have hnodup := h.nodup_stream root
  rw [ht, List.cons_append] at hsplit hsplit'
  rw [hsplit, List.nodup_middle, List.nodup_cons, List.mem_append, not_or] at hnodup
  rw [hsplit] at hsplit'
  exact ((List.append_cons_inj_of_notMem hnodup.1.1 hnodup.1.2).1 hsplit').1

/-! ## The two ways, step by step -/

theorem Holds.endsWithBlock_tree (h : s.Holds f) (id : NodeId) :
    (s.tree id).endsWithBlock = (s.isBlock id || (s.lastChild id).any fun c => (s.tree c).endsWithBlock) := by
  have hlast : ∀ l : List NodeId,
      anyEndsWithBlock (l.map s.tree) = l.getLast?.any fun c => (s.tree c).endsWithBlock := by
    intro l
    induction l with
    | nil => rfl
    | cons c l ih =>
      rw [List.map_cons, anyEndsWithBlock, ih]
      cases l <;> simp
  rw [h.tree_eq, Tree.endsWithBlock, h.isBlock_eq, h.lastChild_eq, hlast]

theorem Holds.startsWithBlock_tree (h : s.Holds f) (id : NodeId) :
    (s.tree id).startsWithBlock = (s.isBlock id || (s.firstChild id).any fun c => (s.tree c).startsWithBlock) := by
  rw [h.tree_eq, Tree.startsWithBlock, h.isBlock_eq, h.firstChild_eq]
  cases f.children id <;> rfl

/-- Before a child is the tree of the sibling before it, or the opening of its parent and what is before that. -/
theorem Holds.blockBefore_path (h : s.Holds f) {id p : NodeId} (hid : id ∈ f.children p) :
    (s.path id).blockBefore =
      (s.prevSibling id).elim (s.isBlock p || (s.path p).blockBefore) fun x => (s.tree x).endsWithBlock := by
  obtain ⟨l, r, hc⟩ := List.append_of_mem hid
  rw [h.path_of_child hc, Path.blockBefore, h.isBlock_eq, (h.siblings_of_split hc).1, ← List.head?_reverse]
  cases l.reverse <;> rfl

theorem Holds.blockAfter_path (h : s.Holds f) {id p : NodeId} (hid : id ∈ f.children p) :
    (s.path id).blockAfter =
      (s.nextSibling id).elim (s.isBlock p || (s.path p).blockAfter) fun x => (s.tree x).startsWithBlock := by
  obtain ⟨l, r, hc⟩ := List.append_of_mem hid
  rw [h.path_of_child hc, Path.blockAfter, h.isBlock_eq, (h.siblings_of_split hc).2]
  cases r <;> rfl

/-! ## The way ahead is the way back in the mirrored store -/

theorem isBlock_mirror (s : Store) (id : NodeId) : s.mirror.isBlock id = s.isBlock id := by
  rw [isBlock, isBlock, data?_mirror]

theorem Holds.endsWithBlock_mirror (h : s.Holds f) (id : NodeId) :
    (s.mirror.tree id).endsWithBlock = (s.tree id).startsWithBlock := by
  induction id using h.valid.leaf_induction with
  | node id ih =>
    rw [h.mirror.endsWithBlock_tree, h.startsWithBlock_tree, isBlock_mirror, lastChild_mirror]
    cases hfirst : s.firstChild id with
    | none => rfl
    | some c => rw [Option.any_some, Option.any_some, ih c (List.mem_of_head? ((h.firstChild_eq id).symm.trans hfirst))]

/-- **What is right behind a place is right before it in the mirrored store.** -/
theorem Holds.blockBefore_mirror (h : s.Holds f) (id : NodeId) :
    (s.mirror.path id).blockBefore = (s.path id).blockAfter := by
  induction id using h.valid.root_induction with
  | root id hid => rw [h.mirror.path_of_root fun p hp => hid p (List.mem_reverse.1 hp), h.path_of_root hid]; rfl
  | child id p hp ih =>
    rw [h.mirror.blockBefore_path (List.mem_reverse.2 hp), h.blockAfter_path hp, isBlock_mirror, prevSibling_mirror, ih,
      funext h.endsWithBlock_mirror]

/-! ## Back through the stream -/

/-- Back through the stream of a tree, the way down along last children is read up to the first leaf. -/
theorem Holds.seesBlock_stream (h : s.Holds f) (id : NodeId) (rest : List StreamToken) :
    seesBlock ((s.stream id).reverse ++ rest) = (s.tree id).endsWithBlock := by
  induction id using h.valid.leaf_induction generalizing rest with
  | node id ih =>
    rw [h.endsWithBlock_tree, h.lastChild_eq, ← h.isBlock_eq]
    by_cases hid : f.children id = []
    · rw [h.stream_of_leaf hid, hid, List.reverse_singleton, List.singleton_append, seesBlock_cons]
      rfl
    · obtain ⟨l, c, hc⟩ := (List.eq_nil_or_concat' _).resolve_left hid
      have hmem : c ∈ f.children id := by rw [hc]; simp
      rw [h.stream_of_child hc, hc, List.getLast?_concat, Option.any_some, List.flatMap_nil, List.nil_append,
        List.reverse_append, List.reverse_append, List.reverse_singleton, List.append_assoc, List.append_assoc,
        List.singleton_append, seesBlock_cons, ih c hmem]
      rfl

theorem Holds.meetsBoundary_stream (h : s.Holds f) (id : NodeId) (rest : List StreamToken) :
    meetsBoundary .opening ((s.stream id).reverse ++ rest) = (s.tree id).endsWithBlock := by
  rw [← h.seesBlock_stream id rest]
  by_cases hid : f.children id = []
  · rw [h.stream_of_leaf hid]
    exact meetsBoundary_of_ne (by simp) _
  · rw [h.stream_of_parent hid, ← List.cons_append, List.reverse_append, List.reverse_singleton]
    exact meetsBoundary_of_ne (by simp) _

/-- One step up: from a child back to the opening of its parent, or into the tree of the sibling before it. -/
theorem Holds.blockBefore_step (h : s.Holds f) {id p : NodeId} {l r : List NodeId} (hc : f.children p = l ++ id :: r)
    {before : List StreamToken} (hp : (s.path p).blockBefore = meetsBoundary .opening before.reverse) :
    (s.path id).blockBefore = meetsBoundary .opening
      (before ++ ⟨.opening, p, (f.data p).getD .document⟩ :: l.flatMap s.stream).reverse := by
  have hmem : id ∈ f.children p := by rw [hc]; simp
  rw [h.blockBefore_path hmem, (h.siblings_of_split hc).1, hp, ← h.isBlock_eq]
  rcases List.eq_nil_or_concat' l with rfl | ⟨l, x, rfl⟩
  · rw [List.flatMap_nil, List.reverse_append, List.reverse_singleton, List.singleton_append, meetsBoundary_opening]
    rfl
  · rw [List.getLast?_concat, Option.elim_some, List.flatMap_append, List.flatMap_singleton, ← List.cons_append,
      ← List.append_assoc, List.reverse_append, h.meetsBoundary_stream]

/-- **Block boundaries are read off the stream**: what is right before a node is told by the tokens before it. -/
theorem Holds.exists_stream_split (h : s.Holds f) {root id : NodeId} (hroot : ∀ p, root ∉ f.children p)
    (hid : f.Within id root) : ∃ before after, s.stream root = before ++ (s.stream id ++ after) ∧
      (s.path id).blockBefore = meetsBoundary .opening before.reverse := by
  induction hid using ReflTransGen.head_induction_on with
  | refl => exact ⟨[], [], (List.append_nil _).symm, by rw [h.path_of_root hroot]; rfl⟩
  | @head x p hstep _ ih =>
    obtain ⟨before, after, hsplit, hp⟩ := ih
    obtain ⟨l, r, hc⟩ := List.append_of_mem hstep
    refine ⟨_, r.flatMap s.stream ++ [⟨.closing, p, (f.data p).getD .document⟩] ++ after, ?_,
      h.blockBefore_step hc hp⟩
    rw [hsplit, h.stream_of_child hc]
    simp only [List.append_assoc]

theorem Holds.within_of_split (h : s.Holds f) {root id : NodeId} {before after : List StreamToken}
    (hsplit : s.stream root = before ++ (s.stream id ++ after)) : f.Within id root := by
  obtain ⟨t, rest, ht, rfl⟩ := h.exists_stream_eq id
  refine h.within_of_mem_stream ?_
  rw [hsplit, ht]
  simp

/-- **Looking back from a node is reading the stream back**, wherever the stream of its tree is cut at the node. -/
theorem Holds.blockBefore_of_split (h : s.Holds f) {root id : NodeId} (hroot : s.parent root = none)
    {before after : List StreamToken} (hsplit : s.stream root = before ++ (s.stream id ++ after)) :
    (s.path id).blockBefore = meetsBoundary .opening before.reverse := by
  obtain ⟨before', after', hsplit', hpath⟩ :=
    h.exists_stream_split (h.parent_eq_none_iff.1 hroot) (h.within_of_split hsplit)
  rwa [h.stream_split_unique hsplit hsplit']

/-- Looking ahead is reading the stream on. -/
theorem Holds.blockAfter_of_split (h : s.Holds f) {root id : NodeId} (hroot : s.parent root = none)
    {before after : List StreamToken} (hsplit : s.stream root = before ++ (s.stream id ++ after)) :
    (s.path id).blockAfter = meetsBoundary .closing after := by
  have hmirror : s.mirror.stream root = after.reverse.map StreamToken.flip ++
      (s.mirror.stream id ++ before.reverse.map StreamToken.flip) := by
    rw [h.stream_mirror, h.stream_mirror, hsplit]
    simp
  rw [← h.blockBefore_mirror, h.mirror.blockBefore_of_split (s.parent_mirror root ▸ hroot) hmirror,
    ← List.map_reverse, List.reverse_reverse, StreamToken.meetsBoundary_flip]

/-! ## Along the links -/

/-- The way down from a link on along `edge`, up to a block-level element; `none` if the bound is too low. -/
def descend (block : NodeId → Bool) (edge : NodeId → Option NodeId) : Nat → Option NodeId → Option Bool
  | 0, _ => none
  | _ + 1, none => some false
  | steps + 1, some id => if block id then some true else descend block edge steps (edge id)

/-- The way up to a node with a sibling, and from the sibling down along `edge`. -/
def climb (block : NodeId → Bool) (parent sibling edge : NodeId → Option NodeId) : Nat → NodeId → Option Bool
  | 0, _ => none
  | steps + 1, id =>
    if block id then some true
    else
      match sibling id with
      | some x => descend block edge steps (some x)
      | none =>
        match parent id with
        | some p => climb block parent sibling edge steps p
        | none => some true

/-- Looks for a block boundary before a node. -/
def looksBack (s : Store) : Nat → NodeId → Option Bool := climb s.isBlock s.parent s.prevSibling s.lastChild

/-- Looks for a block boundary behind a node. -/
def looksAhead (s : Store) : Nat → NodeId → Option Bool := climb s.isBlock s.parent s.nextSibling s.firstChild

theorem looksBack_mirror (s : Store) : s.mirror.looksBack = s.looksAhead := by
  rw [looksBack, looksAhead, funext s.isBlock_mirror, funext s.parent_mirror, funext s.prevSibling_mirror,
    funext s.lastChild_mirror]

/-- The way down ends: fewer and fewer nodes are below. -/
theorem Holds.descend_eq (h : s.Holds f) : ∀ {steps : Nat} {id : NodeId}, f.rank id + 1 < steps →
    descend s.isBlock s.lastChild steps (some id) = some (s.tree id).endsWithBlock
  | 0, id, hsteps => absurd hsteps (Nat.not_lt_zero _)
  | steps + 1, id, hsteps => by
    rw [descend, h.endsWithBlock_tree]
    cases hblock : s.isBlock id with
    | true => rfl
    | false =>
      cases hlast : s.lastChild id with
      | none =>
        obtain ⟨steps, rfl⟩ := Nat.exists_eq_succ_of_ne_zero (show steps ≠ 0 by omega)
        rfl
      | some c =>
        have hlt := h.valid.rank_lt (List.mem_of_getLast? ((h.lastChild_eq id).symm.trans hlast))
        exact h.descend_eq (by omega)

/-- The way up ends: more and more nodes are below, up to all of them. -/
theorem Holds.looksBack_eq (h : s.Holds f) : ∀ {steps : Nat} {id : NodeId}, 2 * (f.size + 1) < steps + f.rank id →
    s.looksBack steps id = some (s.isBlock id || (s.path id).blockBefore)
  | 0, id, hsteps => absurd (f.rank_le_size id) (by omega)
  | steps + 1, id, hsteps => by
    rw [looksBack, climb]
    cases hblock : s.isBlock id with
    | true => rfl
    | false =>
      cases hparent : s.parent id with
      | none =>
        have hroot := h.parent_eq_none_iff.1 hparent
        rw [(h.siblings_eq_none hroot).1, h.path_of_root hroot]
        rfl
      | some p =>
        have hid := h.parent_eq_some_iff.1 hparent
        rw [h.blockBefore_path hid]
        cases hprev : s.prevSibling id with
        | none =>
          have hlt := h.valid.rank_lt hid
          exact h.looksBack_eq (by omega)
        | some x =>
          have hx := f.rank_le_size x
          have hle := f.rank_le_size id
          exact h.descend_eq (by omega)

theorem Holds.looksAhead_eq (h : s.Holds f) {steps : Nat} {id : NodeId} (hsteps : 2 * (f.size + 1) < steps) :
    s.looksAhead steps id = some (s.isBlock id || (s.path id).blockAfter) := by
  rw [← looksBack_mirror, h.mirror.looksBack_eq (Nat.lt_add_right _ hsteps), isBlock_mirror, h.blockBefore_mirror]

/-- **The block boundaries around a text.**  The stream of the tree it is in is cut at the text, and what is read back
from there tells whether a boundary is before it: a block-level tag or leaf up to the first leaf, or nothing but
opening tags up to the beginning.  What is read on tells whether one is behind it, as does looking back in the
mirrored store.  Both ways along the links end, and with these answers. -/
theorem boundaries_of_text (h : s.WellFormed) {id : NodeId} {content : List Char}
    (hid : s.data? id = some (.text content)) :
    (∃ root before after, s.parent root = none ∧ s.stream root = before ++ (s.stream id ++ after)) ∧
    (∀ root before after, s.parent root = none → s.stream root = before ++ (s.stream id ++ after) →
      (s.path id).blockBefore = meetsBoundary .opening before.reverse ∧
        (s.path id).blockAfter = meetsBoundary .closing after) ∧
    (s.mirror.WellFormed ∧ (∀ p, s.mirror.children p = (s.children p).reverse) ∧
      (∀ x, s.mirror.data? x = s.data? x) ∧ (s.path id).blockAfter = (s.mirror.path id).blockBefore) ∧
    ∀ steps, 2 * (s.size + 1) < steps →
      s.looksBack steps id = some (s.path id).blockBefore ∧ s.looksAhead steps id = some (s.path id).blockAfter := by
  have hmirror := h.mirror
  have hchildren := h.children_mirror
  obtain ⟨f, hf⟩ := h
  have hblock : s.isBlock id = false := by rw [isBlock, hid]; rfl
  obtain ⟨root, hroot, hwithin⟩ := hf.valid.exists_root id
  obtain ⟨before, after, hsplit, -⟩ := hf.exists_stream_split hroot hwithin
  refine ⟨⟨root, before, after, hf.parent_eq_none_iff.2 hroot, hsplit⟩, fun root before after hroot hsplit => ?_,
    ⟨hmirror, hchildren, s.data?_mirror, (hf.blockBefore_mirror id).symm⟩, fun steps hsteps => ?_⟩
  · exact ⟨hf.blockBefore_of_split hroot hsplit, hf.blockAfter_of_split hroot hsplit⟩
  · rw [hf.size] at hsteps
    rw [hf.looksBack_eq (Nat.lt_add_right _ hsteps), hf.looksAhead_eq hsteps, hblock, Bool.false_or, Bool.false_or]
    exact ⟨rfl, rfl⟩

/-- A division with a text, and with another one in an emphasis behind it. -/
def divisionPage : Store :=
  let s := (Store.empty.create (.element (.html "div") [])).1.append (some 0) (some 1)
  let s := (s.create (.text ['a'])).1.append (some 1) (some 2)
  let s := (s.create (.element (.html "em") [])).1.append (some 1) (some 3)
  (s.create (.text ['b'])).1.append (some 3) (some 4)

theorem boundaries_of_divisionPage :
    divisionPage.WellFormed ∧ divisionPage.data? 4 = some (.text ['b']) ∧
      (∃ root before after, divisionPage.parent root = none ∧
        divisionPage.stream root = before ++ (divisionPage.stream 4 ++ after)) ∧
      (∀ before after, divisionPage.stream 0 = before ++ (divisionPage.stream 4 ++ after) →
        meetsBoundary .opening before.reverse = false ∧ meetsBoundary .closing after = true) ∧
      (divisionPage.mirror.path 4).blockBefore = true ∧
      ∀ steps, 12 < steps →
        divisionPage.looksBack steps 4 = some false ∧ divisionPage.looksAhead steps 4 = some true := by
  have hs : divisionPage.WellFormed :=
    ⟨_, (((Store.holds_empty.appendNew (by decide) _).appendNew (by decide) _).appendNew (by decide) _).appendNew
      (by decide) _⟩
  have hid : divisionPage.data? 4 = some (.text ['b']) := by decide
  have hbefore : (divisionPage.path 4).blockBefore = false := by decide
  have hafter : (divisionPage.path 4).blockAfter = true := by decide
  obtain ⟨hsome, hsplit, ⟨-, -, -, hmirror⟩, hends⟩ := boundaries_of_text hs hid
  rw [hbefore, hafter] at hends
  refine ⟨hs, hid, hsome, fun before after hcut => ?_, hmirror ▸ hafter, hends⟩
  obtain ⟨hback, hahead⟩ := hsplit 0 before after (by decide) hcut
  exact ⟨hback ▸ hbefore, hahead ▸ hafter⟩

end Store

end BlogMarkdown.Dom
