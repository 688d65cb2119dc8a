import BlogMarkdown.Proofs.Dom.Neighbours
import Mathlib.Data.Finset.Card
import Mathlib.Data.Finset.Range
import Mathlib.Data.List.Perm.Subperm
import Mathlib.Logic.Relation
/-!
# Ordered forests

What a node store means: for each number what the node holds and the list of its children.  Every operation of the
store has a counterpart here that says what it does to these lists and to nothing else, and each of them keeps a
forest valid: no node stands twice, and none stands below itself.
-/
namespace BlogMarkdown.Dom

open Relation (ReflTransGen TransGen)

/-- The nodes below `size`, what each of them holds, and its children in order. -/
@[ext] structure Forest where
  size : Nat
  data : NodeId → Option NodeData
  children : NodeId → List NodeId

namespace Forest

variable {f : Forest}

/-- `c` is a child of `p`. -/
def Below (f : Forest) (c p : NodeId) : Prop := c ∈ f.children p

/-- `a` is `x` or an ancestor of it. -/
def Within (f : Forest) (x a : NodeId) : Prop := ReflTransGen f.Below x a

/-- **A finite ordered forest**: each node has at most one place, and no node stands below itself. -/
structure Valid (f : Forest) : Prop where
  data_isSome : ∀ id, (f.data id).isSome = true ↔ id < f.size
  child_lt : ∀ {c p}, c ∈ f.children p → c < f.size
  parent_lt : ∀ {c p}, c ∈ f.children p → p < f.size
  nodup : ∀ p, (f.children p).Nodup
  unique : ∀ {c p q}, c ∈ f.children p → c ∈ f.children q → p = q
  acyclic : ∀ id, ¬ TransGen f.Below id id

/-! ## What the operations do -/

/-- The document alone. -/
def empty : Forest := ⟨1, fun id => if id = 0 then some .document else none, fun _ => []⟩

/-- A new node that stands nowhere. -/
def create (f : Forest) (data : NodeData) : Forest :=
  { f with size := f.size + 1, data := fun id => if id = f.size then some data else f.data id }

def modifyData (f : Forest) (id : NodeId) (g : NodeData → NodeData) : Forest :=
  { f with data := fun x => if x = id then (f.data x).map g else f.data x }

/-- A text node holds another text; other nodes stay as they are. -/
def setText (f : Forest) (id : NodeId) (content : List Char) : Forest :=
  f.modifyData id fun d => if d.isText then .text content else d

def remove (f : Forest) (c : NodeId) : Forest :=
  { f with children := fun p => (f.children p).filter (· ≠ c) }

/-- A node leaves the list it stands in and becomes the last child of `p`. -/
def append (f : Forest) (p c : NodeId) : Forest :=
  { f with children := fun q => (f.remove c).children q ++ if q = p then [c] else [] }

/-- A node leaves the list it stands in and goes right before `sibling`. -/
def insertBefore (f : Forest) (sibling new : NodeId) : Forest :=
  { f with children := fun q => insertBeforeIn sibling new ((f.remove new).children q) }

/-- A node leaves the list it stands in and goes right behind `sibling`. -/
def insertAfter (f : Forest) (sibling new : NodeId) : Forest :=
  { f with children := fun q => insertAfterIn sibling new ((f.remove new).children q) }

def text? (f : Forest) (id : NodeId) : Option (List Char) := (f.data id).bind (·.text?)

def isElement (f : Forest) (id : NodeId) : Bool := (f.data id).any (·.isElement)

def isEmptyText (f : Forest) (id : NodeId) : Bool := (f.data id).any (·.isEmptyText)

/-- Text goes to the end of the last child if that is a text, else into a new last child. -/
def appendText (f : Forest) (p : NodeId) (content : List Char) : Forest :=
  match (f.children p).getLast?.bind fun last => (f.text? last).map fun before => (last, before) with
  | some (last, before) => f.modifyData last fun _ => .text (before ++ content)
  | none => (f.create (.text content)).append p f.size

/-- A text keeps its bytes up to `stop`, and those from `start` on become a new text right behind it. -/
def splitText (f : Forest) (id : NodeId) (stop start : Nat) : Forest :=
  let content := (f.text? id).getD []
  (((f.setText id (Text.Utf8.takeBytes stop content)).create
    (.text (Text.Utf8.dropBytes start content)))).insertAfter id f.size

/-- The children of `source` leave it and come behind those of `target`. -/
def moveChildren (f : Forest) (source target : NodeId) : Forest :=
  { f with children := fun p =>
      (if p = source then [] else f.children p) ++ if p = target then f.children source else [] }

/-- `p` is `root`, or an element below it to which only elements lead. -/
def Reaches (f : Forest) (root p : NodeId) : Prop :=
  ReflTransGen (fun p c => c ∈ f.children p ∧ f.isElement c = true) root p

open Classical in
/-- The empty texts leave the lists of the nodes that `root` reaches. -/
noncomputable def removeEmptyTexts (f : Forest) (root : NodeId) : Forest :=
  { f with children := fun p =>
      if f.Reaches root p then (f.children p).filter fun c => !f.isEmptyText c else f.children p }

/-! ## They keep a forest valid -/

theorem Valid.data_eq_none (h : f.Valid) {id : NodeId} (hid : f.size ≤ id) : f.data id = none := by
  have := mt (h.data_isSome id).1 (Nat.not_lt.2 hid)
  rwa [Option.not_isSome_iff_eq_none] at this

theorem Valid.children_eq_nil (h : f.Valid) {id : NodeId} (hid : f.size ≤ id) : f.children id = [] :=
  List.eq_nil_iff_forall_not_mem.2 fun _ hc => absurd (h.parent_lt hc) (Nat.not_lt.2 hid)

theorem Valid.not_mem_new (h : f.Valid) (p : NodeId) : f.size ∉ f.children p :=
  fun hc => Nat.lt_irrefl _ (h.child_lt hc)

/-- A child does not stand above its parent. -/
theorem Valid.not_within_of_mem (h : f.Valid) {c p : NodeId} (hc : c ∈ f.children p) : ¬ f.Within p c :=
  fun hw => h.acyclic c (TransGen.head' hc hw)

/-- Different children of one node have nothing in common below them. -/
theorem Valid.not_within_both (h : f.Valid) {a b p x : NodeId} (ha : a ∈ f.children p)
    (hb : b ∈ f.children p) (hab : a ≠ b) (hxa : f.Within x a) : ¬ f.Within x b := by
  have hup : ∀ {u v}, u ∈ f.children p → v ∈ f.children p → u ≠ v → ¬ f.Within u v := by
    intro u v hu hv huv hw
    rcases ReflTransGen.cases_head hw with he | ⟨q, hq, hqv⟩
    · exact huv he
    · exact h.not_within_of_mem hv (h.unique hu hq ▸ hqv)
  have htotal : Relator.RightUnique f.Below := fun _ _ _ => h.unique
  intro hxb
  rcases ReflTransGen.total_of_right_unique htotal hxa hxb with hw | hw
  · exact hup ha hb hab hw
  · exact hup hb ha (Ne.symm hab) hw

open Classical in
/-- How many nodes stand at or below a node. -/
noncomputable def rank (f : Forest) (id : NodeId) : Nat := ((Finset.range f.size).filter fun x => f.Within x id).card

open Classical in
theorem Valid.rank_lt (h : f.Valid) {c p : NodeId} (hc : c ∈ f.children p) : f.rank c < f.rank p := by
  refine Finset.card_lt_card ⟨fun x hx => ?_, fun hsub => ?_⟩
  · rw [Finset.mem_filter] at hx ⊢
    exact ⟨hx.1, hx.2.tail hc⟩
  · have := hsub (Finset.mem_filter.2 ⟨Finset.mem_range.2 (h.parent_lt hc), .refl⟩)
    exact h.not_within_of_mem hc (Finset.mem_filter.1 this).2

theorem rank_le_size (f : Forest) (id : NodeId) : f.rank id ≤ f.size := by
  classical
  exact (Finset.card_filter_le _ _).trans_eq (Finset.card_range f.size)

/-- **From the roots down**: what holds of each node without a parent, and of a child if of its parent, holds. -/
theorem Valid.root_induction (hv : f.Valid) {P : NodeId → Prop} (root : ∀ id, (∀ p, id ∉ f.children p) → P id)
    (child : ∀ id p, id ∈ f.children p → P p → P id) (id : NodeId) : P id := by
  induction hn : f.size - f.rank id using Nat.strongRecOn generalizing id with
  | ind n ih =>
    subst hn
    by_cases hid : ∃ p, id ∈ f.children p
    · obtain ⟨p, hp⟩ := hid
      have hlt := hv.rank_lt hp
      have hle := f.rank_le_size p
      exact child id p hp (ih _ (by omega) p rfl)
    · exact root id fun p hp => hid ⟨p, hp⟩

/-- **From the leaves up**: what holds of a node if it holds of its children holds. -/
theorem Valid.leaf_induction (hv : f.Valid) {P : NodeId → Prop} (node : ∀ id, (∀ c ∈ f.children id, P c) → P id)
    (id : NodeId) : P id := by
  induction hn : f.rank id using Nat.strongRecOn generalizing id with
  | ind n ih =>
    subst hn
    exact node id fun c hc => ih _ (hv.rank_lt hc) c rfl

/-- Above each node is one without a parent. -/
theorem Valid.exists_root (hv : f.Valid) (id : NodeId) : ∃ root, (∀ p, root ∉ f.children p) ∧ f.Within id root := by
  induction id using hv.root_induction with
  | root id hid => exact ⟨id, hid, .refl⟩
  | child id p hp ih =>
    obtain ⟨root, hroot, hw⟩ := ih
    exact ⟨root, hroot, .head hp hw⟩

/-- **Moving `c` to `p` makes no cycle** unless `p` stands below `c`. -/
theorem acyclic_of_move {r r' : NodeId → NodeId → Prop} {c p : NodeId} (hr : ∀ x, ¬ TransGen r x x)
    (hsub : ∀ x y, r' x y → r x y ∨ (x = c ∧ y = p)) (hcp : ¬ ReflTransGen r p c) (x : NodeId) :
    ¬ TransGen r' x x := by
  -- a way up with the new step in it leads to `c` before the step and on from `p` behind it
  have key : ∀ {x y}, TransGen r' x y → TransGen r x y ∨ (ReflTransGen r x c ∧ ReflTransGen r p y) := by
    intro x y h
    induction h with
    | single hxy =>
      rcases hsub _ _ hxy with h | ⟨rfl, rfl⟩
      · exact .inl (.single h)
      · exact .inr ⟨.refl, .refl⟩
    | tail _ hyz ih =>
      rcases hsub _ _ hyz, ih with ⟨h | ⟨rfl, rfl⟩, ih | ⟨hx, hy⟩⟩
      · exact .inl (ih.tail h)
      · exact .inr ⟨hx, hy.tail h⟩
      · exact .inr ⟨ih.to_reflTransGen, .refl⟩
      · exact absurd hy hcp
  intro h
  rcases key h with h | ⟨hx, hy⟩
  · exact hr x h
  · exact hcp (hy.trans hx)

theorem valid_empty : empty.Valid where
  data_isSome id := by by_cases h : id = 0 <;> simp [empty, h]
  child_lt h := by cases h
  parent_lt h := by cases h
  nodup _ := List.nodup_nil
  unique h := by cases h
  acyclic id h := by
    obtain ⟨y, hy, -⟩ := TransGen.head'_iff.1 h
    cases hy

theorem Valid.create (h : f.Valid) (data : NodeData) : (f.create data).Valid where
  data_isSome id := by
    show (if id = f.size then some data else f.data id).isSome = true ↔ id < f.size + 1
    by_cases hid : id = f.size
    · simp [hid]
    · rw [if_neg hid, h.data_isSome id, Nat.lt_succ_iff_lt_or_eq, or_iff_left hid]
  child_lt hc := Nat.lt_succ_of_lt (h.child_lt hc)
  parent_lt hc := Nat.lt_succ_of_lt (h.parent_lt hc)
  nodup := h.nodup
  unique := h.unique
  acyclic := h.acyclic

theorem Valid.modifyData (h : f.Valid) (id : NodeId) (g : NodeData → NodeData) : (f.modifyData id g).Valid where
  data_isSome x := by
    refine Iff.trans ?_ (h.data_isSome x)
    show (if x = id then (f.data x).map g else f.data x).isSome = true ↔ _
    split <;> simp
  child_lt := h.child_lt
  parent_lt := h.parent_lt
  nodup := h.nodup
  unique := h.unique
  acyclic := h.acyclic

theorem mem_remove {c x p : NodeId} : x ∈ (f.remove c).children p ↔ x ∈ f.children p ∧ x ≠ c := by
  simp [remove]

theorem not_mem_remove (c p : NodeId) : c ∉ (f.remove c).children p := fun h => (mem_remove.1 h).2 rfl

theorem below_of_remove {c x p : NodeId} (h : (f.remove c).Below x p) : f.Below x p := (mem_remove.1 h).1

theorem Valid.remove (h : f.Valid) (c : NodeId) : (f.remove c).Valid where
  data_isSome := h.data_isSome
  child_lt hc := h.child_lt (mem_remove.1 hc).1
  parent_lt hc := h.parent_lt (mem_remove.1 hc).1
  nodup p := (h.nodup p).filter _
  unique h₁ h₂ := h.unique (mem_remove.1 h₁).1 (mem_remove.1 h₂).1
  acyclic id hid := h.acyclic id (TransGen.mono (fun _ _ => below_of_remove) _ _ hid)

theorem children_append_self {p c : NodeId} : (f.append p c).children p = (f.remove c).children p ++ [c] :=
  congrArg (_ ++ ·) (if_pos rfl)

theorem children_append_of_ne {p c q : NodeId} (h : q ≠ p) :
    (f.append p c).children q = (f.remove c).children q :=
  (congrArg (_ ++ ·) (if_neg h)).trans (List.append_nil _)

theorem mem_append {p c x q : NodeId} :
    x ∈ (f.append p c).children q ↔ (x ∈ f.children q ∧ x ≠ c) ∨ (x = c ∧ q = p) := by
  rw [append, List.mem_append, mem_remove]
  by_cases hq : q = p <;> simp [hq]

theorem Valid.append (h : f.Valid) {p c : NodeId} (hp : p < f.size) (hc : c < f.size) (hpc : ¬ f.Within p c) :
    (f.append p c).Valid where
  data_isSome := h.data_isSome
  child_lt hx := by
    rcases mem_append.1 hx with ⟨hx, -⟩ | ⟨rfl, -⟩
    · exact h.child_lt hx
    · exact hc
  parent_lt hx := by
    rcases mem_append.1 hx with ⟨hx, -⟩ | ⟨-, rfl⟩
    · exact h.parent_lt hx
    · exact hp
  nodup q := by
    rw [Forest.append]
    refine List.nodup_append.2 ⟨(h.remove c).nodup q, by split <;> simp, fun a ha b hb he => ?_⟩
    split at hb
    · exact (mem_remove.1 ha).2 (he.trans (List.mem_singleton.1 hb))
    · cases hb
  unique h₁ h₂ := by
    rcases mem_append.1 h₁ with ⟨h₁, hx⟩ | ⟨rfl, rfl⟩
    · rcases mem_append.1 h₂ with ⟨h₂, -⟩ | ⟨rfl, -⟩
      · exact h.unique h₁ h₂
      · exact absurd rfl hx
    · rcases mem_append.1 h₂ with ⟨-, hx⟩ | ⟨-, rfl⟩
      · exact absurd rfl hx
      · rfl
  acyclic := acyclic_of_move h.acyclic
    (fun _ _ hxy => (mem_append.1 hxy).imp (·.1) id) hpc

theorem mem_insertBefore {sibling new x q : NodeId} :
    x ∈ (f.insertBefore sibling new).children q ↔
      (x ∈ f.children q ∧ x ≠ new) ∨ (x = new ∧ sibling ∈ f.children q ∧ sibling ≠ new) := by
  rw [insertBefore, mem_insertBeforeIn, mem_remove, mem_remove]

theorem Valid.insertBefore (h : f.Valid) {sibling new p : NodeId} (hs : sibling ∈ f.children p)
    (hn : new < f.size) (hw : ¬ f.Within sibling new) : (f.insertBefore sibling new).Valid where
  data_isSome := h.data_isSome
  child_lt hx := by
    rcases mem_insertBefore.1 hx with ⟨hx, -⟩ | ⟨rfl, -⟩
    · exact h.child_lt hx
    · exact hn
  parent_lt hx := by
    rcases mem_insertBefore.1 hx with ⟨hx, -⟩ | ⟨-, hx, -⟩
    · exact h.parent_lt hx
    · exact h.parent_lt hx
  nodup q := nodup_insertBeforeIn ((h.remove new).nodup q) (not_mem_remove new q)
  unique h₁ h₂ := by
    rcases mem_insertBefore.1 h₁ with ⟨h₁, hx⟩ | ⟨rfl, h₁, -⟩
    · rcases mem_insertBefore.1 h₂ with ⟨h₂, -⟩ | ⟨rfl, -⟩
      · exact h.unique h₁ h₂
      · exact absurd rfl hx
    · rcases mem_insertBefore.1 h₂ with ⟨-, hx⟩ | ⟨-, h₂, -⟩
      · exact absurd rfl hx
      · exact h.unique h₁ h₂
  acyclic := by
    have hwp : ¬ f.Within p new := fun hp => hw (.head hs hp)
    refine acyclic_of_move h.acyclic (fun x y hxy => ?_) hwp
    rcases mem_insertBefore.1 hxy with ⟨hx, -⟩ | ⟨rfl, hx, -⟩
    · exact .inl hx
    · exact .inr ⟨rfl, h.unique hx hs⟩

end Forest

end BlogMarkdown.Dom
