import BlogMarkdown.Proofs.Dom.EmptyTexts
import BlogMarkdown.Proofs.Shortcode.Walk
/-!
# Rewriting follows the walk

Each computation on a store ends with the result of the walk over the tree below the node, and leaves a store whose
links tell the forest in which the walked tree stands.  This holds whether the rewriting succeeds or fails.
-/
namespace BlogMarkdown.Shortcode

open Dom
open Dom.Numbered (ids idsAll StandAll Becomes standAll_append idsAll_append)

variable {α β : Type} {registry : Registry} {s : Store} {f : Forest}

/-- The result of a rewriting and the store it leaves. -/
def outcome (m : Rewrite α) (s : Store) : Except Error α × Store := (m.run s).run

theorem outcome_bind (m : Rewrite α) (k : α → Rewrite β) (s : Store) :
    outcome (m >>= k) s =
      match outcome m s with
      | (.ok a, s') => outcome (k a) s'
      | (.error e, s') => (.error e, s') := by
  have hrun : outcome (m >>= k) s =
      match outcome m s with
      | (r, s') => (ExceptT.bindCont k r : StateM Store (Except Error β)) s' := rfl
  rw [hrun]
  obtain ⟨r, s'⟩ := outcome m s
  cases r <;> rfl

theorem outcome_get (s : Store) : outcome get s = (.ok s, s) := rfl

/-! ## One text node -/

/-- A text node with one of its tags cut out, and what was behind the tag. -/
def cutOut (s : Store) (node : NodeId) (before : List Char) (g : Tag) (after : List Char) : Store × NodeId :=
  (s.setText node (before ++ '[' :: g.source ++ after)).splitText node (Text.Utf8.byteLength before)
    (Text.Utf8.byteLength before + 1 + Text.Utf8.byteLength g.source)

/-- The element for an opening tag, behind the node it is cut out of. -/
def addElement (s : Store) (node : NodeId) (g : Tag) : Store × NodeId :=
  ((s.create g.data).1.insertAfter (some node) (some (s.create g.data).2), (s.create g.data).2)

/-- A node goes to the innermost open tag. -/
def adopted (s : Store) (openTags : List OpenTag) (child : NodeId) : Store :=
  match openTags with
  | [] => s
  | top :: _ => s.append (some top.node) (some child)

/-- A node that is done, and the element made behind it, go to the innermost open tag. -/
def taken (s : Store) (openTags : List OpenTag) (child : NodeId) : Option NodeId → Store
  | none => adopted s openTags child
  | some element => adopted (adopted s openTags child) openTags element

theorem outcome_adopt (openTags : List OpenTag) (child : NodeId) (created : Option NodeId) (s : Store) :
    outcome (adopt openTags child created) s = (.ok (), taken s openTags child created) := by
  cases openTags <;> cases created <;> rfl

theorem outcome_rewriteText_plain {openTags : List OpenTag} {node : NodeId} {text : List Char}
    (h : scan registry ((s.text? node).getD []) = .plain text) :
    outcome (rewriteText registry openTags node) s = (.ok ⟨openTags, none, none⟩, s.setText node text) := by
  unfold rewriteText
  rw [outcome_bind, outcome_get]
  dsimp only
  rw [h]
  rfl

theorem outcome_rewriteText_opening {openTags : List OpenTag} {node : NodeId} {before after : List Char} {g : Tag}
    (h : scan registry ((s.text? node).getD []) = .tagged before g after) (ho : g.opens = true) :
    outcome (rewriteText registry openTags node) s =
      (.ok ⟨if g.closes then openTags
          else ⟨String.ofList g.name, (addElement (cutOut s node before g after).1 node g).2⟩ :: openTags,
          some (addElement (cutOut s node before g after).1 node g).2, some (cutOut s node before g after).2⟩,
        (addElement (cutOut s node before g after).1 node g).1) := by
  unfold rewriteText
  rw [outcome_bind, outcome_get]
  dsimp only
  rw [h]
  cases hc : g.closes with
  | false =>
    simp only [ho, hc, if_true]
    rfl
  | true =>
    simp only [ho, hc, if_true]
    show outcome (if String.ofList g.name = String.ofList g.name then _ else _) _ = _
    rw [if_pos rfl]
    rfl

theorem outcome_rewriteText_closing {openTags : List OpenTag} {node : NodeId} {before after : List Char} {g : Tag}
    (h : scan registry ((s.text? node).getD []) = .tagged before g after) (ho : g.opens = false)
    (hc : g.closes = true) :
    outcome (rewriteText registry openTags node) s =
      (match openTags with
        | top :: rest =>
          if top.tag = String.ofList g.name then .ok ⟨rest, none, some (cutOut s node before g after).2⟩
          else .error g.unexpected
        | [] => .error g.unexpected,
        (cutOut s node before g after).1) := by
  unfold rewriteText
  rw [outcome_bind, outcome_get]
  dsimp only
  rw [h]
  simp only [ho, hc, Bool.false_eq_true, if_true, if_false]
  cases openTags with
  | nil => rfl
  | cons top rest =>
    show outcome (if top.tag = String.ofList g.name then _ else _) _ = _
    by_cases htag : top.tag = String.ofList g.name
    · simp only [if_pos htag]
      rfl
    · simp only [if_neg htag]
      rfl

theorem outcome_rewritePieces_plain {pieces : Nat} {openTags : List OpenTag} {node : NodeId} {text : List Char}
    (h : scan registry ((s.text? node).getD []) = .plain text) :
    outcome (rewritePieces registry (pieces + 1) openTags node) s =
      (.ok openTags, adopted (s.setText node text) openTags node) := by
  rw [rewritePieces, outcome_bind, outcome_rewriteText_plain h]
  show outcome (adopt openTags node none >>= fun _ => pure openTags) _ = _
  rw [outcome_bind, outcome_adopt]
  rfl

/-! ## What the steps do to the tree -/

/-- The store holds a forest of `size` nodes to which `f` changed, where `t` has become `t'`. -/
def Turns (f : Forest) (t : Numbered) (s' : Store) (size : Nat) (t' : Numbered) : Prop :=
  ∃ f', s'.Holds f' ∧ f'.size = size ∧ Becomes f t f' t'

theorem Turns.after {f' : Forest} {t t' t'' : Numbered} {s'' : Store} {size : Nat} (hb : Becomes f t f' t')
    (h : Turns f' t' s'' size t'') : Turns f t s'' size t'' := by
  obtain ⟨f'', hholds, hsize, hb'⟩ := h
  exact ⟨f'', hholds, hsize, hb.trans hb'⟩

variable {top : NodeId} {data : NodeData} {done rest : List Numbered}

theorem turns_setText (h : s.Holds f) {id : NodeId} {content : List Char} {below : List Numbered}
    (ht : (Numbered.node top data (done ++ .node id (.text content) below :: rest)).Stands f) (new : List Char) :
    Turns f (.node top data (done ++ .node id (.text content) below :: rest)) (s.setText id new) f.size
      (.node top data (done ++ .node id (.text new) below :: rest)) :=
  ⟨_, h.setText id new, rfl, ht.becomes_of_child h.valid (ht.split.2.1.becomes_setText h.valid new) rfl⟩

/-- A text is cut in two, and what was between the two parts is gone. -/
theorem turns_splitText (h : s.Holds f) {id : NodeId} {before between after : List Char} {below : List Numbered}
    (ht : (Numbered.node top data (done ++ .node id (.text (before ++ between ++ after)) below :: rest)).Stands f) :
    Turns f (.node top data (done ++ .node id (.text (before ++ between ++ after)) below :: rest))
        (s.splitText id (Text.Utf8.byteLength before) (Text.Utf8.byteLength (before ++ between))).1 (f.size + 1)
        (.node top data (done ++ .node id (.text before) below :: .node f.size (.text after) [] :: rest)) ∧
      (s.splitText id (Text.Utf8.byteLength before) (Text.Utf8.byteLength (before ++ between))).2 = f.size := by
  have hmem : id ∈ f.children top := ht.child_mem (List.mem_append_right _ List.mem_cons_self)
  have htext : f.text? id = some (before ++ between ++ after) := by
    rw [Forest.text?, show f.data id = some _ from ht.split.2.1.data_eq]
    rfl
  have hsplit := h.splitText hmem (Text.Utf8.byteLength before) (Text.Utf8.byteLength (before ++ between))
  rw [Forest.splitText_of_cut htext] at hsplit
  have hset := ht.becomes_of_child h.valid (ht.split.2.1.becomes_setText h.valid before) rfl
  have hinsert := hset.stands.becomes_insertAfter (h.setText id before).valid (.text after)
  exact ⟨⟨_, hsplit, rfl, hset.trans hinsert⟩, Store.splitText_snd h ..⟩

theorem turns_cutOut (h : s.Holds f) {id : NodeId} {content : List Char} {below : List Numbered}
    (ht : (Numbered.node top data (done ++ .node id (.text content) below :: rest)).Stands f)
    (before after : List Char) (g : Tag) :
    Turns f (.node top data (done ++ .node id (.text content) below :: rest)) (cutOut s id before g after).1
        (f.size + 1)
        (.node top data (done ++ .node id (.text before) below :: .node f.size (.text after) [] :: rest)) ∧
      (cutOut s id before g after).2 = f.size := by
  obtain ⟨f₁, h₁, hsize₁, hb₁⟩ := turns_setText h ht (before ++ '[' :: g.source ++ after)
  have hstart : Text.Utf8.byteLength before + 1 + Text.Utf8.byteLength g.source =
      Text.Utf8.byteLength (before ++ '[' :: g.source) := by
    rw [Text.Utf8.byteLength_append, Text.Utf8.byteLength_cons, Nat.add_assoc]
    rfl
  obtain ⟨hturns, htail⟩ := turns_splitText h₁ hb₁.stands
  rw [← hsize₁, cutOut, hstart]
  exact ⟨hturns.after hb₁, htail⟩

theorem turns_addElement (h : s.Holds f) {t : Numbered}
    (ht : (Numbered.node top data (done ++ t :: rest)).Stands f) (g : Tag) :
    Turns f (.node top data (done ++ t :: rest)) (addElement s t.id g).1 (f.size + 1)
        (.node top data (done ++ t :: .node f.size g.data [] :: rest)) ∧
      (addElement s t.id g).2 = f.size := by
  have hmem : t.id ∈ f.children top := ht.child_mem (List.mem_append_right _ List.mem_cons_self)
  have hlt := h.valid.child_lt hmem
  have hsucc : successor t.id (f.children top) ≠ some f.size := fun he =>
    h.valid.not_mem_new top (mem_of_successor he)
  have hinsert := (h.create g.data).insertAfter hmem (Nat.lt_succ_self _) (h.valid.not_within_new hlt _) hsucc
  rw [addElement, Store.create_snd h]
  exact ⟨⟨_, hinsert, rfl, ht.becomes_insertAfter h.valid g.data⟩, rfl⟩

theorem turns_adopted (h : s.Holds f) {levels : List Level} {content : List Numbered} {t : Numbered}
    (ht : (Numbered.node top data (plug levels content ++ t :: rest)).Stands f) :
    Turns f (.node top data (plug levels content ++ t :: rest)) (adopted s (levels.map Level.openTag) t.id) f.size
      (.node top data (plug levels (content ++ [t]) ++ rest)) := by
  cases levels with
  | nil =>
    refine ⟨f, h, rfl, ?_⟩
    rw [plug, plug, ← List.append_cons]
    exact .refl h.valid ht
  | cons l outer =>
    obtain ⟨hl, hlt, hw⟩ := adopt_allowed h.valid ht
    exact ⟨_, h.append hl hlt hw, rfl, becomes_adopt h.valid ht⟩

/-! ## The pieces of a text -/

/-- **The outcome of rewriting some children** is that of the walk over them, if `rest` are those behind them. -/
def Ends (f : Forest) (t : Numbered) (top : NodeId) (data : NodeData) (rest : List Numbered)
    (r : Except Error (List OpenTag) × Store) : Except Fault Walk → Prop
  | .error e => r.1 = .error e.error ∧ Turns f t r.2 e.size (.node top data (e.children ++ rest))
  | .ok w => r.1 = .ok (w.levels.map Level.openTag) ∧
    Turns f t r.2 w.size (.node top data (plug w.levels w.content ++ rest))

theorem Ends.after {f' : Forest} {t t' : Numbered} {r : Except Error (List OpenTag) × Store} (hb : Becomes f t f' t') :
    ∀ {x : Except Fault Walk}, Ends f' t' top data rest r x → Ends f t top data rest r x
  | .error _, h => ⟨h.1, h.2.after hb⟩
  | .ok _, h => ⟨h.1, h.2.after hb⟩

theorem text_of_stands (h : s.Holds f) {id : NodeId} {content : List Char} {below : List Numbered}
    (ht : (Numbered.node top data (done ++ .node id (.text content) below :: rest)).Stands f) :
    (s.text? id).getD [] = content := by
  rw [h.text?_eq, Forest.text?, show f.data id = some _ from ht.split.2.1.data_eq]
  rfl

/-- The texts cut off a text are rewritten as `x` says, from every state of a walk. -/
def PiecesEnd (registry : Registry) (top : NodeId) (data : NodeData) (rest : List Numbered) (pieces : Nat) (id : NodeId)
    (text : List Char) (x : Walk → Except Fault Walk) : Prop :=
  ∀ (w : Walk) {s : Store} {f : Forest}, s.Holds f → w.size = f.size →
    (Numbered.node top data (plug w.levels w.content ++ .node id (.text text) [] :: rest)).Stands f →
    Ends f (.node top data (plug w.levels w.content ++ .node id (.text text) [] :: rest)) top data rest
      (outcome (rewritePieces registry pieces (w.levels.map Level.openTag) id) s) (x w)

section

variable {w w' : Walk} {id : NodeId} {content before after : List Char} {g : Tag} {below : List Numbered}

/-- **A tag that the walk meets** is cut out of its text; the text before it goes to the innermost open tag, with the
element of an opening tag behind it. -/
theorem turns_of_meet (h : s.Holds f) (hsize : w.size = f.size)
    (ht : (Numbered.node top data (plug w.levels w.content ++ .node id (.text content) below :: rest)).Stands f)
    (hscan : scan registry content = .tagged before g after)
    (hmeet : w.meet (.node id (.text before) below) g = .ok w') :
    ∃ created s₁, outcome (rewriteText registry (w.levels.map Level.openTag) id) s =
        (.ok ⟨w'.levels.map Level.openTag, created, some w.size⟩, s₁) ∧
      Turns f (.node top data (plug w.levels w.content ++ .node id (.text content) below :: rest))
        (taken s₁ (w.levels.map Level.openTag) id created) w'.size
        (.node top data (plug w'.levels w'.content ++ .node w.size (.text after) [] :: rest)) := by
  obtain ⟨⟨f₁, h₁, hsize₁, hb₁⟩, htail⟩ := turns_cutOut h ht before after g
  have hg := (scanFrom_tagged hscan).2
  rw [← text_of_stands h ht] at hscan
  rw [← hsize] at htail hb₁
  cases ho : g.opens with
  | true =>
    obtain ⟨⟨f₂, h₂, hsize₂, hb₂⟩, hel⟩ := turns_addElement h₁ hb₁.stands g
    obtain ⟨f₃, h₃, hsize₃, hb₃⟩ := turns_adopted h₂ hb₂.stands
    obtain ⟨f₄, h₄, hsize₄, hb₄⟩ := turns_adopted h₃ hb₃.stands
    have hb := ((hb₁.trans hb₂).trans hb₃).trans hb₄
    have hsize₄ : f₄.size = w.size + 2 := by rw [hsize₄, hsize₃, hsize₂, hsize₁, hsize]
    have hel : (addElement (cutOut s id before g after).1 id g).2 = w.size + 1 := by rw [hsize, ← hsize₁]; exact hel
    rw [hsize₁, ← hsize] at h₄ hb
    refine ⟨some (w.size + 1), (addElement (cutOut s id before g after).1 id g).1, ?_⟩
    rw [outcome_rewriteText_opening hscan ho, htail, hel]
    cases hc : g.closes with
    | true =>
      rw [Walk.meet_single ho hc] at hmeet
      cases hmeet
      rw [List.append_assoc] at hb
      exact ⟨rfl, f₄, h₄, hsize₄, hb⟩
    | false =>
      rw [Walk.meet_opening ho hc] at hmeet
      cases hmeet
      exact ⟨rfl, f₄, h₄, hsize₄, hb⟩
  | false =>
    have hc := hg.resolve_left (by rw [ho]; exact Bool.false_ne_true)
    obtain ⟨f₂, h₂, hsize₂, hb₂⟩ := turns_adopted h₁ hb₁.stands
    have hb := hb₁.trans hb₂
    have hsize₂ : f₂.size = w.size + 1 := by rw [hsize₂, hsize₁, hsize]
    cases hl : w.levels with
    | nil =>
      rw [Walk.meet_unexpected ho (by rw [hl]; nofun)] at hmeet
      cases hmeet
    | cons l outer =>
      by_cases hname : l.tag.name = g.name
      · rw [Walk.meet_closing ho hl hname] at hmeet
        cases hmeet
        rw [hl] at h₂ hb
        refine ⟨none, (cutOut s id before g after).1, ?_, f₂, h₂, hsize₂, hb⟩
        rw [outcome_rewriteText_closing hscan ho hc, htail]
        simp only [List.map_cons, if_pos (show l.openTag.tag = String.ofList g.name from congrArg String.ofList hname)]
      · rw [Walk.meet_unexpected ho (by rw [hl]; exact fun l' hm => Option.some.inj hm ▸ hname)] at hmeet
        cases hmeet

/-- A tag that does not fit is cut out of its text, and no more. -/
theorem turns_of_not_meet {e : Error} (h : s.Holds f) (hsize : w.size = f.size)
    (ht : (Numbered.node top data (plug w.levels w.content ++ .node id (.text content) below :: rest)).Stands f)
    (hscan : scan registry content = .tagged before g after)
    (hmeet : w.meet (.node id (.text before) below) g = .error e) :
    ∃ s₁, outcome (rewriteText registry (w.levels.map Level.openTag) id) s = (.error e, s₁) ∧
      Turns f (.node top data (plug w.levels w.content ++ .node id (.text content) below :: rest)) s₁ (w.size + 1)
        (.node top data (plug w.levels w.content ++ .node id (.text before) below :: .node w.size (.text after) [] ::
          rest)) := by
  obtain ⟨hturns, -⟩ := turns_cutOut h ht before after g
  have hg := (scanFrom_tagged hscan).2
  rw [← text_of_stands h ht] at hscan
  rw [← hsize] at hturns
  have ho : g.opens = false := Bool.eq_false_iff.2 fun ho => by
    cases hc : g.closes with
    | true => rw [Walk.meet_single ho hc] at hmeet; cases hmeet
    | false => rw [Walk.meet_opening ho hc] at hmeet; cases hmeet
  have hc := hg.resolve_left (by rw [ho]; exact Bool.false_ne_true)
  refine ⟨(cutOut s id before g after).1, ?_, hturns⟩
  rw [outcome_rewriteText_closing hscan ho hc]
  cases hl : w.levels with
  | nil =>
    rw [Walk.meet_unexpected ho (by rw [hl]; nofun)] at hmeet
    cases hmeet
    rfl
  | cons l outer =>
    by_cases hname : l.tag.name = g.name
    · rw [Walk.meet_closing ho hl hname] at hmeet
      cases hmeet
    · have htag : ¬ l.openTag.tag = String.ofList g.name := fun he => hname (String.ofList_injective he)
      rw [Walk.meet_unexpected ho (by rw [hl]; exact fun l' hm => Option.some.inj hm ▸ hname)] at hmeet
      cases hmeet
      simp only [List.map_cons, if_neg htag]

/-- A tag cut out of a text: what the walk makes of it, the rewriting makes of it. -/
theorem ends_of_tagged {pieces : Nat} {x : Walk → Except Fault Walk} (h : s.Holds f) (hsize : w.size = f.size)
    (ht : (Numbered.node top data (plug w.levels w.content ++ .node id (.text content) below :: rest)).Stands f)
    (hscan : scan registry content = .tagged before g after)
    (ih : PiecesEnd registry top data rest pieces w.size after x) :
    Ends f (.node top data (plug w.levels w.content ++ .node id (.text content) below :: rest)) top data rest
      (outcome (rewritePieces registry (pieces + 1) (w.levels.map Level.openTag) id) s)
      (match w.meet (.node id (.text before) below) g with
        | .error e => .error ⟨e, w.size + 1,
            plug w.levels w.content ++ [.node id (.text before) below, .node w.size (.text after) []]⟩
        | .ok w' => x w') := by
  rw [rewritePieces, outcome_bind]
  cases hmeet : w.meet (.node id (.text before) below) g with
  | error e =>
    obtain ⟨s₁, hr, hturns⟩ := turns_of_not_meet h hsize ht hscan hmeet
    rw [hr]
    refine ⟨rfl, ?_⟩
    rw [List.append_assoc]
    exact hturns
  | ok w' =>
    obtain ⟨created, s₁, hr, f', h', hsize', hb⟩ := turns_of_meet h hsize ht hscan hmeet
    rw [hr]
    dsimp only
    rw [outcome_bind, outcome_adopt]
    exact (ih w' h' hsize'.symm hb.stands).after hb

end

theorem ends_rewritePieces (registry : Registry) : ∀ {pieces : Nat} {text : List Char} {s : Store} {f : Forest}
    {w : Walk} {id : NodeId} {below : List Numbered}, text.length < pieces → s.Holds f → w.size = f.size →
    (Numbered.node top data (plug w.levels w.content ++ .node id (.text text) below :: rest)).Stands f →
    Ends f (.node top data (plug w.levels w.content ++ .node id (.text text) below :: rest)) top data rest
      (outcome (rewritePieces registry pieces (w.levels.map Level.openTag) id) s)
      (walkCuts w id below (cuts registry text))
  | 0, _, _, _, _, _, _, hlen, _, _, _ => absurd hlen (Nat.not_lt_zero _)
  | pieces + 1, text, s, f, w, id, below, hlen, h, hsize, ht => by
    cases hscan : scan registry text with
    | plain new =>
      obtain ⟨f₁, h₁, hsize₁, hb₁⟩ := turns_setText h ht new
      obtain ⟨f₂, h₂, hsize₂, hb₂⟩ := turns_adopted h₁ hb₁.stands
      rw [cuts_plain hscan, outcome_rewritePieces_plain (text_of_stands h ht ▸ hscan), walkCuts]
      exact ⟨rfl, f₂, h₂, by rw [hsize₂, hsize₁, hsize], hb₁.trans hb₂⟩
    | tagged before g after =>
      have hafter : after.length < pieces :=
        Nat.lt_of_lt_of_le (scanFrom_tagged hscan).1 (Nat.le_of_lt_succ hlen)
      rw [cuts_tagged hscan, walkCuts]
      exact ends_of_tagged h hsize ht hscan (x := fun w' => walkCuts w' w.size [] (cuts registry after))
        fun _ _ _ h' hsize' ht' => ends_rewritePieces registry hafter h' hsize' ht'

/-! ## The children of a node, and the tree below it -/

/-- **The outcome of rewriting a tree** is that of the walk over it. -/
def Rewrites (registry : Registry) (t : Numbered) (f : Forest) (r : Except Error Unit × Store) : Prop :=
  r.1 = (walk registry f.size t).result ∧ Turns f t r.2 (walk registry f.size t).size (walk registry f.size t).tree

/-- A walk over some children that goes on as `y` says, if `behind` are the others. -/
def goingOn (behind : List Numbered) (y : Walk → Except Fault Walk) : Except Fault Walk → Except Fault Walk
  | .error e => .error { e with children := e.children ++ behind }
  | .ok w => y w

theorem ends_bind {t : Numbered} {behind : List Numbered} {m : Rewrite (List OpenTag)}
    {k : List OpenTag → Rewrite (List OpenTag)} {y : Walk → Except Fault Walk} : ∀ {x : Except Fault Walk},
    Ends f t top data behind (outcome m s) x →
    (∀ {w : Walk} {s' : Store} {f' : Forest}, s'.Holds f' → w.size = f'.size →
      (Numbered.node top data (plug w.levels w.content ++ behind)).Stands f' →
      Ends f' (.node top data (plug w.levels w.content ++ behind)) top data []
        (outcome (k (w.levels.map Level.openTag)) s') (y w)) →
    Ends f t top data [] (outcome (m >>= k) s) (goingOn behind y x)
  | .error e, hm, _ => by
    rw [outcome_bind]
    generalize outcome m s = r at hm
    obtain ⟨r, s'⟩ := r
    obtain ⟨rfl, hturns⟩ := hm
    exact ⟨rfl, by rw [List.append_nil]; exact hturns⟩
  | .ok w, hm, hk => by
    rw [outcome_bind]
    generalize outcome m s = r at hm
    obtain ⟨r, s'⟩ := r
    obtain ⟨rfl, f', h', hsize', hb'⟩ := hm
    exact (hk h' hsize'.symm hb'.stands).after hb'

/-- A child without tags of its own goes to the innermost open tag, and `k` goes on behind it. -/
theorem ends_adopt {w : Walk} {t : Numbered} {k : Unit → Rewrite (List OpenTag)} {x : Except Fault Walk}
    {behind : List Numbered} {id : NodeId} (hid : t.id = id) (h : s.Holds f) (hsize : w.size = f.size)
    (ht : (Numbered.node top data (plug w.levels w.content ++ t :: behind)).Stands f)
    (hk : ∀ {s' : Store} {f' : Forest}, s'.Holds f' → w.size = f'.size →
      (Numbered.node top data (plug w.levels (w.content ++ [t]) ++ behind)).Stands f' →
      Ends f' (.node top data (plug w.levels (w.content ++ [t]) ++ behind)) top data rest (outcome (k ()) s') x) :
    Ends f (.node top data (plug w.levels w.content ++ t :: behind)) top data rest
      (outcome (adopt (w.levels.map Level.openTag) id none >>= k) s) x := by
  subst hid
  obtain ⟨f₁, h₁, hsize₁, hb₁⟩ := turns_adopted h ht
  rw [outcome_bind, outcome_adopt]
  exact (hk h₁ (hsize.trans hsize₁.symm) hb₁.stands).after hb₁

theorem ends_rewriteChildren {inner : NodeId → Rewrite Unit} : ∀ {children : List Numbered} {s : Store} {f : Forest}
    {w : Walk}, (∀ u ∈ children, ∀ (s' : Store) (f' : Forest), s'.Holds f' → u.Stands f' →
      Rewrites registry u f' (outcome (inner u.id) s')) →
    s.Holds f → w.size = f.size → (Numbered.node top data (plug w.levels w.content ++ children)).Stands f →
    Ends f (.node top data (plug w.levels w.content ++ children)) top data []
      (outcome (rewriteChildren registry inner (w.levels.map Level.openTag) (children.map Numbered.id)) s)
      (walkAll registry w children)
  | [], s, f, w, _, h, hsize, ht => ⟨rfl, f, h, hsize.symm, .refl h.valid ht⟩
  | .node id d below :: rest, s, f, w, hinner, h, hsize, ht => by
    have hrest := fun u hu => hinner u (List.mem_cons_of_mem _ hu)
    have hdata : s.data? id = some d := by
      rw [h.data?_eq]
      exact ht.split.2.1.data_eq
    rw [List.map_cons, Numbered.id, rewriteChildren, outcome_bind, outcome_get]
    dsimp only
    rw [hdata, walkAll]
    cases d with
    | text content =>
      have hpieces := ends_rewritePieces registry (Nat.lt_succ_self content.length) h hsize ht
      exact ends_bind (k := fun nowOpen => rewriteChildren registry inner nowOpen (rest.map Numbered.id))
        (y := fun w' => walkAll registry w' rest) hpieces
        fun h' hsize' ht' => ends_rewriteChildren hrest h' hsize' ht'
    | element name attributes =>
      obtain ⟨hresult, f₁, h₁, hsize₁, hb₁⟩ := hinner _ List.mem_cons_self s f h ht.split.2.1
      have hb := ht.becomes_of_child h.valid hb₁ (id_walk registry f.size _)
      dsimp only [Numbered.data]
      rw [outcome_bind, hsize]
      rw [Numbered.id] at hresult h₁
      generalize outcome (inner id) s = r at hresult h₁
      obtain ⟨r, s'⟩ := r
      cases hwalk : (walk registry f.size (.node id (.element name attributes) below)).result with
      | error e =>
        rw [hwalk] at hresult
        subst hresult
        exact ⟨rfl, f₁, h₁, hsize₁, by rw [List.append_nil]; exact hb⟩
      | ok =>
        rw [hwalk] at hresult
        subst hresult
        have hid := id_walk registry f.size (.node id (.element name attributes) below)
        refine Ends.after hb ?_
        exact ends_adopt (w := ⟨(walk registry f.size _).size, w.levels, w.content⟩) hid h₁ hsize₁.symm hb.stands
          fun h' hsize' ht' => ends_rewriteChildren hrest h' hsize' ht'
    | document => exact ends_adopt rfl h hsize ht fun h' hsize' ht' => ends_rewriteChildren hrest h' hsize' ht'
    | comment content => exact ends_adopt rfl h hsize ht fun h' hsize' ht' => ends_rewriteChildren hrest h' hsize' ht'
    | doctype name publicId systemId =>
      exact ends_adopt rfl h hsize ht fun h' hsize' ht' => ends_rewriteChildren hrest h' hsize' ht'

/-- **Rewriting below a node follows the walk** over the tree that stands there. -/
theorem rewrites_rewriteBelow (registry : Registry) : ∀ {depth : Nat} {t : Numbered} {s : Store} {f : Forest},
    t.ids.length ≤ depth → s.Holds f → t.Stands f → Rewrites registry t f (outcome (rewriteBelow registry depth t.id) s)
  | 0, .node id data children, _, _, hlen, _, _ => by
    rw [ids] at hlen
    cases hlen
  | depth + 1, .node id data children, s, f, hlen, h, ht => by
    rw [ids, List.length_cons, Nat.succ_le_succ_iff] at hlen
    have hinner : ∀ u ∈ children, ∀ (s' : Store) (f' : Forest), s'.Holds f' → u.Stands f' →
        Rewrites registry u f' (outcome (rewriteBelow registry depth u.id) s') := by
      intro u hu s' f' h' hu'
      exact rewrites_rewriteBelow registry (Nat.le_trans (Numbered.length_ids_le_of_mem hu) hlen) h' hu'
    have hends : Ends f (.node id data children) id data []
        (outcome (rewriteChildren registry (rewriteBelow registry depth) [] (children.map Numbered.id)) s)
        (walkAll registry ⟨f.size, [], []⟩ children) := by
      have hstart : (⟨f.size, [], []⟩ : Walk).size = f.size := rfl
      exact ends_rewriteChildren hinner h hstart ht
    have hchildren : s.children id = children.map Numbered.id := by
      rw [h.children_eq]
      exact ht.children_eq
    show Rewrites registry (.node id data children) f
      (outcome (rewriteChildren registry (rewriteBelow registry depth) [] (s.children id) >>= fun openTags =>
        if openTags.isEmpty then pure () else throw (.unclosedShortcodes (openTags.reverse.map (·.tag)))) s)
    rw [hchildren, outcome_bind]
    generalize outcome (rewriteChildren registry (rewriteBelow registry depth) [] (children.map Numbered.id)) s = r
      at hends
    obtain ⟨r, s'⟩ := r
    unfold Rewrites
    rw [walk]
    cases hwalk : walkAll registry ⟨f.size, [], []⟩ children with
    | error e =>
      rw [hwalk] at hends
      obtain ⟨rfl, hturns⟩ := hends
      rw [List.append_nil] at hturns
      exact ⟨rfl, hturns⟩
    | ok w =>
      rw [hwalk] at hends
      obtain ⟨rfl, hturns⟩ := hends
      rw [List.append_nil] at hturns
      obtain ⟨size, levels, content⟩ := w
      cases levels with
      | nil => exact ⟨rfl, hturns⟩
      | cons l outer =>
        refine ⟨?_, hturns⟩
        show Except.error (Error.unclosedShortcodes (((l :: outer).map Level.openTag).reverse.map (·.tag))) = _
        rw [← List.map_reverse, List.map_map]
        rfl

theorem outcome_rewrite_eq (registry : Registry) (root : NodeId) (s : Store) :
    outcome (rewrite registry root) s =
      match outcome (rewriteBelow registry (s.size + 1) root) s with
      | (.ok _, s') => (.ok (), s'.removeEmptyTexts root)
      | (.error e, s') => (.error e, s') := by
  unfold rewrite
  rw [outcome_bind]
  show outcome (rewriteBelow registry (s.size + 1) root >>= fun _ => modify (·.removeEmptyTexts root)) s = _
  rw [outcome_bind]
  obtain ⟨r, s'⟩ := outcome (rewriteBelow registry (s.size + 1) root) s
  cases r <;> rfl

/-- **Rewriting follows the walk**, and if that succeeds the empty texts go. -/
theorem outcome_rewrite (registry : Registry) (h : s.Holds f) {t : Numbered} (ht : t.Stands f) :
    (outcome (rewrite registry t.id) s).1 = (walk registry f.size t).result ∧
      ∃ f', f'.Valid ∧ Becomes f t f' (walk registry f.size t).tree ∧
        (outcome (rewrite registry t.id) s).2.Holds
          (match (walk registry f.size t).result with
            | .error _ => f'
            | .ok _ => f'.removeEmptyTexts t.id) := by
  have hlen : t.ids.length ≤ s.size + 1 := Nat.le_succ_of_le (h.size ▸ ht.length_ids_le h.valid)
  obtain ⟨hresult, f', h', hsize, hb⟩ := rewrites_rewriteBelow registry hlen h ht
  have hlt : t.id < f'.size := by
    rw [← id_walk registry f.size t]
    exact hb.stands.lt_size h'.valid (Numbered.id_mem_ids _)
  rw [outcome_rewrite_eq]
  generalize outcome (rewriteBelow registry (s.size + 1) t.id) s = r at hresult h'
  obtain ⟨r, s'⟩ := r
  cases hw : (walk registry f.size t).result with
  | error e =>
    rw [hw] at hresult
    subst hresult
    exact ⟨rfl, f', h'.valid, hb, h'⟩
  | ok =>
    rw [hw] at hresult
    subst hresult
    exact ⟨rfl, f', h'.valid, hb, h'.removeEmptyTexts hlt⟩

end BlogMarkdown.Shortcode
