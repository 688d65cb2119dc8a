import BlogMarkdown.Proofs.Dom.Splice
import BlogMarkdown.Proofs.Shortcode.Brackets
import BlogMarkdown.Proofs.Shortcode.Reading
/-!
# The walk over a numbered tree

What rewriting does to the tree below a node, with the numbers of all nodes and for every outcome.  The state of a walk
is how many nodes there are, the open tags and what stands in the innermost of their elements; `plug` puts the elements
into one another, and the children not walked yet follow behind.
-/
namespace BlogMarkdown.Shortcode

open Dom
open Dom.Numbered (ids idsAll trees trees_append StandAll Becomes standAll_append idsAll_append idsAll_singleton
  textNodes textNodesAll textNodesAll_append)

/-- An open tag, the number of its element, and the trees before the element in the list it stands in. -/
structure Level where
  tag : Tag
  id : NodeId
  before : List Numbered

namespace Level

def element (l : Level) (children : List Numbered) : Numbered := .node l.id l.tag.data children

def openTag (l : Level) : OpenTag := ⟨String.ofList l.tag.name, l.id⟩

end Level

/-- The trees beside the outermost open element, and this element, where `content` stands in the innermost one. -/
def plug : List Level → List Numbered → List Numbered
  | [], content => content
  | l :: outer, content => plug outer (l.before ++ [l.element content])

/-- The state of a walk. -/
structure Walk where
  size : Nat
  levels : List Level
  content : List Numbered

/-- What a failed walk leaves. -/
structure Fault where
  error : Error
  size : Nat
  children : List Numbered

/-- A tag behind the text node `node`, which goes to the content before it. -/
def Walk.meet (w : Walk) (node : Numbered) (g : Tag) : Except Error Walk :=
  if g.opens then
    if g.closes then .ok ⟨w.size + 2, w.levels, w.content ++ [node, .node (w.size + 1) g.data []]⟩
    else .ok ⟨w.size + 2, ⟨g, w.size + 1, w.content ++ [node]⟩ :: w.levels, []⟩
  else match w.levels with
    | l :: outer =>
      if l.tag.name = g.name then .ok ⟨w.size + 1, outer, l.before ++ [l.element (w.content ++ [node])]⟩
      else .error g.unexpected
    | [] => .error g.unexpected

def walkCuts (w : Walk) (id : NodeId) (below : List Numbered) : Cuts → Except Fault Walk
  | .whole text => .ok { w with content := w.content ++ [.node id (.text text) below] }
  | .cut before g raw rest =>
    match w.meet (.node id (.text before) below) g with
    | .error e => .error ⟨e, w.size + 1,
        plug w.levels w.content ++ [.node id (.text before) below, .node w.size (.text raw) []]⟩
    | .ok w' => walkCuts w' w.size [] rest

structure Outcome where
  result : Except Error Unit
  size : Nat
  tree : Numbered

/-- The tags that are still open at the end, outermost first. -/
def unclosed (levels : List Level) : Error := .unclosedShortcodes (levels.reverse.map fun l => String.ofList l.tag.name)

/-- The end of the children of a node. -/
def leave (id : NodeId) (data : NodeData) : Except Fault Walk → Outcome
  | .error e => ⟨.error e.error, e.size, .node id data e.children⟩
  | .ok w =>
    ⟨if w.levels.isEmpty then .ok () else .error (unclosed w.levels), w.size, .node id data (plug w.levels w.content)⟩

mutual
/-- The walk over the tree below a node, where `size` nodes exist. -/
def walk (registry : Registry) (size : Nat) : Numbered → Outcome
  | .node id data children => leave id data (walkAll registry ⟨size, [], []⟩ children)
def walkAll (registry : Registry) (w : Walk) : List Numbered → Except Fault Walk
  | [] => .ok w
  | t :: rest =>
    match t.data with
    | .text content =>
      match walkCuts w t.id t.children (cuts registry content) with
      | .error e => .error { e with children := e.children ++ rest }
      | .ok w' => walkAll registry w' rest
    | .element _ _ =>
      let o := walk registry w.size t
      match o.result with
      | .error e => .error ⟨e, o.size, plug w.levels w.content ++ o.tree :: rest⟩
      | .ok _ => walkAll registry { w with size := o.size, content := w.content ++ [o.tree] } rest
    | _ => walkAll registry { w with content := w.content ++ [t] } rest
end

theorem id_walk (registry : Registry) (size : Nat) (t : Numbered) : (walk registry size t).tree.id = t.id := by
  obtain ⟨id, data, children⟩ := t
  rw [walk]
  cases walkAll registry ⟨size, [], []⟩ children <;> rfl

theorem data_walk (registry : Registry) (size : Nat) (t : Numbered) : (walk registry size t).tree.data = t.data := by
  obtain ⟨id, data, children⟩ := t
  rw [walk]
  cases walkAll registry ⟨size, [], []⟩ children <;> rfl

section

variable {w : Walk} {node : Numbered} {g : Tag}

theorem Walk.meet_single (ho : g.opens = true) (hc : g.closes = true) :
    w.meet node g = .ok ⟨w.size + 2, w.levels, w.content ++ [node, .node (w.size + 1) g.data []]⟩ := by
  unfold meet
  rw [if_pos ho, if_pos hc]

theorem Walk.meet_opening (ho : g.opens = true) (hc : g.closes = false) :
    w.meet node g = .ok ⟨w.size + 2, ⟨g, w.size + 1, w.content ++ [node]⟩ :: w.levels, []⟩ := by
  unfold meet
  rw [if_pos ho, if_neg (by rw [hc]; exact Bool.false_ne_true)]

theorem Walk.meet_closing {l : Level} {outer : List Level} (ho : g.opens = false) (hl : w.levels = l :: outer)
    (hname : l.tag.name = g.name) :
    w.meet node g = .ok ⟨w.size + 1, outer, l.before ++ [l.element (w.content ++ [node])]⟩ := by
  unfold meet
  rw [if_neg (by rw [ho]; exact Bool.false_ne_true), hl]
  exact if_pos hname

theorem Walk.meet_unexpected (ho : g.opens = false) (hl : ∀ l ∈ w.levels.head?, l.tag.name ≠ g.name) :
    w.meet node g = .error g.unexpected := by
  unfold meet
  rw [if_neg (by rw [ho]; exact Bool.false_ne_true)]
  cases hw : w.levels with
  | nil => rfl
  | cons l outer => exact if_neg (hl l (by rw [hw]; rfl))

def Level.toOpen (l : Level) : Open := ⟨l.tag, trees l.before⟩

/-- The open tags and the content of a walk, without numbers. -/
def Walk.erase (w : Walk) : List Open × List Tree := (w.levels.map Level.toOpen, trees w.content)

/-- **A tag does to a walk what it does to reading.** -/
theorem Walk.erase_meet (w : Walk) (node : Numbered) (g : Tag) :
    Shortcode.meet w.erase.1 (w.erase.2 ++ [node.tree]) g = (w.meet node g).map Walk.erase := by
  obtain ⟨size, levels, content⟩ := w
  cases ho : g.opens with
  | true =>
    cases hc : g.closes with
    | true =>
      rw [Walk.meet_single ho hc, Shortcode.meet_single ho hc, List.append_assoc]
      show _ = Except.ok (_, trees (content ++ _))
      rw [trees_append]
      rfl
    | false =>
      rw [Walk.meet_opening ho hc, Shortcode.meet_opening ho hc]
      show _ = Except.ok (Open.mk g (trees (content ++ [node])) :: _, _)
      rw [trees_append]
      rfl
  | false =>
    have hno : ¬ g.opens = true := by rw [ho]; exact Bool.false_ne_true
    cases levels with
    | nil =>
      rw [Walk.meet_unexpected ho fun l hl => by cases hl]
      unfold Shortcode.meet
      rw [if_neg hno]
      rfl
    | cons l outer =>
      by_cases hname : l.tag.name = g.name
      · rw [Walk.meet_closing ho rfl hname]
        show Shortcode.meet (l.toOpen :: _) _ g = Except.ok (_, trees (l.before ++ [l.element (content ++ [node])]))
        rw [Shortcode.meet_closing ho hname, trees_append, trees, trees, Level.element, Numbered.tree, trees_append]
        rfl
      · rw [Walk.meet_unexpected ho fun l' hl => by cases hl; exact hname]
        unfold Shortcode.meet
        rw [if_neg hno]
        exact if_neg hname

end

/-! ## The innermost open element -/

variable {f f' : Forest}

theorem ids_element (l : Level) (content : List Numbered) : (l.element content).ids = l.id :: idsAll content := rfl

/-- **The content is the last thing in a plugged list**, so what comes behind it can as well come into it. -/
theorem idsAll_plug : ∀ (levels : List Level) (content more : List Numbered),
    idsAll (plug levels (content ++ more)) = idsAll (plug levels content) ++ idsAll more
  | [], content, more => idsAll_append content more
  | l :: outer, content, more => by
    rw [plug, plug, idsAll_plug outer, idsAll_plug outer, idsAll_singleton, idsAll_singleton, ids_element, ids_element,
      idsAll_append, List.append_assoc, List.cons_append]

theorem idsAll_plug_cons (l : Level) (outer : List Level) (content : List Numbered) :
    idsAll (plug (l :: outer) content) = idsAll (plug outer l.before) ++ l.id :: idsAll content := by
  rw [plug, idsAll_plug, idsAll_singleton, ids_element]

theorem mem_plug_cons {l : Level} {outer : List Level} {content : List Numbered} {x : NodeId} :
    x ∈ idsAll (plug (l :: outer) content) ↔ x ∈ idsAll (plug outer l.before) ∨ x = l.id ∨ x ∈ idsAll content := by
  rw [idsAll_plug_cons, List.mem_append, List.mem_cons]

theorem textNodesAll_element (l : Level) (content : List Numbered) :
    textNodesAll [l.element content] = textNodesAll content :=
  Numbered.textNodesAll_of_isElement (t := l.element content) rfl

theorem textNodesAll_plug : ∀ (levels : List Level) (content more : List Numbered),
    textNodesAll (plug levels (content ++ more)) = textNodesAll (plug levels content) ++ textNodesAll more
  | [], content, more => textNodesAll_append content more
  | l :: outer, content, more => by
    rw [plug, plug, textNodesAll_plug outer, textNodesAll_plug outer, textNodesAll_element, textNodesAll_element,
      textNodesAll_append, List.append_assoc]

theorem standAll_of_plug : ∀ {levels : List Level} {content : List Numbered}, StandAll f (plug levels content) →
    StandAll f content
  | [], _, h => h
  | _ :: _, _, h => by
    obtain ⟨-, hl, -⟩ := standAll_append.1 (standAll_of_plug h)
    exact hl.standAll

theorem stands_innermost {l : Level} {outer : List Level} {content : List Numbered}
    (h : StandAll f (plug (l :: outer) content)) : (l.element content).Stands f := by
  rw [plug] at h
  exact (standAll_append.1 (standAll_of_plug h)).2.1

/-- **The last tree of the innermost open element can be exchanged.** -/
theorem standAll_plug_last : ∀ {levels : List Level} {before : List Numbered} {t t' : Numbered},
    StandAll f (plug levels (before ++ [t])) → (idsAll (plug levels (before ++ [t]))).Nodup → t'.id = t.id →
    t'.Stands f' →
    (∀ x ∈ idsAll (plug levels (before ++ [t])), x ∉ t.ids → f'.data x = f.data x ∧ f'.children x = f.children x) →
    StandAll f' (plug levels (before ++ [t'])) ∧
      (plug levels (before ++ [t'])).map Numbered.id = (plug levels (before ++ [t])).map Numbered.id
  | [], before, t, t', h, hnd, hid, ht', hsame => by
    rw [plug] at h hnd hsame
    rw [idsAll_append, idsAll_singleton] at hnd hsame
    obtain ⟨-, -, hdis⟩ := List.nodup_append.1 hnd
    obtain ⟨hbefore, -⟩ := standAll_append.1 h
    have hbefore' : StandAll f' before := hbefore.congr fun x hx =>
      hsame x (List.mem_append_left _ hx) fun hm => hdis x hx x hm rfl
    refine ⟨standAll_append.2 ⟨hbefore', ht', trivial⟩, ?_⟩
    rw [plug, plug, List.map_append, List.map_append, List.map_singleton, List.map_singleton, hid]
  | l :: outer, before, t, t', h, hnd, hid, ht', hsame => by
    have hl := stands_innermost h
    have hndl := hnd
    rw [idsAll_plug_cons, idsAll_append, idsAll_singleton] at hndl
    obtain ⟨htop, hndc⟩ := List.nodup_cons.1 (List.nodup_append.1 hndl).2.1
    obtain ⟨-, -, hdis⟩ := List.nodup_append.1 hndc
    -- the element around the exchanged tree keeps its number, and its list keeps the numbers in it
    have hbefore' : StandAll f' before := (standAll_append.1 hl.standAll).1.congr fun x hx => by
      refine hsame x (mem_plug_cons.2 (.inr (.inr ?_))) fun hm => hdis x hx x hm rfl
      rw [idsAll_append]
      exact List.mem_append_left _ hx
    obtain ⟨hdata, hchildren⟩ := hsame l.id (mem_plug_cons.2 (.inr (.inl rfl))) fun hm =>
      htop (List.mem_append_right _ hm)
    have hl' : (l.element (before ++ [t'])).Stands f' := by
      refine ⟨hdata.trans hl.data_eq, hchildren.trans (hl.children_eq.trans ?_),
        standAll_append.2 ⟨hbefore', ht', trivial⟩⟩
      show (before ++ [t]).map Numbered.id = (before ++ [t']).map Numbered.id
      rw [List.map_append, List.map_append, List.map_singleton, List.map_singleton, hid]
    have hsame' : ∀ x ∈ idsAll (plug outer (l.before ++ [l.element (before ++ [t])])),
        x ∉ (l.element (before ++ [t])).ids → f'.data x = f.data x ∧ f'.children x = f.children x := by
      intro x hx hm
      refine hsame x hx fun ht => hm ?_
      rw [ids_element, idsAll_append, idsAll_singleton]
      exact List.mem_cons_of_mem _ (List.mem_append_right _ ht)
    rw [plug] at h hnd ⊢
    exact standAll_plug_last h hnd rfl hl' hsame'

section

variable {top : NodeId} {data : NodeData} {l : Level} {outer : List Level} {content rest : List Numbered} {t : Numbered}

/-- The numbers of the innermost open element and of the next child are apart. -/
theorem adopt_apart (hv : f.Valid) (h : (Numbered.node top data (plug (l :: outer) content ++ t :: rest)).Stands f) :
    (idsAll (plug (l :: outer) content)).Nodup ∧ l.id ≠ top ∧ l.id ∉ idsAll content ∧
      ∀ x, x ∈ t.ids ∨ x ∈ idsAll rest → x ≠ l.id := by
  have hnd := h.nodup hv
  rw [ids, idsAll_append, idsAll] at hnd
  obtain ⟨htop, hnd⟩ := List.nodup_cons.1 hnd
  obtain ⟨hplug, -, hdis⟩ := List.nodup_append.1 hnd
  have hl : l.id ∈ idsAll (plug (l :: outer) content) := mem_plug_cons.2 (.inr (.inl rfl))
  have hcut := hplug
  rw [idsAll_plug_cons] at hcut
  refine ⟨hplug, fun he => htop (List.mem_append_left _ (he ▸ hl)),
    (List.nodup_cons.1 (List.nodup_append.1 hcut).2.1).1, fun x hx he => ?_⟩
  exact hdis l.id hl x (List.mem_append.2 hx) he.symm

/-- The next child exists, and nothing of it stands above the innermost open element. -/
theorem adopt_allowed (hv : f.Valid) (h : (Numbered.node top data (plug (l :: outer) content ++ t :: rest)).Stands f) :
    l.id < f.size ∧ t.id < f.size ∧ ¬ f.Within l.id t.id := by
  have hl : l.id ∈ idsAll (plug (l :: outer) content) := mem_plug_cons.2 (.inr (.inl rfl))
  obtain ⟨-, hapart⟩ := h.apart hv
  obtain ⟨hplug, ht, -⟩ := h.split
  obtain ⟨a, ha, hw⟩ := hplug.within hl
  have hat : a.id ≠ t.id := fun he =>
    (hapart a.id (.inl (Numbered.mem_idsAll.2 ⟨a, ha, a.id_mem_ids⟩))).2 (he ▸ t.id_mem_ids)
  have hta : t.id ∈ f.children top := h.child_mem (List.mem_append_right _ List.mem_cons_self)
  exact ⟨hplug.lt_size hv hl, ht.lt_size hv t.id_mem_ids,
    hv.not_within_both (h.child_mem (List.mem_append_left _ ha)) hta hat hw⟩

/-- **The next child comes into the innermost open element.** -/
theorem becomes_adopt (hv : f.Valid) (h : (Numbered.node top data (plug (l :: outer) content ++ t :: rest)).Stands f) :
    Becomes f (.node top data (plug (l :: outer) content ++ t :: rest)) (f.append l.id t.id)
      (.node top data (plug (l :: outer) (content ++ [t]) ++ rest)) := by
  obtain ⟨hplug, hltop, hlcontent, hbehind⟩ := adopt_apart hv h
  obtain ⟨httop, hapart⟩ := h.apart hv
  obtain ⟨hstandPlug, hstandT, hstandRest⟩ := h.split
  have hl := stands_innermost hstandPlug
  -- only the lists of the root and of the element change
  have hchildren := Numbered.children_append_moved hv h.children_split hltop
  have hsame : ∀ x, x ≠ top → x ≠ l.id → (f.append l.id t.id).data x = f.data x ∧
      (f.append l.id t.id).children x = f.children x := fun x hx hxl =>
    ⟨rfl, (hchildren x).trans ((if_neg hx).trans (if_neg hxl))⟩
  have hcontent : StandAll (f.append l.id t.id) content := hl.standAll.congr fun x hx =>
    hsame x (hapart x (.inl (mem_plug_cons.2 (.inr (.inr hx))))).1 fun he => hlcontent (he ▸ hx)
  have ht : t.Stands (f.append l.id t.id) := hstandT.congr fun x hx =>
    hsame x (fun he => httop (he ▸ hx)) (hbehind x (.inl hx))
  have hrest : StandAll (f.append l.id t.id) rest := hstandRest.congr fun x hx =>
    hsame x (hapart x (.inr hx)).1 (hbehind x (.inr hx))
  have helement : (l.element (content ++ [t])).Stands (f.append l.id t.id) := by
    refine ⟨hl.data_eq, ?_, standAll_append.2 ⟨hcontent, ht, trivial⟩⟩
    rw [hchildren, if_neg hltop, if_pos rfl, show f.children l.id = content.map Numbered.id from hl.children_eq,
      List.map_append, List.map_singleton]
  obtain ⟨hnew, hids⟩ : StandAll (f.append l.id t.id) (plug outer (l.before ++ [l.element (content ++ [t])])) ∧
      (plug outer (l.before ++ [l.element (content ++ [t])])).map Numbered.id =
        (plug outer (l.before ++ [l.element content])).map Numbered.id :=
    standAll_plug_last hstandPlug hplug rfl helement fun x hx hxl =>
      hsame x (hapart x (.inl hx)).1 fun he => hxl (he ▸ List.mem_cons_self)
  have horder : (Numbered.node top data (plug (l :: outer) (content ++ [t]) ++ rest)).ids =
      (Numbered.node top data (plug (l :: outer) content ++ t :: rest)).ids := by
    rw [ids, ids, idsAll_append, idsAll_append, idsAll_plug, idsAll_singleton, idsAll, List.append_assoc]
  have htexts : (Numbered.node top data (plug (l :: outer) (content ++ [t]) ++ rest)).textNodes =
      (Numbered.node top data (plug (l :: outer) content ++ t :: rest)).textNodes := by
    rw [textNodes, textNodes, textNodesAll_append, textNodesAll_append, textNodesAll_plug, List.append_assoc,
      ← Numbered.textNodesAll_cons]
  refine ⟨⟨h.data_eq, ?_, standAll_append.2 ⟨hnew, hrest⟩⟩, rfl, rfl, Nat.le_refl _, fun x _ hx => ?_, ?_,
    fun x hx hlt => absurd hlt (Nat.not_lt.2 hx), ?_⟩
  · rw [hchildren, if_pos rfl, List.map_append]
    exact congrArg (· ++ _) hids.symm
  · refine hsame x (fun he => hx (Numbered.mem_ids_split.2 (.inl he))) fun he => hx ?_
    exact Numbered.mem_ids_split.2 (.inr (.inl (mem_plug_cons.2 (.inr (.inl he)))))
  · rw [horder]
    exact h.filter_lt_size hv fun _ hx => hx
  · rw [htexts]
    exact h.filter_hung hv fun _ hy => Numbered.ids_subset_of_mem_textNodes hy

end

end BlogMarkdown.Shortcode
