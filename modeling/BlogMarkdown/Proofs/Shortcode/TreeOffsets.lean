import BlogMarkdown.Proofs.Shortcode.MathOffsets
/-!
# Offsets in a tree

The rewriters go from node to node along the links, as they are at that moment: a text that is cut leaves the text
behind the cut as the next node, and a node that is done moves under the tag that is open.  With the cuts at byte
offsets, and with a bound on the steps of each loop, they still give what rewriting by characters gives, where the
children are listed beforehand and the pieces of a text are rewritten before its next sibling.  So no offset is out of
place, and the walk ends within as many steps as the tree has nodes and bytes of text.
-/
namespace BlogMarkdown.Dom.Numbered

mutual
/-- How many nodes a tree has, and how many bytes of text.  A walk takes no more steps, since each piece that is cut off
a text is shorter than the text. -/
def bulk : Numbered → Nat
  | .node _ data children => 1 + Text.Utf8.byteLength (data.text?.getD []) + bulkAll children
def bulkAll : List Numbered → Nat
  | [] => 0
  | t :: rest => t.bulk + bulkAll rest
end

theorem bulk_le_of_mem {t : Numbered} : ∀ {ts : List Numbered}, t ∈ ts → t.bulk ≤ bulkAll ts
  | _ :: _, h => by
    rw [bulkAll]
    rcases List.mem_cons.1 h with rfl | h
    · exact Nat.le_add_right _ _
    · exact Nat.le_add_left_of_le (bulk_le_of_mem h)

end BlogMarkdown.Dom.Numbered

namespace BlogMarkdown.Shortcode

open Dom
open Dom.Numbered (bulk bulkAll)
open Text (Stuck Guarded)
open Text.Utf8 (byteLength byteLength_append byteLength_cons)

variable {registry : Registry} {s : Store}

/-! ## One text node -/

/-- What rewriting one text node leaves to do. -/
structure Onward where
  openTags : List OpenTag
  created : Option NodeId
  /-- The node to go on with. -/
  next : Option NodeId

/-- What the element for a tag holds. -/
def Found.data (found : Found) : NodeData :=
  .element (.shortcode (String.ofList found.name))
    (found.attributes.map fun (key, value) => .plain (String.ofList key) (String.ofList value))

/-- The element for an opening tag, behind the node that the tag is cut out of. -/
def Found.create (found : Found) (s : Store) (node : NodeId) : Store × Option NodeId :=
  if found.opens then
    let (s, element) := s.create found.data
    (s.insertAfter (some node) (some element), some element)
  else (s, none)

/-- The tags that are open behind a tag; one that closes has to fit to the innermost. -/
def Found.openTags (found : Found) (created : Option NodeId) (openTags : List OpenTag) : Except Error (List OpenTag) :=
  let tag := String.ofList found.name
  let nowOpen := match created with
    | some element => ⟨tag, element⟩ :: openTags
    | none => openTags
  if found.closes then
    match nowOpen with
    | top :: rest => if top.tag = tag then .ok rest else .error (.unexpectedClosingShortcode tag)
    | [] => .error (.unexpectedClosingShortcode tag)
  else .ok nowOpen

/-- Cuts a tag out of a text node. -/
def cutTagAt (openTags : List OpenTag) (node : NodeId) (found : Found) (s : Store) :
    Guarded (Except Error Onward × Store) := do
  let (s, tail) ← splitTextAt s node found.start found.stop
  let (s, created) := found.create s node
  pure ((found.openTags created openTags).map (⟨·, created, some tail⟩), s)

/-- Scans one text node up to its first tag and cuts the tag out. -/
def rewriteTextAt (registry : Registry) (limit : Nat) (openTags : List OpenTag) (node : NodeId) (s : Store) :
    Guarded (Except Error Onward × Store) := do
  let (text, found) ← scanAt registry limit limit ((s.text? node).getD []) 0
  match found with
  | some found => cutTagAt openTags node found (s.setText node text)
  | none =>
    let s := if s.text? node = some text then s else s.setText node text
    pure (.ok ⟨openTags, none, s.nextSibling node⟩, s)

/-- What a step of rewriting by characters means for the walk: after a text without a tag it goes on with the node
behind the text. -/
def onward (node : NodeId) : Except Error Step × Store → Except Error Onward × Store
  | (.ok step, s) => (.ok ⟨step.openTags, step.created, step.tail.or (s.nextSibling node)⟩, s)
  | (.error e, s) => (.error e, s)

theorem text?_setText {node : NodeId} {content : List Char} (h : s.text? node = some content) (new : List Char) :
    (s.setText node new).text? node = some new := by
  obtain ⟨data, hdata, htext⟩ := Option.bind_eq_some_iff.1 h
  obtain ⟨n, hn, rfl⟩ := Option.map_eq_some_iff.1 hdata
  have hisText : n.data.isText = true := by rw [NodeData.isText, htext]; rfl
  have hget : (s.setText node new).get? node = some { n with data := .text new } := by
    rw [Store.setText, Store.get?_modify, hn, Option.map_some, Store.through, if_pos rfl, if_pos hisText]
  rw [Store.text?, Store.data?, hget]
  rfl

section

variable {openTags : List OpenTag} {node : NodeId} {before after : List Char} {g : Tag}

theorem openTags_of_created (g : Tag) (start : Nat) (element : NodeId) (openTags : List OpenTag) :
    (g.found start).openTags (some element) openTags =
      .ok (if g.closes then openTags else ⟨String.ofList g.name, element⟩ :: openTags) := by
  have hcloses : (g.found start).closes = g.closes := rfl
  unfold Found.openTags
  rw [hcloses]
  cases g.closes with
  | true =>
    show (if String.ofList g.name = String.ofList g.name then Except.ok openTags else _) = _
    exact if_pos rfl
  | false => rfl

theorem openTags_of_closing (hc : g.closes = true) (start : Nat) (openTags : List OpenTag) :
    (g.found start).openTags none openTags =
      match openTags with
      | top :: rest => if top.tag = String.ofList g.name then .ok rest else .error g.unexpected
      | [] => .error g.unexpected := by
  have hcloses : (g.found start).closes = true := hc
  unfold Found.openTags
  rw [hcloses]
  rfl

/-- **A tag is cut out by offsets as by characters.** -/
theorem cutTagAt_eq (h : scan registry ((s.text? node).getD []) = .tagged before g after) :
    cutTagAt openTags node (g.found (byteLength before)) (s.setText node (before ++ '[' :: g.source ++ after)) =
      .ok (onward node (outcome (rewriteText registry openTags node) s)) := by
  have hsplit : splitTextAt (s.setText node (before ++ '[' :: g.source ++ after)) node
      (g.found (byteLength before)).start (g.found (byteLength before)).stop =
        .ok (cutOut s node before g after) := by
    have hcontent : ∃ content, s.text? node = some content := by
      cases htext : s.text? node with
      | some content => exact ⟨content, rfl⟩
      | none =>
        rw [htext] at h
        cases h
    obtain ⟨content, htext⟩ := hcontent
    have hsource : byteLength (before ++ '[' :: g.source) = byteLength before + 1 + byteLength g.source := by
      rw [byteLength_append, byteLength_cons, Text.byteLength_ascii (by decide), Nat.add_assoc]
    have hcut := splitTextAt_eq (text?_setText htext (before ++ '[' :: g.source ++ after))
    rw [hsource] at hcut
    exact hcut
  have hcreate : ∀ s' : Store, (g.found (byteLength before)).create s' node =
      if g.opens then ((addElement s' node g).1, some (addElement s' node g).2) else (s', none) := fun _ => rfl
  unfold cutTagAt
  rw [hsplit]
  dsimp only [bind, Except.bind]
  rw [hcreate]
  cases ho : g.opens with
  | true =>
    rw [if_pos rfl, openTags_of_created, outcome_rewriteText_opening h ho]
    rfl
  | false =>
    have hc : g.closes = true := (scanFrom_tagged h).2.resolve_left (by rw [ho]; exact Bool.false_ne_true)
    rw [if_neg Bool.false_ne_true, openTags_of_closing hc, outcome_rewriteText_closing h ho hc]
    cases openTags with
    | nil => rfl
    | cons top rest =>
      dsimp only
      split <;> rfl

/-- **Rewriting a text node by offsets is rewriting it by characters**, whatever the node. -/
theorem rewriteTextAt_eq (registry : Registry) {limit : Nat} (openTags : List OpenTag) {node : NodeId}
    (hlimit : ((s.text? node).getD []).length < limit) :
    rewriteTextAt registry limit openTags node s =
      .ok (onward node (outcome (rewriteText registry openTags node) s)) := by
  have hscan : scanAt registry limit limit ((s.text? node).getD []) 0 =
      .ok (scan registry ((s.text? node).getD [])).found := scanAt_eq registry [] hlimit hlimit
  unfold rewriteTextAt
  rw [hscan]
  cases h : scan registry ((s.text? node).getD []) with
  | tagged before g after => exact cutTagAt_eq h
  | plain text =>
    have hset : (if s.text? node = some text then s else s.setText node text) = s.setText node text := by
      split
      · exact (Store.setText_eq_self ‹_›).symm
      · rfl
    rw [outcome_rewriteText_plain h]
    dsimp only [Scan.found, bind, Except.bind]
    rw [hset]
    rfl

end

/-! ## Along the links -/

/-- Rewrites the children of a node from one of them on, along the links to the next; `inner` rewrites an element
below.  A text that a tag was cut out of is done up to the tag, and the text behind the tag is a node of its own. -/
def rewriteSiblingsAt (registry : Registry) (limit : Nat)
    (inner : NodeId → Store → Guarded (Except Error Unit × Store)) :
    Nat → List OpenTag → Option NodeId → Store → Guarded (Except Error (List OpenTag) × Store)
  | 0, _, _, _ => .error .steps
  | _ + 1, openTags, none, s => .ok (.ok openTags, s)
  | steps + 1, openTags, some child, s =>
    match s.data? child with
    | some (.text _) => do
      match ← rewriteTextAt registry limit openTags child s with
      | (.ok done, s) =>
        rewriteSiblingsAt registry limit inner steps done.openTags done.next (taken s openTags child done.created)
      | (.error e, s) => pure (.error e, s)
    | some (.element _ _) => do
      let next := s.nextSibling child
      match ← inner child s with
      | (.ok _, s) => rewriteSiblingsAt registry limit inner steps openTags next (adopted s openTags child)
      | (.error e, s) => pure (.error e, s)
    | _ => rewriteSiblingsAt registry limit inner steps openTags (s.nextSibling child) (adopted s openTags child)

/-- Rewrites the tree below a node, at most `depth` levels of elements. -/
def rewriteBelowAt (registry : Registry) (limit : Nat) : Nat → NodeId → Store → Guarded (Except Error Unit × Store)
  | 0, _, _ => .error .steps
  | depth + 1, node, s => do
    match ← rewriteSiblingsAt registry limit (rewriteBelowAt registry limit depth) limit [] (s.firstChild node) s with
    | (.ok openTags, s) =>
      if openTags.isEmpty then pure (.ok (), s)
      else pure (.error (.unclosedShortcodes (openTags.reverse.map (·.tag))), s)
    | (.error e, s) => pure (.error e, s)

/-- Rewrites every shortcode below a root and then removes the empty texts that cutting left. -/
def rewriteAt (registry : Registry) (limit : Nat) (root : NodeId) (s : Store) :
    Guarded (Except Error Unit × Store) := do
  match ← rewriteBelowAt registry limit limit root s with
  | (.ok _, s) => pure (.ok (), s.removeEmptyTexts root)
  | (.error e, s) => pure (.error e, s)

variable {f : Forest} {top : NodeId} {data : NodeData} {limit : Nat} {inner : NodeId → Rewrite Unit}
  {innerAt : NodeId → Store → Guarded (Except Error Unit × Store)} {rest : List Numbered}

/-- From every state of a walk, rewriting along the links from the first of `cs` on is rewriting all of them. -/
def Follows (registry : Registry) (limit : Nat) (inner : NodeId → Rewrite Unit)
    (innerAt : NodeId → Store → Guarded (Except Error Unit × Store)) (top : NodeId) (data : NodeData)
    (cs : List Numbered) : Prop :=
  ∀ (steps : Nat) (w : Walk) (s : Store) (f : Forest), bulkAll cs < steps → s.Holds f → w.size = f.size →
    (Numbered.node top data (plug w.levels w.content ++ cs)).Stands f →
    rewriteSiblingsAt registry limit innerAt steps (w.levels.map Level.openTag) (cs.map Numbered.id).head? s =
      .ok (outcome (rewriteChildren registry inner (w.levels.map Level.openTag) (cs.map Numbered.id)) s)

/-- **The texts that are cut off a text are met one after the other.**  Each is shorter than the one it is cut off, so
the steps are enough. -/
theorem follows_pieces (hrest : Follows registry limit inner innerAt top data rest) :
    ∀ {pieces steps : Nat} {content : List Char} {w : Walk} {s : Store} {f : Forest} {id : NodeId}
      {below : List Numbered}, content.length < pieces → content.length < limit →
      content.length + 1 + bulkAll rest < steps → s.Holds f → w.size = f.size →
      (Numbered.node top data (plug w.levels w.content ++ .node id (.text content) below :: rest)).Stands f →
      rewriteSiblingsAt registry limit innerAt steps (w.levels.map Level.openTag) (some id) s =
        .ok (outcome (rewritePieces registry pieces (w.levels.map Level.openTag) id >>= fun nowOpen =>
          rewriteChildren registry inner nowOpen (rest.map Numbered.id)) s)
  | 0, _, _, _, _, _, _, _, hlen, _, _, _, _, _ => absurd hlen (Nat.not_lt_zero _)
  | _, 0, _, _, _, _, _, _, _, _, hsteps, _, _, _ => absurd hsteps (Nat.not_lt_zero _)
  | pieces + 1, steps + 1, content, w, s, f, id, below, hlen, hlimit, hsteps, h, hsize, ht => by
    have hdata : s.data? id = some (.text content) := (h.data?_eq id).trans ht.split.2.1.data_eq
    have htext := text_of_stands h ht
    rw [outcome_bind, rewriteSiblingsAt, hdata]
    dsimp only [bind, Except.bind]
    rw [rewriteTextAt_eq registry _ (by rw [htext]; exact hlimit)]
    cases hscan : scan registry content with
    | plain new =>
      have hplain := htext.symm ▸ hscan
      obtain ⟨f₁, h₁, hsize₁, hb₁⟩ := turns_setText h ht new
      obtain ⟨f₂, h₂, hsize₂, hb₂⟩ := turns_adopted h₁ hb₁.stands
      have hnext : (s.setText id new).nextSibling id = (rest.map Numbered.id).head? := hb₁.stands.nextSibling_eq h₁
      have hgo := hrest steps ⟨f₂.size, w.levels, w.content ++ [.node id (.text new) below]⟩ _ f₂ (by omega) h₂ rfl
        hb₂.stands
      rw [outcome_rewriteText_plain hplain, outcome_rewritePieces_plain hplain]
      dsimp only [onward, Option.none_or, taken]
      rw [hnext]
      exact hgo
    | tagged before g after =>
      have hafter : after.length < content.length := (scanFrom_tagged hscan).1
      rw [rewritePieces, outcome_bind]
      cases hmeet : w.meet (.node id (.text before) below) g with
      | error e =>
        obtain ⟨s₁, hr, -⟩ := turns_of_not_meet h hsize ht hscan hmeet
        rw [hr]
        rfl
      | ok w' =>
        obtain ⟨created, s₁, hr, f', h', hsize', hb⟩ := turns_of_meet h hsize ht hscan hmeet
        have hgo : rewriteSiblingsAt registry limit innerAt steps (w'.levels.map Level.openTag) (some w.size) _ =
            .ok (outcome (rewritePieces registry pieces (w'.levels.map Level.openTag) w.size >>= fun nowOpen =>
              rewriteChildren registry inner nowOpen (rest.map Numbered.id)) _) :=
          follows_pieces hrest (by omega) (by omega) (by omega) h' hsize'.symm hb.stands
        rw [outcome_bind] at hgo
        rw [hr]
        dsimp only [onward, Option.some_or]
        rw [outcome_bind, outcome_adopt]
        exact hgo

/-- **Every child is met once, in order**, though tags move what is done and texts come up on the way. -/
theorem follows_children : ∀ {cs : List Numbered}, bulkAll cs < limit →
    (∀ u ∈ cs, ∀ (s : Store) (f : Forest), s.Holds f → u.Stands f →
      innerAt u.id s = .ok (outcome (inner u.id) s) ∧ Rewrites registry u f (outcome (inner u.id) s)) →
    Follows registry limit inner innerAt top data cs
  | [], _, _ => by
    intro steps w s f hsteps _ _ _
    obtain ⟨steps, rfl⟩ := Nat.exists_eq_add_one_of_ne_zero (Nat.ne_of_gt hsteps)
    rfl
  | .node id d below :: rest, hlimit, hinner => by
    intro steps w s f hsteps h hsize ht
    rw [bulkAll, bulk] at hlimit hsteps
    obtain ⟨steps, rfl⟩ := Nat.exists_eq_add_one_of_ne_zero (Nat.ne_of_gt (Nat.zero_lt_of_lt hsteps))
    have hrest : Follows registry limit inner innerAt top data rest :=
      follows_children (by omega) fun u hu => hinner u (List.mem_cons_of_mem _ hu)
    have hdata : s.data? id = some d := (h.data?_eq id).trans ht.split.2.1.data_eq
    have hnext : s.nextSibling id = (rest.map Numbered.id).head? := ht.nextSibling_eq h
    -- what is not a text is done at once and goes to the innermost open tag
    have hgo {s₁ : Store} {size : Nat} {u : Numbered} (hid : u.id = id)
        (hturns : Turns f (.node top data (plug w.levels w.content ++ .node id d below :: rest)) s₁ size
          (.node top data (plug w.levels w.content ++ u :: rest))) :
        rewriteSiblingsAt registry limit innerAt steps (w.levels.map Level.openTag) (rest.map Numbered.id).head?
            (adopted s₁ (w.levels.map Level.openTag) id) =
          .ok (outcome (adopt (w.levels.map Level.openTag) id none >>= fun _ =>
            rewriteChildren registry inner (w.levels.map Level.openTag) (rest.map Numbered.id)) s₁) := by
      obtain ⟨f₁, h₁, -, hb₁⟩ := hturns
      obtain ⟨f₂, h₂, -, hb₂⟩ := turns_adopted h₁ hb₁.stands
      rw [outcome_bind, outcome_adopt]
      rw [hid] at h₂
      exact hrest steps ⟨f₂.size, w.levels, w.content ++ [u]⟩ _ f₂ (by omega) h₂ rfl hb₂.stands
    have hsame : Turns f (.node top data (plug w.levels w.content ++ .node id d below :: rest)) s f.size
        (.node top data (plug w.levels w.content ++ .node id d below :: rest)) := ⟨f, h, rfl, .refl h.valid ht⟩
    rw [List.map_cons, Numbered.id, List.head?_cons, rewriteChildren, outcome_bind, outcome_get]
    dsimp only
    rw [hdata]
    cases d with
    | text content =>
      have hbytes : content.length ≤ byteLength ((NodeData.text content).text?.getD []) :=
        Text.length_le_byteLength content
      exact follows_pieces hrest (Nat.lt_succ_self _) (by omega) (by omega) h hsize ht
    | element name attributes =>
      obtain ⟨hat, hresult, f₁, h₁, hsize₁, hb₁⟩ := hinner _ List.mem_cons_self s f h ht.split.2.1
      have hid := id_walk registry f.size (.node id (.element name attributes) below)
      have hb := ht.becomes_of_child h.valid hb₁ hid
      rw [Numbered.id] at hat h₁
      rw [rewriteSiblingsAt, hdata, outcome_bind]
      dsimp only [bind, Except.bind]
      rw [hat, hnext]
      generalize outcome (inner id) s = r at h₁
      obtain ⟨r, s'⟩ := r
      cases r with
      | error e => rfl
      | ok => exact hgo hid ⟨f₁, h₁, hsize₁, hb⟩
    | _ =>
      rw [rewriteSiblingsAt, hdata, hnext]
      exact hgo rfl hsame

/-- **Rewriting below a node along the links is rewriting its children**, level by level. -/
theorem rewriteBelowAt_eq (registry : Registry) : ∀ {depth limit depth' : Nat} {t : Numbered} {s : Store} {f : Forest},
    t.bulk ≤ depth → t.bulk < limit → t.ids.length ≤ depth' → s.Holds f → t.Stands f →
    rewriteBelowAt registry limit depth t.id s = .ok (outcome (rewriteBelow registry depth' t.id) s)
  | 0, _, _, .node .., _, _, hdepth, _, _, _, _ => by
    rw [bulk] at hdepth
    omega
  | _, _, 0, .node .., _, _, _, _, hlen, _, _ => by
    rw [Numbered.ids] at hlen
    cases hlen
  | depth + 1, limit, depth' + 1, .node id data cs, s, f, hdepth, hlimit, hlen, h, ht => by
    rw [bulk] at hdepth hlimit
    rw [Numbered.ids, List.length_cons, Nat.succ_le_succ_iff] at hlen
    have hinner : ∀ u ∈ cs, ∀ (s : Store) (f : Forest), s.Holds f → u.Stands f →
        rewriteBelowAt registry limit depth u.id s = .ok (outcome (rewriteBelow registry depth' u.id) s) ∧
          Rewrites registry u f (outcome (rewriteBelow registry depth' u.id) s) := by
      intro u hu s f h hu'
      have hids : u.ids.length ≤ depth' := Nat.le_trans (Numbered.length_ids_le_of_mem hu) hlen
      have hbulk : u.bulk ≤ bulkAll cs := Numbered.bulk_le_of_mem hu
      exact ⟨rewriteBelowAt_eq registry (by omega) (by omega) hids h hu', rewrites_rewriteBelow registry hids h hu'⟩
    have hsteps : bulkAll cs < limit := by omega
    have hgo : rewriteSiblingsAt registry limit (rewriteBelowAt registry limit depth) limit []
          (cs.map Numbered.id).head? s =
        .ok (outcome (rewriteChildren registry (rewriteBelow registry depth') [] (cs.map Numbered.id)) s) :=
      follows_children hsteps hinner limit ⟨f.size, [], []⟩ s f hsteps h rfl ht
    have hfirst : s.firstChild id = (cs.map Numbered.id).head? := ht.firstChild_eq h
    have hchildren : s.children id = cs.map Numbered.id := (h.children_eq id).trans ht.children_eq
    rw [Numbered.id, rewriteBelow, outcome_bind, outcome_get, rewriteBelowAt, hfirst]
    dsimp only
    rw [hchildren, outcome_bind, hgo]
    dsimp only [bind, Except.bind]
    generalize outcome (rewriteChildren registry (rewriteBelow registry depth') [] (cs.map Numbered.id)) s = r
    obtain ⟨r, s'⟩ := r
    cases r with
    | error e => rfl
    | ok openTags => cases openTags <;> rfl

/-- **Rewriting by offsets and links is rewriting by characters and lists**, if the steps are more than the tree has
nodes and bytes. -/
theorem rewriteAt_eq (registry : Registry) {limit : Nat} {root : NodeId} (hs : s.WellFormed) (hroot : root < s.size)
    (hlimit : (s.numbered root).bulk < limit) :
    rewriteAt registry limit root s = .ok (outcome (rewrite registry root) s) := by
  obtain ⟨f, h⟩ := hs
  obtain ⟨t, ht, rfl⟩ := Numbered.exists_stands h.valid root (h.size ▸ hroot)
  rw [ht.numbered_eq h] at hlimit
  have hlen : t.ids.length ≤ s.size + 1 := Nat.le_succ_of_le (h.size ▸ ht.length_ids_le h.valid)
  rw [rewriteAt, rewriteBelowAt_eq registry (Nat.le_of_lt hlimit) hlimit hlen h ht, outcome_rewrite_eq]
  dsimp only [bind, Except.bind]
  obtain ⟨r, s'⟩ := outcome (rewriteBelow registry (s.size + 1) t.id) s
  cases r <;> rfl

/-! ## Inline mathematics along the links -/

/-- Rewrites the children of a node from one of them on, along the links to the next; `inner` rewrites an element
below. -/
def rewriteMathSiblingsAt (limit : Nat) (inner : Store → NodeId → Guarded Store) :
    Nat → Store → Option NodeId → Guarded Store
  | 0, _, _ => .error .steps
  | _ + 1, s, none => .ok s
  | steps + 1, s, some child =>
    match s.data? child with
    | some (.text _) => do
      let (s, next) ← rewriteMathTextAt limit limit s child
      rewriteMathSiblingsAt limit inner steps s next
    | some (.element _ _) => do
      let s ← inner s child
      rewriteMathSiblingsAt limit inner steps s (s.nextSibling child)
    | _ => rewriteMathSiblingsAt limit inner steps s (s.nextSibling child)

/-- Rewrites the spans below a node, at most `depth` levels of elements. -/
def rewriteMathBelowAt (limit : Nat) : Nat → Store → NodeId → Guarded Store
  | 0, _, _ => .error .steps
  | depth + 1, s, node => rewriteMathSiblingsAt limit (rewriteMathBelowAt limit depth) limit s (s.firstChild node)

/-- Rewrites every span below a root and then removes the empty texts that cutting left. -/
def rewriteMathAt (limit : Nat) (s : Store) (root : NodeId) : Guarded Store := do
  let s ← rewriteMathBelowAt limit limit s root
  pure (s.removeEmptyTexts root)

/-- **The spans of a text are cut out one after the other**, and the walk goes on behind the last text. -/
theorem rewriteMathTextAt_eq : ∀ {pieces steps limit : Nat} {content : List Char} {s : Store} {f : Forest} {id : NodeId}
    {below done : List Numbered}, content.length < pieces → content.length < steps → byteLength content < limit →
    s.Holds f → (Numbered.node top data (done ++ .node id (.text content) below :: rest)).Stands f →
    rewriteMathTextAt limit steps s id = .ok (rewriteMathText pieces s id, (rest.map Numbered.id).head?)
  | 0, _, _, _, _, _, _, _, _, hlen, _, _, _, _ => absurd hlen (Nat.not_lt_zero _)
  | _, 0, _, _, _, _, _, _, _, _, hsteps, _, _, _ => absurd hsteps (Nat.not_lt_zero _)
  | pieces + 1, steps + 1, limit, content, s, f, id, below, done, hlen, hsteps, hlimit, h, ht => by
    rw [rewriteMathTextAt, rewriteMathText]
    dsimp only [bind, Except.bind]
    rw [cutMathAt_eq (by rw [text_of_stands h ht]; exact hlimit)]
    cases hfind : findMath? content with
    | none =>
      rw [cutMath_none (text_of_stands h ht ▸ hfind)]
      exact congrArg (fun next => Except.ok (s, next)) (ht.nextSibling_eq h)
    | some r =>
      obtain ⟨before, formula, after⟩ := r
      have hafter : after.length < content.length := length_of_findMath? hfind
      have hbytes : byteLength after < limit := by
        rw [eq_spanSource_of_findMath? hfind, byteLength_append] at hlimit
        omega
      obtain ⟨⟨f₁, h₁, -, hb₁⟩, htail⟩ := turns_cutMath h ht hfind
      generalize cutMath s id = cut at h₁ htail
      obtain ⟨s₁, tail⟩ := cut
      subst htail
      -- the text behind the span is cut in turn, with the element among what is done
      have hstands : (Numbered.node top data ((done ++ [.node id (.text before) below,
          .node (f.size + 1) mathData [.node (f.size + 2) (.text formula) []]]) ++
            .node f.size (.text after) [] :: rest)).Stands f₁ := by
        rw [List.append_assoc]
        exact hb₁.stands
      exact rewriteMathTextAt_eq (by omega) (by omega) hbytes h₁ hstands

/-- **Every child is met once, in order**, though spans come out of the texts on the way. -/
theorem rewriteMathSiblingsAt_eq {innerAt : Store → NodeId → Guarded Store} {depth : Nat} :
    ∀ {cs done : List Numbered} {steps : Nat} {s : Store} {f : Forest}, bulkAll cs < limit → bulkAll cs < steps →
    (∀ u ∈ cs, MathWalks depth u ∧ ∀ (s : Store) (f : Forest), s.Holds f → u.Stands f →
      innerAt s u.id = .ok (rewriteMathBelow depth s u.id)) →
    s.Holds f → (Numbered.node top data (done ++ cs)).Stands f →
    rewriteMathSiblingsAt limit innerAt steps s (cs.map Numbered.id).head? =
      .ok ((cs.map Numbered.id).foldl (rewriteMathChild depth) s)
  | [], _, steps, _, _, _, hsteps, _, _, _ => by
    obtain ⟨steps, rfl⟩ := Nat.exists_eq_add_one_of_ne_zero (Nat.ne_of_gt hsteps)
    rfl
  | .node id d below :: rest, done, steps, s, f, hlimit, hsteps, hinner, h, ht => by
    rw [bulkAll, bulk] at hlimit hsteps
    obtain ⟨steps, rfl⟩ := Nat.exists_eq_add_one_of_ne_zero (Nat.ne_of_gt (Nat.zero_lt_of_lt hsteps))
    -- what takes the place of the child goes to what is done
    have hgo (us : List Numbered) {s₁ : Store} {size : Nat}
        (hturns : Turns f (.node top data (done ++ .node id d below :: rest)) s₁ size
          (.node top data (done ++ (us ++ rest)))) :
        rewriteMathSiblingsAt limit innerAt steps s₁ (rest.map Numbered.id).head? =
          .ok ((rest.map Numbered.id).foldl (rewriteMathChild depth) s₁) := by
      obtain ⟨f₁, h₁, -, hb₁⟩ := hturns
      rw [← List.append_assoc] at hb₁
      exact rewriteMathSiblingsAt_eq (by omega) (by omega) (fun u hu => hinner u (List.mem_cons_of_mem _ hu)) h₁
        hb₁.stands
    have hdata : s.data? id = some d := (h.data?_eq id).trans ht.split.2.1.data_eq
    rw [List.map_cons, List.head?_cons, List.foldl_cons, Numbered.id, rewriteMathSiblingsAt, rewriteMathChild, hdata]
    dsimp only [bind, Except.bind]
    cases d with
    | text content =>
      have hbytes : byteLength content < limit := by
        have htext : (NodeData.text content).text?.getD [] = content := rfl
        rw [htext] at hlimit
        omega
      have hlen := Nat.lt_of_le_of_lt (Text.length_le_byteLength content) hbytes
      dsimp only
      rw [rewriteMathTextAt_eq (Nat.lt_succ_self _) hlen hbytes h ht]
      exact hgo _ (turns_rewriteMathText (Nat.lt_succ_self _) h ht)
    | element name attributes =>
      obtain ⟨hwalks, hat⟩ := hinner _ List.mem_cons_self
      obtain ⟨f₁, h₁, hsize₁, hb₁⟩ := hwalks s f h ht.split.2.1
      have hid := id_mathWalk f.size (.node id (.element name attributes) below)
      have hb := ht.becomes_of_child h.valid hb₁ hid
      have hnext := hb.stands.nextSibling_eq h₁
      rw [hid, Numbered.id] at hnext
      have hbelow : innerAt s id = .ok (rewriteMathBelow depth s id) := hat s f h ht.split.2.1
      rw [hbelow]
      dsimp only
      rw [hnext]
      exact hgo [_] ⟨f₁, h₁, hsize₁, hb⟩
    | _ =>
      have hnext : s.nextSibling id = (rest.map Numbered.id).head? := ht.nextSibling_eq h
      dsimp only
      rw [hnext]
      exact hgo [_] ⟨f, h, rfl, .refl h.valid ht⟩

theorem rewriteMathBelowAt_eq : ∀ {depth limit depth' : Nat} {t : Numbered} {s : Store} {f : Forest},
    t.bulk ≤ depth → t.bulk < limit → t.ids.length ≤ depth' → s.Holds f → t.Stands f →
    rewriteMathBelowAt limit depth s t.id = .ok (rewriteMathBelow depth' s t.id)
  | 0, _, _, .node .., _, _, hdepth, _, _, _, _ => by
    rw [bulk] at hdepth
    omega
  | _, _, 0, .node .., _, _, _, _, hlen, _, _ => by
    rw [Numbered.ids] at hlen
    cases hlen
  | depth + 1, limit, depth' + 1, .node id data cs, s, f, hdepth, hlimit, hlen, h, ht => by
    rw [bulk] at hdepth hlimit
    rw [Numbered.ids, List.length_cons, Nat.succ_le_succ_iff] at hlen
    have hinner : ∀ u ∈ cs, MathWalks depth' u ∧ ∀ (s : Store) (f : Forest), s.Holds f → u.Stands f →
        rewriteMathBelowAt limit depth s u.id = .ok (rewriteMathBelow depth' s u.id) := by
      intro u hu
      have hids : u.ids.length ≤ depth' := Nat.le_trans (Numbered.length_ids_le_of_mem hu) hlen
      have hbulk : u.bulk ≤ bulkAll cs := Numbered.bulk_le_of_mem hu
      exact ⟨mathWalks_rewriteMathBelow hids, fun s f h hu' =>
        rewriteMathBelowAt_eq (by omega) (by omega) hids h hu'⟩
    have hsteps : bulkAll cs < limit := by omega
    have hfirst : s.firstChild id = (cs.map Numbered.id).head? := ht.firstChild_eq h
    have hchildren : s.children id = cs.map Numbered.id := (h.children_eq id).trans ht.children_eq
    rw [Numbered.id, rewriteMathBelowAt, rewriteMathBelow_succ, hfirst, hchildren]
    have ht' : (Numbered.node id data ([] ++ cs)).Stands f := ht
    exact rewriteMathSiblingsAt_eq hsteps hsteps hinner h ht'

theorem rewriteMathAt_eq {limit : Nat} {root : NodeId} (hs : s.WellFormed) (hroot : root < s.size)
    (hlimit : (s.numbered root).bulk < limit) : rewriteMathAt limit s root = .ok (rewriteMath s root) := by
  obtain ⟨f, h⟩ := hs
  obtain ⟨t, ht, rfl⟩ := Numbered.exists_stands h.valid root (h.size ▸ hroot)
  rw [ht.numbered_eq h] at hlimit
  have hlen : t.ids.length ≤ s.size + 1 := Nat.le_succ_of_le (h.size ▸ ht.length_ids_le h.valid)
  rw [rewriteMathAt, rewriteMathBelowAt_eq (Nat.le_of_lt hlimit) hlimit hlen h ht, rewriteMath]
  rfl

/-! ## All offsets, all loops -/

/-- **Every cut of the rewriters is between two characters, and every loop ends.**  Lexing behind a bracket, reading
attributes and scanning a text never get stuck on an offset, whatever the text.  Nor does rewriting a tree, where texts
are cut as the scan says and their pieces become nodes that are met in turn.  The loop over the attributes and the one
over the brackets take no more steps than the text has characters, and one more; a walk along the links takes no more
than the tree has nodes and bytes of text.  What comes out is what searching by characters gives. -/
theorem offsets_of_rewriting (registry : Registry) :
    (∀ text : List Char, lexAt registry text = .ok ((lex registry text).map Lexeme.extent)) ∧
      (∀ (text : List Char) (limit : Nat), text.length < limit →
        Attributes.parseAt limit text = .ok (Attributes.parse text)) ∧
      (∀ (text : List Char) (limit : Nat), text.length < limit →
        scanAt registry limit limit text 0 = .ok (scan registry text).found) ∧
      ∀ (s : Store) (root : NodeId) (limit : Nat), s.WellFormed → root < s.size → (s.numbered root).bulk < limit →
        rewriteAt registry limit root s = .ok (outcome (rewrite registry root) s) ∧
          rewriteMathAt limit s root = .ok (rewriteMath s root) := by
  refine ⟨lexAt_eq registry, ?_, ?_, ?_⟩
  · intro text limit hlimit
    exact Attributes.entriesAt_eq text (Text.rest_zero text) hlimit (Nat.lt_succ_self _)
  · intro text limit hlimit
    exact scanAt_eq registry [] hlimit hlimit
  · intro s root limit hs hroot hlimit
    exact ⟨rewriteAt_eq registry hs hroot hlimit, rewriteMathAt_eq hs hroot hlimit⟩

/-- Characters of two and three bytes around an escape, a tag with a value in quotes, and a span. -/
def accentedPage : Store :=
  let s := (Store.empty.create (.text "é[[b]]ü[b k=\"ö\"]∑$latex ß$é".toList)).1.append (some 0) (some 1)
  (s.create (.text "€[/b]€".toList)).1.append (some 0) (some 2)

/-- The escape is resolved before the tag is found, so the tag stands two bytes before its place in the page. -/
theorem offsets_of_accented_page :
    accentedPage.WellFormed ∧ 0 < accentedPage.size ∧ (accentedPage.numbered 0).bulk < 64 ∧
      scanAt ⟨[("b", true)]⟩ 64 64 "é[[b]]ü[b k=\"ö\"]".toList 0 =
        .ok ("é[b]ü[b k=\"ö\"]".toList, some ⟨7, 17, ['b'], true, false, [(['k'], ['ö'])]⟩) ∧
      (∃ s, rewriteAt ⟨[("b", true)]⟩ 64 0 accentedPage = .ok (.ok (), s) ∧
        texts (s.tree 0) = ["é[b]ü".toList, "∑$latex ß$é".toList, "€".toList, "€".toList]) ∧
      ∃ s, rewriteMathAt 64 accentedPage 0 = .ok s ∧
        texts (s.tree 0) = ["é[[b]]ü[b k=\"ö\"]∑".toList, "ß".toList, "é".toList, "€[/b]€".toList] := by
  have hs : accentedPage.WellFormed := ⟨_, (Store.holds_empty.appendNew (by decide) _).appendNew (by decide) _⟩
  have hroot : 0 < accentedPage.size := by decide
  have hlimit : (accentedPage.numbered 0).bulk < 64 := by decide +kernel
  obtain ⟨-, -, hscan, htree⟩ := offsets_of_rewriting ⟨[("b", true)]⟩
  obtain ⟨hrewrite, hmath⟩ := htree accentedPage 0 64 hs hroot hlimit
  have hfound : (scan ⟨[("b", true)]⟩ "é[[b]]ü[b k=\"ö\"]".toList).found =
      ("é[b]ü[b k=\"ö\"]".toList, some ⟨7, 17, ['b'], true, false, [(['k'], ['ö'])]⟩) := by decide +kernel
  have hok : (outcome (rewrite ⟨[("b", true)]⟩ 0) accentedPage).1 = .ok () := by decide +kernel
  refine ⟨hs, hroot, hlimit, ?_, ⟨(outcome (rewrite ⟨[("b", true)]⟩ 0) accentedPage).2, ?_, ?_⟩,
    rewriteMath accentedPage 0, hmath, ?_⟩
  · rw [hscan _ 64 (by decide), hfound]
  · rw [hrewrite, ← hok]
  · decide +kernel
  · decide +kernel

end BlogMarkdown.Shortcode
