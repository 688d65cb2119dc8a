import BlogMarkdown.Proofs.Export.OpenElements
/-!
# Elements and their records

A document that closes all it opens is a forest of elements.  Collecting records from its events comes to going through
the forest: each element of the name becomes a record, and the elements right in it are the fields, whose values are the
texts in them.
-/
namespace BlogMarkdown.Export

open Xml

/-- What a document holds at one place. -/
inductive Node where
  | element (name : String) (content : List Node)
  /-- An element written as one tag. -/
  | empty (name : String)
  | text (content : List Char)
  | reference (name : List Char)
  /-- A comment, a processing instruction or a declaration. -/
  | other

mutual
/-- The events of a node. -/
def Node.events : Node → List Event
  | .element name content => .start name :: (eventsOf content ++ [.stop])
  | .empty name => [.empty name]
  | .text content => [.text content]
  | .reference name => [.reference name]
  | .other => [.other]
/-- The events of some nodes. -/
def eventsOf : List Node → List Event
  | [] => []
  | node :: nodes => node.events ++ eventsOf nodes
end

mutual
/-- What the elements of a name hold that are in a node, in the order of the document. -/
def Node.contentsOf (name : String) : Node → List (List Node)
  | .element own content => if own = name then content :: contentsOf name content else contentsOf name content
  | _ => []
@[inherit_doc Node.contentsOf]
def contentsOf (name : String) : List Node → List (List Node)
  | [] => []
  | node :: nodes => node.contentsOf name ++ contentsOf name nodes
end

/-- The text of a node itself.  A reference that stands for nothing known is kept as it is. -/
def Node.ownText : Node → List Char
  | .text content => content
  | .reference name => referenceText name
  | _ => []

/-- All text right in an element. -/
def valueOf (content : List Node) : List Char := content.flatMap Node.ownText

/-- The name and the value of a node that is an element with a start and an end. -/
def Node.field? : Node → Option (String × List Char)
  | .element name content => some (name, valueOf content)
  | _ => none

/-- The elements right in an element, with their values, in order. -/
def fieldsOf (content : List Node) : List (String × List Char) := content.filterMap Node.field?

/-- Whether there is no element among some nodes. -/
def isPlain (content : List Node) : Bool :=
  content.all fun
    | .element _ _ | .empty _ => false
    | _ => true

/-- Whether a node holds no elements if it is one of some fields. -/
def Node.suits (fields : List String) : Node → Bool
  | .element name inner => !fields.contains name || isPlain inner
  | _ => true

/-! ## Events that nest -/

/-- The events of some nodes, and of others behind each closing tag that follows them. -/
def eventsAcross (nodes : List Node) : List (List Node) → List Event
  | [] => eventsOf nodes
  | outer :: more => eventsOf nodes ++ .stop :: eventsAcross outer more

theorem eventsAcross_cons (node : Node) (nodes : List Node) : ∀ more : List (List Node),
    eventsAcross (node :: nodes) more = node.events ++ eventsAcross nodes more
  | [] => rfl
  | _ :: _ => List.append_assoc _ _ _

theorem exists_eventsAcross : ∀ {es : List Event} {path : List String}, es.foldlM opened? path = some [] →
    ∃ nodes more, more.length = path.length ∧ eventsAcross nodes more = es
  | [], path, h => by
    obtain rfl : path = [] := Option.some.inj h
    exact ⟨[], [], rfl, rfl⟩
  | e :: es, path, h => by
    obtain ⟨behind, hbehind, h⟩ := Option.bind_eq_some_iff.1 h
    obtain ⟨nodes, more, hlength, rfl⟩ := exists_eventsAcross h
    have hnode (node : Node) (hpath : path = behind) : ∃ nodes' more', more'.length = path.length ∧
        eventsAcross nodes' more' = node.events ++ eventsAcross nodes more :=
      ⟨node :: nodes, more, hpath ▸ hlength, eventsAcross_cons node nodes more⟩
    cases e with
    | start name =>
      cases hbehind
      obtain ⟨outer, more, rfl⟩ := List.exists_cons_of_length_eq_add_one hlength
      refine ⟨.element name nodes :: outer, more, Nat.succ.inj hlength, ?_⟩
      rw [eventsAcross_cons, Node.events, eventsAcross, List.cons_append, List.append_assoc]
      rfl
    | stop =>
      cases path with
      | nil => cases hbehind
      | cons name path =>
        obtain rfl := Option.some.inj hbehind
        exact ⟨[], nodes :: more, congrArg Nat.succ hlength, rfl⟩
    | empty name => exact hnode (.empty name) (Option.some.inj hbehind)
    | text content => exact hnode (.text content) (Option.some.inj hbehind)
    | reference name => exact hnode (.reference name) (Option.some.inj hbehind)
    | other => exact hnode .other (Option.some.inj hbehind)
    | fault => cases hbehind

/-- **Events that close all they open are those of a forest.** -/
theorem exists_eventsOf {es : List Event} (h : openBehind? es = some []) : ∃ forest, eventsOf forest = es := by
  obtain ⟨forest, more, hlength, rfl⟩ := exists_eventsAcross h
  obtain rfl := List.eq_nil_of_length_eq_zero hlength
  exact ⟨forest, rfl⟩

/-! ## Collecting from a forest -/

/-- The text since the last tag behind a node. -/
def Node.textBehind (text : List Char) : Node → List Char
  | .element _ _ => []
  | .text content => content.reverseAux text
  | .reference name => (referenceText name).reverseAux text
  | _ => text

theorem foldl_textBehind : ∀ {content : List Node} (text : List Char), isPlain content = true →
    content.foldl Node.textBehind text = (valueOf content).reverseAux text
  | [], _, _ => rfl
  | node :: content, text, h => by
    obtain ⟨hnode, hcontent⟩ := Bool.and_eq_true_iff.1 h
    rw [List.foldl_cons, foldl_textBehind _ hcontent, valueOf, valueOf, List.flatMap_cons]
    cases node with
    | element | empty => cases hnode
    | _ => simp [Node.textBehind, Node.ownText, List.reverseAux_eq]

namespace Collector

variable {α : Type} (c : Collector α)

/-- The record with some fields set, one after the other. -/
def setFields (record : α) (fields : List (String × List Char)) : Except Error α :=
  fields.foldlM (fun record field => c.setField record field.1 field.2) record

theorem setFields_append (record : α) (fields more : List (String × List Char)) :
    c.setFields record (fields ++ more) = c.setFields record fields >>= (c.setFields · more) := List.foldlM_append ..

/-- The record of an element that holds some nodes. -/
def record (content : List Node) : Except Error α := c.setFields c.initial (fieldsOf content)

/-- No element of the name is in another one, and an element that is a field of a record holds no elements. -/
def Fits (forest : List Node) : Prop :=
  ∀ content ∈ contentsOf c.name forest, (contentsOf c.name content).isEmpty = true ∧
    ∀ node ∈ content, node.suits c.fields = true

instance (forest : List Node) : Decidable (c.Fits forest) :=
  inferInstanceAs (Decidable (∀ content ∈ contentsOf c.name forest, (contentsOf c.name content).isEmpty = true ∧
    ∀ node ∈ content, node.suits c.fields = true))

variable {c}

theorem foldlM_node (node : Node) (nodes : List Node) (s : Collected α) :
    (eventsOf (node :: nodes)).foldlM c.step s = node.events.foldlM c.step s >>= (eventsOf nodes).foldlM c.step := by
  rw [eventsOf, List.foldlM_append]

theorem foldlM_element (name : String) (content : List Node) (s : Collected α) :
    (Node.element name content).events.foldlM c.step s =
      (eventsOf content).foldlM c.step ⟨s.done, if name = c.name then some c.initial else s.slot, name :: s.path, []⟩ >>=
        (c.step · .stop) := by
  have hstop (after : Collected α) : [Event.stop].foldlM c.step after = c.step after .stop := by
    rw [List.foldlM_cons]
    exact bind_pure _
  rw [Node.events, List.foldlM_cons]
  refine (List.foldlM_append ..).trans ?_
  exact bind_congr hstop

theorem contentsOf_cons_eq_nil {name : String} {node : Node} {nodes : List Node} :
    contentsOf name (node :: nodes) = [] ↔ node.contentsOf name = [] ∧ contentsOf name nodes = [] := by
  rw [contentsOf, List.append_eq_nil_iff]

theorem contentsOf_element_eq_nil {name own : String} {content : List Node} :
    (Node.element own content).contentsOf name = [] ↔ own ≠ name ∧ contentsOf name content = [] := by
  rw [Node.contentsOf]
  split <;> simp [*]

mutual
/-- Deeper in a record, nothing changes but the text since the last tag. -/
theorem foldlM_passing_node : ∀ (node : Node) (s : Collected α), node.contentsOf c.name = [] →
    s.path.head?.getD "" ≠ c.name → node.events.foldlM c.step s = .ok { s with text := node.textBehind s.text }
  | .element name content, ⟨done, slot, path, text⟩, hnode, hparent => by
    obtain ⟨hname, hcontent⟩ := contentsOf_element_eq_nil.1 hnode
    have hclose : c.close ⟨done, slot, path, []⟩ (path.head?.getD "") name (content.foldl Node.textBehind []).reverse =
        .ok ⟨done, slot, path, []⟩ := by
      cases slot with
      | none => rfl
      | some record =>
        unfold close
        dsimp only
        rw [if_neg hname, if_neg hparent]
    rw [foldlM_element, if_neg hname, foldlM_passing content ⟨done, slot, name :: path, []⟩ hcontent hname]
    exact hclose
  | .empty _, _, _, _ => rfl
  | .text _, _, _, _ => rfl
  | .reference _, _, _, _ => rfl
  | .other, _, _, _ => rfl

theorem foldlM_passing : ∀ (nodes : List Node) (s : Collected α), contentsOf c.name nodes = [] →
    s.path.head?.getD "" ≠ c.name →
    (eventsOf nodes).foldlM c.step s = .ok { s with text := nodes.foldl Node.textBehind s.text }
  | [], _, _, _ => rfl
  | node :: nodes, s, hnodes, hparent => by
    obtain ⟨hnode, hnodes⟩ := contentsOf_cons_eq_nil.1 hnodes
    rw [foldlM_node, foldlM_passing_node node s hnode hparent]
    exact foldlM_passing nodes { s with text := node.textBehind s.text } hnodes hparent
end

/-- Right in a record, an element sets a field. -/
theorem foldlM_recording_node {node : Node} {done : List α} {record : α} {path : List String} {text : List Char}
    (hparent : path.head?.getD "" = c.name) (hnode : node.contentsOf c.name = [])
    (hsuits : node.suits c.fields = true) :
    node.events.foldlM c.step ⟨done, some record, path, text⟩ =
      (c.setFields record node.field?.toList).map fun record => ⟨done, some record, path, node.textBehind text⟩ := by
  cases node with
  | element name inner =>
    obtain ⟨hname, hcontent⟩ := contentsOf_element_eq_nil.1 hnode
    -- the value matters for a field only, and there it is all the text in the element
    have hvalue : c.setField record name (inner.foldl Node.textBehind []).reverse =
        c.setField record name (valueOf inner) := by
      by_cases hfield : name ∈ c.fields
      · have hplain : isPlain inner = true := by simpa [Node.suits, hfield] using hsuits
        rw [foldl_textBehind [] hplain, List.reverseAux_eq, List.append_nil, List.reverse_reverse]
      · rw [c.setField_of_not_mem record _ hfield, c.setField_of_not_mem record _ hfield]
    have hclose : c.close ⟨done, some record, path, []⟩ (path.head?.getD "") name
        (inner.foldl Node.textBehind []).reverse =
        (c.setField record name (valueOf inner)).map fun record => ⟨done, some record, path, []⟩ := by
      unfold close
      dsimp only
      rw [if_neg hname, if_pos hparent, hvalue]
    have hfields : c.setFields record (Node.element name inner).field?.toList =
        c.setField record name (valueOf inner) := bind_pure _
    have hinner := foldlM_passing inner ⟨done, some record, name :: path, []⟩ hcontent hname
    rw [foldlM_element, if_neg hname, hinner, hfields]
    exact hclose
  | _ => rfl

theorem foldlM_recording : ∀ {nodes : List Node} {done : List α} {record : α} {path : List String} {text : List Char},
    path.head?.getD "" = c.name → contentsOf c.name nodes = [] → (∀ node ∈ nodes, node.suits c.fields = true) →
    (eventsOf nodes).foldlM c.step ⟨done, some record, path, text⟩ =
      (c.setFields record (fieldsOf nodes)).map fun record =>
        ⟨done, some record, path, nodes.foldl Node.textBehind text⟩
  | [], _, _, _, _, _, _, _ => rfl
  | node :: nodes, done, record, path, text, hparent, hnodes, hsuits => by
    obtain ⟨hnode, hnodes⟩ := contentsOf_cons_eq_nil.1 hnodes
    obtain ⟨hsuits, hsuits'⟩ := List.forall_mem_cons.1 hsuits
    have hfields : fieldsOf (node :: nodes) = node.field?.toList ++ fieldsOf nodes := by
      rw [fieldsOf, List.filterMap_cons]
      cases node.field? <;> rfl
    rw [foldlM_node, foldlM_recording_node hparent hnode hsuits, hfields, setFields_append]
    cases c.setFields record node.field?.toList with
    | error e => rfl
    | ok record => exact foldlM_recording hparent hnodes hsuits'

theorem fits_cons {node : Node} {nodes : List Node} (h : c.Fits (node :: nodes)) : c.Fits [node] ∧ c.Fits nodes := by
  refine ⟨fun content hcontent => h content ?_, fun content hcontent => h content (List.mem_append_right _ hcontent)⟩
  rw [contentsOf, contentsOf, List.append_nil] at hcontent
  exact List.mem_append_left _ hcontent

theorem map_no_records (done : List α) (path : List String) (text : List Char) :
    (Except.ok ⟨done, none, path, text⟩ : Except Error (Collected α)) =
      (Except.ok []).map fun records => ⟨done ++ records, none, path, text⟩ := by
  rw [Except.map, List.append_nil]

mutual
/-- Outside of records, each element of the name becomes a record. -/
theorem foldlM_collecting_node : ∀ (node : Node) (done : List α) (path : List String) (text : List Char),
    c.Fits [node] → node.events.foldlM c.step ⟨done, none, path, text⟩ = ((node.contentsOf c.name).mapM c.record).map fun records =>
      ⟨done ++ records, none, path, node.textBehind text⟩
  | .element name content, done, path, text, hfits => by
    rw [foldlM_element, Node.contentsOf]
    by_cases hname : name = c.name
    · have hmem : content ∈ contentsOf c.name [.element name content] := by
        rw [contentsOf, Node.contentsOf, if_pos hname]
        exact List.mem_cons_self
      obtain ⟨hcontent, hsuits⟩ := hfits content hmem
      have hcontent := List.isEmpty_iff.1 hcontent
      have hparent : (name :: path).head?.getD "" = c.name := hname
      rw [if_pos hname, if_pos hname, hcontent, foldlM_recording hparent hcontent hsuits, List.mapM_cons, ← record]
      cases c.record content with
      | error e => rfl
      | ok record =>
        have hclose : c.close ⟨done, some record, path, []⟩ (path.head?.getD "") name
            (content.foldl Node.textBehind []).reverse = .ok ⟨done ++ [record], none, path, []⟩ := if_pos hname
        exact hclose
    · have hfits : c.Fits content := fun inner hinner => hfits inner <| by
        rw [contentsOf, Node.contentsOf, if_neg hname]
        exact List.mem_append_left _ hinner
      rw [if_neg hname, if_neg hname, foldlM_collecting content done (name :: path) [] hfits]
      cases (contentsOf c.name content).mapM c.record <;> rfl
  | .empty _, _, _, _, _ => map_no_records _ _ _
  | .text _, _, _, _, _ => map_no_records _ _ _
  | .reference _, _, _, _, _ => map_no_records _ _ _
  | .other, _, _, _, _ => map_no_records _ _ _

theorem foldlM_collecting : ∀ (nodes : List Node) (done : List α) (path : List String) (text : List Char),
    c.Fits nodes → (eventsOf nodes).foldlM c.step ⟨done, none, path, text⟩ =
      ((contentsOf c.name nodes).mapM c.record).map fun records =>
        ⟨done ++ records, none, path, nodes.foldl Node.textBehind text⟩
  | [], _, _, _, _ => map_no_records _ _ _
  | node :: nodes, done, path, text, hfits => by
    obtain ⟨hnode, hnodes⟩ := fits_cons hfits
    rw [foldlM_node, foldlM_collecting_node node done path text hnode, contentsOf, List.mapM_append]
    cases (node.contentsOf c.name).mapM c.record with
    | error e => rfl
    | ok records =>
      refine (foldlM_collecting nodes (done ++ records) path (node.textBehind text) hnodes).trans ?_
      rw [List.foldl_cons]
      cases (contentsOf c.name nodes).mapM c.record with
      | error e => rfl
      | ok more =>
        refine congrArg Except.ok ?_
        dsimp only
        rw [List.append_assoc]
end

/-- **The records of a forest** are those of the elements of the name, in the order of the document. -/
theorem collect_eventsOf {forest : List Node} (h : c.Fits forest) :
    c.collect (eventsOf forest) = (contentsOf c.name forest).mapM c.record := by
  rw [collect, foldlM_collecting forest [] [] [] h]
  cases (contentsOf c.name forest).mapM c.record <;> rfl

end Collector

end BlogMarkdown.Export
