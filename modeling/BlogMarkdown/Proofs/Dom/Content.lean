import BlogMarkdown.Proofs.Dom.EmptyTexts
/-!
# The content below a node

What stands below a node, read in document order: the characters of the texts, where each element begins and ends, and
the other nodes as a whole.  How a text is cut into nodes makes no difference here, and neither do empty texts.  What
stands below a text comes behind its characters, or it is left out.  The elements made since the store had a certain
size are not listed; two words stand where such an element begins and ends.  Of the texts alone a tree has a list.
-/
namespace BlogMarkdown.Dom

/-- One thing below a node. -/
inductive Part where
  | char (c : Char)
  | enter (id : NodeId) (data : NodeData)
  | leave (id : NodeId)
  | leaf (t : Numbered)

namespace Numbered

/-- What is listed of the nodes below a text: each of them as a whole, or nothing. -/
def hanging (whole : Bool) (children : List Numbered) : List Part := if whole then children.map .leaf else []

mutual
/-- A child in document order, where `start` and `stop` stand for the two ends of an element made since there were
`size` nodes. -/
def spelled (whole : Bool) (size : Nat) (start stop : List Char) : Numbered → List Part
  | .node id data children =>
    match data with
    | .text content => content.map .char ++ hanging whole children
    | .element _ _ =>
      if id < size then .enter id data :: (spelledAll whole size start stop children ++ [.leave id])
      else start.map .char ++ spelledAll whole size start stop children ++ stop.map .char
    | _ => [.leaf (.node id data children)]
def spelledAll (whole : Bool) (size : Nat) (start stop : List Char) : List Numbered → List Part
  | [] => []
  | t :: rest => spelled whole size start stop t ++ spelledAll whole size start stop rest
end

/-- What stands below the root of a tree, up to its end. -/
def inside (whole : Bool) (size : Nat) (start stop : List Char) (t : Numbered) : List Part :=
  spelledAll whole size start stop t.children ++ [.leave t.id]

variable {whole : Bool} {size : Nat} {start stop : List Char}

theorem hanging_nil : ∀ whole : Bool, hanging whole [] = []
  | true => rfl
  | false => rfl

theorem eq_leaf_of_mem_hanging {p : Part} : ∀ {whole : Bool} {children : List Numbered}, p ∈ hanging whole children →
    ∃ t, p = .leaf t
  | true, _, h => by
    obtain ⟨t, -, rfl⟩ := List.mem_map.1 h
    exact ⟨t, rfl⟩

theorem spelledAll_append : ∀ ts us : List Numbered, spelledAll whole size start stop (ts ++ us) =
    spelledAll whole size start stop ts ++ spelledAll whole size start stop us
  | [], _ => rfl
  | t :: ts, us => by rw [List.cons_append, spelledAll, spelledAll_append ts us, spelledAll, List.append_assoc]

theorem spelledAll_singleton (t : Numbered) : spelledAll whole size start stop [t] = spelled whole size start stop t :=
  List.append_nil _

theorem spelled_text (id : NodeId) (content : List Char) (below : List Numbered) :
    spelled whole size start stop (.node id (.text content) below) = content.map .char ++ hanging whole below := rfl

theorem spelled_text_alone (id : NodeId) (content : List Char) (below : List Numbered) :
    spelled false size start stop (.node id (.text content) below) = content.map .char := List.append_nil _

theorem spelled_old {id : NodeId} (hid : id < size) (name : ElementName) (attributes : List Attribute)
    (children : List Numbered) : spelled whole size start stop (.node id (.element name attributes) children) =
      .enter id (.element name attributes) :: (spelledAll whole size start stop children ++ [.leave id]) := by
  rw [spelled]
  exact if_pos hid

theorem spelled_new {id : NodeId} (hid : size ≤ id) (name : ElementName) (attributes : List Attribute)
    (children : List Numbered) : spelled whole size start stop (.node id (.element name attributes) children) =
      start.map .char ++ spelledAll whole size start stop children ++ stop.map .char := by
  rw [spelled]
  exact if_neg (Nat.not_lt.2 hid)

/-- Nothing is listed below an empty text. -/
def Light (whole : Bool) (ts : List Numbered) : Prop :=
  ∀ y ∈ textNodesAll ts, y.data.isEmptyText = true → hanging whole y.children = []

theorem light_append {ts us : List Numbered} : Light whole (ts ++ us) ↔ Light whole ts ∧ Light whole us := by
  rw [Light, textNodesAll_append, List.forall_mem_append]
  rfl

mutual
/-- **Empty texts are no part of the content.** -/
theorem spelled_withoutEmptyTexts : ∀ {t : Numbered}, Light whole [t] →
    spelled whole size start stop (if t.data.isElement then t.withoutEmptyTexts else t) =
      spelled whole size start stop t
  | .node id data children, h => by
    cases data with
    | element name attributes =>
      rw [Light, textNodesAll_of_isElement rfl] at h
      show spelled whole size start stop (.node id (.element name attributes) (dropEmptyTexts children)) = _
      rw [spelled, spelled]
      simp only [spelledAll_dropEmptyTexts h]
    | _ => rfl
theorem spelledAll_dropEmptyTexts : ∀ {ts : List Numbered}, Light whole ts →
    spelledAll whole size start stop (dropEmptyTexts ts) = spelledAll whole size start stop ts
  | [], _ => rfl
  | t :: rest, h => by
    have hsplit : Light whole ([t] ++ rest) := h
    obtain ⟨ht, hlight⟩ := light_append.1 hsplit
    have hrest := spelledAll_dropEmptyTexts hlight
    rw [dropEmptyTexts, spelledAll]
    by_cases hempty : t.data.isEmptyText = true
    · obtain ⟨id, data, children⟩ := t
      have hspelled : spelled whole size start stop (.node id data children) = [] := by
        cases data with
        | text content =>
          have hbelow : hanging whole children = [] := ht _ List.mem_cons_self hempty
          rw [spelled_text, List.isEmpty_iff.1 hempty, hbelow]
          rfl
        | _ => cases hempty
      rw [if_pos hempty, hspelled, hrest, List.nil_append]
    · rw [if_neg hempty, spelledAll, hrest, spelled_withoutEmptyTexts ht]
end

theorem inside_withoutEmptyTexts : ∀ {t : Numbered}, Light whole t.children →
    inside whole size start stop t.withoutEmptyTexts = inside whole size start stop t
  | .node id _ children, h => by
    have hlight : Light whole children := h
    exact congrArg (· ++ [Part.leave id]) (spelledAll_dropEmptyTexts hlight)

end Numbered

/-! ## The texts of a tree -/

mutual
/-- The texts right below the root, and right below the elements to which only elements lead. -/
def texts : Tree → List (List Char)
  | .node _ children => textsAll children
def textsAll : List Tree → List (List Char)
  | [] => []
  | t :: rest =>
    (match t.data with
      | .text content => [content]
      | .element _ _ => texts t
      | _ => []) ++ textsAll rest
end

theorem textsAll_append : ∀ ts us : List Tree, textsAll (ts ++ us) = textsAll ts ++ textsAll us
  | [], _ => rfl
  | t :: ts, us => by rw [List.cons_append, textsAll, textsAll_append ts us, textsAll, List.append_assoc]

theorem textsAll_cons (t : Tree) (rest : List Tree) : textsAll (t :: rest) = textsAll [t] ++ textsAll rest :=
  textsAll_append [t] rest

theorem textsAll_of_isElement : ∀ {t : Tree}, t.data.isElement = true → textsAll [t] = texts t
  | .node (.element _ _) _, _ => List.append_nil _

theorem textsAll_of_other {t : Tree} (he : t.data.isElement = false) (hx : t.data.isText = false) :
    textsAll [t] = [] := by
  obtain ⟨data, children⟩ := t
  cases data with
  | text => cases hx
  | element => cases he
  | _ => rfl

mutual
theorem texts_withoutEmptyTexts : ∀ t : Tree, texts t.withoutEmptyTexts = (texts t).filter (· ≠ [])
  | .node _ children => textsAll_dropEmptyTexts children
theorem textsAll_dropEmptyTexts : ∀ ts : List Tree, textsAll (dropEmptyTexts ts) = (textsAll ts).filter (· ≠ [])
  | [] => rfl
  | .node data children :: rest => by
    rw [dropEmptyTexts, textsAll, List.filter_append, ← textsAll_dropEmptyTexts rest]
    cases data with
    | text content =>
      cases content with
      | nil => rfl
      | cons c content => rfl
    | element name attributes =>
      have ht := texts_withoutEmptyTexts (.node (.element name attributes) children)
      exact congrArg (· ++ textsAll (dropEmptyTexts rest)) ht
    | _ => rfl
end

end BlogMarkdown.Dom
