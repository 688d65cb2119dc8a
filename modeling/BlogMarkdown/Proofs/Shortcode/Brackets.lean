import BlogMarkdown.Dom.Tree
import BlogMarkdown.Shortcode.Rewrite
/-!
# Tags as brackets

The children of a node are read as tokens: trees, and the tags between them.  `Bracketed` is the grammar that says which
sequences of tokens match as brackets, and to what trees.  Reading from left to right with a stack of open tags follows
the grammar: it ends with nothing open exactly for the sequences that match, and gives their trees.
-/
namespace BlogMarkdown.Shortcode

open Dom

/-- A tree, or a tag in a text. -/
inductive Token where
  | tree (t : Tree)
  | tag (g : Tag)

namespace Tag

/-- What the element for a tag holds. -/
def data (g : Tag) : NodeData := .element (.shortcode (String.ofList g.name)) (elementAttributes g.attributes)

def element (g : Tag) (children : List Tree) : Tree := .node g.data children

/-- What is wrong with a closing tag that does not close the innermost open tag. -/
def unexpected (g : Tag) : Error := .unexpectedClosingShortcode (String.ofList g.name)

end Tag

/-- **Tokens that match as brackets, and the trees they are.**  A tag that also closes is complete by itself; else it
goes with the tag that closes it, and the tokens between the two are the children of its element. -/
inductive Bracketed : List Token → List Tree → Prop where
  | nil : Bracketed [] []
  | tree (t : Tree) {ts : List Token} {us : List Tree} : Bracketed ts us → Bracketed (.tree t :: ts) (t :: us)
  | single {g : Tag} {ts : List Token} {us : List Tree} : g.opens = true → g.closes = true → Bracketed ts us →
    Bracketed (.tag g :: ts) (g.element [] :: us)
  | pair {o c : Tag} {inner ts : List Token} {children us : List Tree} : o.opens = true → o.closes = false →
    c.opens = false → o.name = c.name → Bracketed inner children → Bracketed ts us →
    Bracketed (.tag o :: (inner ++ .tag c :: ts)) (o.element children :: us)

/-- An open tag, and the trees before it in the list it stands in. -/
structure Open where
  tag : Tag
  before : List Tree

/-- What a tag does to the open tags, and to the content of the innermost of them. -/
def meet (levels : List Open) (content : List Tree) (g : Tag) : Except Error (List Open × List Tree) :=
  if g.opens then
    if g.closes then .ok (levels, content ++ [g.element []]) else .ok (⟨g, content⟩ :: levels, [])
  else match levels with
    | l :: outer =>
      if l.tag.name = g.name then .ok (outer, l.before ++ [l.tag.element content]) else .error g.unexpected
    | [] => .error g.unexpected

/-- Reads tokens from left to right. -/
def read (levels : List Open) (content : List Tree) : List Token → Except Error (List Open × List Tree)
  | [] => .ok (levels, content)
  | .tree t :: ts => read levels (content ++ [t]) ts
  | .tag g :: ts => (meet levels content g).bind fun r => read r.1 r.2 ts

theorem meet_single {levels : List Open} {content : List Tree} {g : Tag} (ho : g.opens = true) (hc : g.closes = true) :
    meet levels content g = .ok (levels, content ++ [g.element []]) := by
  unfold meet
  rw [if_pos ho, if_pos hc]

theorem meet_opening {levels : List Open} {content : List Tree} {g : Tag} (ho : g.opens = true)
    (hc : g.closes = false) : meet levels content g = .ok (⟨g, content⟩ :: levels, []) := by
  unfold meet
  rw [if_pos ho, if_neg (by rw [hc]; exact Bool.false_ne_true)]

theorem meet_closing {l : Open} {outer : List Open} {content : List Tree} {g : Tag} (ho : g.opens = false)
    (hname : l.tag.name = g.name) : meet (l :: outer) content g = .ok (outer, l.before ++ [l.tag.element content]) := by
  rw [meet, if_neg (by rw [ho]; exact Bool.false_ne_true)]
  exact if_pos hname

/-- The three ways in which a tag nests. -/
theorem cases_of_meet {levels : List Open} {content : List Tree} {g : Tag} {r : List Open × List Tree}
    (h : meet levels content g = .ok r) :
    (g.opens = true ∧ g.closes = true ∧ r = (levels, content ++ [g.element []])) ∨
      (g.opens = true ∧ g.closes = false ∧ r = (⟨g, content⟩ :: levels, [])) ∨
      ∃ l outer, g.opens = false ∧ l.tag.name = g.name ∧ levels = l :: outer ∧
        r = (outer, l.before ++ [l.tag.element content]) := by
  unfold meet at h
  split at h
  · rename_i ho
    split at h
    · rename_i hc
      cases h
      exact .inl ⟨ho, hc, rfl⟩
    · rename_i hc
      cases h
      exact .inr (.inl ⟨ho, by simpa using hc, rfl⟩)
  · rename_i ho
    split at h
    · rename_i l outer
      split at h
      · rename_i hname
        cases h
        exact .inr (.inr ⟨l, outer, by simpa using ho, hname, rfl, rfl⟩)
      · cases h
    · cases h

/-! ## Reading follows the grammar -/

/-- **Tokens that match leave the open tags as they were**, and their trees behind the content. -/
theorem Bracketed.read_append {ts : List Token} {us : List Tree} (h : Bracketed ts us) (levels : List Open)
    (content : List Tree) (rest : List Token) :
    read levels content (ts ++ rest) = read levels (content ++ us) rest := by
  induction h generalizing levels content rest with
  | nil => rw [List.nil_append, List.append_nil]
  | tree t _ ih => rw [List.cons_append, read, ih, List.append_assoc, List.singleton_append]
  | single ho hc _ ih =>
    rw [List.cons_append, read, meet_single ho hc]
    show read _ _ _ = _
    rw [ih, List.append_assoc, List.singleton_append]
  | pair ho hc hc' hname _ _ ihInner ih =>
    rw [List.cons_append, read, meet_opening ho hc]
    show read _ _ _ = _
    rw [List.append_assoc, ihInner, List.cons_append, read, meet_closing hc' hname]
    show read _ _ _ = _
    rw [ih, List.nil_append, List.append_assoc, List.singleton_append]

theorem Bracketed.append {ts₁ ts₂ : List Token} {us₁ us₂ : List Tree} (h₁ : Bracketed ts₁ us₁)
    (h₂ : Bracketed ts₂ us₂) : Bracketed (ts₁ ++ ts₂) (us₁ ++ us₂) := by
  induction h₁ with
  | nil => exact h₂
  | tree t _ ih => exact .tree t ih
  | single ho hc _ ih => exact .single ho hc ih
  | pair ho hc hc' hname hinner _ _ ih =>
    rw [List.cons_append, List.append_assoc, List.cons_append]
    exact .pair ho hc hc' hname hinner ih

/-- What the tokens read so far are, if they leave these tags open and this content in the innermost of them. -/
def Leaves (ts : List Token) (content : List Tree) : List Open → Prop
  | [] => Bracketed ts content
  | l :: outer => ∃ first inner, ts = first ++ .tag l.tag :: inner ∧ l.tag.opens = true ∧ l.tag.closes = false ∧
    Leaves first l.before outer ∧ Bracketed inner content

theorem Leaves.append {ts us : List Token} {content vs : List Tree} (h : Bracketed us vs) :
    ∀ {levels : List Open}, Leaves ts content levels → Leaves (ts ++ us) (content ++ vs) levels
  | [], hl => Bracketed.append hl h
  | _ :: _, ⟨first, inner, hts, ho, hc, hfirst, hinner⟩ =>
    ⟨first, inner ++ us, by rw [hts, List.append_assoc, List.cons_append], ho, hc, hfirst, hinner.append h⟩

/-- **What has been read is what the state says.** -/
theorem leaves_of_read : ∀ {ts past : List Token} {levels levels' : List Open} {content content' : List Tree},
    read levels content ts = .ok (levels', content') → Leaves past content levels → Leaves (past ++ ts) content' levels'
  | [], past, levels, levels', content, content', h, hl => by
    cases h
    rwa [List.append_nil]
  | .tree t :: ts, past, levels, levels', content, content', h, hl => by
    rw [List.append_cons]
    exact leaves_of_read h (hl.append (.tree t .nil))
  | .tag g :: ts, past, levels, levels', content, content', h, hl => by
    rw [List.append_cons]
    rw [read] at h
    cases hm : meet levels content g with
    | error e => rw [hm] at h; cases h
    | ok r =>
      rw [hm] at h
      have hr : Leaves (past ++ [.tag g]) r.2 r.1 := by
        rcases cases_of_meet hm with ⟨ho, hc, rfl⟩ | ⟨ho, hc, rfl⟩ | ⟨l, outer, ho, hname, rfl, rfl⟩
        · exact hl.append (.single ho hc .nil)
        · exact ⟨past, [], rfl, ho, hc, hl, .nil⟩
        · obtain ⟨first, inner, rfl, hoo, hoc, hfirst, hinner⟩ := hl
          rw [List.append_assoc, List.cons_append]
          exact hfirst.append (.pair hoo hoc ho hname hinner .nil)
      exact leaves_of_read h hr

theorem bracketed_iff_read {ts : List Token} {us : List Tree} : Bracketed ts us ↔ read [] [] ts = .ok ([], us) := by
  constructor
  · intro h
    have := h.read_append [] [] []
    rwa [List.append_nil, List.nil_append] at this
  · intro h
    have hstart : Leaves [] [] [] := .nil
    exact leaves_of_read h hstart

/-- **Tokens match in at most one way.** -/
theorem Bracketed.unique {ts : List Token} {us vs : List Tree} (hu : Bracketed ts us) (hv : Bracketed ts vs) :
    us = vs := by
  rw [bracketed_iff_read] at hu hv
  rw [hu] at hv
  cases hv
  rfl

end BlogMarkdown.Shortcode
