import BlogMarkdown.Proofs.Dom.EmptyTexts
import BlogMarkdown.Proofs.Shortcode.Brackets
import BlogMarkdown.Proofs.Shortcode.Reading
import Mathlib.Data.List.Perm.Basic
/-!
# The rewriting as a relation on trees

`Rewritten` says what rewriting the shortcodes of a tree means, without an order of steps: the children of a node are
read as tokens, where each text is cut at its tags, and the tokens are matched as brackets.  A tree has at most one
rewriting.  What it holds besides the new elements is what the tree held, in the same order (`Rewritten.sublist`,
`Rewritten.perm`).
-/
namespace BlogMarkdown.Shortcode

open Dom

variable {registry : Registry}

/-! ## The relation -/

/-- The first piece of a text, with what is below the text, and the other pieces, each behind its tag. -/
def pieceTokens (read : List Char × List (Tag × List Char)) (below : List Tree) : List Token :=
  .tree (.node (.text read.1) below) :: read.2.flatMap fun p => [.tag p.1, .tree (.node (.text p.2) [])]

def textTokens (registry : Registry) (content : List Char) (below : List Tree) : List Token :=
  pieceTokens (pieces (marks registry content)) below

mutual
/-- **A node and its rewriting.** -/
inductive Rewritten (registry : Registry) : Tree → Tree → Prop where
  | node {data : NodeData} {children us : List Tree} {ts : List Token} : Tokens registry children ts →
    Bracketed ts us → Rewritten registry (.node data children) (.node data us)
/-- The children of a node as tokens: texts are cut at their tags, elements are rewritten, and other nodes stay. -/
inductive Tokens (registry : Registry) : List Tree → List Token → Prop where
  | nil : Tokens registry [] []
  | text {content : List Char} {below rest : List Tree} {ts : List Token} : Tokens registry rest ts →
    Tokens registry (.node (.text content) below :: rest) (textTokens registry content below ++ ts)
  | element {t u : Tree} {rest : List Tree} {ts : List Token} : t.data.isElement = true → Rewritten registry t u →
    Tokens registry rest ts → Tokens registry (t :: rest) (.tree u :: ts)
  | other {t : Tree} {rest : List Tree} {ts : List Token} : t.data.isElement = false → t.data.isText = false →
    Tokens registry rest ts → Tokens registry (t :: rest) (.tree t :: ts)
end

mutual
/-- **A tree has at most one rewriting.** -/
theorem Rewritten.unique : ∀ {t u v : Tree}, Rewritten registry t u → Rewritten registry t v → u = v
  | .node _ _, _, _, .node htu hbu, .node htv hbv => by
    have := Tokens.unique htu htv
    subst this
    rw [hbu.unique hbv]
theorem Tokens.unique : ∀ {cs : List Tree} {ts us : List Token}, Tokens registry cs ts → Tokens registry cs us → ts = us
  | [], _, _, .nil, .nil => rfl
  | t :: rest, _, _, ht, hu => by
    cases ht with
    | text ht =>
      cases hu with
      | text hu => rw [Tokens.unique ht hu]
      | element he => cases he
      | other _ hx => cases hx
    | element he hr ht =>
      cases hu with
      | text => cases he
      | element _ hr' hu => rw [Rewritten.unique hr hr', Tokens.unique ht hu]
      | other hn => rw [he] at hn; cases hn
    | other hn hx ht =>
      cases hu with
      | text => cases hx
      | element he => rw [he] at hn; cases hn
      | other _ _ hu => rw [Tokens.unique ht hu]
end

/-! ## What a tree holds -/

/-- One thing in a tree, in document order. -/
inductive Item where
  | char (c : Char)
  | enter (element : NodeData)
  | leave (element : NodeData)
  | leaf (t : Tree)

mutual
/-- What a child holds: the characters of a text, the two ends of an element with what is between them, or else the
whole child. -/
def items : Tree → List Item
  | .node data children =>
    match data with
    | .text content => content.map .char
    | .element _ _ => .enter data :: (itemsAll children ++ [.leave data])
    | _ => [.leaf (.node data children)]
def itemsAll : List Tree → List Item
  | [] => []
  | t :: rest => items t ++ itemsAll rest
end

mutual
/-- What of a child stays, when its texts are without tags and the outer brackets of escapes. -/
def kept (registry : Registry) : Tree → List Item
  | .node data children =>
    match data with
    | .text content => ((marks registry content).flatMap Mark.text).map .char
    | .element _ _ => .enter data :: (keptAll registry children ++ [.leave data])
    | _ => [.leaf (.node data children)]
def keptAll (registry : Registry) : List Tree → List Item
  | [] => []
  | t :: rest => kept registry t ++ keptAll registry rest
end

def Tag.ends (g : Tag) : List Item := if g.opens then [.enter g.data, .leave g.data] else []

mutual
/-- The ends of the elements for the tags in a child. -/
def added (registry : Registry) : Tree → List Item
  | .node data children =>
    match data with
    | .text content => ((marks registry content).filterMap Mark.tag?).flatMap Tag.ends
    | .element _ _ => addedAll registry children
    | _ => []
def addedAll (registry : Registry) : List Tree → List Item
  | [] => []
  | t :: rest => added registry t ++ addedAll registry rest
end

namespace Token

def items : Token → List Item
  | .tree t => Shortcode.items t
  | .tag _ => []

def ends : Token → List Item
  | .tree _ => []
  | .tag g => g.ends

end Token

theorem items_element (g : Tag) (children : List Tree) :
    items (g.element children) = .enter g.data :: (itemsAll children ++ [.leave g.data]) := rfl

/-- **Matching brackets loses no token and keeps their order.** -/
theorem Bracketed.sublist {ts : List Token} {us : List Tree} (h : Bracketed ts us) :
    (ts.flatMap Token.items).Sublist (itemsAll us) := by
  induction h with
  | nil => exact .slnil
  | tree t _ ih => exact .append_left ih (items t)
  | single _ _ _ ih => exact ih.trans (List.sublist_append_right ..)
  | @pair o c inner ts children us _ _ _ _ _ _ ihInner ih =>
    rw [List.flatMap_cons, List.flatMap_append, List.flatMap_cons, itemsAll, items_element]
    show ([] ++ (inner.flatMap Token.items ++ ([] ++ ts.flatMap Token.items))).Sublist _
    rw [List.nil_append, List.nil_append]
    exact (((ihInner.trans (List.sublist_append_left ..)).cons _).append ih)

open Classical in
/-- **The new elements are those of the opening tags**, each once. -/
theorem Bracketed.perm {ts : List Token} {us : List Tree} (h : Bracketed ts us) :
    (itemsAll us).Perm (ts.flatMap Token.items ++ ts.flatMap Token.ends) := by
  induction h with
  | nil => exact .nil
  | tree t _ ih =>
    rw [itemsAll, List.flatMap_cons, List.flatMap_cons, List.append_assoc]
    exact ih.append_left _
  | @single g ts us ho _ _ ih =>
    have hends : (Token.tag g).ends = [.enter g.data, .leave g.data] := if_pos ho
    rw [itemsAll, List.flatMap_cons, List.flatMap_cons, hends, items_element, List.perm_iff_count]
    intro a
    have := ih.count_eq a
    simp only [List.count_append, List.count_cons, List.count_nil, Token.items, itemsAll] at this ⊢
    omega
  | @pair o c inner ts children us ho _ hc _ _ _ ihInner ih =>
    have hends : (Token.tag o).ends = [.enter o.data, .leave o.data] := if_pos ho
    have hends' : (Token.tag c).ends = [] := if_neg (by rw [hc]; exact Bool.false_ne_true)
    -- the end of the element stands behind its children here and before them there, so items are counted
    rw [itemsAll, items_element, List.perm_iff_count]
    intro a
    have := ih.count_eq a
    have := ihInner.count_eq a
    simp only [List.flatMap_cons, List.flatMap_append, hends, hends', List.count_append, List.count_cons,
      List.count_nil, Token.items] at *
    omega

theorem items_pieceTokens : ∀ (behind : List (Tag × List Char)),
    (behind.flatMap fun p => [Token.tag p.1, .tree (.node (.text p.2) [])]).flatMap Token.items =
      (behind.flatMap (·.2)).map .char
  | [] => rfl
  | (g, text) :: behind => by
    have hhead : [Token.tag g, .tree (.node (.text text) [])].flatMap Token.items = text.map .char := List.append_nil _
    rw [List.flatMap_cons, List.flatMap_append, items_pieceTokens behind, hhead, ← List.map_append]
    rfl

theorem ends_pieceTokens : ∀ (behind : List (Tag × List Char)),
    (behind.flatMap fun p => [Token.tag p.1, .tree (.node (.text p.2) [])]).flatMap Token.ends =
      (behind.map (·.1)).flatMap Tag.ends
  | [] => rfl
  | (g, text) :: behind => by
    rw [List.flatMap_cons, List.flatMap_append, ends_pieceTokens behind, List.map_cons, List.flatMap_cons]
    exact congrArg (· ++ _) (List.append_nil _)

theorem items_textTokens (content : List Char) (below : List Tree) :
    (textTokens registry content below).flatMap Token.items = kept registry (.node (.text content) below) := by
  rw [textTokens, pieceTokens, List.flatMap_cons, items_pieceTokens, kept, ← text_pieces, List.map_append]
  rfl

theorem ends_textTokens (content : List Char) (below : List Tree) :
    (textTokens registry content below).flatMap Token.ends = added registry (.node (.text content) below) := by
  rw [textTokens, pieceTokens, List.flatMap_cons, ends_pieceTokens, map_fst_pieces, added]
  rfl

theorem kept_eq_items {t : Tree} (he : t.data.isElement = false) (hx : t.data.isText = false) :
    kept registry t = items t ∧ added registry t = [] := by
  obtain ⟨data, children⟩ := t
  cases data with
  | text => cases hx
  | element => cases he
  | _ => exact ⟨rfl, rfl⟩

theorem items_of_isElement : ∀ {t : Tree}, t.data.isElement = true →
    items t = .enter t.data :: (itemsAll t.children ++ [.leave t.data])
  | .node (.element _ _) _, _ => rfl

theorem kept_of_isElement : ∀ {t : Tree}, t.data.isElement = true →
    kept registry t = .enter t.data :: (keptAll registry t.children ++ [.leave t.data])
  | .node (.element _ _) _, _ => rfl

theorem added_of_isElement : ∀ {t : Tree}, t.data.isElement = true → added registry t = addedAll registry t.children
  | .node (.element _ _) _, _ => rfl

theorem Rewritten.data_eq : ∀ {t u : Tree}, Rewritten registry t u → u.data = t.data
  | _, _, .node _ _ => rfl

mutual
/-- **A rewriting holds all that the tree held, in order.** -/
theorem Rewritten.sublist : ∀ {t u : Tree}, Rewritten registry t u →
    (keptAll registry t.children).Sublist (itemsAll u.children)
  | .node _ _, _, .node ht hb => (Tokens.sublist ht).trans hb.sublist
theorem Tokens.sublist : ∀ {cs : List Tree} {ts : List Token}, Tokens registry cs ts →
    (keptAll registry cs).Sublist (ts.flatMap Token.items)
  | [], _, .nil => .slnil
  | t :: rest, _, h => by
    rw [keptAll]
    cases h with
    | text ht =>
      rw [List.flatMap_append, items_textTokens]
      exact .append_left (Tokens.sublist ht) _
    | element he hr ht =>
      rw [List.flatMap_cons]
      refine .append ?_ (Tokens.sublist ht)
      rw [kept_of_isElement he, Token.items, items_of_isElement (hr.data_eq ▸ he), hr.data_eq]
      exact ((Rewritten.sublist hr).append_right _).cons_cons _
    | other he hx ht =>
      rw [(kept_eq_items he hx).1, List.flatMap_cons]
      exact .append_left (Tokens.sublist ht) _
end

open Classical in
mutual
/-- **Besides that it holds one element for each opening tag**, and nothing else. -/
theorem Rewritten.perm : ∀ {t u : Tree}, Rewritten registry t u →
    (itemsAll u.children).Perm (keptAll registry t.children ++ addedAll registry t.children)
  | .node _ _, _, .node ht hb => hb.perm.trans (Tokens.perm ht)
theorem Tokens.perm : ∀ {cs : List Tree} {ts : List Token}, Tokens registry cs ts →
    (ts.flatMap Token.items ++ ts.flatMap Token.ends).Perm (keptAll registry cs ++ addedAll registry cs)
  | [], _, .nil => .nil
  | t :: rest, _, h => by
    rw [keptAll, addedAll, List.perm_iff_count]
    intro a
    cases h with
    | text ht =>
      have := (Tokens.perm ht).count_eq a
      simp only [List.flatMap_append, items_textTokens, ends_textTokens, List.count_append] at this ⊢
      omega
    | element he hr ht =>
      have hrest := (Tokens.perm ht).count_eq a
      have hinner := (Rewritten.perm hr).count_eq a
      rw [kept_of_isElement he, added_of_isElement he, List.flatMap_cons, List.flatMap_cons, Token.items, Token.ends,
        items_of_isElement (hr.data_eq ▸ he), hr.data_eq]
      simp only [List.count_append, List.count_cons, List.count_nil] at hrest hinner ⊢
      omega
    | other he hx ht =>
      have := (Tokens.perm ht).count_eq a
      obtain ⟨hkept, hadded⟩ : kept registry t = items t ∧ added registry t = [] := kept_eq_items he hx
      simp only [List.flatMap_cons, hkept, hadded, Token.items, Token.ends, List.count_append, List.count_nil]
        at this ⊢
      omega
end

mutual
/-- **Empty texts hold nothing.** -/
theorem itemsAll_withoutEmptyTexts : ∀ t : Tree, itemsAll t.withoutEmptyTexts.children = itemsAll t.children
  | .node _ children => itemsAll_dropEmptyTexts children
theorem itemsAll_dropEmptyTexts : ∀ ts : List Tree, itemsAll (dropEmptyTexts ts) = itemsAll ts
  | [] => rfl
  | t :: rest => by
    rw [dropEmptyTexts, itemsAll]
    split
    · rename_i hempty
      obtain ⟨data, children⟩ := t
      cases data with
      | text content =>
        cases content with
        | nil => exact itemsAll_dropEmptyTexts rest
        | cons => cases hempty
      | _ => cases hempty
    · rw [itemsAll, itemsAll_dropEmptyTexts rest]
      split
      · rename_i he
        have hdata : t.withoutEmptyTexts.data = t.data := by cases t; rfl
        rw [items_of_isElement (hdata ▸ he), items_of_isElement he, itemsAll_withoutEmptyTexts t, hdata]
      · rfl
end

end BlogMarkdown.Shortcode
