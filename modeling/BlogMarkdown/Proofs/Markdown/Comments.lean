import BlogMarkdown.Proofs.Markdown.Places
/-!
# Comments in a body

A comment renders nothing, but it stands between what is on its two sides.  Texts that it parts are escaped one by one
and have their newlines counted one by one, and a text beside it has no block boundary there.  Where none of these
matters, a comment changes nothing in the document, and where one does, it shows.
-/
namespace BlogMarkdown.Markdown

open Dom Text

variable {σ : Type}

/-! ## The children of a body -/

section

variable {rewriter : UrlRewriter σ} {parent : NodeData} {path : Path}

/-- Renders some children of a node before others. -/
def renderBefore (rewriter : UrlRewriter σ) (parent : NodeData) (path : Path) (behind before : List Tree) :
    List Tree → Render σ Unit
  | [] => pure ()
  | t :: ts => do
    renderTree rewriter (⟨parent, before, ts ++ behind⟩ :: path) none t
    renderBefore rewriter parent path behind (t :: before) ts

/-- What stands before some children of a node matters only if it is a block boundary. -/
theorem renderKept_behind : ∀ (ts before before' : List Tree) (position position' : Nat),
    Path.blockBefore (⟨parent, before, []⟩ :: path) = Path.blockBefore (⟨parent, before', []⟩ :: path) →
    renderKept rewriter parent path (fun _ => true) position before ts =
      renderKept rewriter parent path (fun _ => true) position' before' ts
  | [], _, _, _, _, _ => by rw [renderKept, renderKept]
  | t :: after, before, before', position, position', h => by
    have halike : Alike (⟨parent, before, after⟩ :: path) (⟨parent, before', after⟩ :: path) :=
      ⟨h, rfl, fun index => by cases index <;> rfl⟩
    rw [renderKept, renderKept, if_pos rfl, if_pos rfl, renderTree_congr rewriter halike,
      renderKept_behind after (t :: before) (t :: before') (position + 1) (position' + 1) rfl]

/-- What stands behind some children of a node matters only if it is a block boundary. -/
theorem renderBefore_congr (behind behind' : List Tree)
    (h : Path.blockAfter (⟨parent, [], behind⟩ :: path) = Path.blockAfter (⟨parent, [], behind'⟩ :: path)) :
    ∀ (ts before : List Tree),
    renderBefore rewriter parent path behind before ts = renderBefore rewriter parent path behind' before ts
  | [], _ => by rw [renderBefore, renderBefore]
  | t :: ts, before => by
    have halike : Alike (⟨parent, before, ts ++ behind⟩ :: path) (⟨parent, before, ts ++ behind'⟩ :: path) := by
      refine ⟨rfl, ?_, fun index => by cases index <;> rfl⟩
      cases ts with
      | nil => exact h
      | cons u ts => rfl
    rw [renderBefore, renderBefore, renderTree_congr rewriter halike, renderBefore_congr behind behind' h ts]

theorem renderKept_append : ∀ (ts behind before : List Tree) (position : Nat),
    renderKept rewriter parent path (fun _ => true) position before (ts ++ behind) = (do
      renderBefore rewriter parent path behind before ts
      renderKept rewriter parent path (fun _ => true) 0 (ts.reverse ++ before) behind)
  | [], behind, before, position => by
    rw [renderBefore, pure_bind]
    exact renderKept_behind behind _ _ position 0 rfl
  | t :: ts, behind, before, position => by
    rw [List.cons_append, renderKept, if_pos rfl, renderKept_append ts behind (t :: before) (position + 1), renderBefore,
      bind_assoc, List.reverse_cons, List.append_assoc, List.singleton_append]

theorem uniform_renderBefore (behind : List Tree) : ∀ ts before : List Tree,
    (renderBefore rewriter parent path behind before ts).Uniform
  | [], _ => Render.uniform_pure
  | t :: ts, before => by
    rw [renderBefore]
    exact .behind framed_eq ((compositional_uniform rewriter).renderTree _ none t) (uniform_renderBefore behind ts _)

end

/-! ## Documents -/

theorem solid_finish {w : Writer} {s text : List Char} (hs : w.Spells s) (h : w.finish = .ok text) :
    solid text = solid s := by
  have hnewline : ∀ c : Char, decide (c = '\n') = true → isSolid c = false := fun c hc =>
    isSolid_of_isBreak (.inl (of_decide_eq_true hc))
  rw [hs.finish_eq] at h
  obtain rfl := Except.ok.inj h
  have hlines := solid_dropEndWhile hnewline s
  dsimp only
  split
  · rename_i hempty
    rwa [List.isEmpty_iff.1 hempty] at hlines
  · rw [solid_append, hlines]
    exact List.append_nil _

/-- Two documents with bodies that compare: both rewriters remember the same, and either both fail alike, or what is
written in both is related. -/
theorem rendered_of_compares {rewriter : UrlRewriter σ} {root root' : Tree} {R : List Char → List Char → Prop}
    (h : Render.Compares R (renderBody rewriter root) (renderBody rewriter root')) (urls : σ) :
    (rendered rewriter root urls).2 = (rendered rewriter root' urls).2 ∧
      ((∃ e, (rendered rewriter root urls).1 = .error e ∧ (rendered rewriter root' urls).1 = .error e) ∨
        ∃ text text', (rendered rewriter root urls).1 = .ok text ∧ (rendered rewriter root' urls).1 = .ok text' ∧
          R (solid text) (solid text')) := by
  obtain ⟨hresult, more, more', hs, hs', hmore⟩ :=
    h ⟨.empty, urls⟩ ⟨.empty, urls⟩ [] [] Writer.spells_empty Writer.spells_empty
  obtain ⟨hurls, hR⟩ := hmore rfl
  rw [rendered_eq, rendered_eq]
  refine ⟨hurls, ?_⟩
  rw [← hresult]
  cases hok : ((renderBody rewriter root).on ⟨.empty, urls⟩).1 with
  | error e => exact .inl ⟨e, rfl, rfl⟩
  | ok u =>
    refine .inr ⟨_, _, hs.finish_eq, hs'.finish_eq, ?_⟩
    rw [solid_finish hs hs.finish_eq, solid_finish hs' hs'.finish_eq]
    exact hR hok

/-! ## A comment in a text -/

section

variable {rewriter : UrlRewriter σ} {body : NodeData} {l r : List Tree} {comment : List Char}

/-- A text in a body, and a comment. -/
def textNode (content : List Char) : Tree := .node (.text content) []

@[inherit_doc textNode]
def commentNode (content : List Char) : Tree := .node (.comment content) []

/-- Whether a block boundary is behind some children of a body, and before some. -/
def boundaryBehind (body : NodeData) (l : List Tree) : Bool := Path.blockBefore [⟨body, l.reverse, []⟩]

@[inherit_doc boundaryBehind]
def boundaryBefore (body : NodeData) (r : List Tree) : Bool := Path.blockAfter [⟨body, [], r⟩]

theorem renderTree_textNode (before after : List Tree) (content : List Char) :
    renderTree rewriter [⟨body, before, after⟩] none (textNode content) =
      Render.write (bodyText (trimmed (Path.blockBefore [⟨body, before, []⟩]) (boundaryBefore body after) content)) := by
  rw [textNode, renderTree]
  rfl

theorem renderTree_commentNode (before after : List Tree) :
    renderTree rewriter [⟨body, before, after⟩] none (commentNode comment) = pure () := by
  rw [commentNode, renderTree]

/-- Of the children from some place on, those before it see the first at most. -/
theorem renderBody_append (t u : Tree) {ts : List Tree}
    (h : Path.blockAfter [⟨body, [], [t]⟩] = Path.blockAfter [⟨body, [], [u]⟩]) :
    renderBody rewriter (.node body (l ++ t :: ts)) = (do
      renderBefore rewriter body [] [u] [] l
      renderKept rewriter body [] (fun _ => true) 0 l.reverse (t :: ts)) := by
  rw [renderBody, Tree.data, Tree.children, renderKept_append, List.append_nil, renderBefore_congr (t :: ts) [u] h l []]

/-- Of the children up to some place, those behind it see the last at most. -/
theorem renderKept_cons (t u : Tree) (h : Path.blockBefore [⟨body, [t], []⟩] = Path.blockBefore [⟨body, [u], []⟩])
    (position : Nat) (before : List Tree) :
    renderKept rewriter body [] (fun _ => true) position before (t :: r) = (do
      renderTree rewriter [⟨body, before, r⟩] none t
      renderKept rewriter body [] (fun _ => true) 0 [u] r) := by
  rw [renderKept, if_pos rfl, renderKept_behind r (t :: before) [u] (position + 1) 0 h]

theorem renderBody_text (content : List Char) : renderBody rewriter (.node body (l ++ textNode content :: r)) = (do
    renderBefore rewriter body [] [textNode []] [] l
    Render.write (bodyText (trimmed (boundaryBehind body l) (boundaryBefore body r) content))
    renderKept rewriter body [] (fun _ => true) 0 [textNode []] r) := by
  rw [renderBody_append (textNode content) (textNode []) rfl, renderKept_cons (textNode content) (textNode []) rfl,
    renderTree_textNode]
  rfl

theorem renderBody_parted (a b : List Char) :
    renderBody rewriter (.node body (l ++ textNode a :: commentNode comment :: textNode b :: r)) = (do
      renderBefore rewriter body [] [textNode []] [] l
      Render.write (bodyText (trimmed (boundaryBehind body l) false a) ++
        bodyText (trimmed false (boundaryBefore body r) b))
      renderKept rewriter body [] (fun _ => true) 0 [textNode []] r) := by
  rw [renderBody_append (textNode a) (textNode []) rfl, renderKept, if_pos rfl, renderTree_textNode, renderKept,
    if_pos rfl, renderTree_commentNode, pure_bind, renderKept_cons (textNode b) (textNode []) rfl, renderTree_textNode,
    ← Render.write_write, bind_assoc]
  rfl

/-- A text that a comment parts is written as if it were whole: nothing is escaped for what is beyond the comment, and
the newlines beside it are written alike. -/
def Seamless (before after : Bool) (a b : List Char) : Prop :=
  ¬ CutsEscape a b ∧ wholeBreak before after a b = partedBreak before after a b

/-- The same up to the layout. -/
def NearlySeamless (before after : Bool) (a b : List Char) : Prop :=
  ¬ CutsEscape a b ∧ solid (wholeBreak before after a b) = solid (partedBreak before after a b)

theorem bodyText_of_seamless {before after : Bool} {a b : List Char} (h : Seamless before after a b) :
    bodyText (trimmed before after (a ++ b)) = bodyText (trimmed before false a) ++ bodyText (trimmed false after b) := by
  obtain ⟨hcut, -⟩ | ⟨-, front, back, hwhole, hparted⟩ := bodyText_parts before after a b
  · exact absurd hcut h.1
  · rw [hwhole, hparted, h.2]

theorem solid_bodyText_iff (before after : Bool) (a b : List Char) :
    solid (bodyText (trimmed before after (a ++ b))) =
      solid (bodyText (trimmed before false a) ++ bodyText (trimmed false after b)) ↔ NearlySeamless before after a b := by
  obtain ⟨hcut, hmore⟩ | ⟨hcut, front, back, hwhole, hparted⟩ := bodyText_parts before after a b
  · exact iff_of_false hmore.solid_ne fun h => h.1 hcut
  · rw [hwhole, hparted, NearlySeamless]
    simp only [solid_append, List.append_right_inj, List.append_left_inj]
    exact (and_iff_right hcut).symm

variable (rewriter body l r comment)

theorem compares_parted (a b : List Char) :
    Render.Compares (fun s s' => s = s' ↔ NearlySeamless (boundaryBehind body l) (boundaryBefore body r) a b)
      (renderBody rewriter (.node body (l ++ textNode (a ++ b) :: r)))
      (renderBody rewriter (.node body (l ++ textNode a :: commentNode comment :: textNode b :: r))) := by
  rw [renderBody_text, renderBody_parted]
  exact .behind (framed_eq_iff _) (uniform_renderBefore _ l []) <|
    .before (framed_eq_iff _) (Render.compares_write (solid_bodyText_iff _ _ a b))
      ((compositional_uniform rewriter).renderKept body [] (fun _ => true) 0 [textNode []] r)

/-! ## A comment between two children -/

theorem renderBody_neighbours (t u : Tree) : renderBody rewriter (.node body (l ++ t :: u :: r)) = (do
    renderBefore rewriter body [] [t] [] l
    renderTree rewriter [⟨body, l.reverse, u :: r⟩] none t
    renderTree rewriter [⟨body, t :: l.reverse, r⟩] none u
    renderKept rewriter body [] (fun _ => true) 0 [u] r) := by
  rw [renderBody_append t t rfl, renderKept, if_pos rfl, renderKept_cons u u rfl]

theorem renderBody_between (t u : Tree) :
    renderBody rewriter (.node body (l ++ t :: commentNode comment :: u :: r)) = (do
      renderBefore rewriter body [] [t] [] l
      renderTree rewriter [⟨body, l.reverse, commentNode comment :: u :: r⟩] none t
      renderTree rewriter [⟨body, commentNode comment :: t :: l.reverse, r⟩] none u
      renderKept rewriter body [] (fun _ => true) 0 [u] r) := by
  rw [renderBody_append t t rfl, renderKept, if_pos rfl, renderKept, if_pos rfl, renderTree_commentNode, pure_bind,
    renderKept_cons u u rfl]

/-- Whether two neighbours are written the same if a comment stands between them. -/
def sameApart (body : NodeData) (l r : List Tree) (comment : List Char) (t u : Tree) : Bool :=
  Tree.sameAt [⟨body, l.reverse, u :: r⟩] [⟨body, l.reverse, commentNode comment :: u :: r⟩] t &&
    Tree.sameAt [⟨body, t :: l.reverse, r⟩] [⟨body, commentNode comment :: t :: l.reverse, r⟩] u

theorem grows_between (t u : Tree) : Render.Grows (sameApart body l r comment t u)
    (renderBody rewriter (.node body (l ++ t :: u :: r)))
    (renderBody rewriter (.node body (l ++ t :: commentNode comment :: u :: r))) := by
  have ht : FewerBlocks [⟨body, l.reverse, u :: r⟩] [⟨body, l.reverse, commentNode comment :: u :: r⟩] := ⟨id, nofun⟩
  have hu : FewerBlocks [⟨body, t :: l.reverse, r⟩] [⟨body, commentNode comment :: t :: l.reverse, r⟩] := ⟨nofun, id⟩
  have hrest := (compositional_uniform rewriter).renderKept body [] (fun _ => true) 0 [u] r
  rw [renderBody_neighbours, renderBody_between]
  exact .behind (uniform_renderBefore _ l []) <|
    (grows_renderTree rewriter ht t).bind <| (grows_renderTree rewriter hu u).before hrest

end

/-- **Comments are invisible except at seams.**  A comment that parts a text of a body leaves the document as it is if
the seam is none; the URL rewriter remembers the same in any case, the rendering fails or succeeds as without it, and
up to the layout the documents are the same exactly if the seam is none up to the layout.  A comment between two children
of a body leaves the document as it is exactly if it cannot be rendered at all or both children are written the same
with the comment beside them. -/
theorem rendered_with_comment (rewriter : UrlRewriter σ) (urls : σ) (body : NodeData) (l r : List Tree)
    (comment : List Char) :
    (∀ a b : List Char,
      let whole := rendered rewriter (.node body (l ++ textNode (a ++ b) :: r)) urls
      let parted := rendered rewriter (.node body (l ++ textNode a :: commentNode comment :: textNode b :: r)) urls
      (Seamless (boundaryBehind body l) (boundaryBefore body r) a b → parted = whole) ∧ parted.2 = whole.2 ∧
        ((∃ e, whole.1 = .error e ∧ parted.1 = .error e) ∨
          ∃ text text', whole.1 = .ok text ∧ parted.1 = .ok text' ∧
            (solid text = solid text' ↔ NearlySeamless (boundaryBehind body l) (boundaryBefore body r) a b))) ∧
    ∀ t u : Tree,
      let whole := rendered rewriter (.node body (l ++ t :: u :: r)) urls
      let parted := rendered rewriter (.node body (l ++ t :: commentNode comment :: u :: r)) urls
      parted = whole ↔ (∃ e, whole.1 = .error e) ∨ sameApart body l r comment t u = true := by
  refine ⟨fun a b => ?_, fun t u => ?_⟩
  · intro whole parted
    obtain ⟨hurls, houtcome⟩ :=
      rendered_of_compares (compares_parted rewriter body l r comment a b) urls
    refine ⟨fun hseam => ?_, hurls.symm, houtcome⟩
    show rendered rewriter _ urls = rendered rewriter _ urls
    rw [rendered_eq, rendered_eq, renderBody_parted, renderBody_text, bodyText_of_seamless hseam]
  · intro whole parted
    have hgrows := grows_between rewriter body l r comment t u
    obtain ⟨hurls, houtcome⟩ := rendered_of_compares hgrows.compares urls
    refine ⟨fun heq => ?_, fun h => ?_⟩
    · rcases houtcome with ⟨e, he, -⟩ | ⟨text, text', htext, htext', hgrown⟩
      · exact .inl ⟨e, he⟩
      · refine .inr ?_
        by_contra hnot
        have hsame : text = text' := Except.ok.inj (htext.symm.trans ((congrArg Prod.fst heq).symm.trans htext'))
        have hlonger := hgrown.2 hnot
        rw [hsame] at hlonger
        exact Nat.lt_irrefl _ hlonger
    · rcases h with ⟨e, he⟩ | hsame
      · rcases houtcome with ⟨e', he', hparted⟩ | ⟨text, text', htext, -⟩
        · exact Prod.ext (hparted.trans he'.symm) hurls.symm
        · exact absurd (he.symm.trans htext) nofun
      · show rendered rewriter _ urls = rendered rewriter _ urls
        rw [rendered_eq, rendered_eq, hgrows.eq hsame]

/-- Behind a comment a full stop begins a list item, and before a comment a newline beside a heading is written. -/
theorem comment_shows :
    let body (children : List Tree) : Dom.Tree := .node (.element (.html "body") []) children
    let heading : Dom.Tree := .node (.element (.html "h1") []) [textNode ['b']]
    (rendered .identity (body [textNode "1. x".toList]) ()).1 = .ok "1\\. x\n".toList ∧
      (rendered .identity (body [textNode ['1'], commentNode "more".toList, textNode ". x".toList]) ()).1 =
        .ok "1. x\n".toList ∧
      (rendered .identity (body [textNode ['a', '\n'], heading]) ()).1 = .ok "a\n\n# b\n".toList ∧
      (rendered .identity (body [textNode ['a', '\n'], commentNode "more".toList, heading]) ()).1 =
        .ok "a\n<br>\n\n# b\n".toList := by
  decide +kernel

end BlogMarkdown.Markdown
