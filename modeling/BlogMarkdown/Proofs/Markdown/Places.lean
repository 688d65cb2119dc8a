import BlogMarkdown.Proofs.Markdown.Comparison
import BlogMarkdown.Proofs.Markdown.Seams
/-!
# Rendering at another place

The place of a tree matters for its rendering in two respects only: whether block boundaries are on its two sides, and
of which list it is an item.  Where a block boundary goes away, single newlines are written that were dropped before, in
the texts that reach to that side of the tree; nothing else changes.
-/
namespace BlogMarkdown.Markdown

open Dom Text

variable {σ : Type}

/-! ## Places that are alike -/

/-- Two places that no rendering tells apart. -/
structure Alike (path path' : Path) : Prop where
  before : path.blockBefore = path'.blockBefore
  after : path.blockAfter = path'.blockAfter
  marker : ∀ index, itemMarker? path index = itemMarker? path' index

/-- The two ends of a node have block boundaries alike at two places. -/
structure AlikeInside (parent : NodeData) (path path' : Path) : Prop where
  before : (parent.isBlock || path.blockBefore) = (parent.isBlock || path'.blockBefore)
  after : (parent.isBlock || path.blockAfter) = (parent.isBlock || path'.blockAfter)

theorem AlikeInside.of_isBlock {parent : NodeData} (h : parent.isBlock = true) (path path' : Path) :
    AlikeInside parent path path' := ⟨by rw [h]; rfl, by rw [h]; rfl⟩

theorem Alike.inside {path path' : Path} (h : Alike path path') (parent : NodeData) : AlikeInside parent path path' :=
  ⟨by rw [h.before], by rw [h.after]⟩

theorem AlikeInside.child {parent : NodeData} {path path' : Path} (h : AlikeInside parent path path')
    (before after : List Tree) : Alike (⟨parent, before, after⟩ :: path) (⟨parent, before, after⟩ :: path') where
  before := by
    cases before with
    | nil => exact h.before
    | cons t before => rfl
  after := by
    cases after with
    | nil => exact h.after
    | cons t after => rfl
  marker index := by cases index <;> rfl

theorem rule?_congr {path path' : Path} {index : Option Nat} (h : itemMarker? path index = itemMarker? path' index)
    (name : ElementName) (attributes : List Attribute) (children : List Tree) :
    rule? path index name attributes children = rule? path' index name attributes children := by
  rw [rule?, rule?, h]

mutual
/-- **A tree is rendered alike at places that are alike.** -/
theorem renderTree_congr (rewriter : UrlRewriter σ) : ∀ {path path' : Path} (_ : Alike path path') (index : Option Nat)
    (t : Tree), renderTree rewriter path index t = renderTree rewriter path' index t
  | path, path', h, index, .node (.text content) _ => by
    rw [renderTree, renderTree, trimAtBlocks, trimAtBlocks, h.before, h.after]
  | path, path', h, index, .node (.comment _) _ => by rw [renderTree, renderTree]
  | path, path', h, index, .node (.doctype _ _ _) _ => by rw [renderTree, renderTree]
  | path, path', h, index, .node .document children => by
    rw [renderTree, renderTree, renderKept_congr rewriter (h.inside .document)]
  | path, path', h, index, .node (.element name attributes) children => by
    have hkept (keep : Nat → Bool) := renderKept_congr rewriter (h.inside (.element name attributes)) keep 0 [] children
    by_cases hname : name.vocabulary = .shortcode
    · obtain ⟨vocabulary, tag⟩ := name
      cases hname
      rw [renderTree, renderTree]
      simp only [hkept]
    · have hitems := renderItems_congr rewriter (h.inside (.element name attributes)) 0 [] children
      rw [renderTree_native rewriter path index hname, renderTree_native rewriter path' index hname,
        rule?_congr (h.marker index)]
      dsimp only [Dom.Tree.data]
      rw [hkept, hitems]

theorem renderKept_congr (rewriter : UrlRewriter σ) {parent : NodeData} {path path' : Path}
    (h : AlikeInside parent path path') (keep : Nat → Bool) : ∀ (position : Nat) (before ts : List Tree),
    renderKept rewriter parent path keep position before ts = renderKept rewriter parent path' keep position before ts
  | _, _, [] => by rw [renderKept, renderKept]
  | position, before, t :: after => by
    rw [renderKept, renderKept, renderTree_congr rewriter (h.child before after), renderKept_congr rewriter h]

theorem renderItems_congr (rewriter : UrlRewriter σ) {parent : NodeData} {path path' : Path}
    (h : AlikeInside parent path path') : ∀ (index : Nat) (before ts : List Tree),
    renderItems rewriter parent path index before ts = renderItems rewriter parent path' index before ts
  | _, _, [] => by rw [renderItems, renderItems]
  | index, before, t :: after => by
    rw [renderItems, renderItems, renderTree_congr rewriter (h.child before after), renderItems_congr rewriter h,
      renderItems_congr rewriter h]
end

/-! ## Places with fewer block boundaries -/

mutual
/-- Whether a tree that is no item is written the same at two places.  Texts are, if the places make no difference to
the newlines at their ends, and what shows its children next to what surrounds it is, if they are. -/
def Tree.sameAt (path path' : Path) : Tree → Bool
  | .node (.text content) _ => bodyText (trimAtBlocks path content) = bodyText (trimAtBlocks path' content)
  | .node (.comment _) _ => true
  | .node (.doctype _ _ _) _ => true
  | .node .document children => sameAllAt .document path path' (fun _ => true) 0 [] children
  | .node (.element ⟨.shortcode, tag⟩ attributes) children =>
    let self := NodeData.element ⟨.shortcode, tag⟩ attributes
    if tag = "latex" then true
    else
      match self.attribute? "caption", children.findIdx? isMeaningful with
      | some _, _ => sameAllAt self path path' (fun _ => true) 0 [] children
      | none, some first =>
        sameAllAt self path path' (· = first) 0 [] children && sameAllAt self path path' (first < ·) 0 [] children
      | none, none => true
  | .node (.element name attributes) children =>
    if ["em", "i", "strong", "b"].contains name.tag then
      sameAllAt (.element name attributes) path path' (fun _ => true) 0 [] children
    else true
/-- Whether those children of a node whose position is kept are written the same. -/
def sameAllAt (parent : NodeData) (path path' : Path) (keep : Nat → Bool) (position : Nat) (before : List Tree) :
    List Tree → Bool
  | [] => true
  | t :: after =>
    (!keep position || Tree.sameAt (⟨parent, before, after⟩ :: path) (⟨parent, before, after⟩ :: path') t) &&
      sameAllAt parent path path' keep (position + 1) (t :: before) after
end

/-- A place has no block boundary on a side where another place has none. -/
structure FewerBlocks (path path' : Path) : Prop where
  before : path'.blockBefore = true → path.blockBefore = true
  after : path'.blockAfter = true → path.blockAfter = true

theorem FewerBlocks.child {path path' : Path} (h : FewerBlocks path path') (parent : NodeData) (before after : List Tree) :
    FewerBlocks (⟨parent, before, after⟩ :: path) (⟨parent, before, after⟩ :: path') where
  before := by
    cases before with
    | nil =>
      simp only [Path.blockBefore, Bool.or_eq_true]
      exact Or.imp id h.before
    | cons t before => exact id
  after := by
    cases after with
    | nil =>
      simp only [Path.blockAfter, Bool.or_eq_true]
      exact Or.imp id h.after
    | cons t after => exact id

/-- A change that makes a text longer, made in two steps. -/
theorem Grown.trans {x y z : List Char} {f : List Char → List Char} (h : Grown (x = y) (f x) (f y))
    (h' : Grown (y = z) (f y) (f z)) : Grown (x = z) (f x) (f z) := by
  refine ⟨fun he => by rw [he], fun hne => ?_⟩
  have hle := h.length_le
  have hle' := h'.length_le
  by_cases hxy : x = y
  · subst hxy
    exact h'.2 hne
  · have hlt := h.2 hxy
    omega

theorem trimmed_nil (before after : Bool) : trimmed before after [] = [] := by cases before <;> cases after <;> rfl

theorem not_cutsEscape_nil (s : List Char) : ¬ CutsEscape s [] ∧ ¬ CutsEscape [] s := by
  constructor <;> simp [CutsEscape, CutsAhead]

/-- A single newline that is not dropped is written, and is seen. -/
theorem grown_break {front back run run' whole parted : List Char} (hwhole : whole = front ++ (run ++ back))
    (hparted : parted = front ++ (run' ++ back)) (h : run = run' ∨ run = [] ∧ run' = lineBreak 1) :
    Grown (whole = parted) (solid whole) (solid parted) := by
  refine ⟨fun he => by rw [he], fun hne => ?_⟩
  obtain ⟨rfl, rfl⟩ := h.resolve_left fun he => hne (by rw [hwhole, hparted, he])
  have hbreak : (solid (lineBreak 1)).length = 3 := rfl
  rw [hwhole, hparted]
  simp only [solid_append, List.length_append, hbreak, solid_nil, List.length_nil]
  omega

theorem lineBreak_runLeft (alone : Bool) (k : Nat) : lineBreak (runLeft true k) = lineBreak (runLeft alone k) ∨
    lineBreak (runLeft true k) = [] ∧ lineBreak (runLeft alone k) = lineBreak 1 := by
  cases alone with
  | true => exact .inl rfl
  | false =>
    by_cases hk : k = 1
    · subst hk
      exact .inr ⟨rfl, rfl⟩
    · have hleft : runLeft true k = k := by simp [runLeft, hk]
      rw [hleft]
      exact .inl rfl

theorem grown_after (before : Bool) (s : List Char) :
    Grown (bodyText (trimmed before true s) = bodyText (trimmed before false s))
      (solid (bodyText (trimmed before true s))) (solid (bodyText (trimmed before false s))) := by
  have hnil : bodyText [] = [] := rfl
  have hparts := bodyText_parts before true s []
  rw [trimmed_nil, hnil, List.append_nil, List.append_nil] at hparts
  obtain ⟨hcut, -⟩ | ⟨-, front, back, hwhole, hparted⟩ := hparts
  · exact absurd hcut (not_cutsEscape_nil s).1
  · refine grown_break hwhole hparted ?_
    have hbreak : wholeBreak before true s [] = lineBreak (runLeft true (endRun s)) := by
      simp [wholeBreak, startRun]
    have hbreak' : partedBreak before true s [] = lineBreak (runLeft (before && s.length = endRun s) (endRun s)) := by
      simp [partedBreak, startRun, runLeft, lineBreak]
    rw [hbreak, hbreak']
    exact lineBreak_runLeft _ _

theorem grown_before (after : Bool) (s : List Char) :
    Grown (bodyText (trimmed true after s) = bodyText (trimmed false after s))
      (solid (bodyText (trimmed true after s))) (solid (bodyText (trimmed false after s))) := by
  have hnil : bodyText [] = [] := rfl
  have hparts := bodyText_parts true after [] s
  rw [trimmed_nil, hnil, List.nil_append, List.nil_append] at hparts
  obtain ⟨hcut, -⟩ | ⟨-, front, back, hwhole, hparted⟩ := hparts
  · exact absurd hcut (not_cutsEscape_nil s).2
  · refine grown_break hwhole hparted ?_
    have hbreak : wholeBreak true after [] s = lineBreak (runLeft true (startRun s)) := by
      simp [wholeBreak, endRun, startRun]
    have hbreak' : partedBreak true after [] s = lineBreak (runLeft (after && s.length = startRun s) (startRun s)) := by
      simp [partedBreak, endRun, startRun, runLeft, lineBreak]
    rw [hbreak, hbreak']
    exact lineBreak_runLeft _ _

/-- **A text is written longer where block boundaries go away**, or the same. -/
theorem grown_text {path path' : Path} (h : FewerBlocks path path') (s : List Char) :
    Grown (bodyText (trimAtBlocks path s) = bodyText (trimAtBlocks path' s)) (solid (bodyText (trimAtBlocks path s)))
      (solid (bodyText (trimAtBlocks path' s))) := by
  have hrefl (s : List Char) : Grown (bodyText s = bodyText s) (solid (bodyText s)) (solid (bodyText s)) :=
    ⟨fun _ => rfl, fun hne => absurd rfl hne⟩
  have hbefore (after : Bool) : Grown
      (bodyText (trimmed path.blockBefore after s) = bodyText (trimmed path'.blockBefore after s))
      (solid (bodyText (trimmed path.blockBefore after s))) (solid (bodyText (trimmed path'.blockBefore after s))) := by
    have hle := h.before
    cases hpath : path.blockBefore <;> cases hpath' : path'.blockBefore <;> simp_all [grown_before]
  have hafter (before : Bool) : Grown
      (bodyText (trimmed before path.blockAfter s) = bodyText (trimmed before path'.blockAfter s))
      (solid (bodyText (trimmed before path.blockAfter s))) (solid (bodyText (trimmed before path'.blockAfter s))) := by
    have hle := h.after
    cases hpath : path.blockAfter <;> cases hpath' : path'.blockAfter <;> simp_all [grown_after]
  exact (hbefore path.blockAfter).trans (hafter path'.blockBefore)

/-! ## Renderings that grow -/

namespace Render

/-- Two renderings are the same, or the second one writes more. -/
structure Grows (same : Bool) (m m' : Render σ Unit) : Prop where
  eq : same = true → m = m'
  compares : Compares (Grown (same = true)) m m'

variable {same same' : Bool} {m m' : Render σ Unit}

theorem Grows.of_uniform (h : m.Uniform) : Grows true m m := ⟨fun _ => rfl, h.mono fun _ _ he => ⟨fun _ => he, nofun⟩⟩

theorem grows_throw (e : Error) : Grows same (throw e : Render σ Unit) (throw e) := ⟨fun _ => rfl, compares_throw e⟩

theorem Grows.bind {f f' : Unit → Render σ Unit} (hm : Grows same m m') (hf : Grows same' (f ()) (f' ())) :
    Grows (same && same') (m >>= f) (m' >>= f') where
  eq h := by
    rw [Bool.and_eq_true] at h
    have hrest : f = f' := funext fun _ => hf.eq h.2
    rw [hm.eq h.1, hrest]
  compares := by
    rw [Bool.and_eq_true]
    exact hm.compares.bind hf.compares fun _ _ _ _ => .append

theorem Grows.behind {f f' : Unit → Render σ Unit} (hm : m.Uniform) (hf : Grows same (f ()) (f' ())) :
    Grows same (m >>= f) (m >>= f') := (Grows.of_uniform hm).bind hf

theorem Grows.before {f : Unit → Render σ Unit} (hm : Grows same m m') (hf : (f ()).Uniform) :
    Grows same (m >>= f) (m' >>= f) := by
  have h := hm.bind (Grows.of_uniform hf)
  rwa [Bool.and_true] at h

theorem Grows.renderFigure (h : Grows same m m') (caption : List Char) :
    Grows same (renderFigure m caption) (renderFigure m' caption) where
  eq hsame := by rw [h.eq hsame]
  compares := (compares_renderFigure h.compares fun _ : True => (grown_true.2 rfl : Grown True _ _)).mono
    fun _ _ hgrown => by
      have hboth := hgrown trivial
      rwa [and_true] at hboth

theorem Grows.renderCaptioned {rest rest' : Render σ Unit} (h : Grows same m m') (hrest : Grows same' rest rest') :
    Grows (same && same') (renderCaptioned m rest) (renderCaptioned m' rest') where
  eq hboth := by
    rw [Bool.and_eq_true] at hboth
    rw [h.eq hboth.1, hrest.eq hboth.2]
  compares := by
    rw [Bool.and_eq_true]
    exact compares_renderCaptioned h.compares hrest.compares

end Render

section

open Render

variable {rewriter : UrlRewriter σ} {path path' : Path}

theorem isBlock_of_mem {name : ElementName} (hname : name.vocabulary ≠ .shortcode) (h : name.tag ∈ blockTags)
    (attributes : List Attribute) : (NodeData.element name attributes).isBlock = true := by
  simp [NodeData.isBlock, NodeData.elementName?, hname, h]

theorem mem_blockTags_of_headingLevel? {tag : String} {level : Nat} (h : headingLevel? tag = some level) :
    tag ∈ blockTags := by
  by_contra hnot
  have hnone : headingLevel? tag = none := by
    rw [headingLevel?, Option.map_eq_none_iff, List.idxOf?_eq_none_iff]
    intro hmem
    have hall : ∀ tag ∈ ["h1", "h2", "h3", "h4", "h5", "h6"], tag ∈ blockTags := by decide
    exact hnot (hall tag hmem)
  rw [hnone] at h
  cases h

theorem rule?_of_emphasis {name : ElementName} (h : name.tag ∈ ["em", "i", "strong", "b"]) (path : Path) (index : Option Nat)
    (attributes : List Attribute) (children : List Tree) :
    ∃ mark, rule? path index name attributes children = some (.emphasis mark) := by
  simp only [List.mem_cons, List.not_mem_nil, or_false] at h
  rcases h with h | h | h | h
  all_goals
    have hlevel : headingLevel? name.tag = none := by rw [h]; rfl
    rw [rule?, hlevel]
    simp [h]

/-- Nothing but emphasis shows its children next to what surrounds it. -/
theorem renderTree_eq_of_not_emphasis {name : ElementName} (hname : name.vocabulary ≠ .shortcode)
    (h : name.tag ∉ ["em", "i", "strong", "b"]) (attributes : List Attribute) (children : List Tree) :
    renderTree rewriter path none (.node (.element name attributes) children) =
      renderTree rewriter path' none (.node (.element name attributes) children) := by
  have hmarker : itemMarker? path none = itemMarker? path' none := rfl
  rw [renderTree_native rewriter path none hname, renderTree_native rewriter path' none hname, rule?_congr hmarker]
  dsimp only [Dom.Tree.data]
  cases hrule : rule? path' none name attributes children with
  | none => rfl
  | some rule =>
    -- a block has its boundaries itself, and what is no block does not render its children
    have hblock (hmem : name.tag ∈ blockTags) :
        rule.render rewriter (.element name attributes)
            (renderKept rewriter (.element name attributes) path (fun _ => true) 0 [] children)
            (renderItems rewriter (.element name attributes) path 0 [] children)
            (renderAsMarkup (.node (.element name attributes) children)) =
          rule.render rewriter (.element name attributes)
            (renderKept rewriter (.element name attributes) path' (fun _ => true) 0 [] children)
            (renderItems rewriter (.element name attributes) path' 0 [] children)
            (renderAsMarkup (.node (.element name attributes) children)) := by
      have hinside : AlikeInside (.element name attributes) path path' :=
        .of_isBlock (isBlock_of_mem hname hmem attributes) path path'
      rw [renderKept_congr rewriter hinside, renderItems_congr rewriter hinside]
    cases applies_of_rule? hrule with
    | heading hlevel => exact hblock (mem_blockTags_of_headingLevel? hlevel)
    | emphasis htag => exact absurd (by rcases htag with htag | htag <;> simp [htag]) h
    | strong htag => exact absurd (by rcases htag with htag | htag <;> simp [htag]) h
    | list htag => exact hblock (by rcases htag with htag | htag <;> rw [htag] <;> decide)
    | item _ hmarker => cases hmarker
    | quotation htag => exact hblock (by rw [htag]; decide)
    | code => rfl
    | fenced => rfl
    | link => rfl
    | linkedImage => rfl
    | image => rfl

theorem grows_native {name : ElementName} (hname : name.vocabulary ≠ .shortcode) {attributes : List Attribute}
    {children : List Tree}
    (hall : Grows (sameAllAt (.element name attributes) path path' (fun _ => true) 0 [] children)
      (renderKept rewriter (.element name attributes) path (fun _ => true) 0 [] children)
      (renderKept rewriter (.element name attributes) path' (fun _ => true) 0 [] children)) :
    Grows (Tree.sameAt path path' (.node (.element name attributes) children))
      (renderTree rewriter path none (.node (.element name attributes) children))
      (renderTree rewriter path' none (.node (.element name attributes) children)) := by
  have huniform := (compositional_uniform rewriter).renderTree path' none (.node (.element name attributes) children)
  rw [Tree.sameAt]
  · by_cases htag : name.tag ∈ ["em", "i", "strong", "b"]
    · obtain ⟨mark, hrule⟩ := rule?_of_emphasis htag path none attributes children
      obtain ⟨mark', hrule'⟩ := rule?_of_emphasis htag path' none attributes children
      have hmarker : itemMarker? path none = itemMarker? path' none := rfl
      have hsame := rule?_congr hmarker name attributes children
      rw [hrule, hrule'] at hsame
      cases hsame
      rw [renderTree_native rewriter path none hname, renderTree_native rewriter path' none hname, hrule, hrule',
        if_pos (List.contains_iff_mem.2 htag)]
      exact .behind (uniform_write mark) (hall.before (uniform_write mark))
    · have heq : renderTree rewriter path none (.node (.element name attributes) children) =
          renderTree rewriter path' none (.node (.element name attributes) children) :=
        renderTree_eq_of_not_emphasis hname htag attributes children
      rw [heq, if_neg fun hmem => htag (List.contains_iff_mem.1 hmem)]
      exact .of_uniform huniform
  · rintro tag rfl
    exact hname rfl

theorem grows_shortcode {tag : String} {attributes : List Attribute} {children : List Tree}
    (hkept : ∀ keep, Grows (sameAllAt (.element ⟨.shortcode, tag⟩ attributes) path path' keep 0 [] children)
      (renderKept rewriter (.element ⟨.shortcode, tag⟩ attributes) path keep 0 [] children)
      (renderKept rewriter (.element ⟨.shortcode, tag⟩ attributes) path' keep 0 [] children)) :
    Grows (Tree.sameAt path path' (.node (.element ⟨.shortcode, tag⟩ attributes) children))
      (renderTree rewriter path none (.node (.element ⟨.shortcode, tag⟩ attributes) children))
      (renderTree rewriter path' none (.node (.element ⟨.shortcode, tag⟩ attributes) children)) := by
  rw [renderTree, renderTree, Tree.sameAt]
  dsimp only
  by_cases hlatex : tag = "latex"
  · rw [if_pos hlatex, if_pos hlatex, if_pos hlatex]
    exact .of_uniform (uniform_writeBetween _ _ _ _)
  rw [if_neg hlatex, if_neg hlatex, if_neg hlatex]
  by_cases htag : tag = "caption" ∨ tag = "wp_caption"
  · rw [if_pos htag, if_pos htag]
    cases captionImage? children with
    | none => exact grows_throw _
    | some image =>
      cases children.findIdx? isMeaningful with
      | none => exact grows_throw _
      | some first =>
        cases (NodeData.element ⟨.shortcode, tag⟩ attributes).attribute? "caption" with
        | some caption =>
          simp only [pure_bind]
          exact (hkept fun _ => true).renderFigure (escape specialInText caption.toList)
        | none =>
          simp only [pure_bind]
          exact (hkept _).renderCaptioned (hkept _)
  · rw [if_neg htag, if_neg htag]
    exact grows_throw _

end

mutual
/-- **A tree is rendered the same where block boundaries go away**, or writes more. -/
theorem grows_renderTree (rewriter : UrlRewriter σ) : ∀ {path path' : Path} (_ : FewerBlocks path path') (t : Tree),
    Render.Grows (Tree.sameAt path path' t) (renderTree rewriter path none t) (renderTree rewriter path' none t)
  | path, path', h, .node (.text content) _ => by
    rw [renderTree, renderTree, Tree.sameAt]
    refine ⟨fun hsame => by rw [of_decide_eq_true hsame], ?_⟩
    rw [decide_eq_true_eq]
    exact Render.compares_write (grown_text h content)
  | path, path', h, .node (.comment _) _ => by
    rw [renderTree, renderTree, Tree.sameAt]
    exact .of_uniform Render.uniform_pure
  | path, path', h, .node (.doctype _ _ _) _ => by
    rw [renderTree, renderTree]
    exact Render.grows_throw _
  | path, path', h, .node .document children => by
    rw [renderTree, renderTree, Tree.sameAt]
    exact grows_renderKept rewriter h .document _ 0 [] children
  | path, path', h, .node (.element name attributes) children => by
    have hkept (keep : Nat → Bool) := grows_renderKept rewriter h (.element name attributes) keep 0 [] children
    by_cases hname : name.vocabulary = .shortcode
    · obtain ⟨vocabulary, tag⟩ := name
      cases hname
      exact grows_shortcode hkept
    · exact grows_native hname (hkept _)

theorem grows_renderKept (rewriter : UrlRewriter σ) {path path' : Path} (h : FewerBlocks path path') (parent : NodeData)
    (keep : Nat → Bool) : ∀ (position : Nat) (before ts : List Tree),
    Render.Grows (sameAllAt parent path path' keep position before ts)
      (renderKept rewriter parent path keep position before ts)
      (renderKept rewriter parent path' keep position before ts)
  | _, _, [] => by
    rw [renderKept, renderKept, sameAllAt]
    exact .of_uniform Render.uniform_pure
  | position, before, t :: after => by
    have ht := grows_renderTree rewriter (h.child parent before after) t
    have hafter := grows_renderKept rewriter h parent keep (position + 1) (t :: before) after
    rw [renderKept, renderKept, sameAllAt]
    cases keep position with
    | true => exact ht.bind hafter
    | false => exact hafter
end

end BlogMarkdown.Markdown
