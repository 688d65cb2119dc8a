import BlogMarkdown.Proofs.Markdown.Composition
import BlogMarkdown.Proofs.Markdown.Targets
/-!
# Rewriters that note their calls

A rendering hands the state of its rewriter on and never looks at it.  So a rewriter may remember more than it needs and
the rendering stays the same; in particular it may note what it was asked for, and what it answered.
-/
namespace BlogMarkdown.Markdown

open Dom

variable {σ τ : Type}

/-- The rewriter that answers as another one and notes each target with the form that it got. -/
def UrlRewriter.noting (rewriter : UrlRewriter σ) : UrlRewriter (σ × List (String × String)) :=
  ⟨fun target (urls, noted) =>
    let (form, urls) := rewriter.rewrite target urls
    (form, urls, noted ++ [(target, form)])⟩

/-- What is asked of a noting rewriter is what it notes. -/
theorem Asked.noted {rewriter : UrlRewriter σ} : ∀ {before after : σ × List (String × String)}
    {asked : List (String × String)}, Asked rewriter.noting before asked after → after.2 = before.2 ++ asked
  | _, _, _, .nil _ => (List.append_nil _).symm
  | (urls, noted), _, _, .cons target h => by
    rw [h.noted]
    exact List.append_assoc noted [_] _

/-- A sheet with less remembered. -/
def Sheet.map (f : τ → σ) (sheet : Sheet τ) : Sheet σ := ⟨sheet.writer, f sheet.urls⟩

namespace Render

/-- Two renderings do the same, and the second one remembers only what `f` keeps. -/
def Projects {α : Type} (f : τ → σ) (m : Render τ α) (n : Render σ α) : Prop :=
  ∀ sheet, n.on (sheet.map f) = ((m.on sheet).1, (m.on sheet).2.map f)

section

variable {α β : Type} {f : τ → σ}

theorem projects_pure (a : α) : Projects f (pure a) (pure a) := fun _ => rfl

theorem projects_throw (e : Error) : Projects f (throw e : Render τ α) (throw e) := fun _ => rfl

theorem projects_layout (change : Writer → Writer) : Projects f (layout change) (layout change) := fun _ => rfl

theorem projects_write (text : List Char) : Projects f (write text) (write text) := projects_layout _

theorem projects_writeVerbatim (text : List Char) : Projects f (writeVerbatim text) (writeVerbatim text) :=
  projects_layout _

theorem projects_ensureLinefeeds (n : Nat) : Projects f (ensureLinefeeds n) (ensureLinefeeds n) := projects_layout _

theorem projects_writeBetween (start text stop special : List Char) :
    Projects f (writeBetween start text stop special) (writeBetween start text stop special) := projects_layout _

theorem projects_liftExcept (x : Except Error α) : Projects f (liftExcept x) (liftExcept x) := by
  cases x with
  | error e => exact projects_throw e
  | ok a => exact projects_pure a

theorem Projects.bind {m : Render τ α} {n : Render σ α} {g : α → Render τ β} {h : α → Render σ β}
    (hm : m.Projects f n) (hg : ∀ a, (g a).Projects f (h a)) : (m >>= g).Projects f (n >>= h) := by
  intro sheet
  rw [on_bind, on_bind, hm sheet]
  obtain ⟨result, after⟩ := m.on sheet
  cases result with
  | error e => rfl
  | ok a => exact hg a after

theorem Projects.aside {m : Render τ Unit} {n : Render σ Unit} (h : m.Projects f n) :
    (Render.aside m).Projects f (Render.aside n) := by
  intro sheet
  have h := h ⟨.empty, sheet.urls⟩
  rw [on_aside, on_aside]
  change n.on ⟨.empty, f sheet.urls⟩ = _ at h
  rw [show (sheet.map f).urls = f sheet.urls from rfl, h]
  rfl

theorem Projects.indented {m : Render τ Unit} {n : Render σ Unit} (text : List Char) (h : m.Projects f n) :
    (Render.indented text m).Projects f (Render.indented text n) := by
  intro sheet
  have h := h { sheet with writer := sheet.writer.pushIndent text }
  rw [on_indented, on_indented]
  change n.on ⟨sheet.writer.pushIndent text, f sheet.urls⟩ = _ at h
  rw [show ({ sheet.map f with writer := (sheet.map f).writer.pushIndent text } : Sheet σ) =
    ⟨sheet.writer.pushIndent text, f sheet.urls⟩ from rfl, h]
  rfl

end

end Render

/-- Two rewriters answer the same, and the second one remembers only what `f` keeps. -/
structure UrlRewriter.Projects (f : τ → σ) (rewriter : UrlRewriter τ) (rewriter' : UrlRewriter σ) : Prop where
  answer (target : String) (urls : τ) :
    rewriter'.rewrite target (f urls) = ((rewriter.rewrite target urls).1, f (rewriter.rewrite target urls).2)

theorem UrlRewriter.projects_noting (rewriter : UrlRewriter σ) :
    UrlRewriter.Projects Prod.fst rewriter.noting rewriter :=
  ⟨fun _ _ => rfl⟩

section

open Render

variable {f : τ → σ} {rewriter : UrlRewriter τ} {rewriter' : UrlRewriter σ}

theorem projects_target (h : UrlRewriter.Projects f rewriter rewriter') (url : String) :
    (Render.target rewriter url).Projects f (Render.target rewriter' url) := by
  intro sheet
  rw [on_target, on_target, show (sheet.map f).urls = f sheet.urls from rfl, h.answer]
  rfl

theorem projects_renderImage (h : UrlRewriter.Projects f rewriter rewriter') (image : NodeData) :
    (renderImage rewriter image).Projects f (renderImage rewriter' image) := by
  refine (projects_target h _).bind fun form => ?_
  dsimp only
  refine (projects_writeBetween _ _ _ _).bind fun _ => ?_
  split
  · exact projects_writeBetween _ _ _ _
  · exact (projects_writeBetween _ _ _ _).bind fun _ => projects_writeBetween _ _ _ _

theorem projects_renderLink (h : UrlRewriter.Projects f rewriter rewriter') (link : NodeData) (text : List Char) :
    (renderLink rewriter link text).Projects f (renderLink rewriter' link text) :=
  (projects_target h _).bind fun _ => (projects_writeBetween _ _ _ _).bind fun _ => projects_writeBetween _ _ _ _

theorem projects_renderFenced (text : List Char) : Projects f (renderFenced text) (renderFenced text) :=
  (projects_ensureLinefeeds 2).bind fun _ => (projects_write _).bind fun _ => (projects_write _).bind fun _ =>
    (projects_writeVerbatim _).bind fun _ => (projects_ensureLinefeeds 1).bind fun _ => (projects_write _).bind fun _ =>
    projects_ensureLinefeeds 2

theorem projects_renderHeading (level : Nat) (text : List Char) :
    Projects f (renderHeading level text) (renderHeading level text) :=
  (projects_ensureLinefeeds 2).bind fun _ => (projects_write _).bind fun _ => (projects_write _).bind fun _ =>
    projects_ensureLinefeeds 2

theorem Rule.projects (h : UrlRewriter.Projects f rewriter rewriter') (element : NodeData)
    {all items otherwise : Render τ Unit} {all' items' otherwise' : Render σ Unit} (hall : all.Projects f all')
    (hitems : items.Projects f items') (hotherwise : otherwise.Projects f otherwise') (rule : Rule) :
    (rule.render rewriter element all items otherwise).Projects f
      (rule.render rewriter' element all' items' otherwise') := by
  cases rule with
  | heading level =>
    refine hall.aside.bind fun inner => ?_
    cases inner with
    | error e => exact hotherwise
    | ok w => exact (projects_liftExcept _).bind fun text => projects_renderHeading level text
  | emphasis mark => exact (projects_write mark).bind fun _ => hall.bind fun _ => projects_write mark
  | code text => exact projects_writeVerbatim _
  | fenced text => exact projects_renderFenced text
  | link text => exact projects_renderLink h element text
  | image source => exact projects_renderImage h source
  | list => exact (projects_ensureLinefeeds 2).bind fun _ => hitems.bind fun _ => projects_ensureLinefeeds 2
  | item marker => exact ((projects_write marker).bind fun _ => hall).indented _
  | quotation => exact (projects_ensureLinefeeds 2).bind fun _ => ((projects_write _).bind fun _ => hall).indented _

theorem projects_renderFigure {figure : Render τ Unit} {figure' : Render σ Unit} (h : figure.Projects f figure')
    (caption : List Char) : (renderFigure figure caption).Projects f (renderFigure figure' caption) :=
  (projects_write _).bind fun _ => h.bind fun _ => (projects_write _).bind fun _ =>
    (projects_write caption).bind fun _ => projects_write _

theorem projects_renderCaptioned {figure rest : Render τ Unit} {figure' rest' : Render σ Unit}
    (hfigure : figure.Projects f figure') (hrest : rest.Projects f rest') :
    (renderCaptioned figure rest).Projects f (renderCaptioned figure' rest') :=
  hrest.aside.bind fun _ => (projects_liftExcept _).bind fun _ => projects_renderFigure hfigure _

theorem projects_native (h : UrlRewriter.Projects f rewriter rewriter') {name : ElementName}
    (hname : name.vocabulary ≠ .shortcode) {attributes : List Attribute} {children : List Tree} {path : Path}
    {index : Option Nat}
    (hall : (renderKept rewriter (.element name attributes) path (fun _ => true) 0 [] children).Projects f
      (renderKept rewriter' (.element name attributes) path (fun _ => true) 0 [] children))
    (hitems : (renderItems rewriter (.element name attributes) path 0 [] children).Projects f
      (renderItems rewriter' (.element name attributes) path 0 [] children)) :
    (renderTree rewriter path index (.node (.element name attributes) children)).Projects f
      (renderTree rewriter' path index (.node (.element name attributes) children)) := by
  rw [renderTree_native rewriter path index hname, renderTree_native rewriter' path index hname]
  cases rule? path index name attributes children with
  | none => exact projects_writeVerbatim _
  | some rule => exact rule.projects h _ hall hitems (projects_writeVerbatim _)

theorem projects_shortcode {tag : String} {attributes : List Attribute} {children : List Tree} {path : Path}
    {index : Option Nat}
    (hkept : ∀ keep, (renderKept rewriter (.element ⟨.shortcode, tag⟩ attributes) path keep 0 [] children).Projects f
      (renderKept rewriter' (.element ⟨.shortcode, tag⟩ attributes) path keep 0 [] children)) :
    (renderTree rewriter path index (.node (.element ⟨.shortcode, tag⟩ attributes) children)).Projects f
      (renderTree rewriter' path index (.node (.element ⟨.shortcode, tag⟩ attributes) children)) := by
  rw [renderTree, renderTree]
  split
  · exact projects_writeBetween _ _ _ _
  split
  · split
    · dsimp only
      split
      · simp only [pure_bind]
        exact projects_renderFigure (hkept _) _
      · simp only [pure_bind]
        exact projects_renderCaptioned (hkept _) (hkept _)
    · exact projects_throw _
  · exact projects_throw _

mutual
/-- **What a rewriter remembers does not change a rendering.** -/
theorem projects_renderTree (h : UrlRewriter.Projects f rewriter rewriter') : ∀ (path : Path) (index : Option Nat)
    (t : Tree), (renderTree rewriter path index t).Projects f (renderTree rewriter' path index t)
  | path, index, .node (.text content) _ => by
    rw [renderTree, renderTree]
    exact projects_write _
  | path, index, .node (.comment _) _ => by
    rw [renderTree, renderTree]
    exact projects_pure ()
  | path, index, .node (.doctype _ _ _) _ => by
    rw [renderTree, renderTree]
    exact projects_throw _
  | path, index, .node .document children => by
    rw [renderTree, renderTree]
    exact projects_renderKept h .document path _ 0 [] children
  | path, index, .node (.element name attributes) children => by
    have hkept (keep : Nat → Bool) := projects_renderKept h (.element name attributes) path keep 0 [] children
    by_cases hname : name.vocabulary = .shortcode
    · obtain ⟨vocabulary, tag⟩ := name
      cases hname
      exact projects_shortcode hkept
    · exact projects_native h hname (hkept _) (projects_renderItems h (.element name attributes) path 0 [] children)

theorem projects_renderKept (h : UrlRewriter.Projects f rewriter rewriter') (parent : NodeData) (path : Path)
    (keep : Nat → Bool) : ∀ (position : Nat) (before ts : List Tree),
    (renderKept rewriter parent path keep position before ts).Projects f
      (renderKept rewriter' parent path keep position before ts)
  | _, _, [] => by
    rw [renderKept, renderKept]
    exact projects_pure ()
  | position, before, t :: after => by
    have ht := projects_renderTree h (⟨parent, before, after⟩ :: path) none t
    have hafter := projects_renderKept h parent path keep (position + 1) (t :: before) after
    rw [renderKept, renderKept]
    split
    · exact ht.bind fun _ => hafter
    · exact hafter

theorem projects_renderItems (h : UrlRewriter.Projects f rewriter rewriter') (parent : NodeData) (path : Path) :
    ∀ (index : Nat) (before ts : List Tree),
    (renderItems rewriter parent path index before ts).Projects f (renderItems rewriter' parent path index before ts)
  | _, _, [] => by
    rw [renderItems, renderItems]
    exact projects_pure ()
  | index, before, t :: after => by
    have ht := projects_renderTree h (⟨parent, before, after⟩ :: path) (some index) t
    have hafter (index : Nat) := projects_renderItems h parent path index (t :: before) after
    rw [renderItems, renderItems]
    split
    · exact ht.bind fun _ => hafter _
    · exact hafter _
end

end

/-- The calls to the rewriter while a document is rendered: what was asked for, and what was answered. -/
def callsOf (rewriter : UrlRewriter σ) (root : Tree) (urls : σ) : List (String × String) :=
  ((renderBody rewriter.noting root).on ⟨.empty, (urls, [])⟩).2.urls.2

/-- A document is rendered the same while its calls are noted. -/
theorem on_renderBody_noting (rewriter : UrlRewriter σ) (root : Tree) (urls : σ) :
    (renderBody rewriter root).on ⟨.empty, urls⟩ = (((renderBody rewriter.noting root).on ⟨.empty, (urls, [])⟩).1,
      ((renderBody rewriter.noting root).on ⟨.empty, (urls, [])⟩).2.map Prod.fst) :=
  projects_renderKept rewriter.projects_noting root.data [] _ 0 [] root.children ⟨.empty, (urls, [])⟩

end BlogMarkdown.Markdown
