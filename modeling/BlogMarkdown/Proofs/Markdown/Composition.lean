import BlogMarkdown.Proofs.Markdown.Rendering
/-!
# How a rendering is put together

The rendering of a tree is put together from those of its children in a few ways: by the rule for an element, as a
formula, as a caption in one of its two forms.  What each of these ways preserves holds of every rendering.
-/
namespace BlogMarkdown.Markdown

open Dom

variable {σ : Type}

/-! ## Children that are rendered -/

/-- Those trees of a list whose position is kept; the first tree has the position `position`. -/
def kept (keep : Nat → Bool) : Nat → List Tree → List Tree
  | _, [] => []
  | position, t :: after =>
    if keep position then t :: kept keep (position + 1) after else kept keep (position + 1) after

theorem kept_append (keep : Nat → Bool) : ∀ (position : Nat) (ts us : List Tree),
    kept keep position (ts ++ us) = kept keep position ts ++ kept keep (position + ts.length) us
  | _, [], _ => rfl
  | position, t :: ts, us => by
    rw [List.cons_append, kept, kept, kept_append keep (position + 1) ts us, List.length_cons,
      show position + 1 + ts.length = position + (ts.length + 1) by omega]
    split <;> rfl

theorem kept_eq_self {keep : Nat → Bool} : ∀ {position : Nat} {ts : List Tree},
    (∀ i, position ≤ i → keep i = true) → kept keep position ts = ts
  | _, [], _ => rfl
  | position, t :: ts, h => by
    rw [kept, if_pos (h position (Nat.le_refl position)), kept_eq_self fun i hi => h i (by omega)]

theorem kept_eq_nil {keep : Nat → Bool} : ∀ {position : Nat} {ts : List Tree},
    (∀ i, position ≤ i → i < position + ts.length → keep i = false) → kept keep position ts = []
  | _, [], _ => rfl
  | position, t :: ts, h => by
    rw [kept, h position (Nat.le_refl position) (by rw [List.length_cons]; omega),
      kept_eq_nil fun i hi hlt => h i (by omega) (by rw [List.length_cons]; omega)]
    rfl

theorem kept_first (before : List Tree) (first : Tree) (after : List Tree) :
    kept (· = before.length) 0 (before ++ first :: after) = [first] := by
  have hbefore : kept (· = before.length) 0 before = [] := kept_eq_nil fun i _ hi => by
    simp only [decide_eq_false_iff_not]
    omega
  have hafter : kept (· = before.length) (before.length + 1) after = [] := kept_eq_nil fun i hi _ => by
    simp only [decide_eq_false_iff_not]
    omega
  rw [kept_append, hbefore, Nat.zero_add, kept, hafter, if_pos (by simp)]
  rfl

theorem kept_behind (before : List Tree) (first : Tree) (after : List Tree) :
    kept (before.length < ·) 0 (before ++ first :: after) = after := by
  have hbefore : kept (before.length < ·) 0 before = [] := kept_eq_nil fun i _ hi => by
    simp only [decide_eq_false_iff_not]
    omega
  rw [kept_append, hbefore, Nat.zero_add, kept, if_neg (by simp)]
  exact kept_eq_self fun i hi => by
    simp only [decide_eq_true_eq]
    omega

theorem exists_of_findIdx? {p : Tree → Bool} : ∀ {ts : List Tree} {i : Nat}, ts.findIdx? p = some i →
    ∃ before first after, ts = before ++ first :: after ∧ before.length = i ∧ ∀ t ∈ before, p t = false
  | [], _, h => by cases h
  | t :: ts, i, h => by
    rw [List.findIdx?_cons] at h
    cases ht : p t with
    | true =>
      rw [ht] at h
      cases h
      exact ⟨[], t, ts, rfl, rfl, nofun⟩
    | false =>
      rw [ht] at h
      obtain ⟨j, hj, rfl⟩ := Option.map_eq_some_iff.1 h
      obtain ⟨before, first, after, rfl, rfl, hbefore⟩ := exists_of_findIdx? hj
      exact ⟨t :: before, first, after, rfl, rfl, List.forall_mem_cons.2 ⟨ht, hbefore⟩⟩

/-! ## The two forms of a caption -/

/-- A figure and what stands below it. -/
def renderFigure (figure : Render σ Unit) (caption : List Char) : Render σ Unit := do
  Render.write figureStart
  figure
  Render.write captionStart
  Render.write caption
  Render.write figureEnd

/-- A figure with the text that was rendered aside below it. -/
def renderCaptioned (figure : Render σ Unit) (rest : Render σ Unit) : Render σ Unit := do
  let inner ← Render.aside rest
  let caption ← liftExcept (inner.bind Writer.text)
  renderFigure figure (Text.trimBlank caption)

/-! ## Properties of renderings -/

/-- A property of renderings that the ways of putting renderings together preserve.  `P ts m` says it of a rendering `m`
of the trees `ts`. -/
structure Compositional (rewriter : UrlRewriter σ) (P : List Tree → Render σ Unit → Prop) : Prop where
  nil : P [] (pure ())
  cons {t : Tree} {ts : List Tree} {m n : Render σ Unit} : P [t] m → P ts n → P (t :: ts) (do m; n)
  failure (ts : List Tree) (e : Error) : P ts (throw e)
  text (path : Path) (content : List Char) (below : List Tree) :
    P [.node (.text content) below] (Render.write (bodyText (trimAtBlocks path content)))
  comment (content : List Char) (below : List Tree) : P [.node (.comment content) below] (pure ())
  document {children : List Tree} {m : Render σ Unit} : P children m → P [.node .document children] m
  markup (name : ElementName) (attributes : List Attribute) (children : List Tree) :
    P [.node (.element name attributes) children] (renderAsMarkup (.node (.element name attributes) children))
  rule {path : Path} {index : Option Nat} {name : ElementName} {attributes : List Attribute} {children : List Tree}
    {rule : Rule} : name.vocabulary ≠ .shortcode → rule.Applies path index name attributes children →
    P children (renderKept rewriter (.element name attributes) path (fun _ => true) 0 [] children) →
    P (children.filter (·.data.isElement)) (renderItems rewriter (.element name attributes) path 0 [] children) →
    P [.node (.element name attributes) children]
      (rule.render rewriter (.element name attributes)
        (renderKept rewriter (.element name attributes) path (fun _ => true) 0 [] children)
        (renderItems rewriter (.element name attributes) path 0 [] children)
        (renderAsMarkup (.node (.element name attributes) children)))
  formula (attributes : List Attribute) (children : List Tree) :
    P [.node (.element (.shortcode "latex") attributes) children] (renderFormula children)
  figure {tag : String} {attributes : List Attribute} {children : List Tree} {m : Render σ Unit} {caption : String} :
    (NodeData.element (.shortcode tag) attributes).attribute? "caption" = some caption → P children m →
    P [.node (.element (.shortcode tag) attributes) children] (renderFigure m (escape specialInText caption.toList))
  captioned {name : ElementName} {attributes : List Attribute} {before : List Tree} {first : Tree} {after : List Tree}
    {m n : Render σ Unit} : (∀ t ∈ before, isMeaningful t = false) → P [first] m → P after n →
    P [.node (.element name attributes) (before ++ first :: after)] (renderCaptioned m n)

namespace Compositional

variable {rewriter : UrlRewriter σ} {P : List Tree → Render σ Unit → Prop}

theorem native (h : Compositional rewriter P) {path : Path} {index : Option Nat} {name : ElementName}
    (hname : name.vocabulary ≠ .shortcode) {attributes : List Attribute} {children : List Tree}
    (hall : P children (renderKept rewriter (.element name attributes) path (fun _ => true) 0 [] children))
    (hitems : P (children.filter (·.data.isElement))
      (renderItems rewriter (.element name attributes) path 0 [] children)) :
    P [.node (.element name attributes) children]
      (renderTree rewriter path index (.node (.element name attributes) children)) := by
  rw [renderTree_native rewriter path index hname]
  cases hrule : rule? path index name attributes children with
  | none => exact h.markup name attributes children
  | some rule => exact h.rule hname (applies_of_rule? hrule) hall hitems

theorem shortcode (h : Compositional rewriter P) {path : Path} {index : Option Nat} {tag : String}
    {attributes : List Attribute} {children : List Tree}
    (hkept : ∀ keep, P (kept keep 0 children)
      (renderKept rewriter (.element ⟨.shortcode, tag⟩ attributes) path keep 0 [] children)) :
    P [.node (.element ⟨.shortcode, tag⟩ attributes) children]
      (renderTree rewriter path index (.node (.element ⟨.shortcode, tag⟩ attributes) children)) := by
  rw [renderTree]
  split
  · rename_i htag
    exact htag ▸ h.formula attributes children
  split
  · split
    · rename_i hfirst
      dsimp only
      split
      · rename_i hcaption
        have hall := hkept fun _ => true
        rw [kept_eq_self fun _ _ => rfl] at hall
        simp only [pure_bind]
        exact h.figure hcaption hall
      · obtain ⟨before, first, after, rfl, rfl, hbefore⟩ := exists_of_findIdx? hfirst
        have hone := hkept (· = before.length)
        have hrest := hkept (before.length < ·)
        rw [kept_first] at hone
        rw [kept_behind] at hrest
        simp only [pure_bind]
        exact h.captioned hbefore hone hrest
    · exact h.failure _ _
  · exact h.failure _ _

mutual
/-- **What is preserved holds of every tree.** -/
theorem renderTree (h : Compositional rewriter P) : ∀ (path : Path) (index : Option Nat) (t : Tree),
    P [t] (Markdown.renderTree rewriter path index t)
  | path, index, .node (.text content) below => by
    rw [Markdown.renderTree]
    exact h.text path content below
  | path, index, .node (.comment content) below => by
    rw [Markdown.renderTree]
    exact h.comment content below
  | path, index, .node (.doctype _ _ _) _ => by
    rw [Markdown.renderTree]
    exact h.failure _ _
  | path, index, .node .document children => by
    have hall := h.renderKept .document path (fun _ => true) 0 [] children
    rw [kept_eq_self fun _ _ => rfl] at hall
    rw [Markdown.renderTree]
    exact h.document hall
  | path, index, .node (.element name attributes) children => by
    have hkept (keep : Nat → Bool) := h.renderKept (.element name attributes) path keep 0 [] children
    by_cases hname : name.vocabulary = .shortcode
    · obtain ⟨vocabulary, tag⟩ := name
      cases hname
      exact h.shortcode hkept
    · have hall := hkept fun _ => true
      rw [kept_eq_self fun _ _ => rfl] at hall
      exact h.native hname hall (h.renderItems (.element name attributes) path 0 [] children)

theorem renderKept (h : Compositional rewriter P) (parent : NodeData) (path : Path) (keep : Nat → Bool) :
    ∀ (position : Nat) (before ts : List Tree),
    P (kept keep position ts) (Markdown.renderKept rewriter parent path keep position before ts)
  | _, _, [] => by
    rw [Markdown.renderKept]
    exact h.nil
  | position, before, t :: after => by
    have ht := h.renderTree (⟨parent, before, after⟩ :: path) none t
    have hafter := h.renderKept parent path keep (position + 1) (t :: before) after
    rw [Markdown.renderKept, kept]
    split
    · exact h.cons ht hafter
    · exact hafter

theorem renderItems (h : Compositional rewriter P) (parent : NodeData) (path : Path) :
    ∀ (index : Nat) (before ts : List Tree),
    P (ts.filter (·.data.isElement)) (Markdown.renderItems rewriter parent path index before ts)
  | _, _, [] => by
    rw [Markdown.renderItems]
    exact h.nil
  | index, before, t :: after => by
    have ht := h.renderTree (⟨parent, before, after⟩ :: path) (some index) t
    have hafter (index : Nat) := h.renderItems parent path index (t :: before) after
    rw [Markdown.renderItems, List.filter_cons]
    split
    · exact h.cons ht (hafter _)
    · exact hafter _
end

theorem renderBody (h : Compositional rewriter P) (root : Tree) :
    P root.children (Markdown.renderBody rewriter root) := by
  have hall := h.renderKept root.data [] (fun _ => true) 0 [] root.children
  rw [kept_eq_self fun _ _ => rfl] at hall
  exact hall

end Compositional

end BlogMarkdown.Markdown
