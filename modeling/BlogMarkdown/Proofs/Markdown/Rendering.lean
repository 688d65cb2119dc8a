import BlogMarkdown.Markdown.Render
import BlogMarkdown.Proofs.Markdown.Passage
import BlogMarkdown.Proofs.Url.Host
/-!
# What a rendering comes to

A rendering is run on a sheet, step by step.  For an element from the markup the steps depend on its shape alone: the
shape gives a Markdown rule, or none.  Without a rule the element is written as the markup it is, and so is a heading
whose contents cannot be rendered.
-/
namespace BlogMarkdown.Markdown

open Dom

variable {σ α β : Type}

/-! ## Renderings on a sheet -/

namespace Render

/-- What a rendering comes to on a sheet: its result, and the sheet behind it. -/
def on (m : Render σ α) (sheet : Sheet σ) : Except Error α × Sheet σ := (m.run sheet).run

theorem on_bind (m : Render σ α) (f : α → Render σ β) (sheet : Sheet σ) : (m >>= f).on sheet =
    match m.on sheet with
    | (.ok a, sheet) => (f a).on sheet
    | (.error e, sheet) => (.error e, sheet) := by
  have hbind : (m >>= f).on sheet = (ExceptT.bindCont f (m.on sheet).1).run (m.on sheet).2 := rfl
  rw [hbind]
  obtain ⟨result, after⟩ := m.on sheet
  cases result <;> rfl

theorem on_target (rewriter : UrlRewriter σ) (url : String) (sheet : Sheet σ) :
    (target rewriter url).on sheet =
      (.ok (rewriter.rewrite url sheet.urls).1.toList, { sheet with urls := (rewriter.rewrite url sheet.urls).2 }) :=
  rfl

theorem on_aside (body : Render σ Unit) (sheet : Sheet σ) :
    (aside body).on sheet =
      (.ok ((body.on ⟨.empty, sheet.urls⟩).1.map fun _ => (body.on ⟨.empty, sheet.urls⟩).2.writer),
        { sheet with urls := (body.on ⟨.empty, sheet.urls⟩).2.urls }) := rfl

theorem on_indented (text : List Char) (body : Render σ Unit) (sheet : Sheet σ) :
    (indented text body).on sheet =
      let (result, after) := body.on { sheet with writer := sheet.writer.pushIndent text }
      (result, { after with writer := after.writer.popIndent.ensureLinefeeds 1 }) := by
  unfold indented on
  dsimp only [ExceptT.run]
  generalize Id.run (body { sheet with writer := sheet.writer.pushIndent text }) = outcome
  obtain ⟨result, after⟩ := outcome
  cases result <;> rfl

theorem liftExcept_ok (a : α) : (liftExcept (Except.ok a : Except Error α) : Render σ α) = pure a := rfl

theorem write_write (s t : List Char) : (write s >>= fun _ => write t) = (write (s ++ t) : Render σ Unit) := by
  funext sheet
  show (Except.ok (), { sheet with writer := (sheet.writer.write s).write t }) =
    (Except.ok (), { sheet with writer := sheet.writer.write (s ++ t) })
  rw [Writer.write_append]

theorem writeBetween_eq (start text stop special : List Char) :
    (writeBetween start text stop special : Render σ Unit) = write (start ++ escape special text ++ stop) := by
  funext sheet
  show (Except.ok (), { sheet with writer := ((sheet.writer.write start).write (escape special text)).write stop }) =
    (Except.ok (), { sheet with writer := sheet.writer.write (start ++ escape special text ++ stop) })
  rw [Writer.write_append, Writer.write_append]

end Render

/-! ## Trees in a tree -/

/-- A tree is a part of another one. -/
inductive Within (t : Tree) : Tree → Prop
  | self : Within t t
  | child {data : NodeData} {children : List Tree} {u : Tree} : u ∈ children → Within t u →
    Within t (.node data children)

theorem Within.trans {t u v : Tree} (h : Within t u) (h' : Within u v) : Within t v := by
  induction h' with
  | self => exact h
  | child hmem _ ih => exact .child hmem ih

/-! ## The rule for an element -/

/-- How Markdown writes an element, and what of the element it writes besides the contents. -/
inductive Rule where
  | heading (level : Nat)
  | emphasis (mark : List Char)
  | code (text : List Char)
  | fenced (text : List Char)
  | link (text : List Char)
  | image (source : NodeData)
  | list
  | item (marker : List Char)
  | quotation

/-- The rule for an element that was in the markup, if Markdown can express its shape. -/
def rule? (path : Path) (index : Option Nat) (name : ElementName) (attributes : List Attribute)
    (children : List Tree) : Option Rule :=
  let element := NodeData.element name attributes
  match headingLevel? name.tag with
  | some level => some (.heading level)
  | none =>
    if name.tag = "em" ∨ name.tag = "i" then some (.emphasis ['*'])
    else if name.tag = "strong" ∨ name.tag = "b" then some (.emphasis ['*', '*'])
    else if name.tag = "code" then
      ((bareText? element children).filter fun text => !text.contains '\x60').map .code
    else if name.tag = "pre" then
      ((bareText? element children).filter fun text => !Text.containsWord codeFence text).map .fenced
    else if name.tag = "a" then
      match if hasOnlyTarget element then plainText? children else none with
      | some text => some (.link text)
      | none => ((linkedImage? element children).filter isPlainImage).map .image
    else if name.tag = "img" then if isPlainImage element then some (.image element) else none
    else if name.tag = "ol" ∨ name.tag = "ul" then if hasOnlyItems children then some .list else none
    else if name.tag = "li" then (itemMarker? path index).map .item
    else if name.tag = "blockquote" then some .quotation
    else none

theorem forall_mem_ite {γ : Type} {p : Prop} {_ : Decidable p} {q : γ → Prop} {r r' : Option γ}
    (h : p → ∀ a ∈ r, q a) (h' : ¬ p → ∀ a ∈ r', q a) : ∀ a ∈ if p then r else r', q a := by
  by_cases hp : p
  · rw [if_pos hp]
    exact h hp
  · rw [if_neg hp]
    exact h' hp

theorem forall_mem_map {γ δ : Type} {q : δ → Prop} {f : γ → δ} {r : Option γ} (h : ∀ a ∈ r, q (f a)) :
    ∀ b ∈ r.map f, q b := by
  cases r with
  | none => nofun
  | some a => exact fun b hb => Option.some.inj hb ▸ h a rfl

theorem itemMarker?_eq_some {path : Path} {index : Option Nat} {marker : List Char}
    (h : itemMarker? path index = some marker) :
    marker = ['*', ' '] ∨ ∃ n : Nat, marker = (toString n).toList ++ ['.', ' '] := by
  unfold itemMarker? at h
  split at h
  · split at h
    · cases h
      exact .inr ⟨_, String.toList_append⟩
    · split at h <;> cases h
      exact .inl rfl
  · cases h

theorem of_mem_itemMarker? {path : Path} {index : Option Nat} {marker : List Char} {c : Char}
    (h : itemMarker? path index = some marker) (hc : c ∈ marker) : c.isDigit = true ∨ c ∈ ['*', '.', ' '] := by
  obtain rfl | ⟨n, rfl⟩ := itemMarker?_eq_some h
  · rcases List.mem_pair.1 hc with rfl | rfl <;> simp
  · rcases List.mem_append.1 hc with hnumber | hdot
    · exact .inl (Url.isDigit_of_mem_toString hnumber)
    · exact .inr (List.mem_cons_of_mem '*' hdot)

/-- What an element is like for which a rule is given. -/
inductive Rule.Applies (path : Path) (index : Option Nat) (name : ElementName) (attributes : List Attribute)
    (children : List Tree) : Rule → Prop
  | heading {level : Nat} : headingLevel? name.tag = some level → Applies path index name attributes children
    (.heading level)
  | emphasis : name.tag = "em" ∨ name.tag = "i" → Applies path index name attributes children (.emphasis ['*'])
  | strong : name.tag = "strong" ∨ name.tag = "b" →
    Applies path index name attributes children (.emphasis ['*', '*'])
  | code {text : List Char} : name.tag = "code" → bareText? (.element name attributes) children = some text →
    text.contains '\x60' = false → Applies path index name attributes children (.code text)
  | fenced {text : List Char} : name.tag = "pre" → bareText? (.element name attributes) children = some text →
    Text.containsWord codeFence text = false → Applies path index name attributes children (.fenced text)
  | link {text : List Char} : name.tag = "a" → hasOnlyTarget (.element name attributes) = true →
    plainText? children = some text → Applies path index name attributes children (.link text)
  | linkedImage {image : NodeData} : name.tag = "a" → linkedImage? (.element name attributes) children = some image →
    isPlainImage image = true → Applies path index name attributes children (.image image)
  | image : name.tag = "img" → isPlainImage (.element name attributes) = true →
    Applies path index name attributes children (.image (.element name attributes))
  | list : name.tag = "ol" ∨ name.tag = "ul" → hasOnlyItems children = true →
    Applies path index name attributes children .list
  | item {marker : List Char} : name.tag = "li" → itemMarker? path index = some marker →
    Applies path index name attributes children (.item marker)
  | quotation : name.tag = "blockquote" → Applies path index name attributes children .quotation

theorem applies_of_rule? {path : Path} {index : Option Nat} {name : ElementName} {attributes : List Attribute}
    {children : List Tree} {rule : Rule} (h : rule? path index name attributes children = some rule) :
    rule.Applies path index name attributes children := by
  have hall : ∀ rule ∈ rule? path index name attributes children, rule.Applies path index name attributes children := by
    have hsome {r : Rule} (h : r.Applies path index name attributes children) :
        ∀ rule ∈ some r, rule.Applies path index name attributes children := fun rule hrule => Option.some.inj hrule ▸ h
    rw [rule?]
    cases hlevel : headingLevel? name.tag with
    | some level => exact hsome (.heading hlevel)
    | none =>
      dsimp only
      -- one step for each kind of tag, in the order of the rules
      refine forall_mem_ite (fun htag => hsome (.emphasis htag)) fun _ => ?_
      refine forall_mem_ite (fun htag => hsome (.strong htag)) fun _ => ?_
      refine forall_mem_ite (fun htag => forall_mem_map fun text htext => ?_) fun _ => ?_
      · obtain ⟨hbare, hshape⟩ := Option.mem_filter_iff.1 htext
        exact .code htag hbare (by simpa using hshape)
      refine forall_mem_ite (fun htag => forall_mem_map fun text htext => ?_) fun _ => ?_
      · obtain ⟨hbare, hshape⟩ := Option.mem_filter_iff.1 htext
        exact .fenced htag hbare (by simpa using hshape)
      refine forall_mem_ite (fun htag => ?_) fun _ => ?_
      · cases htext : if hasOnlyTarget (.element name attributes) then plainText? children else none with
        | some text =>
          obtain ⟨htarget, htext⟩ := Option.ite_none_right_eq_some.1 htext
          exact hsome (.link htag htarget htext)
        | none => exact forall_mem_map fun image himage =>
            .linkedImage htag (Option.mem_filter_iff.1 himage).1 (Option.mem_filter_iff.1 himage).2
      refine forall_mem_ite (fun htag => forall_mem_ite (fun h => hsome (.image htag h)) fun _ => nofun) fun _ => ?_
      refine forall_mem_ite (fun htag => forall_mem_ite (fun h => hsome (.list htag h)) fun _ => nofun) fun _ => ?_
      refine forall_mem_ite (fun htag => forall_mem_map fun marker hmarker => .item htag hmarker) fun _ => ?_
      exact forall_mem_ite (fun htag => hsome (.quotation htag)) fun _ => nofun
  exact hall rule h

theorem of_linkedImage? {link : NodeData} {children : List Tree} {image : NodeData}
    (h : linkedImage? link children = some image) :
    ∃ below, children = [.node image below] ∧ image.isNative "img" = true := by
  unfold linkedImage? at h
  split at h
  · rename_i image' below
    split at h
    · rename_i hif
      cases h
      simp only [Bool.and_eq_true] at hif
      exact ⟨below, rfl, hif.1.2⟩
    · cases h
  · cases h

/-- What a rule says of its element: the level of a heading, and whose target a link or an image has. -/
def Rule.Fits (name : ElementName) (attributes : List Attribute) (children : List Tree) : Rule → Prop
  | .heading level => headingLevel? name.tag = some level
  | .link _ => name.tag = "a"
  | .image source => name.tag = "img" ∧ source = .element name attributes ∨
    ∃ below, children = [.node source below] ∧ source.isNative "img" = true
  | _ => True

theorem fits_of_rule? {path : Path} {index : Option Nat} {name : ElementName} {attributes : List Attribute}
    {children : List Tree} {rule : Rule} (h : rule? path index name attributes children = some rule) :
    rule.Fits name attributes children := by
  cases applies_of_rule? h with
  | heading hlevel => exact hlevel
  | link htag => exact htag
  | linkedImage _ himage => exact .inr (of_linkedImage? himage)
  | image htag => exact .inl ⟨htag, rfl⟩
  | _ => trivial

/-- Renders an element by its rule, given the renderings of all its children and of those that are items.  `otherwise`
stands in for the rule if the contents of a heading cannot be rendered. -/
def Rule.render (rewriter : UrlRewriter σ) (element : NodeData) (all items otherwise : Render σ Unit) :
    Rule → Render σ Unit
  | .heading level => do
    match ← Render.aside all with
    | .ok inner => do
      let text ← liftExcept inner.text
      renderHeading level text
    | .error _ => otherwise
  | .emphasis mark => do
    Render.write mark
    all
    Render.write mark
  | .code text => Render.writeVerbatim ('\x60' :: text ++ ['\x60'])
  | .fenced text => renderFenced text
  | .link text => renderLink rewriter element text
  | .image source => renderImage rewriter source
  | .list => do
    Render.ensureLinefeeds 2
    items
    Render.ensureLinefeeds 2
  | .item marker => Render.indented "    ".toList do
    Render.write marker
    all
  | .quotation => do
    Render.ensureLinefeeds 2
    Render.indented ['>', ' '] do
      Render.write ['>', ' ']
      all

theorem ite_eq_elim {γ δ : Type} {p : Prop} {_ : Decidable p} {m m' d : δ} {f : γ → δ} {r r' : Option γ}
    (h : p → m = r.elim d f) (h' : ¬ p → m' = r'.elim d f) :
    (if p then m else m') = (if p then r else r').elim d f := by
  by_cases hp : p
  · rw [if_pos hp, if_pos hp, h hp]
  · rw [if_neg hp, if_neg hp, h' hp]

/-- **An element from the markup is written by its rule**, or as the markup it is if there is none. -/
theorem renderTree_native (rewriter : UrlRewriter σ) (path : Path) (index : Option Nat) {name : ElementName}
    (hname : name.vocabulary ≠ .shortcode) (attributes : List Attribute) (children : List Tree) :
    let t := Dom.Tree.node (.element name attributes) children
    renderTree rewriter path index t = (rule? path index name attributes children).elim (renderAsMarkup t)
      (Rule.render rewriter t.data (renderKept rewriter t.data path (fun _ => true) 0 [] children)
        (renderItems rewriter t.data path 0 [] children) (renderAsMarkup t)) := by
  intro t
  rw [renderTree]
  · rw [rule?]
    cases headingLevel? name.tag with
    | some level => rfl
    | none =>
      dsimp only
      -- one step for each kind of tag, in the order of the rules
      refine ite_eq_elim (fun _ => rfl) fun _ => ?_
      refine ite_eq_elim (fun _ => rfl) fun _ => ?_
      refine ite_eq_elim (fun _ => ?_) fun _ => ?_
      · cases bareText? (.element name attributes) children with
        | none => rfl
        | some text => cases hshape : text.contains '\x60' <;> simp only [Option.filter, hshape] <;> rfl
      refine ite_eq_elim (fun _ => ?_) fun _ => ?_
      · cases bareText? (.element name attributes) children with
        | none => rfl
        | some text => cases hshape : Text.containsWord codeFence text <;> simp only [Option.filter, hshape] <;> rfl
      refine ite_eq_elim (fun _ => ?_) fun _ => ?_
      · cases if hasOnlyTarget (.element name attributes) then plainText? children else none with
        | some text => rfl
        | none =>
          cases linkedImage? (.element name attributes) children with
          | none => rfl
          | some image => cases hshape : isPlainImage image <;> simp only [Option.filter, hshape] <;> rfl
      refine ite_eq_elim (fun _ => ite_eq_elim (fun _ => rfl) fun _ => rfl) fun _ => ?_
      refine ite_eq_elim (fun _ => ite_eq_elim (fun _ => rfl) fun _ => rfl) fun _ => ?_
      refine ite_eq_elim (fun _ => ?_) fun _ => ite_eq_elim (fun _ => rfl) fun _ => rfl
      cases itemMarker? path index <;> rfl
  · rintro tag rfl
    exact hname rfl

end BlogMarkdown.Markdown
