import BlogMarkdown.Proofs.Markdown.Comparison
import BlogMarkdown.Proofs.Markdown.Constructs
/-!
# Which constructs a document shows

The code, the fenced code and the formulas of a tree stand in its document in the order of the tree, wherever they are:
in lists and quotations, in headings, in captions.  Those of a heading whose contents cannot be rendered stand in it as
the markup they are, and are none.  The first copy of its delimiter behind the opening one closes each of them, but for
the formulas that spill.
-/
namespace BlogMarkdown.Markdown

open Dom Text

variable {σ : Type}

/-! ## Renderings -/

namespace Render

/-- A rendering that succeeds outside verbatim mode adds a text in which some constructs stand. -/
def Displays (cs : List Construct) (m : Render σ Unit) : Prop :=
  ∀ (sheet : Sheet σ) (text : List Char), sheet.writer.Spells text → sheet.writer.verbatim = 0 →
    (m.on sheet).1 = .ok () → (m.on sheet).2.writer.verbatim = 0 ∧
      ∃ more, (m.on sheet).2.writer.Spells (text ++ more) ∧ Contains cs more

variable {cs ds : List Construct} {m : Render σ Unit}

theorem Orderly.displays_nil (h : m.Orderly fun _ => True) : m.Displays [] := by
  intro sheet text ht hverbatim _
  have hlater := (h sheet).1
  obtain ⟨more, hs⟩ := hlater.spells text ht
  exact ⟨hlater.verbatim.trans hverbatim, more, hs, .nil more⟩

theorem displays_layout {f : Writer → Writer} (hf : ∀ w : Writer, w.Later (f w))
    (h : ∀ w text, w.Spells text → w.verbatim = 0 → ∃ more, (f w).Spells (text ++ more) ∧ Contains cs more) :
    (layout f : Render σ Unit).Displays cs := fun sheet text ht hverbatim _ =>
  ⟨(hf sheet.writer).verbatim.trans hverbatim, h sheet.writer text ht hverbatim⟩

theorem displays_write {s : List Char} (h : Contains cs s) : (write s : Render σ Unit).Displays cs :=
  displays_layout (Writer.later_write s) fun w _ ht _ => by
    obtain ⟨more, hs, hmore⟩ := ht.write_arrives s
    exact ⟨more, hs, h.arrives hmore⟩

theorem displays_writeVerbatim {s : List Char} (h : Contains cs s) : (writeVerbatim s : Render σ Unit).Displays cs :=
  displays_layout (Writer.later_writeVerbatim s) fun w _ ht _ => by
    obtain ⟨more, hs, hmore⟩ := ht.enterVerbatim.write_arrives s
    exact ⟨more, hs.leaveVerbatim, h.arrives hmore⟩

theorem Displays.bind {f : Unit → Render σ Unit} (hm : m.Displays cs) (hf : (f ()).Displays ds) :
    (m >>= f).Displays (cs ++ ds) := by
  intro sheet text ht hverbatim hok
  have hm := hm sheet text ht hverbatim
  rw [on_bind] at hok ⊢
  generalize m.on sheet = outcome at *
  obtain ⟨result, after⟩ := outcome
  cases result with
  | error e => cases hok
  | ok u =>
    obtain ⟨hmode, more, hs, h⟩ := hm rfl
    obtain ⟨hmode', more', hs', h'⟩ := hf after _ hs hmode hok
    exact ⟨hmode', more ++ more', by rwa [← List.append_assoc], h.append h'⟩

theorem Displays.behind {f : Unit → Render σ Unit} (hm : m.Displays []) (hf : (f ()).Displays cs) :
    (m >>= f).Displays cs := hm.bind hf

theorem Displays.before {f : Unit → Render σ Unit} (hm : m.Displays cs) (hf : (f ()).Displays []) :
    (m >>= f).Displays cs := List.append_nil cs ▸ hm.bind hf

theorem Displays.indented {s : List Char} (hindent : ∀ c ∈ s, IsIndent c) (h : m.Displays cs) :
    (Render.indented s m).Displays cs := by
  intro sheet text ht hverbatim hok
  obtain ⟨gap, -, ht⟩ := ht.pushIndent hindent
  rw [on_indented] at hok ⊢
  obtain ⟨hmode, more, hs, h⟩ := h ⟨sheet.writer.pushIndent s, sheet.urls⟩ _ ht
    (sheet.writer.modes_flushLinefeeds.1.trans hverbatim) hok
  refine ⟨((Writer.later_ensureLinefeeds 1 _).verbatim).trans hmode, gap ++ more, ?_, h.behind gap⟩
  rw [← List.append_assoc]
  exact hs.popIndent.ensureLinefeeds 1

/-- What is rendered aside succeeds on every sheet or on none. -/
theorem Displays.aside {f : Except Error Writer → Render σ Unit} (hm : m.Displays cs) (huniform : m.Uniform) (urls : σ)
    (hok : ∀ w text, w.Spells text → Contains cs text → (m.on ⟨.empty, urls⟩).1 = .ok () → (f (.ok w)).Displays ds)
    (herror : ∀ e, (m.on ⟨.empty, urls⟩).1 = .error e → (f (.error e)).Displays ds) :
    (Render.aside m >>= f).Displays ds := by
  intro sheet text ht hverbatim hrun
  have hm := hm ⟨.empty, sheet.urls⟩ [] Writer.spells_empty rfl
  have hsame := (huniform ⟨.empty, urls⟩ ⟨.empty, sheet.urls⟩ [] [] Writer.spells_empty Writer.spells_empty).1
  rw [on_bind, on_aside] at hrun ⊢
  generalize m.on ⟨.empty, sheet.urls⟩ = outcome at *
  obtain ⟨result, after⟩ := outcome
  cases result with
  | error e => exact herror e hsame ⟨sheet.writer, after.urls⟩ text ht hverbatim hrun
  | ok u =>
    obtain ⟨-, inner, hs, h⟩ := hm rfl
    exact hok after.writer inner hs h hsame ⟨sheet.writer, after.urls⟩ text ht hverbatim hrun

theorem displays_renderFenced {source : List Char} (h : (Construct.fenced source).Delimits) :
    (renderFenced source : Render σ Unit).Displays [.fenced source] := by
  intro sheet text ht hverbatim _
  obtain ⟨gap, body, hbody, hs⟩ := ht.renderFenced hverbatim source sheet.urls
  have horderly : (renderFenced source : Render σ Unit).Orderly fun _ => True := orderly_renderFenced source
  have hlater := (horderly sheet).1
  exact ⟨hlater.verbatim.trans hverbatim, _, hs, (Contains.single h hbody).behind gap⟩

theorem escapeAfter_nil : ∀ (s : List Char) (before : Option Char), escapeAfter [] before s = s
  | [], _ => rfl
  | c :: s, before => by
    rw [escapeAfter, escapeAfter_nil s]
    exact if_neg (by simp)

theorem displays_renderFormula (children : List Tree) :
    (renderFormula children : Render σ Unit).Displays [.formula ((plainText? children).getD (allTextOf children))] := by
  rw [renderFormula, writeBetween_eq, escape, escapeAfter_nil]
  generalize (plainText? children).getD (allTextOf children) = source
  refine displays_write ?_
  have hwritten : (if source.head? = some '[' then ['$', '$', ' '] else ['$', '$']) ++ source ++ ['$', '$'] =
      (Construct.formula source).delimiter ++ ((Construct.formula source).content ++ (Construct.formula source).delimiter) := by
    rw [Construct.delimiter, Construct.content]
    split <;> simp
  rw [hwritten]
  exact .single (Construct.delimits_formula source) (.refl _)

theorem displays_code {source : List Char} (h : source.contains '\x60' = false) :
    (writeVerbatim ('\x60' :: source ++ ['\x60']) : Render σ Unit).Displays [.code source] :=
  displays_writeVerbatim (.single (c := .code source) (Construct.delimits_code h) (.refl source))

end Render

/-! ## Trees -/

/-- The constructs of an element by its rule, given those of its children and of its items.  `renderable` says whether
the contents of a heading can be rendered. -/
def Rule.constructs (renderable : Bool) (all items : List Construct) : Rule → List Construct
  | .heading _ => if renderable then all else []
  | .emphasis _ => all
  | .code text => [.code text]
  | .fenced text => [.fenced text]
  | .link _ => []
  | .image _ => []
  | .list => items
  | .item _ => all
  | .quotation => all

section

variable (rewriter : UrlRewriter σ) (urls : σ)

mutual
/-- The constructs that a tree at a place is rendered with, in order. -/
def Tree.constructs (path : Path) (index : Option Nat) : Tree → List Construct
  | .node (.text _) _ => []
  | .node (.comment _) _ => []
  | .node (.doctype _ _ _) _ => []
  | .node .document children => constructsOf .document path (fun _ => true) 0 [] children
  | .node (.element ⟨.shortcode, tag⟩ attributes) children =>
    let self := NodeData.element ⟨.shortcode, tag⟩ attributes
    if tag = "latex" then [.formula ((plainText? children).getD (allTextOf children))]
    else
      match self.attribute? "caption", children.findIdx? isMeaningful with
      | some _, _ => constructsOf self path (fun _ => true) 0 [] children
      | none, some first =>
        constructsOf self path (· = first) 0 [] children ++ constructsOf self path (first < ·) 0 [] children
      | none, none => []
  | .node (.element name attributes) children =>
    let self := NodeData.element name attributes
    match rule? path index name attributes children with
    | some rule =>
      let renderable := ((renderKept rewriter self path (fun _ => true) 0 [] children).on ⟨.empty, urls⟩).1.isOk
      rule.constructs renderable (constructsOf self path (fun _ => true) 0 [] children)
        (itemConstructs self path 0 [] children)
    | none => []
/-- The constructs of those children of a node whose position is kept. -/
def constructsOf (parent : NodeData) (path : Path) (keep : Nat → Bool) (position : Nat) (before : List Tree) :
    List Tree → List Construct
  | [] => []
  | t :: after =>
    (if keep position then Tree.constructs (⟨parent, before, after⟩ :: path) none t else []) ++
      constructsOf parent path keep (position + 1) (t :: before) after
/-- The constructs of the items of a list. -/
def itemConstructs (parent : NodeData) (path : Path) (index : Nat) (before : List Tree) : List Tree → List Construct
  | [] => []
  | t :: after =>
    if t.data.isElement then
      Tree.constructs (⟨parent, before, after⟩ :: path) (some index) t ++
        itemConstructs parent path (index + 1) (t :: before) after
    else itemConstructs parent path index (t :: before) after
end

end

section

open Render

variable {rewriter : UrlRewriter σ}

theorem displays_renderHeading (level : Nat) {text : List Char} {cs : List Construct} (h : Contains cs text) :
    (renderHeading level text : Render σ Unit).Displays cs := by
  have hapart : (ensureLinefeeds 2 : Render σ Unit).Displays [] := (orderly_ensureLinefeeds 2).displays_nil
  have hhashes : (write (List.replicate level '#' ++ [' ']) : Render σ Unit).Displays [] :=
    (orderly_write _).displays_nil
  have hline : (write (onOneLine text) : Render σ Unit).Displays cs := displays_write (h.laid (.onOneLine text))
  exact hapart.behind <| hhashes.behind <| hline.before hapart

theorem Rule.displays {path : Path} {index : Option Nat} {name : ElementName} {attributes : List Attribute}
    {children : List Tree} {element : NodeData} {all items otherwise : Render σ Unit} {cs ds : List Construct}
    {rule : Rule} (hrule : rule.Applies path index name attributes children) (hall : all.Displays cs)
    (huniform : all.Uniform) (hitems : items.Displays ds) (hotherwise : otherwise.Displays []) (urls : σ) :
    (rule.render rewriter element all items otherwise).Displays
      (rule.constructs (all.on ⟨.empty, urls⟩).1.isOk cs ds) := by
  have hmark (s : List Char) : (write s : Render σ Unit).Displays [] :=
    (orderly_write s).displays_nil
  have hapart : (ensureLinefeeds 2 : Render σ Unit).Displays [] :=
    (orderly_ensureLinefeeds 2).displays_nil
  cases hrule with
  | heading =>
    refine hall.aside huniform urls (fun w text hw h hok => ?_) fun e he => ?_
    · dsimp only
      rw [hw.text_eq, liftExcept_ok, pure_bind, hok]
      exact displays_renderHeading _ h
    · rw [he]
      exact hotherwise
  | emphasis => exact (hmark _).behind <| hall.before (hmark _)
  | strong => exact (hmark _).behind <| hall.before (hmark _)
  | code _ _ h => exact displays_code h
  | fenced _ _ h => exact displays_renderFenced (Construct.delimits_fenced h)
  | link => exact (orderly_renderLink _ _).displays_nil
  | linkedImage => exact (orderly_renderImage _).displays_nil
  | image => exact (orderly_renderImage _).displays_nil
  | list => exact hapart.behind <| hitems.before hapart
  | item =>
    exact ((hmark _).behind (f := fun _ => all) hall).indented (by simp [IsIndent])
  | quotation =>
    exact hapart.behind <| ((hmark _).behind (f := fun _ => all) hall).indented (by simp [IsIndent])

theorem displays_renderFigure {figure : Render σ Unit} {caption : List Char} {cs ds : List Construct}
    (hfigure : figure.Displays cs) (hcaption : Contains ds caption) : (renderFigure figure caption).Displays (cs ++ ds) := by
  have hmark (s : List Char) : (write s : Render σ Unit).Displays [] :=
    (orderly_write s).displays_nil
  exact (hmark _).behind <| hfigure.bind <| (hmark _).behind <| (displays_write hcaption).before (hmark _)

theorem displays_renderCaptioned {figure rest : Render σ Unit} {cs ds : List Construct} (hfigure : figure.Displays cs)
    (hrest : rest.Displays ds) (huniform : rest.Uniform) (urls : σ) : (renderCaptioned figure rest).Displays (cs ++ ds) := by
  refine hrest.aside huniform urls (fun w text hw h _ => ?_) fun e _ _ _ _ _ hok => nomatch hok
  have hcaption : (Except.ok w : Except Error Writer).bind Writer.text = .ok text := hw.text_eq
  simp only [hcaption, liftExcept_ok, pure_bind]
  exact displays_renderFigure hfigure h.trimBlank

theorem displays_native {name : ElementName} (hname : name.vocabulary ≠ .shortcode) {attributes : List Attribute}
    {children : List Tree} {path : Path} {index : Option Nat} {urls : σ}
    (hall : (renderKept rewriter (.element name attributes) path (fun _ => true) 0 [] children).Displays
      (constructsOf rewriter urls (.element name attributes) path (fun _ => true) 0 [] children))
    (hitems : (renderItems rewriter (.element name attributes) path 0 [] children).Displays
      (itemConstructs rewriter urls (.element name attributes) path 0 [] children)) :
    (renderTree rewriter path index (.node (.element name attributes) children)).Displays
      (Tree.constructs rewriter urls path index (.node (.element name attributes) children)) := by
  have hmarkup : (renderAsMarkup (.node (.element name attributes) children) : Render σ Unit).Displays [] :=
    (orderly_writeVerbatim _).displays_nil
  have huniform := (compositional_uniform rewriter).renderKept (.element name attributes) path (fun _ => true) 0 [] children
  rw [renderTree_native rewriter path index hname, Tree.constructs]
  · cases hrule : rule? path index name attributes children with
    | none => exact hmarkup
    | some rule => exact Rule.displays (applies_of_rule? hrule) hall huniform hitems hmarkup urls
  · rintro tag rfl
    exact hname rfl

theorem displays_shortcode {tag : String} {attributes : List Attribute} {children : List Tree} {path : Path}
    {index : Option Nat} {urls : σ}
    (hkept : ∀ keep, (renderKept rewriter (.element ⟨.shortcode, tag⟩ attributes) path keep 0 [] children).Displays
      (constructsOf rewriter urls (.element ⟨.shortcode, tag⟩ attributes) path keep 0 [] children)) :
    (renderTree rewriter path index (.node (.element ⟨.shortcode, tag⟩ attributes) children)).Displays
      (Tree.constructs rewriter urls path index (.node (.element ⟨.shortcode, tag⟩ attributes) children)) := by
  have hthrow (e : Error) {cs : List Construct} : (throw e : Render σ Unit).Displays cs := fun _ _ _ _ hok => nomatch hok
  rw [renderTree, Tree.constructs]
  dsimp only
  by_cases hlatex : tag = "latex"
  · rw [if_pos hlatex, if_pos hlatex]
    exact displays_renderFormula children
  rw [if_neg hlatex, if_neg hlatex]
  by_cases htag : tag = "caption" ∨ tag = "wp_caption"
  · rw [if_pos htag]
    cases captionImage? children with
    | none => exact hthrow _
    | some image =>
      cases children.findIdx? isMeaningful with
      | none => exact hthrow _
      | some first =>
        cases (NodeData.element ⟨.shortcode, tag⟩ attributes).attribute? "caption" with
        | some caption =>
          simp only [pure_bind]
          have hfigure := displays_renderFigure (hkept fun _ => true) (.nil (escape specialInText caption.toList))
          rwa [List.append_nil] at hfigure
        | none =>
          simp only [pure_bind]
          exact displays_renderCaptioned (hkept _) (hkept _)
            ((compositional_uniform rewriter).renderKept _ path _ 0 [] children) urls
  · rw [if_neg htag]
    exact hthrow _

mutual
/-- **A rendering that succeeds shows the constructs of its tree**, in order. -/
theorem displays_renderTree (rewriter : UrlRewriter σ) (urls : σ) : ∀ (path : Path) (index : Option Nat) (t : Tree),
    (renderTree rewriter path index t).Displays (Tree.constructs rewriter urls path index t)
  | path, index, .node (.text content) _ => by
    rw [renderTree, Tree.constructs]
    exact (orderly_write _).displays_nil
  | path, index, .node (.comment _) _ => by
    rw [renderTree, Tree.constructs]
    exact orderly_pure.displays_nil
  | path, index, .node (.doctype _ _ _) _ => by
    rw [renderTree]
    exact fun _ _ _ _ hok => nomatch hok
  | path, index, .node .document children => by
    rw [renderTree, Tree.constructs]
    exact displays_renderKept rewriter urls _ path _ 0 [] children
  | path, index, .node (.element name attributes) children => by
    have hkept (keep : Nat → Bool) := displays_renderKept rewriter urls (.element name attributes) path keep 0 [] children
    by_cases hname : name.vocabulary = .shortcode
    · obtain ⟨vocabulary, tag⟩ := name
      cases hname
      exact displays_shortcode hkept
    · exact displays_native hname (hkept _) (displays_renderItems rewriter urls _ path 0 [] children)

theorem displays_renderKept (rewriter : UrlRewriter σ) (urls : σ) (parent : NodeData) (path : Path) (keep : Nat → Bool) :
    ∀ (position : Nat) (before ts : List Tree),
    (renderKept rewriter parent path keep position before ts).Displays
      (constructsOf rewriter urls parent path keep position before ts)
  | _, _, [] => by
    rw [renderKept, constructsOf]
    exact orderly_pure.displays_nil
  | position, before, t :: after => by
    have ht := displays_renderTree rewriter urls (⟨parent, before, after⟩ :: path) none t
    have hafter := displays_renderKept rewriter urls parent path keep (position + 1) (t :: before) after
    rw [renderKept, constructsOf]
    split
    · exact ht.bind hafter
    · exact hafter

theorem displays_renderItems (rewriter : UrlRewriter σ) (urls : σ) (parent : NodeData) (path : Path) :
    ∀ (index : Nat) (before ts : List Tree),
    (renderItems rewriter parent path index before ts).Displays
      (itemConstructs rewriter urls parent path index before ts)
  | _, _, [] => by
    rw [renderItems, itemConstructs]
    exact orderly_pure.displays_nil
  | index, before, t :: after => by
    have ht := displays_renderTree rewriter urls (⟨parent, before, after⟩ :: path) (some index) t
    have hafter (index : Nat) := displays_renderItems rewriter urls parent path index (t :: before) after
    rw [renderItems, itemConstructs]
    split
    · exact ht.bind (hafter _)
    · exact hafter _
end

end

/-- The constructs of a document. -/
def bodyConstructs (rewriter : UrlRewriter σ) (urls : σ) (root : Tree) : List Construct :=
  constructsOf rewriter urls root.data [] (fun _ => true) 0 [] root.children

/-- **Code, fenced code and formulas end where the document closes them**, except for the formulas that spill.  Each
construct of the tree stands in the finished document between two copies of its delimiter, behind the constructs before
it and before those behind it, and the copy that closes it is the first one behind the copy that opens it exactly if it
does not spill. -/
theorem delimited_of_rendered (rewriter : UrlRewriter σ) (urls : σ) (root : Tree) {text : List Char}
    (hok : (rendered rewriter root urls).1 = .ok text) {earlier later : List Construct} {c : Construct}
    (hc : bodyConstructs rewriter urls root = earlier ++ c :: later) :
    ∃ before body after, text = before ++ (c.delimiter ++ (body ++ c.delimiter ++ after)) ∧ Laid c.content body ∧
      Contains earlier before ∧ Contains later after ∧
      (splitAtWord? c.delimiter (body ++ c.delimiter ++ after) = some (body, after) ↔ ¬ c.Spills) := by
  have hbody := displays_renderKept rewriter urls root.data [] (fun _ => true) 0 [] root.children
  rw [show constructsOf rewriter urls root.data [] (fun _ => true) 0 [] root.children = _ from hc] at hbody
  rw [rendered_eq] at hok
  cases hresult : ((renderBody rewriter root).on ⟨.empty, urls⟩).1 with
  | error e =>
    rw [hresult] at hok
    cases hok
  | ok u =>
    rw [hresult] at hok
    obtain ⟨-, more, hs, hcontains⟩ := hbody ⟨.empty, urls⟩ [] Writer.spells_empty rfl hresult
    obtain ⟨before, body, after, rfl, hdelimits, hlaid, hearlier, hlater⟩ := (hcontains.finish hs hok).split
    exact ⟨before, body, after, by simp only [List.append_assoc], hlaid, hearlier, hlater, hdelimits body after hlaid⟩

/-- Fenced code in a quotation, code in a heading, and a formula that begins with a bracket. -/
def codePage : Tree :=
  .node (.element (.html "body") [])
    [.node (.element (.html "blockquote") [])
      [.node (.element (.html "pre") []) [.node (.text "a\t\x60\n\x60b".toList) []]],
     .node (.element (.html "h1") []) [.node (.element (.html "code") []) [.node (.text "c\nd".toList) []]],
     .node (.element (.shortcode "latex") []) [.node (.text "[e]$f".toList) []]]

def codeDocument : List Char :=
  "> \n> \n> \x60\x60\x60\n> a       \x60\n\x60b\n> \x60\x60\x60\n\n# \x60c d\x60\n\n$$ [e]$f$$\n".toList

theorem delimited_of_codePage :
    (rendered .identity codePage ()).1 = .ok codeDocument ∧
    bodyConstructs .identity () codePage =
      [.fenced "a\t\x60\n\x60b".toList] ++ .code "c\nd".toList :: [.formula "[e]$f".toList] ∧
    ∃ before body after, codeDocument = before ++ (['\x60'] ++ (body ++ ['\x60'] ++ after)) ∧
      Laid "c\nd".toList body ∧ Contains [.fenced "a\t\x60\n\x60b".toList] before ∧
      Contains [.formula "[e]$f".toList] after ∧
      (splitAtWord? ['\x60'] (body ++ ['\x60'] ++ after) = some (body, after) ↔
        ¬ (Construct.code "c\nd".toList).Spills) := by
  have hok : (rendered .identity codePage ()).1 = .ok codeDocument := by decide +kernel
  have hconstructs : bodyConstructs .identity () codePage =
      [.fenced "a\t\x60\n\x60b".toList] ++ .code "c\nd".toList :: [.formula "[e]$f".toList] := by decide +kernel
  exact ⟨hok, hconstructs, delimited_of_rendered .identity () codePage hok hconstructs⟩

/-- A formula with two dollars in it seems to end at them. -/
theorem formula_cut_at_dollars :
    let root := Dom.Tree.node (.element (.html "body") [])
      [.node (.element (.shortcode "latex") []) [.node (.text "a$$b".toList) []]]
    (rendered .identity root ()).1 = .ok "$$a$$b$$\n".toList ∧
      bodyConstructs .identity () root = [.formula "a$$b".toList] ∧
      splitAtWord? ['$', '$'] "a$$b$$\n".toList = some (['a'], "b$$\n".toList) := by
  decide +kernel

end BlogMarkdown.Markdown
