import BlogMarkdown.Proofs.Markdown.Outcome
/-!
# Letters and digits

A rendering loses and reorders no letter and no digit of the texts of its tree: whatever rule writes them, and also
where the tree is written as the markup it is, they stand in the output in the order of the tree.
-/
namespace BlogMarkdown.Markdown

open Dom Text

variable {σ : Type}

/-! ## Texts that keep the letters of others -/

/-- The letters and digits of a text. -/
def letters (s : List Char) : List Char := s.filter Char.isAlphanum

/-- The letters and digits of a text stand in another one, in order. -/
def Keeps (s t : List Char) : Prop := (letters s).Sublist t

@[simp] theorem letters_nil : letters [] = [] := rfl

@[simp] theorem letters_append (s t : List Char) : letters (s ++ t) = letters s ++ letters t := List.filter_append ..

@[simp] theorem letters_letters (s : List Char) : letters (letters s) = letters s := by simp [letters]

theorem letters_cons_of_not {c : Char} (hc : c.isAlphanum = false) (s : List Char) : letters (c :: s) = letters s := by
  simp [letters, hc]

theorem letters_reverse (s : List Char) : letters s.reverse = (letters s).reverse := List.filter_reverse ..

theorem isSolid_of_isAlphanum {c : Char} (h : c.isAlphanum = true) : isSolid c = true := by
  have hc := Utf8.toNat_of_isAlphanum h
  have hblank : isBlank c = false := by
    simp only [isBlank, Bool.or_eq_false_iff, Bool.and_eq_false_iff, decide_eq_false_iff_not, beq_eq_false_iff_ne]
    omega
  have hquote : c ≠ '>' := by
    rintro rfl
    cases h
  simp [isSolid, hblank, hquote]

theorem letters_solid (s : List Char) : letters (solid s) = letters s := by
  rw [letters, solid, List.filter_filter]
  refine List.filter_congr fun c _ => ?_
  cases hc : c.isAlphanum with
  | true => rw [isSolid_of_isAlphanum hc, Bool.and_self]
  | false => exact Bool.false_and _

theorem letters_eq_nil_of_isBlankText {s : List Char} (h : isBlankText s = true) : letters s = [] := by
  have hsolid : solid s = [] := solid_eq_nil fun c hc => isSolid_of_isBlank (List.all_eq_true.1 h c hc)
  rw [← letters_solid, hsolid, letters_nil]

namespace Keeps

variable {s t u v : List Char}

theorem refl (s : List Char) : Keeps s s := List.filter_sublist

theorem trans (h : Keeps s t) (h' : Keeps t u) : Keeps s u := by
  have hletters := h.filter Char.isAlphanum
  rw [← letters, ← letters, letters_letters] at hletters
  exact hletters.trans h'

theorem mono (h : Keeps s t) (htu : t.Sublist u) : Keeps s u := h.trans ((refl t).trans (List.filter_sublist.trans htu))

theorem append (h : Keeps s t) (h' : Keeps u v) : Keeps (s ++ u) (t ++ v) := by
  rw [Keeps, letters_append]
  exact List.Sublist.append h h'

theorem of_letters (h : Keeps s t) (hu : letters u = letters s) : Keeps u t := by rwa [Keeps, hu]

theorem of_solid (h : solid t = solid s) : Keeps s t := by
  have hletters : letters t = letters s := by rw [← letters_solid, h, letters_solid]
  exact (refl t).of_letters hletters.symm

end Keeps

/-! ## Escaping, tabs and newlines -/

theorem sublist_escapeAfter (special : List Char) : ∀ (before : Option Char) (s : List Char),
    s.Sublist (escapeAfter special before s)
  | _, [] => .slnil
  | before, c :: s => by
    have ih := sublist_escapeAfter special (some c) s
    rw [escapeAfter]
    split
    · exact .cons _ (ih.cons_cons c)
    · exact ih.cons_cons c

theorem keeps_escape (special s : List Char) : Keeps s (escape special s) :=
  (Keeps.refl s).mono (sublist_escapeAfter special none s)

theorem keeps_expandTabsFrom (size : Nat) : ∀ (column : Nat) (s : List Char), Keeps s (expandTabsFrom size column s)
  | _, [] => .refl []
  | column, c :: s => by
    rw [expandTabsFrom]
    split
    · rename_i htab
      subst htab
      have ih := keeps_expandTabsFrom size (column + (size - column % size)) s
      exact (ih.of_letters (letters_cons_of_not rfl s)).mono (List.sublist_append_right _ _)
    split
    · exact (Keeps.refl [c]).append (keeps_expandTabsFrom size 0 s)
    · exact (Keeps.refl [c]).append (keeps_expandTabsFrom size (column + 1) s)

theorem letters_dropFirstNewline (s : List Char) : letters (dropFirstNewline s) = letters s := by
  unfold dropFirstNewline
  split <;> rfl

theorem letters_dropLastNewline (s : List Char) : letters (dropLastNewline s) = letters s := by
  rw [dropLastNewline, letters_reverse, letters_dropFirstNewline, letters_reverse, List.reverse_reverse]

theorem letters_trimAtBlocks (path : Path) (s : List Char) : letters (trimAtBlocks path s) = letters s := by
  rw [trimAtBlocks]
  cases path.blockBefore <;> cases path.blockAfter <;> simp [letters_dropFirstNewline, letters_dropLastNewline]

theorem keeps_bodyLines : ∀ (newlines : Nat) (line s : List Char), Keeps (line.reverse ++ s)
    ((bodyLines newlines line s).flatMap fun (newlines, line) => lineBreak newlines ++ escape specialInText line)
  | newlines, line, [] => by
    rw [bodyLines, List.append_nil, List.flatMap_singleton]
    exact (keeps_escape _ _).mono (List.sublist_append_right _ _)
  | newlines, line, c :: s => by
    rw [bodyLines]
    split
    · have ih := keeps_bodyLines newlines (c :: line) s
      rwa [List.reverse_cons, List.append_assoc, List.singleton_append] at ih
    rename_i hc
    have hc : c = '\n' := by simpa using hc
    subst hc
    split
    · rename_i hempty
      have ih := keeps_bodyLines (newlines + 1) [] s
      rw [List.isEmpty_iff.1 hempty.1]
      exact ih.of_letters rfl
    · have ih := keeps_bodyLines 1 [] s
      rw [List.flatMap_cons]
      exact ((keeps_escape _ _).mono (List.sublist_append_right _ _)).append (ih.of_letters rfl)

theorem keeps_bodyText (s : List Char) : Keeps s (bodyText s) := keeps_bodyLines 0 [] s

/-! ## Trees without hidden text -/

/-- Texts, comments, document types and images: they are written without what is below them. -/
def isLeaf (d : NodeData) : Bool :=
  match d with
  | .text _ | .comment _ | .doctype _ _ _ => true
  | d => d.isNative "img"

mutual
/-- Whether nothing is below the nodes of a kind in a tree. -/
def isBare (leaf : NodeData → Bool) : Tree → Bool
  | .node data children => (!leaf data || children.isEmpty) && areBare leaf children
/-- The same for some trees. -/
def areBare (leaf : NodeData → Bool) : List Tree → Bool
  | [] => true
  | t :: ts => isBare leaf t && areBare leaf ts
end

section

variable {leaf : NodeData → Bool}

theorem areBare_cons {t : Tree} {ts : List Tree} :
    areBare leaf (t :: ts) = true ↔ isBare leaf t = true ∧ areBare leaf ts = true := by rw [areBare, Bool.and_eq_true]

theorem areBare_singleton {t : Tree} : areBare leaf [t] = true ↔ isBare leaf t = true := by
  rw [areBare_cons, areBare, and_iff_left rfl]

theorem areBare_children {data : NodeData} {children : List Tree} (h : isBare leaf (.node data children) = true) :
    areBare leaf children = true := by
  rw [isBare, Bool.and_eq_true] at h
  exact h.2

theorem eq_nil_of_isBare {data : NodeData} {children : List Tree} (h : isBare leaf (.node data children) = true)
    (hleaf : leaf data = true) : children = [] := by
  simp only [isBare, hleaf, Bool.not_true, Bool.false_or, Bool.and_eq_true, List.isEmpty_iff] at h
  exact h.1

theorem areBare_append : ∀ {ts us : List Tree},
    areBare leaf (ts ++ us) = true ↔ areBare leaf ts = true ∧ areBare leaf us = true
  | [], us => by rw [List.nil_append, areBare, and_iff_right rfl]
  | t :: ts, us => by rw [List.cons_append, areBare_cons, areBare_cons, areBare_append, and_assoc]

theorem areBare_filter (p : Tree → Bool) : ∀ {ts : List Tree}, areBare leaf ts = true →
    areBare leaf (ts.filter p) = true
  | [], _ => rfl
  | t :: ts, h => by
    obtain ⟨ht, hts⟩ := areBare_cons.1 h
    rw [List.filter_cons]
    split
    · exact areBare_cons.2 ⟨ht, areBare_filter p hts⟩
    · exact areBare_filter p hts

end

theorem isLeaf_of_image {d : NodeData} (h : d.isNative "img" = true) : isLeaf d = true := by
  cases d <;> first | rfl | exact h

theorem allTextOf_append : ∀ ts us : List Tree, allTextOf (ts ++ us) = allTextOf ts ++ allTextOf us
  | [], _ => rfl
  | t :: ts, us => by rw [List.cons_append, allTextOf, allTextOf, allTextOf_append ts us, List.append_assoc]

theorem allTextOf_singleton (t : Tree) : allTextOf [t] = Tree.allText t := List.append_nil _

theorem allTextOf_element (name : ElementName) (attributes : List Attribute) (children : List Tree) :
    allTextOf [.node (.element name attributes) children] = allTextOf children := allTextOf_singleton _

theorem allTextOf_image {image : NodeData} (h : image.isNative "img" = true) : allTextOf [.node image []] = [] := by
  cases image with
  | text content => cases h
  | _ => rfl

theorem allTextOf_of_plainText? {children : List Tree} {text : List Char} (h : plainText? children = some text) :
    allTextOf children = text := by
  unfold plainText? at h
  split at h
  · cases h
    rfl
  · cases h
    exact List.append_nil _
  · cases h

theorem letters_of_blank {ts : List Tree} (h : ∀ t ∈ ts, isMeaningful t = false) : letters (allTextOf ts) = [] := by
  induction ts with
  | nil => rfl
  | cons t ts ih =>
    obtain ⟨ht, hts⟩ := List.forall_mem_cons.1 h
    obtain ⟨data, below⟩ := t
    cases data with
    | text content =>
      have hblank : isBlankText content = true := by simpa [isMeaningful, Tree.data, NodeData.text?] using ht
      rw [allTextOf, letters_append, ih hts, List.append_nil]
      exact letters_eq_nil_of_isBlankText hblank
    | _ => cases ht

theorem letters_of_hasOnlyItems {ts : List Tree} (h : hasOnlyItems ts = true) :
    letters (allTextOf ts) = letters (allTextOf (ts.filter (·.data.isElement))) := by
  induction ts with
  | nil => rfl
  | cons t ts ih =>
    obtain ⟨data, below⟩ := t
    obtain ⟨ht, hts⟩ := Bool.and_eq_true_iff.1 (show (_ && hasOnlyItems ts) = true from h)
    cases data with
    | text content =>
      rw [allTextOf, letters_append, ih hts, List.filter_cons_of_neg (by simp [Tree.data, NodeData.isElement,
        NodeData.elementName?]), show letters (Tree.allText (.node (.text content) below)) = [] from
        letters_eq_nil_of_isBlankText ht, List.nil_append]
    | element name attributes =>
      rw [List.filter_cons_of_pos rfl, allTextOf, allTextOf, letters_append, letters_append, ih hts]
    | _ => cases ht

/-! ## Markup -/

theorem keeps_flatMap {f : Char → List Char} (h : ∀ c, c.isAlphanum = true → f c = [c]) : ∀ s : List Char,
    Keeps s (s.flatMap f)
  | [] => .refl []
  | c :: s => by
    rw [List.flatMap_cons]
    refine Keeps.append (s := [c]) ?_ (keeps_flatMap h s)
    cases hc : c.isAlphanum with
    | true =>
      rw [h c hc]
      exact .refl [c]
    | false =>
      rw [Keeps, letters_cons_of_not hc]
      exact List.nil_sublist _

theorem escapeChar_eq {c : Char} (inValue : Bool) (h : c.isAlphanum = true) : escapeChar inValue c = [c] := by
  have hne (d : Char) (hd : d.isAlphanum = false) : c ≠ d := by
    rintro rfl
    rw [h] at hd
    cases hd
  rw [escapeChar, if_neg (hne '&' rfl), if_neg (hne '\xa0' rfl), if_neg (hne '<' rfl), if_neg (hne '>' rfl),
    if_neg fun hc => hne '"' rfl hc.1]

mutual
theorem keeps_markupIn (around : Surroundings) : ∀ t : Tree, isBare isLeaf t = true →
    Keeps (Tree.allText t) (t.markupIn around)
  | .node (.text content) below, _ => by
    show Keeps content (if around.isRaw then content else content.flatMap (escapeChar false))
    split
    · exact .refl content
    · exact keeps_flatMap (fun c => escapeChar_eq false) content
  | .node (.comment _) below, h => by
    rw [eq_nil_of_isBare h rfl]
    exact List.nil_sublist _
  | .node (.doctype _ _ _) below, h => by
    rw [eq_nil_of_isBare h rfl]
    exact List.nil_sublist _
  | .node .document children, h => by
    exact keeps_markupAllIn around children (areBare_children h)
  | .node (.element name attributes) children, h => by
    have hcontent := keeps_markupAllIn (around.inside name) children (areBare_children h)
    show Keeps (allTextOf children) (if around.inVoid then markupAllIn (around.inside name) children else
      startTag name attributes ++ markupAllIn (around.inside name) children ++
        (if (around.inside name).inVoid then [] else endTag name))
    split
    · exact hcontent
    · exact hcontent.mono ((List.sublist_append_right _ _).trans (List.sublist_append_left _ _))

theorem keeps_markupAllIn (around : Surroundings) : ∀ ts : List Tree, areBare isLeaf ts = true →
    Keeps (allTextOf ts) (markupAllIn around ts)
  | [], _ => .refl []
  | t :: ts, h => by
    obtain ⟨ht, hts⟩ := areBare_cons.1 h
    rw [allTextOf, markupAllIn]
    exact (keeps_markupIn around t ht).append (keeps_markupAllIn around ts hts)
end

/-! ## Renderings -/

/-- The letters and digits of a text are written. -/
def keeping (s : List Char) : Outcome := fun _ more => Keeps s more

theorem keeping_lasting (s : List Char) : (keeping s).Lasting where
  behind _ h := h.mono (List.sublist_append_right _ _)
  before _ h := h.mono (List.sublist_append_left _ _)
  arrives h ha := h.trans (.of_solid (solid_arrives ha))
  onOneLine h := h.trans (.of_solid (solid_laid (Laid.onOneLine _)))
  trimBlank h := h.trans (.of_solid (solid_trimBlank _))

section

open Render

variable {rewriter : UrlRewriter σ}

theorem Render.Writes.keeping {s t : List Char} {m : Render σ Unit} (h : m.Writes rewriter t) (hst : Keeps s t) :
    m.Yields rewriter (keeping s) := Yields.mono h fun _ _ hmore => hst.trans (.of_solid hmore.2)

theorem Render.Yields.of_letters {s t : List Char} {m : Render σ Unit} (h : m.Yields rewriter (keeping s))
    (hts : letters t = letters s) : m.Yields rewriter (keeping t) := h.mono fun _ _ hmore => hmore.of_letters hts

theorem Render.Accounts.yields {named lost owed : String → Prop} {m : Render σ Unit}
    (h : m.Accounts rewriter named lost owed) : m.Yields rewriter fun _ _ => True := fun sheet text ht _ => by
  obtain ⟨more, asked, hs, ha, -⟩ := h sheet text ht
  exact ⟨asked, more, ha, hs, trivial⟩

theorem keeping_renderAsMarkup {t : Tree} (h : isBare isLeaf t = true) :
    (renderAsMarkup t : Render σ Unit).Yields rewriter (keeping (allTextOf [t])) := by
  rw [allTextOf_singleton]
  exact (writes_writeVerbatim _).keeping (keeps_markupIn .top t h)

theorem keeping_renderLink (link : NodeData) (text : List Char) :
    (renderLink rewriter link text).Yields rewriter (keeping text) := by
  refine yields_target fun form => ?_
  have htext : (writeBetween ['['] text [']'] specialInLinkText : Render σ Unit).Writes rewriter _ :=
    writes_writeBetween ['['] text [']'] specialInLinkText
  have hlink := htext.bind (f := fun _ => _) (writes_writeBetween ['('] form.toList [')'] specialInTarget)
  refine hlink.keeping ((keeps_escape specialInLinkText text).mono ?_)
  exact (List.sublist_append_right _ _).trans ((List.sublist_append_left _ _).trans (List.sublist_append_left _ _))

theorem keeping_renderImage (image : NodeData) {s : List Char} (hs : letters s = []) :
    (renderImage rewriter image).Yields rewriter (keeping s) := by
  have h : (renderImage rewriter image).Accounts rewriter (fun _ => True) (fun _ => True) nothing :=
    accounts_renderImage trivial
  refine h.yields.mono fun _ more _ => ?_
  rw [keeping, Keeps, hs]
  exact List.nil_sublist more

theorem keeping_renderFormula (children : List Tree) :
    (renderFormula children : Render σ Unit).Yields rewriter (keeping (allTextOf children)) := by
  have htext : (plainText? children).getD (allTextOf children) = allTextOf children := by
    cases h : plainText? children with
    | none => rfl
    | some text => exact (allTextOf_of_plainText? h).symm
  rw [renderFormula, htext]
  refine (writes_writeBetween _ _ _ _).keeping ((keeps_escape [] (allTextOf children)).mono ?_)
  exact (List.sublist_append_right _ _).trans (List.sublist_append_left _ _)

theorem keeping_rule {path : Path} {index : Option Nat} {name : ElementName} {attributes : List Attribute}
    {children : List Tree} {rule : Rule} (hname : name.vocabulary ≠ .shortcode)
    (hrule : rule.Applies path index name attributes children)
    (hbare : isBare isLeaf (.node (.element name attributes) children) = true)
    (hall : (renderKept rewriter (.element name attributes) path (fun _ => true) 0 [] children).Yields rewriter
      (keeping (allTextOf children)))
    (hitems : (renderItems rewriter (.element name attributes) path 0 [] children).Yields rewriter
      (keeping (allTextOf (children.filter (·.data.isElement))))) :
    (rule.render rewriter (.element name attributes)
      (renderKept rewriter (.element name attributes) path (fun _ => true) 0 [] children)
      (renderItems rewriter (.element name attributes) path 0 [] children)
      (renderAsMarkup (.node (.element name attributes) children))).Yields rewriter (keeping (allTextOf children)) := by
  have hlasting := keeping_lasting (allTextOf children)
  have hcode {text : List Char} (h : bareText? (.element name attributes) children = some text) :
      allTextOf children = text := allTextOf_of_plainText? (Option.ite_none_right_eq_some.1 h).2
  cases hrule with
  | heading =>
    refine yields_heading hlasting _ hall fun e urls _ => ?_
    obtain ⟨asked, ha, -⟩ := asked_of_renderKept rewriter (.element name attributes) path children urls
    refine ⟨asked, ha, ?_⟩
    rw [← allTextOf_element name attributes children]
    exact keeping_renderAsMarkup hbare
  | emphasis => exact yields_emphasis hlasting (by decide) hall
  | strong => exact yields_emphasis hlasting (by decide) hall
  | code _ h =>
    rw [hcode h]
    refine (writes_writeVerbatim _).keeping ((Keeps.refl _).mono ?_)
    exact (List.sublist_append_left _ _).cons _
  | fenced _ h =>
    rw [hcode h]
    refine (writes_renderFenced _).keeping ((keeps_expandTabsFrom 8 0 _).mono ?_)
    exact (List.sublist_append_right _ _).trans (List.sublist_append_left _ _)
  | link _ _ h =>
    rw [allTextOf_of_plainText? h]
    exact keeping_renderLink _ _
  | linkedImage _ h =>
    -- the image is the only child, and nothing is below it
    obtain ⟨below, rfl, himage⟩ := of_linkedImage? h
    obtain rfl : below = [] := eq_nil_of_isBare (areBare_singleton.1 (areBare_children hbare)) (isLeaf_of_image himage)
    rw [allTextOf_image himage]
    exact keeping_renderImage _ rfl
  | image htag =>
    have himage : (NodeData.element name attributes).isNative "img" = true := by
      simp [NodeData.isNative, NodeData.elementName?, hname, htag]
    obtain rfl : children = [] := eq_nil_of_isBare hbare (isLeaf_of_image himage)
    exact keeping_renderImage _ rfl
  | list _ h => exact (yields_list hlasting (hitems.of_letters (letters_of_hasOnlyItems h)))
  | item _ h => exact yields_item hlasting (bracket_not_mem_marker h) hall
  | quotation => exact yields_quotation hlasting hall

/-- Renderings keep the letters of what they render. -/
theorem compositional_keeping (rewriter : UrlRewriter σ) : Compositional rewriter fun ts m =>
    areBare isLeaf ts = true → m.Yields rewriter (keeping (allTextOf ts)) where
  nil _ := yields_pure (Keeps.refl [])
  cons ht hts hbare := by
    obtain ⟨hbare, hbare'⟩ := areBare_cons.1 hbare
    refine (Yields.bind (ht (areBare_singleton.2 hbare)) (hts hbare')).mono ?_
    rintro _ _ ⟨_, _, more, more', -, rfl, h, h'⟩
    rw [keeping, allTextOf, ← allTextOf_singleton]
    exact h.append h'
  failure _ e _ := yields_failure e
  text path content below _ := by
    rw [allTextOf_singleton]
    refine (writes_write _).keeping (.trans ?_ (keeps_bodyText _))
    exact (Keeps.refl _).of_letters (letters_trimAtBlocks path content).symm
  comment _ below hbare := by
    obtain rfl : below = [] := eq_nil_of_isBare (areBare_singleton.1 hbare) rfl
    exact yields_pure (Keeps.refl [])
  document hm hbare := by
    rw [allTextOf_singleton]
    exact hm (areBare_children (areBare_singleton.1 hbare))
  markup _ _ _ hbare := keeping_renderAsMarkup (areBare_singleton.1 hbare)
  rule hname hrule hall hitems hbare := by
    have hself := areBare_singleton.1 hbare
    have hchildren := areBare_children hself
    rw [allTextOf_element]
    exact keeping_rule hname hrule hself (hall hchildren) (hitems (areBare_filter _ hchildren))
  formula _ children _ := by
    rw [allTextOf_element]
    exact keeping_renderFormula children
  figure {_ _ _ _ caption} _ hm hbare := by
    rw [allTextOf_element]
    refine yields_renderFigure (keeping_lasting _) (hm (areBare_children (areBare_singleton.1 hbare)))
      (writes_write (escape specialInText caption.toList)) ?_
    exact fun _ _ _ _ _ h _ _ => h.mono (List.sublist_append_left _ _)
  captioned hbefore hm hn hbare := by
    obtain ⟨-, hchildren⟩ := areBare_append.1 (areBare_children (areBare_singleton.1 hbare))
    obtain ⟨hfirst, hafter⟩ := areBare_cons.1 hchildren
    rw [allTextOf_element]
    refine yields_renderCaptioned (keeping_lasting _) (keeping_lasting _) (hm (areBare_singleton.2 hfirst))
      (hn hafter) fun _ _ _ between _ h _ h' => ?_
    -- the blank texts before the image are not written
    refine (h.append (h'.mono (List.sublist_append_right between _))).of_letters ?_
    rw [allTextOf_append, letters_append, letters_of_blank hbefore, allTextOf, allTextOf_singleton]
    rfl

end

theorem keeps_finished {w : Writer} {text : List Char} (h : w.Spells text) :
    ∃ finished, w.finish = .ok finished ∧ Keeps text finished := by
  refine ⟨_, h.finish_eq, .trans (.of_solid (solid_dropEndWhile (p := (· = '\n')) ?_ text)) ?_⟩
  · exact fun c hc => isSolid_of_isBreak (.inl (by simpa using hc))
  · dsimp only
    split
    · rename_i hempty
      rw [List.isEmpty_iff.1 hempty]
      exact .refl []
    · exact (Keeps.refl _).mono (List.sublist_append_left _ _)

/-- **Rendering loses and reorders no letter and no digit.**  If a tree is rendered in which nothing is below the texts,
comments, document types and images, the letters and digits of its texts stand in the output in the order of the tree,
and still do when the document is finished. -/
theorem letters_of_rendered (rewriter : UrlRewriter σ) {root : Tree} (hbare : areBare isLeaf root.children = true)
    {urls : σ} (hok : ((renderBody rewriter root).on ⟨.empty, urls⟩).1 = .ok ()) :
    ∃ written finished, ((renderBody rewriter root).on ⟨.empty, urls⟩).2.writer.text = .ok written ∧
      (rendered rewriter root urls).1 = .ok finished ∧
      (letters (allTextOf root.children)).Sublist written ∧ (letters (allTextOf root.children)).Sublist finished := by
  have hbody := (compositional_keeping rewriter).renderBody root hbare
  obtain ⟨_, written, _, hs, h⟩ := hbody ⟨.empty, urls⟩ [] Writer.spells_empty hok
  obtain ⟨finished, hfinished, hkeeps⟩ := keeps_finished hs
  refine ⟨written, finished, hs.text_eq, ?_, h, h.trans hkeeps⟩
  rw [rendered_eq, hok]
  exact hfinished

/-- A heading, captions in both forms, a formula with markup inside, a list in a quotation, and what passes through. -/
def lettersPage : Tree :=
  let text (s : String) : Tree := .node (.text s.toList) []
  let native (tag : String) (children : List Tree) : Tree := .node (.element (.html tag) []) children
  let image : Tree := .node (.element (.html "img") [.plain "src" "u"]) []
  native "body" [
    native "h1" [text "a\nb", native "em" [text "c"]],
    .node (.element (.shortcode "caption") []) [text " ", image, text " d1 "],
    .node (.element (.shortcode "wp_caption") [.plain "caption" "z"]) [image, text "e"],
    .node (.element (.shortcode "latex") []) [text "f", native "sub" [text "2"]],
    native "blockquote" [native "ol" [text "\n", native "li" [text "g"], native "li" [native "code" [text "h"]]]],
    native "div" [text "i<", native "br" [], .node (.element (.html "a") [.plain "href" "u"]) [text "j"]]]

theorem letters_of_lettersPage : areBare isLeaf lettersPage.children = true ∧
    ((renderBody .identity lettersPage).on ⟨.empty, ()⟩).1 = .ok () ∧
    letters (allTextOf lettersPage.children) = "abcd1ef2ghij".toList ∧
    ∃ finished, (rendered .identity lettersPage ()).1 = .ok finished ∧ "abcd1ef2ghij".toList.Sublist finished := by
  have hbare : areBare isLeaf lettersPage.children = true := by decide +kernel
  have hok : ((renderBody .identity lettersPage).on ⟨.empty, ()⟩).1 = .ok () := by decide +kernel
  have hletters : letters (allTextOf lettersPage.children) = "abcd1ef2ghij".toList := by decide +kernel
  obtain ⟨-, finished, -, hfinished, -, h⟩ := letters_of_rendered .identity hbare hok
  exact ⟨hbare, hok, hletters, finished, hfinished, hletters ▸ h⟩

/-- A text below a document type is lost where the document type is part of the markup. -/
theorem letters_below_doctype :
    let leaf := fun d : NodeData => match d with
      | .text _ | .comment _ => true
      | .element name _ => name.tag = "img" || voidTags.contains name.tag
      | _ => false
    let root := Dom.Tree.node (.element (.html "body") [])
      [.node (.element (.html "div") []) [.node (.doctype "html" "" "") [.node (.text "abc".toList) []]]]
    areBare leaf root.children = true ∧ ((renderBody .identity root).on ⟨.empty, ()⟩).1 = .ok () ∧
      (rendered .identity root ()).1 = .ok "<div><!DOCTYPE html></div>\n".toList ∧
      ¬ (letters (allTextOf root.children)).Sublist "<div><!DOCTYPE html></div>\n".toList := by
  decide +kernel

end BlogMarkdown.Markdown
