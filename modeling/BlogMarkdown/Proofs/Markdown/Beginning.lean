import BlogMarkdown.Proofs.Markdown.Outcome
import BlogMarkdown.Proofs.Markdown.Passthrough
import BlogMarkdown.Proofs.Steps
/-!
# How a document begins

Running text has no bare hyphen, and every Markdown rule begins with another mark.  So no rendered document begins with
a hyphen, and what is written in front of it can use hyphens for marks of its own.
-/
namespace BlogMarkdown.Markdown

open Dom Text

variable {σ : Type}

/-! ## Texts -/

/-- The first character of a text, layout apart, is no hyphen. -/
def Undashed (s : List Char) : Prop := (solid s).head? ≠ some '-'

instance (s : List Char) : Decidable (Undashed s) := inferInstanceAs (Decidable ((solid s).head? ≠ some '-'))

theorem undashed_nil : Undashed [] := nofun

theorem Undashed.append {s t : List Char} (hs : Undashed s) (ht : Undashed t) : Undashed (s ++ t) := by
  rw [Undashed, solid_append, List.head?_append]
  cases h : (solid s).head? with
  | none => exact ht
  | some c => exact fun heq => hs (h.trans heq)

theorem Undashed.of_solid {s t : List Char} (hs : Undashed s) (h : solid t = solid s) : Undashed t := by
  rw [Undashed, h]
  exact hs

theorem undashed_of_not_mem {s : List Char} (h : '-' ∉ s) : Undashed s := by
  intro hhead
  exact h (List.mem_of_mem_filter (List.mem_of_mem_head? hhead))

theorem undashed_cons {c : Char} (hc : isSolid c = true) (hne : c ≠ '-') (s : List Char) : Undashed (c :: s) := by
  rw [Undashed, solid, List.filter_cons_of_pos hc, List.head?_cons]
  exact fun heq => hne (Option.some.inj heq)

theorem Undashed.head {s : List Char} (h : Undashed s) : s.head? ≠ some '-' := by
  intro hhead
  obtain ⟨rest, rfl⟩ := List.head?_eq_some_iff.1 hhead
  exact h rfl

theorem undashed_escapeAfter : ∀ (before : Option Char) (s : List Char), Undashed (escapeAfter specialInText before s)
  | _, [] => undashed_nil
  | before, c :: after => by
    have ih := undashed_escapeAfter (some c) after
    rw [escapeAfter]
    by_cases hescaped : specialInText.contains c = true ∧ beginsSyntax before c after = true
    · rw [if_pos hescaped]
      exact undashed_cons (by decide) (by decide) _
    · rw [if_neg hescaped]
      have hne : c ≠ '-' := by
        rintro rfl
        exact hescaped ⟨by decide, rfl⟩
      by_cases hc : isSolid c = true
      · exact undashed_cons hc hne _
      · exact ih.of_solid (List.filter_cons_of_neg hc)

theorem undashed_lineBreak (newlines : Nat) : Undashed (lineBreak newlines) := by
  unfold lineBreak
  split_ifs <;> decide

theorem undashed_bodyText (s : List Char) : Undashed (bodyText s) := by
  rw [bodyText]
  generalize bodyLines 0 [] s = lines
  induction lines with
  | nil => exact undashed_nil
  | cons line lines ih =>
    rw [List.flatMap_cons]
    exact ((undashed_lineBreak line.1).append (undashed_escapeAfter none line.2)).append ih

/-! ## Renderings -/

section

open Render

variable {rewriter : UrlRewriter σ} {m : Render σ Unit}

/-- What a rendering writes does not begin with a hyphen. -/
abbrev Render.IsUndashed (rewriter : UrlRewriter σ) (m : Render σ Unit) : Prop :=
  m.Yields rewriter fun _ more => Undashed more

theorem Render.Writes.undashed {s : List Char} (h : m.Writes rewriter s) (hs : Undashed s) : m.IsUndashed rewriter :=
  Yields.mono h fun _ _ hmore => hs.of_solid hmore.2

theorem undashed_write {s : List Char} (hs : Undashed s) : (write s : Render σ Unit).IsUndashed rewriter :=
  (writes_write s).undashed hs

theorem undashed_ensureLinefeeds (n : Nat) : (ensureLinefeeds n : Render σ Unit).IsUndashed rewriter :=
  (writes_ensureLinefeeds n).undashed undashed_nil

theorem Render.IsUndashed.bind {f : Unit → Render σ Unit} (hm : m.IsUndashed rewriter)
    (hf : (f ()).IsUndashed rewriter) : (m >>= f).IsUndashed rewriter :=
  (Yields.bind hm hf).mono fun _ _ ⟨_, _, _, _, _, hmore, h, h'⟩ => hmore ▸ h.append h'

theorem Render.IsUndashed.indented {s : List Char} (hs : ∀ c ∈ s, IsIndent c) (hm : m.IsUndashed rewriter) :
    (Render.indented s m).IsUndashed rewriter := by
  refine Yields.indented hs hm fun _ gap more hgap h => Undashed.append ?_ h
  rw [Undashed, solid_eq_nil fun c hc => isSolid_of_isGap (hgap c hc)]
  exact undashed_nil

theorem undashed_writeBetween {c : Char} (hc : isSolid c = true) (hne : c ≠ '-') (start text stop special : List Char) :
    (writeBetween (c :: start) text stop special : Render σ Unit).IsUndashed rewriter := by
  refine (writes_writeBetween (c :: start) text stop special).undashed ?_
  exact undashed_cons hc hne _

theorem undashed_renderAsMarkup (name : ElementName) (attributes : List Attribute) (children : List Tree) :
    (renderAsMarkup (.node (.element name attributes) children) : Render σ Unit).IsUndashed rewriter := by
  obtain ⟨rest, hmarkup⟩ := markup_element name attributes children
  rw [renderAsMarkup, hmarkup]
  exact (writes_writeVerbatim _).undashed (undashed_cons (by decide) (by decide) rest)

theorem undashed_renderLink (link : NodeData) (text : List Char) :
    (renderLink rewriter link text).IsUndashed rewriter := by
  refine yields_target fun form => ?_
  have htext : (writeBetween ['['] text [']'] specialInLinkText : Render σ Unit).IsUndashed rewriter :=
    undashed_writeBetween (by decide) (by decide) [] text [']'] specialInLinkText
  have htarget : (writeBetween ['('] form.toList [')'] specialInTarget : Render σ Unit).IsUndashed rewriter :=
    undashed_writeBetween (by decide) (by decide) [] form.toList [')'] specialInTarget
  exact htext.bind htarget

theorem undashed_renderImage (image : NodeData) : (renderImage rewriter image).IsUndashed rewriter := by
  refine yields_target fun form => ?_
  have htext : (writeBetween ['!', '['] (altText image) [']'] specialInLinkText : Render σ Unit).IsUndashed rewriter :=
    undashed_writeBetween (by decide) (by decide) ['['] _ [']'] specialInLinkText
  have htarget (stop special : List Char) :
      (writeBetween ['('] form.toList stop special : Render σ Unit).IsUndashed rewriter :=
    undashed_writeBetween (by decide) (by decide) [] form.toList stop special
  refine htext.bind ?_
  split
  · exact htarget _ _
  · exact (htarget _ _).bind (undashed_writeBetween (by decide) (by decide) [] _ _ _)

theorem undashed_itemMarker {path : Path} {index : Option Nat} {marker : List Char}
    (h : itemMarker? path index = some marker) : Undashed marker :=
  undashed_of_not_mem fun hmem => absurd (of_mem_itemMarker? h hmem) (by decide)

theorem undashed_rule {path : Path} {index : Option Nat} {name : ElementName} {attributes : List Attribute}
    {children : List Tree} {rule : Rule} (hrule : rule.Applies path index name attributes children)
    (hall : (renderKept rewriter (.element name attributes) path (fun _ => true) 0 [] children).IsUndashed rewriter)
    (hitems : (renderItems rewriter (.element name attributes) path 0 [] children).IsUndashed rewriter) :
    (rule.render rewriter (.element name attributes)
      (renderKept rewriter (.element name attributes) path (fun _ => true) 0 [] children)
      (renderItems rewriter (.element name attributes) path 0 [] children)
      (renderAsMarkup (.node (.element name attributes) children))).IsUndashed rewriter := by
  have hmark : (write ['*'] : Render σ Unit).IsUndashed rewriter := undashed_write (by decide)
  have hmarks : (write ['*', '*'] : Render σ Unit).IsUndashed rewriter := undashed_write (by decide)
  have hblank : (ensureLinefeeds 2 : Render σ Unit).IsUndashed rewriter := undashed_ensureLinefeeds 2
  cases hrule with
  | @heading level =>
    refine Yields.aside hall (fun asked text w htext hw => ?_) fun e urls _ w text hw hok => ?_
    · dsimp only
      rw [hw.text_eq, liftExcept_ok, pure_bind, renderHeading]
      have hhashes : Undashed (List.replicate level '#' ++ [' ']) := undashed_of_not_mem (by simp)
      have hline : Undashed (onOneLine text) := htext.of_solid (solid_laid (Laid.onOneLine text))
      exact hblank.bind <| (undashed_write hhashes).bind <| (undashed_write hline).bind hblank
    · obtain ⟨asked, ha, -⟩ := asked_of_renderKept rewriter (.element name attributes) path children urls
      have hmarkup : (renderAsMarkup (.node (.element name attributes) children)).IsUndashed rewriter :=
        undashed_renderAsMarkup name attributes children
      obtain ⟨asked', more, ha', hs, h⟩ := hmarkup ⟨w, _⟩ text hw hok
      exact ⟨asked ++ asked', more, ha.append ha', hs, h⟩
  | emphasis => exact hmark.bind <| hall.bind hmark
  | strong => exact hmarks.bind <| hall.bind hmarks
  | code => exact (writes_writeVerbatim _).undashed (undashed_cons (by decide) (by decide) _)
  | fenced => exact (writes_renderFenced _).undashed (undashed_cons (by decide) (by decide) _)
  | link => exact undashed_renderLink _ _
  | linkedImage => exact undashed_renderImage _
  | image => exact undashed_renderImage _
  | list => exact hblank.bind <| hitems.bind hblank
  | item _ hmarker =>
    exact ((undashed_write (undashed_itemMarker hmarker)).bind hall).indented (by simp [IsIndent])
  | quotation =>
    have hquote : (write ['>', ' '] : Render σ Unit).IsUndashed rewriter := undashed_write (by decide)
    exact hblank.bind <| (hquote.bind hall).indented (by simp [IsIndent])

theorem undashed_renderFigure {figure : Render σ Unit} {caption : List Char} (hfigure : figure.IsUndashed rewriter)
    (hcaption : Undashed caption) : (renderFigure figure caption).IsUndashed rewriter := by
  have hmark {s : List Char} (hs : Undashed s) : (write s : Render σ Unit).IsUndashed rewriter := undashed_write hs
  exact (hmark (by decide)).bind <| hfigure.bind <| (hmark (by decide)).bind <| (hmark hcaption).bind <|
    hmark (by decide)

theorem undashed_renderCaptioned {figure rest : Render σ Unit} (hfigure : figure.IsUndashed rewriter)
    (hrest : rest.IsUndashed rewriter) : (renderCaptioned figure rest).IsUndashed rewriter := by
  refine Yields.aside hrest (fun asked text w htext hw => ?_) fun e urls _ w text _ hok => nomatch hok
  have hcaption : (Except.ok w : Except Error Writer).bind Writer.text = .ok text := hw.text_eq
  simp only [hcaption, liftExcept_ok, pure_bind]
  exact undashed_renderFigure hfigure (htext.of_solid (solid_trimBlank text))

theorem compositional_undashed (rewriter : UrlRewriter σ) :
    Compositional rewriter fun _ m => m.IsUndashed rewriter where
  nil := yields_pure undashed_nil
  cons hm hn := hm.bind hn
  failure _ e := yields_failure e
  text path content _ := undashed_write (undashed_bodyText _)
  comment _ _ := yields_pure undashed_nil
  document hm := hm
  markup := undashed_renderAsMarkup
  rule _ hrule hall hitems := undashed_rule hrule hall hitems
  formula _ children := by
    rw [renderFormula]
    split
    · exact undashed_writeBetween (by decide) (by decide) _ _ _ _
    · exact undashed_writeBetween (by decide) (by decide) _ _ _ _
  figure _ hm := undashed_renderFigure hm (undashed_escapeAfter none _)
  captioned _ hm hn := undashed_renderCaptioned hm hn

end

/-! ## Documents -/

/-- **No document begins with a hyphen.** -/
theorem undashed_of_convert {registry : Shortcode.Registry} {rewriter : UrlRewriter σ} {html : List Char} {urls : σ}
    {text : List Char} (h : (convert registry rewriter html urls).1 = .ok text) : text.head? ≠ some '-' := by
  unfold convert at h
  cases hroot : rewritten registry html with
  | error e =>
    rw [hroot] at h
    cases h
  | ok root =>
    rw [hroot] at h
    change (rendered rewriter root urls).1 = .ok text at h
    rw [rendered_eq] at h
    obtain ⟨_, hok, hfinish⟩ := exists_of_bind h
    obtain ⟨_, written, -, hs, hwritten⟩ :=
      (compositional_undashed rewriter).renderBody root ⟨.empty, urls⟩ [] Writer.spells_empty hok
    have hlines : Undashed (dropEndWhile (· = '\n') written) :=
      hwritten.of_solid (solid_dropEndWhile (fun c hc => isSolid_of_isBreak (.inl (by simpa using hc))) written)
    obtain rfl := Except.ok.inj (hs.finish_eq.symm.trans hfinish)
    dsimp only
    split
    · simp
    · exact (hlines.append (by decide)).head

end BlogMarkdown.Markdown
