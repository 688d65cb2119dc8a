import BlogMarkdown.Proofs.Markdown.Noting
import BlogMarkdown.Proofs.Markdown.Outcome
/-!
# Calls to the rewriter and written targets

A document is made of spans: escaped texts, code, formulas, markup that passes through, and the links and images that
are written as Markdown.  Its links and images and the calls to the URL rewriter correspond one to one, except for the calls
that were made inside a heading before the heading was given up.
-/
namespace BlogMarkdown.Markdown

open Dom Text

variable {σ : Type}

/-! ## Spans -/

/-- How a part of a tree is written; the target of a link or an image in the form that it got. -/
inductive Manner where
  | text (path : Path)
  | caption
  | code
  | fenced
  | formula
  | markup
  | link (form : String)
  | image (form : String)

/-- Whether a node is of the kind that is written in a manner. -/
def Manner.suits (d : NodeData) : Manner → Bool
  | text _ => d.isText
  | caption => d.isSynthetic
  | code => d.isNative "code"
  | fenced => d.isNative "pre"
  | formula => d.isSynthetic && d.tag? = some "latex"
  | markup => d.isElement
  | link _ => d.isNative "a"
  | image _ => d.isNative "img"

/-- A part of a tree with the manner in which it is written. -/
structure Span where
  source : Tree
  manner : Manner

namespace Span

/-- A span as it is written, up to layout.  Each bracket of a text, a caption, a link text or a target has a backslash
in front. -/
def written (span : Span) : List Char :=
  let data := span.source.data
  let content := (plainText? span.source.children).getD []
  match span.manner with
  | .text path => bodyText (trimAtBlocks path (data.text?.getD []))
  | .caption => escape specialInText ((data.attribute? "caption").getD "").toList
  | .code => '\x60' :: content ++ ['\x60']
  | .fenced => codeFence ++ expandTabs 8 content ++ codeFence
  | .formula =>
    let content := (plainText? span.source.children).getD (allTextOf span.source.children)
    (if content.head? = some '[' then ['$', '$', ' '] else ['$', '$']) ++ escape [] content ++ ['$', '$']
  | .markup => Dom.Tree.markup span.source
  | .link form => '[' :: escape specialInLinkText content ++ ']' :: '(' :: escape specialInTarget form.toList ++ [')']
  | .image form =>
    let title := ((data.attribute? "title").getD "").toList
    '!' :: '[' :: escape specialInLinkText (altText data) ++ ']' :: '(' ::
      if title.isEmpty then escape specialInTarget form.toList ++ [')']
      else escape specialInTitledTarget form.toList ++ ' ' :: '"' :: escape specialInTitle title ++ ['"', ')']

/-- The target of a link or of an image, with the form that it got. -/
def call? (span : Span) : Option (String × String) :=
  match span.manner with
  | .link form => some ((span.source.data.attribute? "href").getD "", form)
  | .image form => some ((span.source.data.attribute? "src").getD "", form)
  | _ => none

/-- A span is for a part of one of some trees, in a manner that suits it. -/
structure From (ts : List Tree) (span : Span) : Prop where
  suits : span.manner.suits span.source.data = true
  within : ∃ t ∈ ts, Within span.source t

/-- A passage shows a span.  Of a link or an image nothing but the layout may differ, and that only at a line break. -/
structure Stands (span : Span) (passage : List Char) : Prop where
  solid : Markdown.solid passage = Markdown.solid span.written
  laid (h : span.call?.isSome = true) : Laid span.written passage

theorem From.mono {ts us : List Tree} {span : Span} (h : span.From ts) (hsub : ∀ t ∈ ts, ∃ u ∈ us, Within t u) :
    span.From us := by
  obtain ⟨hsuits, t, ht, hwithin⟩ := h
  obtain ⟨u, hu, htu⟩ := hsub t ht
  exact ⟨hsuits, u, hu, hwithin.trans htu⟩

theorem from_self {t : Tree} {manner : Manner} (h : manner.suits t.data = true) : (Span.mk t manner).From [t] :=
  ⟨h, t, List.mem_singleton_self t, .self⟩

/-- A link or an image begins and ends with a mark of its own. -/
theorem ends_of_call? {span : Span} (h : span.call?.isSome = true) :
    ∃ c middle, span.written = c :: middle ++ [')'] ∧ isSolid c = true := by
  obtain ⟨t, manner⟩ := span
  cases manner with
  | link form => exact ⟨'[', _, rfl, rfl⟩
  | image form =>
    rw [written]
    dsimp only
    split
    · exact ⟨'!', '[' :: escape specialInLinkText (altText t.data) ++ ']' :: '(' :: escape specialInTarget form.toList,
        by simp, rfl⟩
    · refine ⟨'!', '[' :: escape specialInLinkText (altText t.data) ++ ']' :: '(' ::
        escape specialInTitledTarget form.toList ++ ' ' :: '"' ::
        escape specialInTitle ((t.data.attribute? "title").getD "").toList ++ ['"'], by simp, rfl⟩
  | _ => cases h

theorem bracket_mem_written {span : Span} (h : span.call?.isSome = true) : ']' ∈ span.written := by
  obtain ⟨t, manner⟩ := span
  cases manner with
  | link form => simp [written]
  | image form => simp [written]
  | _ => cases h

namespace Stands

variable {span : Span} {s t blanks : List Char}

theorem of_laid (h : span.Stands s) (hl : Laid s t) : span.Stands t :=
  ⟨(solid_laid hl).trans h.solid, fun hcall => (h.laid hcall).trans hl⟩

theorem of_blanks_append (hblanks : ∀ c ∈ blanks, isSolid c = false) (h : span.Stands (blanks ++ s)) :
    span.Stands s := by
  have hsolid : Markdown.solid s = Markdown.solid span.written := by
    rw [← h.solid, solid_append, solid_eq_nil hblanks, List.nil_append]
  refine ⟨hsolid, fun hcall => ?_⟩
  obtain ⟨c, middle, hwritten, hc⟩ := ends_of_call? hcall
  have hl := h.laid hcall
  rw [hwritten, List.cons_append] at hl
  obtain ⟨u, hu, -⟩ := hl.of_cons fun hbreak => by rw [isSolid_of_isBreak hbreak] at hc; cases hc
  -- the first character is no blank, so nothing stands before it
  obtain rfl : blanks = [] := by
    cases blanks with
    | nil => rfl
    | cons d blanks =>
      obtain ⟨rfl, -⟩ := List.cons.inj hu
      rw [hblanks d List.mem_cons_self] at hc
      cases hc
  exact h.laid hcall

theorem of_append_blanks (hblanks : ∀ c ∈ blanks, isSolid c = false) (h : span.Stands (s ++ blanks)) :
    span.Stands s := by
  have hsolid : Markdown.solid s = Markdown.solid span.written := by
    rw [← h.solid, solid_append, solid_eq_nil hblanks, List.append_nil]
  refine ⟨hsolid, fun hcall => ?_⟩
  obtain ⟨c, middle, hwritten, -⟩ := ends_of_call? hcall
  have hl := h.laid hcall
  rw [hwritten] at hl
  obtain ⟨v, w, hvw, -, hw⟩ := hl.of_append
  obtain ⟨u, rfl, hu⟩ := hw.of_cons (by rintro (h | h) <;> cases h)
  cases hu
  obtain rfl : blanks = [] := by
    rcases List.eq_nil_or_concat blanks with hnil | ⟨front, d, rfl⟩
    · exact hnil
    · rw [List.concat_eq_append, ← List.append_assoc] at hvw
      obtain ⟨-, hd⟩ := List.append_inj' hvw rfl
      have hblank := hblanks d (by simp)
      rw [(List.cons.inj hd).1] at hblank
      cases hblank
  simpa using h.laid hcall

end Stands

end Span

/-! ## Texts made of spans -/

/-- A text is made of spans: each has a passage of its own, in order, and no bracket closes between them. -/
inductive Made : List Span → List Char → Prop
  | nil : Made [] []
  | gap {between more : List Char} {spans : List Span} : ']' ∉ between → Made spans more → Made spans (between ++ more)
  | span {span : Span} {passage more : List Char} {spans : List Span} : span.Stands passage → Made spans more →
    Made (span :: spans) (passage ++ more)

namespace Made

variable {spans more : List Span} {s t blanks : List Char}

theorem of_gap (h : ']' ∉ s) : Made [] s := by
  have hgap := Made.gap h .nil
  rwa [List.append_nil] at hgap

theorem single {span : Span} (h : span.Stands s) : Made [span] s := by
  have hspan := Made.span h .nil
  rwa [List.append_nil] at hspan

theorem append (h : Made spans s) (h' : Made more t) : Made (spans ++ more) (s ++ t) := by
  induction h with
  | nil => exact h'
  | gap hgap _ ih =>
    rw [List.append_assoc]
    exact .gap hgap ih
  | span hspan _ ih =>
    rw [List.append_assoc]
    exact .span hspan ih

/-- A link or an image shows a bracket. -/
theorem bracket_mem (h : Made spans s) {span : Span} (hspan : span ∈ spans) (hcall : span.call?.isSome = true) :
    ']' ∈ s := by
  induction h with
  | nil => cases hspan
  | gap _ _ ih => exact List.mem_append_right _ (ih hspan)
  | span hstands _ ih =>
    rcases List.mem_cons.1 hspan with rfl | hspan
    · exact List.mem_append_left _ (mem_of_solid_eq rfl hstands.solid.symm (Span.bracket_mem_written hcall))
    · exact List.mem_append_right _ (ih hspan)

theorem laid (h : Made spans s) (hl : Laid s t) : Made spans t := by
  induction h generalizing t with
  | nil =>
    cases hl
    exact .nil
  | gap hgap _ ih =>
    obtain ⟨v, w, rfl, hv, hw⟩ := hl.of_append
    exact .gap (fun hmem => hgap (mem_of_solid_eq rfl (solid_laid hv) hmem)) (ih hw)
  | span hspan _ ih =>
    obtain ⟨v, w, rfl, hv, hw⟩ := hl.of_append
    exact .span (hspan.of_laid hv) (ih hw)

/-- Blanks at the front may be taken away. -/
theorem of_blanks_append (hblanks : ∀ c ∈ blanks, isSolid c = false) (h : Made spans (blanks ++ s)) : Made spans s := by
  generalize htext : blanks ++ s = text at h
  induction h generalizing blanks s with
  | nil =>
    obtain ⟨-, rfl⟩ := List.append_eq_nil_iff.1 htext
    exact .nil
  | gap hgap hmore ih =>
    rcases List.append_eq_append_iff.1 htext with ⟨x, rfl, rfl⟩ | ⟨x, rfl, rfl⟩
    · exact .gap (fun hmem => hgap (List.mem_append_right _ hmem)) hmore
    · exact ih (fun c hc => hblanks c (List.mem_append_right _ hc)) rfl
  | @span span passage more spans hspan hmore ih =>
    rcases List.append_eq_append_iff.1 htext with ⟨x, rfl, rfl⟩ | ⟨x, rfl, rfl⟩
    · exact .span (hspan.of_blanks_append hblanks) hmore
    · rw [← List.append_nil passage] at hspan
      have hempty := hspan.of_blanks_append fun c hc => hblanks c (List.mem_append_left _ hc)
      exact .span hempty (ih (fun c hc => hblanks c (List.mem_append_right _ hc)) rfl)

/-- Blanks at the end may be taken away. -/
theorem of_append_blanks (hblanks : ∀ c ∈ blanks, isSolid c = false) (h : Made spans (s ++ blanks)) : Made spans s := by
  generalize htext : s ++ blanks = text at h
  induction h generalizing blanks s with
  | nil =>
    obtain ⟨rfl, -⟩ := List.append_eq_nil_iff.1 htext
    exact .nil
  | @gap between more spans hgap hmore ih =>
    rcases List.append_eq_append_iff.1 htext with ⟨x, rfl, rfl⟩ | ⟨x, rfl, rfl⟩
    · have hrest := ih (s := []) (fun c hc => hblanks c (List.mem_append_right _ hc)) rfl
      have hgap' := Made.gap (fun hmem : ']' ∈ s => hgap (List.mem_append_left _ hmem)) hrest
      rwa [List.append_nil] at hgap'
    · exact .gap hgap (ih hblanks rfl)
  | @span span passage more spans hspan hmore ih =>
    rcases List.append_eq_append_iff.1 htext with ⟨x, rfl, rfl⟩ | ⟨x, rfl, rfl⟩
    · have hrest := ih (s := []) (fun c hc => hblanks c (List.mem_append_right _ hc)) rfl
      have hspan' := Made.span (hspan.of_append_blanks fun c hc => hblanks c (List.mem_append_left _ hc)) hrest
      rwa [List.append_nil] at hspan'
    · exact .span hspan (ih hblanks rfl)

theorem arrives (h : Made spans s) (ha : Arrives s t) : Made spans t := by
  obtain ⟨newlines, rest, gap, laid, rfl, rfl, hn, hg, hl⟩ := ha
  have hrest := h.of_blanks_append fun c hc => isSolid_of_isBreak (.inl (hn c hc))
  exact .gap (bracket_not_mem_gap hg) (hrest.laid hl)

theorem dropWhile {p : Char → Bool} (hp : ∀ c, p c = true → isSolid c = false) (h : Made spans s) :
    Made spans (s.dropWhile p) := by
  rw [← List.takeWhile_append_dropWhile (p := p) (l := s)] at h
  exact h.of_blanks_append fun c hc => hp c (List.mem_takeWhile_imp hc)

theorem dropEndWhile {p : Char → Bool} (hp : ∀ c, p c = true → isSolid c = false) (h : Made spans s) :
    Made spans (dropEndWhile p s) := by
  have hs : s = Text.dropEndWhile p s ++ (s.reverse.takeWhile p).reverse := by
    rw [Text.dropEndWhile, ← List.reverse_append, List.takeWhile_append_dropWhile, List.reverse_reverse]
  rw [hs] at h
  exact h.of_append_blanks fun c hc => hp c (List.mem_takeWhile_imp (List.mem_reverse.1 hc))

theorem trimBlank (h : Made spans s) : Made spans (trimBlank s) :=
  (h.dropWhile fun _ => isSolid_of_isBlank).dropEndWhile fun _ => isSolid_of_isBlank

theorem finish {w : Writer} (h : Made spans s) (hs : w.Spells s) : ∃ finished, w.finish = .ok finished ∧
    Made spans finished := by
  have hdropped := h.dropEndWhile (p := (· = '\n')) fun c hc => isSolid_of_isBreak (.inl (by simpa using hc))
  refine ⟨_, hs.finish_eq, ?_⟩
  dsimp only
  split
  · rename_i hempty
    rwa [List.isEmpty_iff.1 hempty] at hdropped
  · have hnewline := hdropped.append (of_gap (s := ['\n']) (by decide))
    rwa [List.append_nil] at hnewline

end Made

/-! ## Renderings -/

/-- What is written is made of spans of some trees.  Every target of theirs was asked for; whatever else was asked for
is lost in a heading of the trees. -/
def matching (ts : List Tree) : Outcome := fun asked more =>
  ∃ spans lost, Made spans more ∧ (∀ span ∈ spans, span.From ts) ∧ asked.Perm (spans.filterMap Span.call? ++ lost) ∧
    ∀ p ∈ lost, ∃ t ∈ ts, Loses t p.1

section

variable {ts us : List Tree} {asked asked' : List (String × String)} {s t : List Char}

theorem matching_change (h : matching ts asked s) (ht : ∀ spans, Made spans s → Made spans t) :
    matching ts asked t := by
  obtain ⟨spans, lost, hmade, h⟩ := h
  exact ⟨spans, lost, ht spans hmade, h⟩

theorem matching_lasting (ts : List Tree) : (matching ts).Lasting where
  behind hgap h := matching_change h fun _ => .gap hgap
  before hgap h := matching_change h fun spans hmade => by
    have happend := hmade.append (.of_gap hgap)
    rwa [List.append_nil] at happend
  arrives h ha := matching_change h fun _ hmade => hmade.arrives ha
  onOneLine h := matching_change h fun _ hmade => hmade.laid (.onOneLine _)
  trimBlank h := matching_change h fun _ hmade => hmade.trimBlank

theorem matching_mono (h : matching ts asked s) (hsub : ∀ t ∈ ts, ∃ u ∈ us, Within t u) : matching us asked s := by
  obtain ⟨spans, lost, hmade, hfrom, hasked, hlost⟩ := h
  refine ⟨spans, lost, hmade, fun span hspan => (hfrom span hspan).mono hsub, hasked, fun p hp => ?_⟩
  obtain ⟨t, ht, heading, hheading, h⟩ := hlost p hp
  obtain ⟨u, hu, htu⟩ := hsub t ht
  exact ⟨u, hu, heading, hheading.trans htu, h⟩

theorem matching_append (h : matching ts asked s) (h' : matching ts asked' t) :
    matching ts (asked ++ asked') (s ++ t) := by
  obtain ⟨spans, lost, hmade, hfrom, hasked, hlost⟩ := h
  obtain ⟨spans', lost', hmade', hfrom', hasked', hlost'⟩ := h'
  refine ⟨spans ++ spans', lost ++ lost', hmade.append hmade', List.forall_mem_append.2 ⟨hfrom, hfrom'⟩, ?_,
    List.forall_mem_append.2 ⟨hlost, hlost'⟩⟩
  refine (hasked.append hasked').trans ?_
  rw [List.filterMap_append, List.append_assoc, List.append_assoc]
  refine List.Perm.append_left _ ?_
  rw [← List.append_assoc, ← List.append_assoc]
  exact List.Perm.append_right _ List.perm_append_comm

theorem matching_perm (h : matching ts asked s) (hasked : asked'.Perm asked) : matching ts asked' s := by
  obtain ⟨spans, lost, hmade, hfrom, hperm, hlost⟩ := h
  exact ⟨spans, lost, hmade, hfrom, hasked.trans hperm, hlost⟩

theorem matching_nil (h : ']' ∉ s) : matching ts [] s := ⟨[], [], .of_gap h, nofun, .nil, nofun⟩

/-- A span that is written answers what was asked for it. -/
theorem matching_span {span : Span} (hfrom : span.From ts) (h : span.Stands s) : matching ts span.call?.toList s := by
  refine ⟨[span], [], .single h, List.forall_mem_singleton.2 hfrom, ?_, nofun⟩
  cases hcall : span.call? <;> simp [hcall]

/-- A link or an image comes out in one piece behind the layout that is due. -/
theorem matching_target (span : Span) (hfrom : span.From ts) {call : String × String} (hcall : span.call? = some call)
    (h : Arrives span.written s) : matching ts [call] s := by
  have hsome : span.call?.isSome = true := by
    rw [hcall]
    rfl
  obtain ⟨c, middle, hwritten, hc⟩ := Span.ends_of_call? hsome
  rw [hwritten] at h
  have hne : c ≠ '\n' := by
    rintro rfl
    cases hc
  obtain ⟨gap, laid, rfl, hgap, hl⟩ := h.of_ne hne
  have hlaid : Laid span.written laid := hwritten ▸ hl
  have hspan := matching_span hfrom ⟨solid_laid hlaid, fun _ => hlaid⟩
  rw [hcall] at hspan
  exact (matching_lasting ts).behind (bracket_not_mem_gap hgap) hspan

end

section

open Render

variable {rewriter : UrlRewriter σ} {ts us : List Tree} {m : Render σ Unit}

theorem Render.Yields.within (h : m.Yields rewriter (matching ts)) (us : List Tree) (hsub : ∀ t ∈ ts, ∃ u ∈ us, Within t u) :
    m.Yields rewriter (matching us) := h.mono fun _ _ hmore => matching_mono hmore hsub

theorem within_child {data : NodeData} {children : List Tree} : ∀ t ∈ children, ∃ u ∈ [Dom.Tree.node data children],
    Within t u := fun _ ht => ⟨_, List.mem_singleton_self _, .child ht .self⟩

theorem Render.Writes.matching (span : Span) (h : m.Writes rewriter span.written) (hcall : span.call? = none)
    (hfrom : span.From ts) : m.Yields rewriter (matching ts) := Yields.mono h fun _ _ ⟨hasked, hsolid⟩ => by
  have hspan := matching_span hfrom ⟨hsolid, fun hsome => by rw [hcall] at hsome; cases hsome⟩
  rw [hcall] at hspan
  rw [hasked]
  exact hspan

theorem matching_renderAsMarkup {t : Tree} (h : t.data.isElement = true) :
    (renderAsMarkup t : Render σ Unit).Yields rewriter (matching [t]) :=
  Writes.matching ⟨t, .markup⟩ (writes_writeVerbatim _) rfl (Span.from_self h)

theorem matching_renderLink {t : Tree} (ht : t.data.isNative "a" = true) {text : List Char}
    (htext : plainText? t.children = some text) : (renderLink rewriter t.data text).Yields rewriter (matching [t]) := by
  refine yields_target fun form => ?_
  rw [writeBetween_eq, writeBetween_eq, write_write]
  refine yields_write fun more h => ?_
  refine matching_target ⟨t, .link form⟩ (Span.from_self ht) rfl ?_
  simpa [Span.written, htext] using h

theorem matching_renderImage {t : Tree} (ht : t.data.isNative "img" = true) :
    (renderImage rewriter t.data).Yields rewriter (matching [t]) := by
  refine yields_target fun form => ?_
  have hfrom : (Span.mk t (.image form)).From [t] := Span.from_self ht
  dsimp only
  split
  · rename_i htitle
    rw [writeBetween_eq, writeBetween_eq, write_write]
    refine yields_write fun more h => matching_target ⟨t, .image form⟩ hfrom rfl ?_
    simpa [Span.written, htitle] using h
  · rename_i htitle
    rw [writeBetween_eq, writeBetween_eq, writeBetween_eq, write_write, write_write]
    refine yields_write fun more h => matching_target ⟨t, .image form⟩ hfrom rfl ?_
    simpa [Span.written, htitle] using h

theorem matching_rule {path : Path} {index : Option Nat} {name : ElementName} {attributes : List Attribute}
    {children : List Tree} {rule : Rule} (hname : name.vocabulary ≠ .shortcode)
    (hrule : rule.Applies path index name attributes children)
    (hall : (renderKept rewriter (.element name attributes) path (fun _ => true) 0 [] children).Yields rewriter
      (matching children))
    (hitems : (renderItems rewriter (.element name attributes) path 0 [] children).Yields rewriter
      (matching (children.filter (·.data.isElement)))) :
    (rule.render rewriter (.element name attributes)
      (renderKept rewriter (.element name attributes) path (fun _ => true) 0 [] children)
      (renderItems rewriter (.element name attributes) path 0 [] children)
      (renderAsMarkup (.node (.element name attributes) children))).Yields rewriter
      (matching [.node (.element name attributes) children]) := by
  have hlasting := matching_lasting [.node (.element name attributes) children]
  have hnative {tag : String} (h : name.tag = tag) : (NodeData.element name attributes).isNative tag = true := by
    simp [NodeData.isNative, NodeData.elementName?, hname, h]
  have hcontent {text : List Char} (h : bareText? (.element name attributes) children = some text) :
      plainText? children = some text := (Option.ite_none_right_eq_some.1 h).2
  have hall := hall.within [.node (.element name attributes) children] within_child
  cases hrule with
  | heading hlevel =>
    refine yields_heading hlasting _ hall fun e urls he => ?_
    -- the heading is given up, and what its contents asked for is lost
    obtain ⟨asked, hasked, hnames⟩ := asked_of_renderKept rewriter (.element name attributes) path children urls
    have hgivenUp : GivenUp (.node (.element name attributes) children) :=
      ⟨⟨name.tag, hnative rfl, hlevel ▸ rfl⟩, σ, rewriter, path, urls, e, he⟩
    refine ⟨asked, hasked, (matching_renderAsMarkup rfl).mono fun asked' more h => ?_⟩
    obtain ⟨spans, lost, hmade, hfrom, hperm, hlost⟩ := h
    refine ⟨spans, asked ++ lost, hmade, hfrom, ?_, List.forall_mem_append.2 ⟨fun p hp => ?_, hlost⟩⟩
    · rw [← List.append_assoc]
      refine (hperm.append_left asked).trans ?_
      rw [← List.append_assoc]
      exact List.Perm.append_right _ List.perm_append_comm
    · exact ⟨_, List.mem_singleton_self _, _, .self, hgivenUp, hnames p hp⟩
  | emphasis => exact yields_emphasis hlasting (by decide) hall
  | strong => exact yields_emphasis hlasting (by decide) hall
  | @code text htag h =>
    refine Writes.matching ⟨.node (.element name attributes) children, .code⟩ ?_ rfl
      (Span.from_self (hnative htag))
    rw [Span.written, show plainText? (Dom.Tree.node _ children).children = some text from hcontent h]
    exact writes_writeVerbatim _
  | @fenced text htag h =>
    refine Writes.matching ⟨.node (.element name attributes) children, .fenced⟩ ?_ rfl
      (Span.from_self (hnative htag))
    rw [Span.written, show plainText? (Dom.Tree.node _ children).children = some text from hcontent h]
    exact writes_renderFenced _
  | link htag _ h => exact matching_renderLink (t := .node (.element name attributes) children) (hnative htag) h
  | linkedImage _ h =>
    obtain ⟨below, rfl, himage⟩ := of_linkedImage? h
    exact (matching_renderImage (t := .node _ below) himage).within [.node (.element name attributes) _] within_child
  | image htag => exact matching_renderImage (t := .node (.element name attributes) children) (hnative htag)
  | list => exact yields_list hlasting (hitems.within _ fun t ht => within_child t (List.mem_of_mem_filter ht))
  | item _ h => exact yields_item hlasting (bracket_not_mem_marker h) hall
  | quotation => exact yields_quotation hlasting hall

/-- Renderings ask for what they write, and else only inside headings that are given up. -/
theorem compositional_matching (rewriter : UrlRewriter σ) : Compositional rewriter fun ts m =>
    m.Yields rewriter (matching ts) where
  nil := yields_pure (matching_nil nofun)
  cons {t ts _ _} ht hts := by
    have ht := ht.within (t :: ts) fun u hu => ⟨u, List.mem_cons.2 (.inl (List.mem_singleton.1 hu)), .self⟩
    have hts := hts.within (t :: ts) fun u hu => ⟨u, List.mem_cons_of_mem t hu, .self⟩
    refine (Yields.bind ht hts).mono ?_
    rintro _ _ ⟨_, _, _, _, rfl, rfl, h, h'⟩
    exact matching_append h h'
  failure _ e := yields_failure e
  text path content below := Writes.matching ⟨.node (.text content) below, .text path⟩ (writes_write _) rfl
    (Span.from_self rfl)
  comment _ _ := yields_pure (matching_nil nofun)
  document {children _} hm := hm.within [.node .document children] within_child
  markup _ _ _ := matching_renderAsMarkup rfl
  rule hname hrule hall hitems := matching_rule hname hrule hall hitems
  formula attributes children := by
    refine Writes.matching ⟨.node (.element (.shortcode "latex") attributes) children, .formula⟩ ?_ rfl
      (Span.from_self rfl)
    exact writes_writeBetween _ _ _ _
  figure {tag attributes children _ caption} hcaption hm := by
    have hwrite : (write (escape specialInText caption.toList) : Render σ Unit).Yields rewriter
        (matching [.node (.element (.shortcode tag) attributes) children]) := by
      refine Writes.matching ⟨.node (.element (.shortcode tag) attributes) children, .caption⟩ ?_ rfl
        (Span.from_self rfl)
      rw [Span.written, show (Dom.Tree.node (.element (.shortcode tag) attributes) children).data.attribute? "caption" =
        some caption from hcaption]
      exact writes_write _
    have hm := hm.within [.node (.element (.shortcode tag) attributes) children] within_child
    refine yields_renderFigure (matching_lasting _) hm hwrite ?_
    exact fun _ _ _ _ _ h hgap h' => matching_append h ((matching_lasting _).behind hgap h')
  captioned {name attributes before first after _ _} _ hm hn := by
    have hm := hm.within [.node (.element name attributes) (before ++ first :: after)] fun t ht =>
      within_child t (by simp [List.mem_singleton.1 ht])
    have hn := hn.within [.node (.element name attributes) (before ++ first :: after)] fun t ht =>
      within_child t (by simp [ht])
    refine yields_renderCaptioned (matching_lasting _) (matching_lasting _) hm hn fun _ _ _ _ _ h hgap h' => ?_
    exact matching_perm (matching_append h ((matching_lasting _).behind hgap h')) List.perm_append_comm

end

/-! ## Documents -/

/-- **The calls to the rewriter and the targets that are written correspond one to one.**  A document that is rendered
is made of spans of its tree, and the calls are those for its links and images and, besides, calls for targets inside
headings that cannot be rendered.  An element that no rule applies to goes out as the markup it is, without a call. -/
theorem calls_of_rendered (rewriter : UrlRewriter σ) {root : Tree} {urls : σ}
    (hok : ((renderBody rewriter root).on ⟨.empty, urls⟩).1 = .ok ()) :
    (∃ finished spans lost, (rendered rewriter root urls).1 = .ok finished ∧ Made spans finished ∧
      (∀ span ∈ spans, span.From [root]) ∧
      (callsOf rewriter root urls).Perm (spans.filterMap Span.call? ++ lost) ∧ ∀ p ∈ lost, Loses root p.1) ∧
    ∀ (path : Path) (index : Option Nat) (name : ElementName) (attributes : List Attribute) (children : List Tree)
      (sheet : Sheet σ), name.vocabulary ≠ .shortcode → rule? path index name attributes children = none →
      ((renderTree rewriter path index (.node (.element name attributes) children)).on sheet).2 =
        ⟨(sheet.writer.enterVerbatim.write (Dom.Tree.markup (.node (.element name attributes) children))).leaveVerbatim,
          sheet.urls⟩ := by
  constructor
  · rw [on_renderBody_noting] at hok
    have hbody := (compositional_matching rewriter.noting).renderBody root
    obtain ⟨asked, written, hasked, hs, spans, lost, hmade, hfrom, hperm, hlost⟩ :=
      hbody ⟨.empty, (urls, [])⟩ [] Writer.spells_empty hok
    obtain ⟨finished, hfinish, hmade⟩ := hmade.finish hs
    have hcalls : callsOf rewriter root urls = asked := hasked.noted
    have hchild : ∀ t ∈ root.children, ∃ u ∈ [root], Within t u := by
      obtain ⟨data, children⟩ := root
      exact within_child
    refine ⟨finished, spans, lost, ?_, hmade, fun span hspan => (hfrom span hspan).mono hchild, hcalls ▸ hperm,
      fun p hp => ?_⟩
    · rw [rendered_eq, on_renderBody_noting, hok]
      exact hfinish
    · obtain ⟨t, ht, heading, hheading, h⟩ := hlost p hp
      obtain ⟨u, hu, htu⟩ := hchild t ht
      exact ⟨heading, List.mem_singleton.1 hu ▸ hheading.trans htu, h⟩
  · intro path index name attributes children sheet hname hrule
    rw [renderTree_native rewriter path index hname, hrule]
    rfl

/-- A link, a caption that is rendered before its image, and a link in a heading that is given up. -/
def linksPage : Tree :=
  let text (s : String) : Tree := .node (.text s.toList) []
  let link (target : String) : Tree := .node (.element (.html "a") [.plain "href" target]) [text "x]"]
  let image (source : String) : Tree := .node (.element (.html "img") [.plain "src" source]) []
  .node (.element (.html "body") []) [
    link "u", .node (.element (.shortcode "caption") []) [image "v", text " t ", link "w"],
    .node (.element (.html "h2") []) [link "z", .node (.element (.shortcode "caption") []) [text "y"]]]

theorem calls_of_linksPage : ((renderBody .identity linksPage).on ⟨.empty, ()⟩).1 = .ok () ∧
    callsOf .identity linksPage () = [("u", "u"), ("w", "w"), ("v", "v"), ("z", "z")] ∧
    ∃ finished spans lost, (rendered .identity linksPage ()).1 = .ok finished ∧ Made spans finished ∧
      [("u", "u"), ("w", "w"), ("v", "v"), ("z", "z")].Perm (spans.filterMap Span.call? ++ lost) ∧
      ∀ p ∈ lost, Loses linksPage p.1 := by
  have hok : ((renderBody .identity linksPage).on ⟨.empty, ()⟩).1 = .ok () := by decide +kernel
  have hcalls : callsOf .identity linksPage () = [("u", "u"), ("w", "w"), ("v", "v"), ("z", "z")] := by decide +kernel
  obtain ⟨⟨finished, spans, lost, hfinished, hmade, -, hperm, hlost⟩, -⟩ := calls_of_rendered .identity hok
  exact ⟨hok, hcalls, finished, spans, lost, hfinished, hmade, hcalls ▸ hperm, hlost⟩

/-- A heading that is given up has asked for a target that is written nowhere. -/
theorem call_without_target :
    let root := Dom.Tree.node (.element (.html "body") []) [.node (.element (.html "h2") [])
      [.node (.element (.html "a") [.plain "href" "u"]) [.node (.text ['x']) []],
        .node (.element (.shortcode "caption") []) [.node (.text ['y']) []]]]
    let written := "<h2><a href=\"u\">x</a><caption>y</caption></h2>\n".toList
    (rendered .identity root ()).1 = .ok written ∧ callsOf .identity root () = [("u", "u")] ∧
      ¬ ∃ spans, Made spans written ∧ (callsOf .identity root ()).Perm (spans.filterMap Span.call?) := by
  intro root written
  have hwritten : (rendered .identity root ()).1 = .ok written := by decide +kernel
  have hcalls : callsOf .identity root () = [("u", "u")] := by decide +kernel
  have hbracket : ']' ∉ written := by decide +kernel
  refine ⟨hwritten, hcalls, ?_⟩
  rintro ⟨spans, hmade, hperm⟩
  rw [hcalls] at hperm
  obtain ⟨span, hspan, hcall⟩ := List.mem_filterMap.1 (hperm.subset List.mem_cons_self)
  exact hbracket (hmade.bracket_mem hspan (by rw [hcall]; rfl))

end BlogMarkdown.Markdown
