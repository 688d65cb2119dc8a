import BlogMarkdown.Proofs.Markdown.Frames
import BlogMarkdown.Proofs.Markdown.Targets
import BlogMarkdown.Proofs.Shortcode.MathRewriting
import BlogMarkdown.Proofs.Shortcode.Rerun
import BlogMarkdown.Proofs.Shortcode.Violations
/-!
# How a conversion can fail

The passes over shortcodes and mathematics only make texts, elements for tags with a known name, and elements for
formulas.  What is of a kind that admits these stays of that kind, and so the obstacles that rendering can meet are
those that were in the tree, captions without an image, and shortcodes that are known and have no Markdown form.
-/
namespace BlogMarkdown.Markdown

open Dom Shortcode

variable {σ : Type} {registry : Registry} {p : NodeData → Prop}

/-! ## Trees of one kind -/

/-- All nodes of a tree are of one kind. -/
def Whole (p : NodeData → Prop) (t : Tree) : Prop := ∀ u, Within u t → p u.data

theorem whole_node {data : NodeData} {children : List Tree} :
    Whole p (.node data children) ↔ p data ∧ ∀ t ∈ children, Whole p t := by
  constructor
  · exact fun h => ⟨h _ .self, fun t ht u hu => h u (.child ht hu)⟩
  · rintro ⟨hdata, hchildren⟩ u (_ | ⟨ht, hu⟩)
    · exact hdata
    · exact hchildren _ ht u hu

mutual
theorem Whole.withoutEmptyTexts : ∀ {t : Tree}, Whole p t → Whole p t.withoutEmptyTexts
  | .node _ _, h => by
    obtain ⟨hdata, hchildren⟩ := whole_node.1 h
    exact whole_node.2 ⟨hdata, whole_dropEmptyTexts hchildren⟩
theorem whole_dropEmptyTexts : ∀ {ts : List Tree}, (∀ t ∈ ts, Whole p t) → ∀ t ∈ dropEmptyTexts ts, Whole p t
  | [], _ => nofun
  | t :: rest, h => by
    obtain ⟨ht, hrest⟩ := List.forall_mem_cons.1 h
    have hdropped := whole_dropEmptyTexts hrest
    rw [dropEmptyTexts]
    split
    · exact hdropped
    · refine List.forall_mem_cons.2 ⟨?_, hdropped⟩
      split
      · exact Whole.withoutEmptyTexts ht
      · exact ht
end

/-! ## What the passes make -/

/-- A kind admits all that the passes over shortcodes and mathematics make. -/
structure Admits (registry : Registry) (p : NodeData → Prop) : Prop where
  text : ∀ content, p (.text content)
  tag : ∀ g : Tag, (registry.isBlock? (String.ofList g.name)).isSome → p g.data
  math : p mathData

def Token.Of (p : NodeData → Prop) : Token → Prop
  | .tree t => Whole p t
  | .tag g => p g.data

theorem whole_text (hp : Admits registry p) (content : List Char) {below : List Tree} (h : ∀ t ∈ below, Whole p t) :
    Whole p (.node (.text content) below) := whole_node.2 ⟨hp.text content, h⟩

theorem whole_of_bracketed {ts : List Token} {us : List Tree} (h : Bracketed ts us)
    (hts : ∀ token ∈ ts, Token.Of p token) : ∀ u ∈ us, Whole p u := by
  induction h with
  | nil => nofun
  | tree t _ ih =>
    obtain ⟨ht, hts⟩ := List.forall_mem_cons.1 hts
    exact List.forall_mem_cons.2 ⟨ht, ih hts⟩
  | single _ _ _ ih =>
    obtain ⟨hg, hts⟩ := List.forall_mem_cons.1 hts
    exact List.forall_mem_cons.2 ⟨whole_node.2 ⟨hg, nofun⟩, ih hts⟩
  | pair _ _ _ _ _ _ ihInner ih =>
    obtain ⟨ho, hts⟩ := List.forall_mem_cons.1 hts
    obtain ⟨hinner, hts⟩ := List.forall_mem_append.1 hts
    exact List.forall_mem_cons.2 ⟨whole_node.2 ⟨ho, ihInner hinner⟩, ih (List.forall_mem_cons.1 hts).2⟩

theorem of_textTokens (hp : Admits registry p) (content : List Char) {below : List Tree} (h : ∀ t ∈ below, Whole p t) :
    ∀ token ∈ textTokens registry content below, Token.Of p token := by
  refine List.forall_mem_cons.2 ⟨whole_text hp _ h, fun token htoken => ?_⟩
  obtain ⟨piece, hpiece, htoken⟩ := List.mem_flatMap.1 htoken
  have hmark : piece.1 ∈ (marks registry content).filterMap Mark.tag? := by
    rw [← map_fst_pieces]
    exact List.mem_map_of_mem hpiece
  obtain ⟨m, hm, htag⟩ := List.mem_filterMap.1 hmark
  obtain rfl | rfl : token = .tag piece.1 ∨ token = .tree (.node (.text piece.2) []) := by simpa using htoken
  · cases m with
    | tag g =>
      obtain rfl : g = piece.1 := Option.some.inj htag
      exact hp.tag _ (isBlock?_of_mem_marksFrom 0 content hm)
    | _ => cases htag
  · exact whole_text hp _ nofun

mutual
/-- **Rewriting shortcodes keeps the kind of a tree.** -/
theorem whole_of_rewritten (hp : Admits registry p) : ∀ {t u : Tree}, Rewritten registry t u → Whole p t → Whole p u
  | .node _ _, _, .node htokens hbracketed, h => by
    obtain ⟨hdata, hchildren⟩ := whole_node.1 h
    -- the node keeps its data, so only its tokens count, and bracketing them makes nothing else
    exact whole_node.2 ⟨hdata, whole_of_bracketed hbracketed (of_tokens hp htokens hchildren)⟩
theorem of_tokens (hp : Admits registry p) : ∀ {cs : List Tree} {ts : List Token}, Tokens registry cs ts →
    (∀ t ∈ cs, Whole p t) → ∀ token ∈ ts, Token.Of p token
  | [], _, .nil, _ => nofun
  | t :: rest, _, htokens, h => by
    obtain ⟨ht, hrest⟩ := List.forall_mem_cons.1 h
    cases htokens with
    | text hts =>
      exact List.forall_mem_append.2 ⟨of_textTokens hp _ (whole_node.1 ht).2, of_tokens hp hts hrest⟩
    | element _ hu hts => exact List.forall_mem_cons.2 ⟨whole_of_rewritten hp hu ht, of_tokens hp hts hrest⟩
    | other _ _ hts => exact List.forall_mem_cons.2 ⟨ht, of_tokens hp hts hrest⟩
end

theorem whole_spanTrees (hp : Admits registry p) : ∀ {spans : List (List Char × List Char)} {last : List Char}
    {below : List Tree}, (∀ t ∈ below, Whole p t) → ∀ t ∈ spanTrees below spans last, Whole p t
  | [], last, _, h => List.forall_mem_cons.2 ⟨whole_text hp last h, nofun⟩
  | (before, formula) :: spans, last, _, h => by
    have hformula : Whole p (.node mathData [.node (.text formula) []]) :=
      whole_node.2 ⟨hp.math, List.forall_mem_cons.2 ⟨whole_text hp formula nofun, nofun⟩⟩
    rw [spanTrees, List.forall_mem_cons, List.forall_mem_cons]
    exact ⟨whole_text hp before h, hformula, whole_spanTrees hp nofun⟩

mutual
/-- **Rewriting mathematics keeps the kind of a tree.** -/
theorem whole_of_spanned (hp : Admits registry p) : ∀ {t u : Tree}, Spanned t u → Whole p t → Whole p u
  | .node _ _, _, .node hspanned, h => by
    obtain ⟨hdata, hchildren⟩ := whole_node.1 h
    exact whole_node.2 ⟨hdata, whole_of_spannedAll hp hspanned hchildren⟩
theorem whole_of_spannedAll (hp : Admits registry p) : ∀ {cs us : List Tree}, SpannedAll cs us →
    (∀ t ∈ cs, Whole p t) → ∀ u ∈ us, Whole p u
  | [], _, .nil, _ => nofun
  | t :: rest, _, hspanned, h => by
    obtain ⟨ht, hrest⟩ := List.forall_mem_cons.1 h
    cases hspanned with
    | text _ hus =>
      exact List.forall_mem_append.2 ⟨whole_spanTrees hp (whole_node.1 ht).2, whole_of_spannedAll hp hus hrest⟩
    | element _ hu hus => exact List.forall_mem_cons.2 ⟨whole_of_spanned hp hu ht, whole_of_spannedAll hp hus hrest⟩
    | other _ _ hus => exact List.forall_mem_cons.2 ⟨ht, whole_of_spannedAll hp hus hrest⟩
end

/-! ## The passes over a store -/

section

variable {s : Store} {root : NodeId}

theorem whole_of_rewrite (hp : Admits registry p) (hs : s.WellFormed) (hroot : root < s.size)
    (hok : (outcome (rewrite registry root) s).1 = .ok ()) (h : Whole p (s.tree root)) :
    (outcome (rewrite registry root) s).2.WellFormed ∧ root < (outcome (rewrite registry root) s).2.size ∧
      Whole p ((outcome (rewrite registry root) s).2.tree root) := by
  obtain ⟨f, hf⟩ := hs
  obtain ⟨t, ht, rfl⟩ := Numbered.exists_stands hf.valid root (hf.size ▸ hroot)
  obtain ⟨f', v, h', hv, hid, hrewritten⟩ := rewritten_of_outcome hf ht hok
  rw [ht.tree_eq hf] at h
  have hwhole := (whole_of_rewritten hp hrewritten h).withoutEmptyTexts
  rw [← Numbered.tree_withoutEmptyTexts, ← hv.tree_eq h', Numbered.id_withoutEmptyTexts, hid] at hwhole
  have hlt := hv.lt_size h'.valid (Numbered.id_mem_ids _)
  rw [Numbered.id_withoutEmptyTexts, hid, ← h'.size] at hlt
  exact ⟨⟨_, h'⟩, hlt, hwhole⟩

theorem whole_of_rewriteMath (hp : Admits registry p) (hs : s.WellFormed) (hroot : root < s.size)
    (h : Whole p (s.tree root)) : Whole p ((rewriteMath s root).tree root) := by
  obtain ⟨f, hf⟩ := hs
  obtain ⟨t, ht, rfl⟩ := Numbered.exists_stands hf.valid root (hf.size ▸ hroot)
  obtain ⟨f', hv, hb, h'⟩ := holds_rewriteMath hf ht
  have hid := id_mathWalk f.size t
  have hstands := hb.stands.withoutEmptyTexts hv
  rw [ht.tree_eq hf] at h
  have hwhole := (whole_of_spanned hp (spanned_mathWalk t f.size) h).withoutEmptyTexts
  rw [hid] at hstands
  rwa [← Numbered.tree_withoutEmptyTexts, ← hstands.tree_eq h', Numbered.id_withoutEmptyTexts, hid] at hwhole

/-- The three passes over what is below a node: shortcodes, mathematics, and Markdown. -/
def convertBelow (registry : Registry) (rewriter : UrlRewriter σ) (s : Store) (root : NodeId) (urls : σ) :
    Except Error (List Char) × σ :=
  match outcome (rewrite registry root) s with
  | (.error e, _) => (.error e, urls)
  | (.ok _, s) => rendered rewriter ((rewriteMath s root).tree root) urls

/-- A conversion is the three passes over the tree that is parsed. -/
theorem convert_eq_convertBelow (registry : Registry) (rewriter : UrlRewriter σ) (html : List Char) (urls : σ) :
    convert registry rewriter html urls =
      convertBelow registry rewriter (Html.parseFragment html).1 (Html.parseFragment html).2 urls := by
  unfold convert rewritten convertBelow
  generalize Html.parseFragment html = parsed
  obtain ⟨s, root⟩ := parsed
  have houtcome : ((rewrite registry root).run s).run = outcome (rewrite registry root) s := rfl
  dsimp only
  rw [houtcome]
  obtain ⟨result, s⟩ := outcome (rewrite registry root) s
  cases result <;> rfl

/-! ## Errors of the passes -/

theorem error_of_rewrite (hs : s.WellFormed) (hroot : root < s.size) {e : Error}
    (h : (outcome (rewrite registry root) s).1 = .error e) :
    (∃ tag, e = .unexpectedClosingShortcode tag) ∨ ∃ tags, e = .unclosedShortcodes tags := by
  obtain ⟨f, hf⟩ := hs
  obtain ⟨t, ht, rfl⟩ := Numbered.exists_stands hf.valid root (hf.size ▸ hroot)
  rw [(outcome_rewrite registry hf ht).1, result_walk, verdict_eq_error_iff] at h
  obtain ⟨before, event, -, -, hviolation, -⟩ := h
  -- a tag can only close what is not open, and the end of a node can only leave tags open
  cases event with
  | tag g =>
    rw [violation] at hviolation
    split at hviolation
    · exact .inl ⟨_, (Option.some.inj hviolation).symm⟩
    · cases hviolation
  | enter => cases hviolation
  | leave =>
    rw [violation] at hviolation
    split at hviolation
    · cases hviolation
    · exact .inr ⟨_, (Option.some.inj hviolation).symm⟩

/-- Rendering a document fails only for an obstacle in it. -/
theorem obstacle_of_rendered {rewriter : UrlRewriter σ} {root : Tree} {urls : σ} {e : Error}
    (h : (rendered rewriter root urls).1 = .error e) : Obstacle root e := by
  obtain ⟨data, children⟩ := root
  have hbody : (renderBody rewriter (.node data children)).Orderly (Obstacle (.node data children)) :=
    orderly_renderKept rewriter _ [] _ 0 [] children fun _ h _ => .of_child h
  obtain ⟨hlater, hfault⟩ := hbody ⟨.empty, urls⟩
  obtain ⟨text, htext⟩ := hlater.spells [] Writer.spells_empty
  rw [rendered_eq, htext.finish_eq] at h
  cases hresult : ((renderBody rewriter (.node data children)).on ⟨.empty, urls⟩).1 with
  | error e' =>
    rw [hresult] at h
    cases h
    exact hfault e hresult
  | ok u =>
    rw [hresult] at h
    cases h

/-- A node is no element for a shortcode but one whose name is known, or that of a formula. -/
def Known (registry : Registry) (d : NodeData) : Prop :=
  ∀ tag attributes, d = .element ⟨.shortcode, tag⟩ attributes → tag = "latex" ∨ (registry.isBlock? tag).isSome

theorem admits_known (registry : Registry) : Admits registry (Known registry) where
  text _ := nofun
  tag g hg tag attributes h := by
    cases h
    exact .inr hg
  math tag attributes h := by
    cases h
    exact .inl rfl

def NoDoctype (d : NodeData) : Prop := ∀ name publicId systemId, d ≠ .doctype name publicId systemId

theorem admits_noDoctype (registry : Registry) : Admits registry NoDoctype := ⟨nofun, nofun, nofun⟩

theorem known_of_native {d : NodeData} (h : d.isSynthetic = false) : Known registry d := by
  rintro tag attributes rfl
  cases h

/-- Every known name has a Markdown form. -/
theorem isBlock?_standard {tag : String} (h : (Registry.standard.isBlock? tag).isSome) :
    tag = "latex" ∨ tag = "caption" ∨ tag = "wp_caption" := by
  rw [Registry.standard, Registry.isBlock?_insert, Registry.isBlock?_insert, Registry.isBlock?_insert] at h
  by_contra hne
  rw [not_or, not_or] at hne
  rw [if_neg hne.1, if_neg hne.2.2, if_neg hne.2.1] at h
  cases h

/-- **How the passes can fail**: the first because shortcodes do not nest, the last for an obstacle that is left. -/
theorem error_of_convertBelow (hs : s.WellFormed) (hroot : root < s.size) {rewriter : UrlRewriter σ} {urls : σ}
    {e : Error} (h : (convertBelow registry rewriter s root urls).1 = .error e) :
    ((outcome (rewrite registry root) s).1 = .error e ∧
      ((∃ tag, e = .unexpectedClosingShortcode tag) ∨ ∃ tags, e = .unclosedShortcodes tags)) ∨
    (outcome (rewrite registry root) s).1 = .ok () ∧
      Obstacle ((rewriteMath (outcome (rewrite registry root) s).2 root).tree root) e := by
  cases hout : outcome (rewrite registry root) s with
  | mk result after =>
    rw [convertBelow, hout] at h
    cases result with
    | error e' =>
      cases h
      exact .inl ⟨rfl, error_of_rewrite hs hroot (by rw [hout])⟩
    | ok u => exact .inr ⟨rfl, obstacle_of_rendered h⟩

/-- What stands below a node behind the first two passes is of a kind that admits what they make. -/
theorem whole_of_passes (hp : Admits registry p) (hs : s.WellFormed) (hroot : root < s.size)
    (hok : (outcome (rewrite registry root) s).1 = .ok ()) (h : Whole p (s.tree root)) :
    Whole p ((rewriteMath (outcome (rewrite registry root) s).2 root).tree root) := by
  obtain ⟨hs', hroot', h'⟩ := whole_of_rewrite hp hs hroot hok h
  exact whole_of_rewriteMath hp hs' hroot' h'

/-- **A conversion fails in documented ways only**, for every rewriter, where no element stands for a shortcode before.
Without document types and with the standard registry, either the shortcodes do not nest or a caption has no image.
With any registry, a shortcode that is not supported is one that is known and has no Markdown form. -/
theorem failure_of_convertBelow (hs : s.WellFormed) (hroot : root < s.size)
    (hnative : Whole (fun d => d.isSynthetic = false) (s.tree root)) (rewriter : UrlRewriter σ) (urls : σ) :
    (Whole NoDoctype (s.tree root) → ∀ e, (convertBelow .standard rewriter s root urls).1 = .error e →
      ((outcome (rewrite .standard root) s).1 = .error e ∧
        ((∃ tag, e = .unexpectedClosingShortcode tag) ∨ ∃ tags, e = .unclosedShortcodes tags)) ∨
      ((outcome (rewrite .standard root) s).1 = .ok () ∧ e = .captionShape)) ∧
    ∀ registry tag, (convertBelow registry rewriter s root urls).1 = .error (.unsupportedShortcode tag) →
      (registry.isBlock? tag).isSome ∧ tag ∉ ["caption", "wp_caption", "latex"] := by
  have hknown (registry : Registry) : Whole (Known registry) (s.tree root) := fun u hu => known_of_native (hnative u hu)
  refine ⟨fun hdoctype e h => ?_, fun registry tag h => ?_⟩
  · refine (error_of_convertBelow hs hroot h).imp_right fun ⟨hok, hobstacle⟩ => ⟨hok, ?_⟩
    cases hobstacle with
    | caption => rfl
    -- the name of an element that is left is known, and the standard registry knows three, each with a form
    | shortcode hwithin hlatex hcaption =>
      have htag := whole_of_passes (admits_known .standard) hs hroot hok (hknown .standard) _ hwithin _ _ rfl
      exact absurd (isBlock?_standard (htag.resolve_left hlatex)) (not_or.2 ⟨hlatex, hcaption⟩)
    | doctype hwithin =>
      exact absurd rfl (whole_of_passes (admits_noDoctype .standard) hs hroot hok hdoctype _ hwithin _ _ _)
  · rcases error_of_convertBelow hs hroot h with ⟨-, ⟨_, he⟩ | ⟨_, he⟩⟩ | ⟨hok, hobstacle⟩
    · cases he
    · cases he
    · cases hobstacle with
      | shortcode hwithin hlatex hcaption =>
        have htag := whole_of_passes (admits_known registry) hs hroot hok (hknown registry) _ hwithin _ _ rfl
        refine ⟨htag.resolve_left hlatex, ?_⟩
        simpa [not_or] using ⟨(not_or.1 hcaption).1, (not_or.1 hcaption).2, hlatex⟩

end

/-- A caption without an image, and a tag that the standard registry does not know. -/
def captionPage : Store :=
  (Store.empty.create (.text "[caption]x[/caption][b]".toList)).1.append (some 0) (some 1)

theorem failure_of_caption_page :
    captionPage.WellFormed ∧ 0 < captionPage.size ∧ Whole (fun d => d.isSynthetic = false) (captionPage.tree 0) ∧
      Whole NoDoctype (captionPage.tree 0) ∧
      (convertBelow .standard .identity captionPage 0 ()).1 = .error .captionShape ∧
      (outcome (rewrite .standard 0) captionPage).1 = .ok () ∧
      (convertBelow ⟨[("b", false)]⟩ .identity captionPage 0 ()).1 = .error (.unsupportedShortcode "b") ∧
      (Registry.isBlock? ⟨[("b", false)]⟩ "b").isSome ∧ "b" ∉ ["caption", "wp_caption", "latex"] := by
  have hs : captionPage.WellFormed := ⟨_, Store.holds_empty.appendNew (by decide) _⟩
  have hroot : 0 < captionPage.size := by decide
  have htree : captionPage.tree 0 = .node .document [.node (.text "[caption]x[/caption][b]".toList) []] := rfl
  have hwhole {p : NodeData → Prop} (hdocument : p .document) (htext : p (.text "[caption]x[/caption][b]".toList)) :
      Whole p (captionPage.tree 0) := by
    rw [htree, whole_node, List.forall_mem_singleton, whole_node]
    exact ⟨hdocument, htext, nofun⟩
  have hnative : Whole (fun d => d.isSynthetic = false) (captionPage.tree 0) := hwhole rfl rfl
  have hdoctype : Whole NoDoctype (captionPage.tree 0) := hwhole nofun nofun
  have hcaption : (convertBelow .standard .identity captionPage 0 ()).1 = .error .captionShape := by decide +kernel
  have hb : (convertBelow ⟨[("b", false)]⟩ .identity captionPage 0 ()).1 = .error (.unsupportedShortcode "b") := by
    decide +kernel
  obtain ⟨hstandard, hany⟩ := failure_of_convertBelow hs hroot hnative .identity ()
  refine ⟨hs, hroot, hnative, hdoctype, hcaption, ?_, hb, hany _ _ hb⟩
  rcases hstandard hdoctype _ hcaption with ⟨-, ⟨_, h⟩ | ⟨_, h⟩⟩ | ⟨hok, -⟩
  · cases h
  · cases h
  · exact hok

end BlogMarkdown.Markdown
