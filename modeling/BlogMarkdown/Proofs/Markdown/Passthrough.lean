import BlogMarkdown.Proofs.Markdown.Rendering
/-!
# Elements that pass through

An element that no rule writes passes through as the markup it is, in verbatim mode: the linefeeds that are due come out
before it, with their line prefixes, and the bytes of the markup as they are.  It makes no difference in which chunks
the markup is written.
-/
namespace BlogMarkdown.Markdown

open Dom Text.Utf8

variable {σ : Type}

namespace Writer

/-! ## Bytes in verbatim mode -/

/-- The linefeeds that are due before the next content, each with the line prefix behind it. -/
def due (w : Writer) : List UInt8 := (List.replicate (w.run.missing w.requested) (linefeed :: w.indent)).flatten

theorem flatMap_missing (w : Writer) : w.missing.flatMap Piece.bytes = w.due := by
  rw [missing, List.flatMap_def, List.map_replicate]
  rfl

/-- How many linefeeds some bytes end with. -/
def trailing (bytes : List UInt8) : Nat := (bytes.reverse.takeWhile (· = linefeed)).length

/-- A writer behind some bytes that were written as they are. -/
def passThrough (bytes : List UInt8) (w : Writer) : Writer :=
  { w with out := w.out ++ (w.due ++ bytes), run := .count (trailing bytes), requested := 0 }

/-- The linefeeds that the output ends with behind some bytes. -/
def runBehind (run : LinefeedRun) (bytes : List UInt8) : LinefeedRun :=
  bytes.foldl (fun run b => if b = linefeed then run.succ else .count 0) run

theorem runBehind_append (run : LinefeedRun) (bytes : List UInt8) (b : UInt8) :
    runBehind run (bytes ++ [b]) = if b = linefeed then (runBehind run bytes).succ else .count 0 :=
  List.foldl_append

theorem trailing_append (bytes : List UInt8) (b : UInt8) :
    trailing (bytes ++ [b]) = if b = linefeed then trailing bytes + 1 else 0 := by
  rw [trailing, List.reverse_append]
  by_cases hb : b = linefeed <;> simp [hb, trailing]

theorem runBehind_content {first : UInt8} (hfirst : first ≠ linefeed) (bytes : List UInt8) :
    runBehind (.count 0) bytes = .count (trailing (first :: bytes)) := by
  induction bytes using List.reverseRecOn with
  | nil => simp [runBehind, trailing, hfirst]
  | append_singleton bytes b ih =>
    rw [runBehind_append, ih, ← List.cons_append, trailing_append]
    split <;> rfl

/-- Where no linefeed is requested, all bytes come out as they are. -/
theorem writeBytes_verbatim : ∀ {bytes : List UInt8} {w : Writer}, w.verbatim ≠ 0 → w.requested = 0 →
    w.writeBytes bytes = { w with out := w.out ++ bytes, run := runBehind w.run bytes }
  | [], w, _, _ => by
    have hout : w.out ++ ([] : List UInt8) = w.out := by simp
    rw [hout]
    rfl
  | b :: bytes, w, hverbatim, hrequested => by
    -- a linefeed in verbatim mode goes out without a prefix and requests nothing, so the step can be repeated
    have hout : w.out ++ [b] ++ bytes = w.out ++ b :: bytes := Array.ext' (by simp)
    rw [writeBytes_cons, writeByte, runBehind, List.foldl_cons, ← runBehind]
    by_cases hb : b = linefeed
    · rw [if_pos hb, if_pos hb, decide_eq_false hverbatim, ← hout, hb]
      exact writeBytes_verbatim (w := w.writeLinefeed false) hverbatim hrequested
    · have hcontent : w.writeContent [b] = { w with out := w.out ++ [b], run := .count 0 } := by
        show { w.flushLinefeeds with out := w.flushLinefeeds.out ++ [b], run := .count 0 } = _
        rw [flushLinefeeds_of_none hrequested]
      rw [if_neg hb, if_neg hb, hcontent, ← hout]
      exact writeBytes_verbatim (w := { w with out := w.out ++ [b], run := .count 0 }) hverbatim hrequested

/-- **Bytes that begin with content pass through** in verbatim mode, behind the linefeeds that are due. -/
theorem writeBytes_enterVerbatim (w : Writer) {first : UInt8} (hfirst : first ≠ linefeed) (bytes : List UInt8) :
    (w.enterVerbatim.writeBytes (first :: bytes)).leaveVerbatim = w.passThrough (first :: bytes) := by
  have hcontent : w.enterVerbatim.writeContent [first] =
      { w.enterVerbatim with out := w.out ++ (w.due ++ [first]), run := .count 0, requested := 0 } := by
    have hout : w.out ++ w.due ++ [first] = w.out ++ (w.due ++ [first]) := Array.ext' (by simp)
    show { w.enterVerbatim.flushLinefeeds with
      out := w.enterVerbatim.flushLinefeeds.out ++ [first], run := .count 0 } = _
    rw [flushLinefeeds_eq, flatMap_missing, ← hout]
    rfl
  have hout : w.out ++ (w.due ++ [first]) ++ bytes = w.out ++ (w.due ++ first :: bytes) := Array.ext' (by simp)
  rw [writeBytes_cons, writeByte, if_neg hfirst, hcontent, writeBytes_verbatim (Nat.succ_ne_zero w.verbatim) rfl,
    runBehind_content hfirst, passThrough, ← hout]
  rfl

theorem foldl_writeBytes : ∀ (chunks : List (List UInt8)) (w : Writer),
    chunks.foldl (fun w chunk => w.writeBytes chunk) w = w.writeBytes chunks.flatten
  | [], _ => rfl
  | chunk :: chunks, w => by
    rw [List.foldl_cons, foldl_writeBytes chunks, List.flatten_cons, writeBytes_append]

end Writer

/-! ## Elements without a rule -/

/-- The markup of an element begins with its start tag. -/
theorem markup_element (name : ElementName) (attributes : List Attribute) (children : List Tree) :
    ∃ rest, (Dom.Tree.node (.element name attributes) children).markup = '<' :: rest := by
  have hmarkup : (Dom.Tree.node (.element name attributes) children).markup =
      startTag name attributes ++ markupAllIn (Surroundings.top.inside name) children ++
        (if (Surroundings.top.inside name).inVoid then [] else endTag name) := rfl
  rw [hmarkup, startTag]
  simp only [List.cons_append]
  exact ⟨_, rfl⟩

/-- **Markup passes through in whatever chunks it is written.** -/
theorem writeBytes_markup {name : ElementName} {attributes : List Attribute} {children : List Tree}
    {chunks : List (List UInt8)}
    (h : chunks.flatten = encode (Dom.Tree.node (.element name attributes) children).markup) (w : Writer) :
    (chunks.foldl (fun w chunk => w.writeBytes chunk) w.enterVerbatim).leaveVerbatim =
      w.passThrough (encode (Dom.Tree.node (.element name attributes) children).markup) := by
  obtain ⟨rest, hmarkup⟩ := markup_element name attributes children
  have hfirst : encode ['<'] = [60] := rfl
  have hbytes : encode ('<' :: rest) = 60 :: encode rest := by
    rw [← List.singleton_append, encode_append, hfirst, List.singleton_append]
  rw [Writer.foldl_writeBytes, h, hmarkup, hbytes]
  exact w.writeBytes_enterVerbatim (by decide) _

/-- No rule writes an element from the markup: its shape gives none, or it is a heading whose contents cannot be
rendered. -/
def PassesThrough (rewriter : UrlRewriter σ) (path : Path) (index : Option Nat) (name : ElementName)
    (attributes : List Attribute) (children : List Tree) (urls : σ) : Prop :=
  match rule? path index name attributes children with
  | none => True
  | some (.heading _) => ∃ e,
    ((renderKept rewriter (.element name attributes) path (fun _ => true) 0 [] children).on ⟨.empty, urls⟩).1 = .error e
  | some _ => False

section

variable {rewriter : UrlRewriter σ} {path : Path} {index : Option Nat} {name : ElementName}
  {attributes : List Attribute} {children : List Tree}

theorem on_renderAsMarkup (sheet : Sheet σ) :
    (renderAsMarkup (.node (.element name attributes) children)).on sheet =
      (.ok (), { sheet with writer :=
        sheet.writer.passThrough (encode (Dom.Tree.node (.element name attributes) children).markup) }) := by
  rw [← writeBytes_markup List.flatten_singleton]
  rfl

theorem on_heading (element : NodeData) (all items otherwise : Render σ Unit) (level : Nat) (sheet : Sheet σ) :
    ((Rule.heading level).render rewriter element all items otherwise).on sheet =
      match all.on ⟨.empty, sheet.urls⟩ with
      | (.ok _, inner) => (liftExcept inner.writer.text >>= renderHeading level).on ⟨sheet.writer, inner.urls⟩
      | (.error _, inner) => otherwise.on ⟨sheet.writer, inner.urls⟩ := by
  rw [Rule.render, Render.on_bind, Render.on_aside]
  generalize all.on ⟨.empty, sheet.urls⟩ = outcome
  obtain ⟨result, inner⟩ := outcome
  cases result <;> rfl

theorem on_of_passesThrough (hname : name.vocabulary ≠ .shortcode) {sheet : Sheet σ}
    (h : PassesThrough rewriter path index name attributes children sheet.urls) :
    ∃ urls, (renderTree rewriter path index (.node (.element name attributes) children)).on sheet =
      (renderAsMarkup (.node (.element name attributes) children)).on ⟨sheet.writer, urls⟩ := by
  rw [renderTree_native rewriter path index hname]
  rw [PassesThrough] at h
  cases hrule : rule? path index name attributes children with
  | none => exact ⟨sheet.urls, rfl⟩
  | some rule =>
    rw [hrule] at h
    cases rule with
    | heading level =>
      -- the contents were rendered aside, so the writer is still that of the sheet, and only the URLs have changed
      obtain ⟨e, he⟩ := h
      rw [Option.elim_some, on_heading]
      dsimp only [Tree.data]
      generalize (renderKept rewriter (.element name attributes) path (fun _ => true) 0 [] children).on
        ⟨.empty, sheet.urls⟩ = outcome at he ⊢
      obtain ⟨result, inner⟩ := outcome
      cases he
      exact ⟨inner.urls, rfl⟩
    | _ => exact h.elim

theorem on_of_not_passesThrough (hname : name.vocabulary ≠ .shortcode) {sheet : Sheet σ}
    (h : ¬ PassesThrough rewriter path index name attributes children sheet.urls) :
    ∃ rule, rule? path index name attributes children = some rule ∧ ∀ otherwise,
      (renderTree rewriter path index (.node (.element name attributes) children)).on sheet =
        (rule.render rewriter (.element name attributes)
          (renderKept rewriter (.element name attributes) path (fun _ => true) 0 [] children)
          (renderItems rewriter (.element name attributes) path 0 [] children) otherwise).on sheet := by
  rw [renderTree_native rewriter path index hname]
  rw [PassesThrough] at h
  cases hrule : rule? path index name attributes children with
  | none =>
    rw [hrule] at h
    exact absurd trivial h
  | some rule =>
    rw [hrule] at h
    refine ⟨rule, rfl, fun otherwise => ?_⟩
    cases rule with
    | heading level =>
      rw [Option.elim_some, on_heading, on_heading]
      dsimp only [Tree.data]
      generalize (renderKept rewriter (.element name attributes) path (fun _ => true) 0 [] children).on
        ⟨.empty, sheet.urls⟩ = outcome at h ⊢
      obtain ⟨result, inner⟩ := outcome
      cases result with
      | error e => exact absurd ⟨e, rfl⟩ h
      | ok u => rfl
    | _ => rfl

/-- **An element from the markup is written by its rule or passes through**, nothing between the two.  If no rule writes
it, its rendering succeeds, and all it adds to the output is the linefeeds that are due, each with the line prefix
behind it, and the bytes of the markup, in whatever chunks they are written.  Else what is written does not depend on
the markup. -/
theorem passThrough_or_rule (rewriter : UrlRewriter σ) (path : Path) (index : Option Nat)
    (hname : name.vocabulary ≠ .shortcode) (attributes : List Attribute) (children : List Tree) (sheet : Sheet σ) :
    let t := Dom.Tree.node (.element name attributes) children
    (PassesThrough rewriter path index name attributes children sheet.urls →
      ((renderTree rewriter path index t).on sheet).1 = .ok () ∧
      ((renderTree rewriter path index t).on sheet).2.writer = sheet.writer.passThrough (encode t.markup) ∧
      ∀ chunks : List (List UInt8), chunks.flatten = encode t.markup →
        (chunks.foldl (fun w chunk => w.writeBytes chunk) sheet.writer.enterVerbatim).leaveVerbatim =
          sheet.writer.passThrough (encode t.markup)) ∧
    (¬ PassesThrough rewriter path index name attributes children sheet.urls →
      ∃ rule, rule? path index name attributes children = some rule ∧ ∀ otherwise,
        (renderTree rewriter path index t).on sheet = (rule.render rewriter t.data
          (renderKept rewriter t.data path (fun _ => true) 0 [] children)
          (renderItems rewriter t.data path 0 [] children) otherwise).on sheet) := by
  refine ⟨fun h => ?_, on_of_not_passesThrough hname⟩
  obtain ⟨urls, hon⟩ := on_of_passesThrough hname h
  rw [hon, on_renderAsMarkup]
  exact ⟨rfl, rfl, fun chunks hchunks => writeBytes_markup hchunks sheet.writer⟩

end

/-- A heading that cannot be rendered, in a quotation, where a blank line is requested. -/
theorem passThrough_failing_heading :
    let name := ElementName.html "h2"
    let children := [.node (.text "a\nb".toList) [], .node (.element (.shortcode "x") []) []]
    let writer : Writer := ⟨(encode "q".toList).toArray, 0, .count 0, 2, [encode "> ".toList]⟩
    name.vocabulary ≠ .shortcode ∧ PassesThrough .identity [] none name [] children () ∧
      ((renderTree .identity [] none (.node (.element name []) children)).on ⟨writer, ()⟩).2.writer.out.toList =
        encode "q\n> \n> <h2>a\nb<x></x></h2>".toList := by
  intro name children writer
  have hname : name.vocabulary ≠ .shortcode := by decide
  have hpasses : PassesThrough .identity [] none name [] children () := ⟨.unsupportedShortcode "x", rfl⟩
  refine ⟨hname, hpasses, ?_⟩
  rw [((passThrough_or_rule .identity [] none hname [] children ⟨writer, ()⟩).1 hpasses).2.1]
  decide +kernel

end BlogMarkdown.Markdown
