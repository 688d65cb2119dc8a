import BlogMarkdown.Markdown.Convert
import BlogMarkdown.Proofs.Markdown.Endings
/-!
# Behind an indented block

A list item and a quotation request a new line when their line prefix is gone, so that what follows stands behind the
prefix around them.  The request is met already if the contents end in a text with two newlines or more: these linefeeds
are in the output, with the prefix of the block behind them, and what follows stands behind that.
-/
namespace BlogMarkdown.Markdown

open Dom Text.Utf8

variable {σ : Type}

/-! ## What may come before the next content -/

namespace Event

/-- Requests and newlines between two contents. -/
def isPause : Event → Bool
  | .request _ | .linefeed => true
  | _ => false

/-- Requests, and the ends of the blocks around. -/
def isReturn : Event → Bool
  | .request _ | .pop => true
  | _ => false

/-- What brings the next content: nothing, verbatim mode, or one more line prefix. -/
def isOpening : List Event → Bool
  | [] | [.enter] | [.push _] => true
  | _ => false

end Event

namespace Writer

/-- Whatever is written next begins a line behind the line prefix around the block, or behind an outer one if the blocks
around it end there too. -/
def Returned (w : Writer) : Prop :=
  ∀ outer pauses opening first rest, (∀ e ∈ outer, Event.isReturn e = true) → (∀ e ∈ pauses, Event.isPause e = true) →
    Event.isOpening opening = true →
    ∃ before, ((outer ++ (pauses ++ (opening ++ [Event.content first rest]))).foldl step w).out.toList =
      before ++ linefeed :: ((outer.foldl step w).indent ++ first :: rest)

section

variable {w : Writer}

/-- The next content begins a line: a linefeed is still missing, or the output ends in one with the line prefix. -/
def Poised (w : Writer) : Prop :=
  ∃ n, w.run = .count n ∧ (n < w.requested ∨ ∃ before, w.out.toList = before ++ linefeed :: w.indent)

/-- The linefeeds that are due, with what stands before them. -/
theorem Poised.due (h : w.Poised) : ∃ before, w.out.toList ++ w.due = before ++ linefeed :: w.indent := by
  obtain ⟨n, hrun, hpoised⟩ := h
  by_cases hn : n < w.requested
  · obtain ⟨k, hk⟩ : ∃ k, w.requested - n = k + 1 := ⟨w.requested - n - 1, by omega⟩
    refine ⟨w.out.toList ++ (List.replicate k (linefeed :: w.indent)).flatten, ?_⟩
    rw [Writer.due, hrun, LinefeedRun.missing, hk, List.replicate_succ', List.flatten_append]
    simp
  · obtain ⟨before, hout⟩ := hpoised.resolve_left hn
    refine ⟨before, ?_⟩
    rw [Writer.due, hrun, LinefeedRun.missing, Nat.sub_eq_zero_of_le (Nat.le_of_not_lt hn), hout]
    simp

theorem out_step_content (w : Writer) (first : UInt8) (rest : List UInt8) :
    (w.step (.content first rest)).out.toList = w.out.toList ++ w.due ++ first :: rest := by
  rw [toList_out_step, emitted, List.flatMap_append, flatMap_missing, List.flatMap_singleton, List.append_assoc]
  rfl

theorem out_step_push (w : Writer) (indent : List UInt8) :
    (w.step (.push indent)).out.toList = w.out.toList ++ w.due := by
  rw [toList_out_step, emitted, flatMap_missing]

theorem due_of_none (h : w.requested = 0) : w.due = [] := by
  have hmissing : w.run.missing 0 = 0 := by
    cases w.run with
    | unbounded => rfl
    | count n => exact Nat.zero_sub n
  rw [due, h, hmissing]
  rfl

theorem Poised.opening (h : w.Poised) {opening : List Event} (hopening : Event.isOpening opening = true) (first : UInt8)
    (rest : List UInt8) : ∃ before, ((opening ++ [Event.content first rest]).foldl step w).out.toList =
      before ++ linefeed :: (w.indent ++ first :: rest) := by
  obtain ⟨before, hbefore⟩ := h.due
  refine ⟨before, ?_⟩
  rw [← List.cons_append, ← List.append_assoc, ← hbefore]
  match opening, hopening with
  | [], _ => exact w.out_step_content first rest
  | [.enter], _ => exact w.enterVerbatim.out_step_content first rest
  | [.push indent], _ =>
    have hnone : (w.step (.push indent)).requested = 0 := by
      show w.flushLinefeeds.requested = 0
      rw [flushLinefeeds_eq]
    show ((w.step (.push indent)).step (.content first rest)).out.toList = _
    rw [out_step_content, out_step_push, due_of_none hnone, List.append_nil]

theorem Poised.pause (hverbatim : w.verbatim = 0) (h : w.Poised) {e : Event} (he : e.isPause = true) :
    (w.step e).verbatim = 0 ∧ (w.step e).indent = w.indent ∧ (w.step e).Poised := by
  obtain ⟨n, hrun, hpoised⟩ := h
  cases e with
  | request k =>
    have hstep : w.step (.request k) = { w with requested := max w.requested k } := if_pos hverbatim
    rw [hstep]
    exact ⟨hverbatim, rfl, n, hrun, hpoised.imp_left fun hn => Nat.lt_of_lt_of_le hn (Nat.le_max_left _ _)⟩
  | linefeed =>
    have hstep : w.step .linefeed = w.writeLinefeed true := by
      show w.writeLinefeed (decide (w.verbatim = 0)) = _
      rw [hverbatim]
      rfl
    rw [hstep]
    refine ⟨hverbatim, rfl, n + 1, by rw [writeLinefeed, hrun, LinefeedRun.succ], .inr ⟨w.out.toList, ?_⟩⟩
    exact Array.toList_appendList
  | _ => cases he

theorem Poised.pauses : ∀ {pauses : List Event} {w : Writer}, w.verbatim = 0 → w.Poised →
    (∀ e ∈ pauses, Event.isPause e = true) →
    (pauses.foldl step w).indent = w.indent ∧ (pauses.foldl step w).Poised
  | [], _, _, h, _ => ⟨rfl, h⟩
  | e :: pauses, w, hverbatim, h, hpauses => by
    obtain ⟨hverbatim, hindent, h⟩ := h.pause hverbatim (hpauses e List.mem_cons_self)
    obtain ⟨hafter, h⟩ := Poised.pauses hverbatim h fun d hd => hpauses d (List.mem_cons_of_mem _ hd)
    exact ⟨hafter.trans hindent, h⟩

/-- A linefeed is still missing. -/
def Wanting (w : Writer) : Prop := ∃ n, w.run = .count n ∧ n < w.requested

theorem Wanting.return (hverbatim : w.verbatim = 0) (h : w.Wanting) {e : Event} (he : e.isReturn = true) :
    (w.step e).verbatim = 0 ∧ (w.step e).Wanting := by
  obtain ⟨n, hrun, hn⟩ := h
  cases e with
  | request k =>
    have hstep : w.step (.request k) = { w with requested := max w.requested k } := if_pos hverbatim
    rw [hstep]
    exact ⟨hverbatim, n, hrun, Nat.lt_of_lt_of_le hn (Nat.le_max_left _ _)⟩
  | pop => exact ⟨hverbatim, n, hrun, hn⟩
  | _ => cases he

theorem Wanting.returns : ∀ {outer : List Event} {w : Writer}, w.verbatim = 0 → w.Wanting →
    (∀ e ∈ outer, Event.isReturn e = true) → (outer.foldl step w).verbatim = 0 ∧ (outer.foldl step w).Wanting
  | [], _, hverbatim, h, _ => ⟨hverbatim, h⟩
  | e :: outer, w, hverbatim, h, houter => by
    obtain ⟨hverbatim, h⟩ := h.return hverbatim (houter e List.mem_cons_self)
    exact Wanting.returns (w := w.step e) hverbatim h fun d hd => houter d (List.mem_cons_of_mem _ hd)

theorem Wanting.returned (hverbatim : w.verbatim = 0) (h : w.Wanting) : w.Returned := by
  intro outer pauses opening first rest houter hpauses hopening
  obtain ⟨hverbatim, n, hrun, hn⟩ := h.returns hverbatim houter
  obtain ⟨hindent, hpoised⟩ := Poised.pauses hverbatim ⟨n, hrun, .inl hn⟩ hpauses
  rw [List.foldl_append, List.foldl_append, ← hindent]
  exact hpoised.opening hopening first rest

end

end Writer

/-! ## Blocks -/

/-- What follows a block that ends in a certain way, where the line prefix of the block is longer by `deeper`.  Behind a
linefeed of markup, which has no prefix, it begins a line with the prefix around the block if a linefeed is still due, and
else a line without one. -/
def Ending.Followed (w : Writer) (deeper : List UInt8) : Ending → Prop
  | .nothing => w.Returned
  | .content => w.Returned
  | .blank => ∀ first rest, ∃ before more, (w.step (.content first rest)).out.toList =
    before ++ linefeed :: (w.indent ++ (deeper ++ more) ++ first :: rest)
  | .bare => ∀ first rest, ∃ before, (w.step (.content first rest)).out.toList =
    before ++ linefeed :: ((if w.run.missing w.requested = 0 then [] else w.indent) ++ first :: rest)

theorem Writer.Leaves.followed {w w' : Writer} {deeper marker : List Char} {e : Ending} (hverbatim : w.verbatim = 0)
    (h : w.Leaves w' deeper marker e) : e.Followed w' (encode deeper) := by
  obtain ⟨body, hout, hleaves⟩ := h.written
  obtain ⟨hleast, hmost⟩ := h.requested
  have hafter : w'.verbatim = 0 := h.later.verbatim.trans hverbatim
  cases e with
  | nothing => exact Writer.Wanting.returned hafter ⟨0, hleaves, hleast⟩
  | content => exact Writer.Wanting.returned hafter ⟨0, hleaves, hleast⟩
  | blank =>
    obtain ⟨⟨n, hrun⟩, front, more, rfl⟩ := hleaves
    intro first rest
    have hdue : w'.due = [] := by
      rw [Writer.due, hrun, LinefeedRun.missing, Nat.sub_eq_zero_of_le (by omega)]
      rfl
    refine ⟨w.out.toList ++ (w.due ++ (encode marker ++ front)), more, ?_⟩
    rw [Writer.out_step_content, hdue, hout, h.later.indent]
    simp
  | bare =>
    obtain ⟨⟨n, hrun⟩, front, rfl⟩ := hleaves
    intro first rest
    have hmissing : w'.run.missing w'.requested = w'.requested - (n + 1) := by rw [hrun, LinefeedRun.missing]
    by_cases hn : n + 1 < w'.requested
    · have hpoised : w'.Poised := ⟨n + 1, hrun, .inl hn⟩
      obtain ⟨before, hbefore⟩ := hpoised.due
      refine ⟨before, ?_⟩
      rw [Writer.out_step_content, hbefore, if_neg (by omega)]
      simp
    · have hnone : w'.run.missing w'.requested = 0 := hmissing.trans (Nat.sub_eq_zero_of_le (Nat.le_of_not_lt hn))
      have hdue : w'.due = [] := by
        rw [Writer.due, hnone]
        rfl
      refine ⟨w.out.toList ++ (w.due ++ (encode marker ++ front)), ?_⟩
      rw [Writer.out_step_content, hdue, hout, if_pos hnone]
      simp

/-! ## Lists -/

/-- How an item leads to the next one, which `due` linefeeds come before. -/
def Ending.Leads (indent body : List UInt8) (due : Nat) : Ending → Prop
  | .nothing => 0 < due
  | .content => 0 < due
  | .blank => due = 0 ∧ ∃ front deeper, deeper ≠ [] ∧ body = front ++ linefeed :: (indent ++ deeper)
  | .bare => ∃ front, body = front ++ [linefeed]

/-- Items as they stand in the output: each marker behind the linefeeds that are due before it, with the line prefix of
the list, and then the body of the item. -/
inductive ItemsWritten (indent : List UInt8) (marker : Nat → List Char) : Nat → Nat → List Ending → List UInt8 → Prop
  | nil {due index : Nat} : ItemsWritten indent marker due index [] []
  | cons {due index : Nat} {e : Ending} {body : List UInt8} {next : Nat} {endings : List Ending} {rest : List UInt8} :
    e.Leads indent body next → ItemsWritten indent marker next (index + 1) endings rest →
    ItemsWritten indent marker due index (e :: endings)
      ((List.replicate due (linefeed :: indent)).flatten ++ (encode (marker index) ++ body) ++ rest)

/-- The marker of an item of a list. -/
def listMarker (list : ElementName) (index : Nat) : List Char :=
  if list.tag = "ol" then (toString (index + 1) ++ ". ").toList else ['*', ' ']

theorem itemMarker?_of_list {list : ElementName} (hname : list.vocabulary ≠ .shortcode)
    (htag : list.tag = "ol" ∨ list.tag = "ul") (attributes : List Attribute) (before after : List Tree) (path : Path)
    (index : Nat) :
    itemMarker? (⟨.element list attributes, before, after⟩ :: path) (some index) = some (listMarker list index) := by
  have hnative (tag : String) : (NodeData.element list attributes).isNative tag = decide (list.tag = tag) := by
    simp [NodeData.isNative, NodeData.elementName?, hname]
  rw [itemMarker?, hnative, hnative, listMarker]
  rcases htag with htag | htag <;> simp [htag]

theorem rule?_item {path : Path} {index : Option Nat} {name : ElementName} (attributes : List Attribute)
    (children : List Tree) (htag : name.tag = "li") :
    rule? path index name attributes children = (itemMarker? path index).map .item := by
  have hlevel : headingLevel? "li" = none := rfl
  simp [rule?, htag, hlevel]

theorem Writer.Leaves.leads {w w' : Writer} {deeper marker : List Char} {e : Ending} (hdeeper : encode deeper ≠ [])
    (h : w.Leaves w' deeper marker e) :
    ∃ body, w'.out.toList = w.out.toList ++ (w.due ++ (encode marker ++ body)) ∧
      (Ending.content.andThen e).Leads w.indent body (w'.run.missing w'.requested) := by
  obtain ⟨body, hout, hleaves⟩ := h.written
  obtain ⟨hleast, hmost⟩ := h.requested
  refine ⟨body, hout, ?_⟩
  cases e with
  | nothing =>
    show 0 < w'.run.missing w'.requested
    rw [show w'.run = .count 0 from hleaves, LinefeedRun.missing]
    omega
  | content =>
    show 0 < w'.run.missing w'.requested
    rw [show w'.run = .count 0 from hleaves, LinefeedRun.missing]
    omega
  | blank =>
    obtain ⟨⟨n, hrun⟩, front, more, rfl⟩ := hleaves
    rw [hrun, LinefeedRun.missing]
    exact ⟨by omega, front, encode deeper ++ more, by simp [hdeeper], rfl⟩
  | bare => exact hleaves.2

open Render in
theorem leaves_item (rewriter : UrlRewriter σ) {path : Path} {index : Option Nat} {name : ElementName}
    (hname : name.vocabulary ≠ .shortcode) {attributes : List Attribute} {children : List Tree} {marker : List Char}
    (hrule : rule? path index name attributes children = some (.item marker)) {sheet : Sheet σ}
    (hverbatim : sheet.writer.verbatim = 0)
    (hok : ((renderTree rewriter path index (.node (.element name attributes) children)).on sheet).1 = .ok ()) :
    sheet.writer.Leaves ((renderTree rewriter path index (.node (.element name attributes) children)).on sheet).2.writer
      "    ".toList marker (endingOf (.element name attributes) path [] children) := by
  have hmarker : itemMarker? path index = some marker := by
    cases applies_of_rule? hrule with
    | item _ h => exact h
  obtain ⟨hne, hline⟩ := line_of_itemMarker? hmarker
  rw [renderTree_native rewriter path index hname, hrule] at hok ⊢
  exact leaves_indented (ends_renderKept rewriter _ path 0 [] children) (by simp [IsIndent]) hne hline hverbatim hok

open Render in
theorem leaves_quotation (rewriter : UrlRewriter σ) {path : Path} {index : Option Nat} {name : ElementName}
    (hname : name.vocabulary ≠ .shortcode) {attributes : List Attribute} {children : List Tree}
    (hrule : rule? path index name attributes children = some .quotation) {sheet : Sheet σ}
    (hverbatim : sheet.writer.verbatim = 0)
    (hok : ((renderTree rewriter path index (.node (.element name attributes) children)).on sheet).1 = .ok ()) :
    (sheet.writer.ensureLinefeeds 2).Leaves
      ((renderTree rewriter path index (.node (.element name attributes) children)).on sheet).2.writer
      ['>', ' '] ['>', ' '] (endingOf (.element name attributes) path [] children) := by
  have hall := ends_renderKept rewriter (.element name attributes) path 0 [] children
  have hafter : (sheet.writer.ensureLinefeeds 2).verbatim = 0 :=
    (Writer.later_ensureLinefeeds 2 sheet.writer).verbatim.trans hverbatim
  rw [renderTree_native rewriter path index hname, hrule] at hok ⊢
  let start : Sheet σ := ⟨sheet.writer.ensureLinefeeds 2, sheet.urls⟩
  have hstart : start.writer.verbatim = 0 := hafter
  exact leaves_indented hall (by simp [IsIndent]) (by decide) (by decide) hstart hok

theorem item_of_hasOnlyItems {t : Tree} {ts : List Tree} (h : hasOnlyItems (t :: ts) = true)
    (ht : t.data.isElement = true) : ∃ name attributes children, t = .node (.element name attributes) children ∧
      name.vocabulary ≠ .shortcode ∧ name.tag = "li" := by
  obtain ⟨data, children⟩ := t
  rw [hasOnlyItems, List.all_cons, Bool.and_eq_true] at h
  cases data with
  | element name attributes =>
    have hli : (NodeData.element name attributes).isNative "li" = true := h.1
    simp only [NodeData.isNative, NodeData.elementName?, Option.any_some, decide_eq_true_eq] at hli
    exact ⟨name, attributes, children, rfl, hli⟩
  | _ => cases ht

/-- One item of a list: its marker comes behind the linefeeds that are due, and it leads to the next one. -/
theorem item_leads (rewriter : UrlRewriter σ) {list : ElementName} (hname : list.vocabulary ≠ .shortcode)
    (htag : list.tag = "ol" ∨ list.tag = "ul") (attributes : List Attribute) (path : Path) (index : Nat)
    (before : List Tree) {t : Tree} {after : List Tree} (hitems : hasOnlyItems (t :: after) = true)
    (ht : t.data.isElement = true) {sheet : Sheet σ} (hverbatim : sheet.writer.verbatim = 0) :
    let place : Path := ⟨.element list attributes, before, after⟩ :: path
    let w := ((renderTree rewriter place (some index) t).on sheet).2.writer
    ((renderTree rewriter place (some index) t).on sheet).1 = .ok () →
    sheet.writer.Later w ∧
      ∃ body, w.out.toList = sheet.writer.out.toList ++ (sheet.writer.due ++ (encode (listMarker list index) ++ body)) ∧
        (Tree.ending place (some index) t).Leads sheet.writer.indent body (w.run.missing w.requested) := by
  obtain ⟨name, attrs, children, rfl, hitem, hli⟩ := item_of_hasOnlyItems hitems ht
  intro place w hok
  have hrule : rule? place (some index) name attrs children = some (.item (listMarker list index)) := by
    rw [rule?_item attrs children hli, itemMarker?_of_list hname htag]
    rfl
  have hending : Tree.ending place (some index) (.node (.element name attrs) children) =
      Ending.content.andThen (endingOf (.element name attrs) place [] children) := by
    rw [ending_native hitem, hrule]
    rfl
  have hleaves := leaves_item rewriter hitem hrule hverbatim hok
  rw [hending]
  exact ⟨hleaves.later, hleaves.leads (by decide)⟩

/-- **Items stand one behind the other**, each marker where the item before leads. -/
theorem items_of_list (rewriter : UrlRewriter σ) {list : ElementName} (hname : list.vocabulary ≠ .shortcode)
    (htag : list.tag = "ol" ∨ list.tag = "ul") (attributes : List Attribute) (path : Path) :
    ∀ (index : Nat) (before ts : List Tree) (sheet : Sheet σ), hasOnlyItems ts = true → sheet.writer.verbatim = 0 →
    ((renderItems rewriter (.element list attributes) path index before ts).on sheet).1 = .ok () →
    ∃ bytes, ((renderItems rewriter (.element list attributes) path index before ts).on sheet).2.writer.out.toList =
        sheet.writer.out.toList ++ bytes ∧
      ItemsWritten sheet.writer.indent (listMarker list) (sheet.writer.run.missing sheet.writer.requested) index
        (itemEndings (.element list attributes) path index before ts) bytes
  | index, before, [], sheet, _, _, _ => by
    rw [renderItems, itemEndings]
    exact ⟨[], (List.append_nil _).symm, .nil⟩
  | index, before, t :: after, sheet, hitems, hverbatim, hok => by
    have hrest : hasOnlyItems after = true := by
      rw [hasOnlyItems, List.all_cons, Bool.and_eq_true] at hitems
      exact hitems.2
    rw [renderItems] at hok ⊢
    rw [itemEndings]
    by_cases ht : t.data.isElement = true
    · rw [if_pos ht] at hok ⊢
      rw [if_pos ht]
      obtain ⟨hfirst, hon⟩ := Render.on_bind_ok hok
      rw [hon] at hok ⊢
      obtain ⟨hlater, body, hout, hleads⟩ := item_leads rewriter hname htag attributes path index before hitems ht
        hverbatim hfirst
      obtain ⟨bytes, hbytes, hwritten⟩ := items_of_list rewriter hname htag attributes path (index + 1) (t :: before) after
        _ hrest (hlater.verbatim.trans hverbatim) hok
      rw [hlater.indent] at hwritten
      refine ⟨_, ?_, .cons hleads hwritten⟩
      rw [hbytes, hout, Writer.due]
      simp only [List.append_assoc]
    · rw [if_neg ht] at hok ⊢
      rw [if_neg ht]
      exact items_of_list rewriter hname htag attributes path index _ after sheet hrest hverbatim hok

theorem Writer.out_ensureLinefeeds (k : Nat) (w : Writer) : (w.ensureLinefeeds k).out.toList = w.out.toList := by
  rw [ensureLinefeeds]
  split <;> rfl

theorem leaves_list (rewriter : UrlRewriter σ) {path : Path} {index : Option Nat} {name : ElementName}
    (hname : name.vocabulary ≠ .shortcode) {attributes : List Attribute} {children : List Tree}
    (hrule : rule? path index name attributes children = some .list) {sheet : Sheet σ}
    (hverbatim : sheet.writer.verbatim = 0)
    (hok : ((renderTree rewriter path index (.node (.element name attributes) children)).on sheet).1 = .ok ()) :
    ∃ bytes, ((renderTree rewriter path index (.node (.element name attributes) children)).on sheet).2.writer.out.toList =
        sheet.writer.out.toList ++ bytes ∧
      ItemsWritten sheet.writer.indent (listMarker name) (sheet.writer.run.missing (max sheet.writer.requested 2)) 0
        (itemEndings (.element name attributes) path 0 [] children) bytes := by
  obtain ⟨htag, hitems⟩ : (name.tag = "ol" ∨ name.tag = "ul") ∧ hasOnlyItems children = true := by
    cases applies_of_rule? hrule with
    | list htag hitems => exact ⟨htag, hitems⟩
  rw [renderTree_native rewriter path index hname, hrule] at hok ⊢
  obtain ⟨-, hfirst⟩ := Render.on_bind_ok hok
  rw [Option.elim_some, Rule.render, hfirst] at hok ⊢
  obtain ⟨hall, hlast⟩ := Render.on_bind_ok hok
  let start : Sheet σ := ⟨sheet.writer.ensureLinefeeds 2, sheet.urls⟩
  have hafter : start.writer.verbatim = 0 := (Writer.later_ensureLinefeeds 2 sheet.writer).verbatim.trans hverbatim
  obtain ⟨bytes, hout, hwritten⟩ := items_of_list rewriter hname htag attributes path 0 [] children start hitems hafter hall
  have hbefore : start.writer = { sheet.writer with requested := max sheet.writer.requested 2 } := if_pos hverbatim
  rw [hbefore] at hout hwritten
  refine ⟨bytes, ?_, hwritten⟩
  rw [hlast, ← hout]
  exact Writer.out_ensureLinefeeds 2 _

/-- **Content behind an indented block returns to the prefix around it, unless the block ends in linefeeds of its own.**
What follows an item or a quotation that ends in content, or has none, begins a line at that prefix.  Behind one that
ends in a text with two newlines or more it stands behind the longer prefix of the block.  Behind markup that ends in a
newline, which has no prefix, it begins a line at the prefix around the block just if a linefeed is still due there, and
else a line without any.  So in a list each marker but the first stands at the prefix of the list, behind the linefeeds
that are due, exactly if there are some: there are behind content and behind nothing, and there are none behind such a
text. -/
theorem content_behind_block (rewriter : UrlRewriter σ) (path : Path) (index : Option Nat) {name : ElementName}
    (hname : name.vocabulary ≠ .shortcode) (attributes : List Attribute) (children : List Tree) {sheet : Sheet σ}
    (hverbatim : sheet.writer.verbatim = 0)
    (hok : ((renderTree rewriter path index (.node (.element name attributes) children)).on sheet).1 = .ok ()) :
    let element := NodeData.element name attributes
    let w := ((renderTree rewriter path index (.node element children)).on sheet).2.writer
    w.indent = sheet.writer.indent ∧
    (∀ marker, rule? path index name attributes children = some (.item marker) →
      (endingOf element path [] children).Followed w (encode "    ".toList)) ∧
    (rule? path index name attributes children = some .quotation →
      (endingOf element path [] children).Followed w (encode "> ".toList)) ∧
    (rule? path index name attributes children = some .list →
      ∃ bytes, w.out.toList = sheet.writer.out.toList ++ bytes ∧
        ItemsWritten sheet.writer.indent (listMarker name) (sheet.writer.run.missing (max sheet.writer.requested 2)) 0
          (itemEndings element path 0 [] children) bytes) := by
  intro element w
  have hlater := (orderly_renderTree rewriter path index (.node element children) sheet).1
  refine ⟨hlater.indent, fun marker hrule => ?_, fun hrule => ?_, fun hrule => ?_⟩
  · exact (leaves_item rewriter hname hrule hverbatim hok).followed hverbatim
  · have hafter := (Writer.later_ensureLinefeeds 2 sheet.writer).verbatim.trans hverbatim
    exact (leaves_quotation rewriter hname hrule hverbatim hok).followed hafter
  · exact leaves_list rewriter hname hrule hverbatim hok

/-- A list in a quotation. -/
def quotedList : List Tree :=
  [.node (.element (.html "li") []) [.node (.text ['a']) []], .node (.element (.html "li") []) [.node (.text ['b']) []]]

theorem content_behind_quoted_item :
    let name := ElementName.html "ul"
    let sheet : Sheet Unit := ⟨⟨(encode "> q".toList).toArray, 0, .count 0, 0, [encode "> ".toList]⟩, ()⟩
    let w := ((renderTree .identity [] none (.node (.element name []) quotedList)).on sheet).2.writer
    name.vocabulary ≠ .shortcode ∧ sheet.writer.verbatim = 0 ∧
      ((renderTree .identity [] none (.node (.element name []) quotedList)).on sheet).1 = .ok () ∧
      ∃ bytes, w.out.toList = encode "> q".toList ++ bytes ∧
        ItemsWritten (encode "> ".toList) (listMarker name) 2 0 [.content, .content] bytes := by
  intro name sheet w
  have hname : name.vocabulary ≠ .shortcode := by decide
  have hok : ((renderTree .identity [] none (.node (.element name []) quotedList)).on sheet).1 = .ok () := rfl
  have hverbatim : sheet.writer.verbatim = 0 := rfl
  obtain ⟨-, -, -, hlist⟩ := content_behind_block .identity [] none hname [] quotedList hverbatim hok
  exact ⟨hname, hverbatim, hok, hlist rfl⟩

/-- A text with two newlines at its end moves the next marker into the item that it ends. -/
theorem marker_behind_blank_item :
    let root := Dom.Tree.node (.element (.html "body") [])
      [.node (.element (.html "ul") [])
        [.node (.element (.html "li") []) [.node (.text ['a', '\n', '\n']) []],
          .node (.element (.html "li") []) [.node (.text ['b']) []]]]
    (rendered .identity root ()).1 = .ok "* a\n    \n    * b\n".toList ∧
      ¬ "\n* b".toList <:+: "* a\n    \n    * b\n".toList := by
  decide +kernel

end BlogMarkdown.Markdown
