import BlogMarkdown.Proofs.Markdown.BodyText
import BlogMarkdown.Proofs.Markdown.Delimiters
import BlogMarkdown.Proofs.Markdown.Frames
import BlogMarkdown.Proofs.Markdown.Targets
import BlogMarkdown.Proofs.Markdown.Unescaping
/-!
# Links in prose

Texts, emphasis and links come out one behind the other, with nothing between them.  Escaping sees one text at a time,
and an exclamation mark gets a backslash only before another one of the same text.  So a text that ends in an
exclamation mark makes an image of the link behind it, and nothing else does.
-/
namespace BlogMarkdown.Markdown

open Dom Text.Utf8

variable {σ : Type}

/-! ## An exclamation mark at the end -/

/-- A text ends in an exclamation mark that no backslash escapes. -/
def EndsOpen (s : List Char) : Prop := ∃ front, s = front ++ ['!'] ∧ Even (slashes front)

theorem endsOpen_append_iff {s : List Char} {c : Char} : EndsOpen (s ++ [c]) ↔ c = '!' ∧ Even (slashes s) := by
  refine ⟨fun ⟨front, he, h⟩ => ?_, fun ⟨hc, h⟩ => ⟨s, by rw [hc], h⟩⟩
  obtain ⟨rfl, hc⟩ := List.append_inj' he rfl
  exact ⟨List.singleton_inj.1 hc, h⟩

theorem not_endsOpen {s : List Char} {c : Char} (hc : c ≠ '!') : ¬ EndsOpen (s ++ [c]) :=
  fun h => hc (endsOpen_append_iff.1 h).1

/-! ## Body text -/

theorem even_slashes_escape (s : List Char) : Even (slashes (escape specialInText s)) :=
  (escaped_escape backslash_mem_specialInText s).even_slashes

/-- What ends an escaped text is what ends the text, and an exclamation mark there stands alone. -/
theorem endsOpen_escape_iff {x s : List Char} (hx : Even (slashes x)) (hs : s ≠ []) :
    EndsOpen (x ++ escape specialInText s) ↔ s.getLast? = some '!' := by
  obtain ⟨s, c, rfl⟩ := List.eq_nil_or_concat' s |>.resolve_left hs
  obtain ⟨a, before, hescape, ha⟩ := escapeAfter_split backslash_mem_specialInText [c] s none
  rw [escape, hescape, ← List.append_assoc, List.getLast?_append, List.getLast?_singleton, Option.some_or]
  by_cases hc : c = '!'
  · subst hc
    have hbang : escapeAfter specialInText before ['!'] = ['!'] := by simp [escapeAfter, beginsSyntax]
    rw [hbang, endsOpen_append_iff, even_slashes_append_iff hx]
    exact iff_of_true ⟨rfl, ha.even_slashes⟩ rfl
  · refine iff_of_false ?_ fun he => hc (Option.some.inj he)
    rw [escapeAfter, escapeAfter]
    split
    · rw [show ['\\', c] = ['\\'] ++ [c] from rfl, ← List.append_assoc]
      exact not_endsOpen hc
    · exact not_endsOpen hc

theorem lineBreak_ends (more : Nat) : ∃ s c, lineBreak (more + 1) = s ++ [c] ∧ c ≠ '\\' ∧ c ≠ '!' := by
  rw [lineBreak, if_neg (Nat.succ_ne_zero more)]
  split
  · exact ⟨"\n<br".toList, '>', rfl, by decide, by decide⟩
  · exact ⟨['\n'], '\n', rfl, by decide, by decide⟩

theorem even_slashes_bodyText (s : List Char) : Even (slashes (bodyText s)) := by
  rcases exists_lastNewlines s with hs | ⟨front, more, line, hs⟩
  · rw [bodyText_line hs]
    exact even_slashes_escape s
  · obtain ⟨t, c, hbreak, hc, -⟩ := lineBreak_ends more
    rw [bodyText_of_lastNewlines hs, ← List.append_assoc, hbreak, ← List.append_assoc]
    exact (even_slashes_append_iff (even_slashes_of_ne _ hc) _).2 (even_slashes_escape line)

/-- **A body text ends in an open exclamation mark exactly if its source ends in one.** -/
theorem endsOpen_bodyText_iff {x s : List Char} (hx : Even (slashes x)) (hs : s ≠ []) :
    EndsOpen (x ++ bodyText s) ↔ s.getLast? = some '!' := by
  rcases exists_lastNewlines s with hplain | ⟨front, more, line, hlast⟩
  · rw [bodyText_line hplain]
    exact endsOpen_escape_iff hx hs
  · obtain ⟨t, c, hbreak, hslash, hbang⟩ := lineBreak_ends more
    rw [bodyText_of_lastNewlines hlast, hbreak, ← List.append_assoc, ← List.append_assoc, ← List.append_assoc]
    cases line with
    | nil =>
      rw [escape, escapeAfter, List.append_nil]
      refine iff_of_false (not_endsOpen hbang) ?_
      simp [hlast.eq, List.replicate_succ']
    | cons d line =>
      rw [endsOpen_escape_iff (even_slashes_of_ne _ hslash) (List.cons_ne_nil d line), hlast.eq]
      simp [List.getLast?_append, List.getLast?_cons]

/-! ## Prose -/

/-- A text, emphasis around prose, or a link with nothing but a target around a text. -/
inductive IsProse : Tree → Prop
  | text (content : List Char) (below : List Tree) : IsProse (.node (.text content) below)
  | emphasis {name : ElementName} {attributes : List Attribute} {children : List Tree} :
    name.vocabulary ≠ .shortcode → name.tag ∈ ["em", "i", "strong", "b"] → (∀ t ∈ children, IsProse t) →
    IsProse (.node (.element name attributes) children)
  | link {name : ElementName} {attributes : List Attribute} {children : List Tree} {text : List Char} :
    name.vocabulary ≠ .shortcode → name.tag = "a" → hasOnlyTarget (.element name attributes) = true →
    plainText? children = some text → IsProse (.node (.element name attributes) children)

/-- What prose is made of: texts, the marks around emphasis, and links. -/
inductive Run where
  | text (content : List Char)
  | mark (strong : Bool)
  | link (text : List Char) (url : String)
  deriving DecidableEq

mutual
/-- What a tree of prose is made of, in order. -/
def Tree.runs (path : Path) : Tree → List Run
  | .node (.text content) _ => [.text (trimAtBlocks path content)]
  | .node (.element name attributes) children =>
    let self := NodeData.element name attributes
    if name.tag = "a" then [.link ((plainText? children).getD []) ((self.attribute? "href").getD "")]
    else
      let mark := Run.mark (name.tag = "strong" ∨ name.tag = "b")
      mark :: (runsOf self path [] children ++ [mark])
  | _ => []
/-- The same for some children of a node, where others stand before them. -/
def runsOf (parent : NodeData) (path : Path) (before : List Tree) : List Tree → List Run
  | [] => []
  | t :: after => Tree.runs (⟨parent, before, after⟩ :: path) t ++ runsOf parent path (t :: before) after
end

/-- How a run is written, and what the URL rewriter remembers behind it. -/
def Run.spelled (rewriter : UrlRewriter σ) (urls : σ) : Run → List Char × σ
  | .text content => (bodyText content, urls)
  | .mark strong => (if strong then ['*', '*'] else ['*'], urls)
  | .link label url => (linkPassage label (rewriter.rewrite url urls).1.toList, (rewriter.rewrite url urls).2)

/-- How some runs are written. -/
def spelled (rewriter : UrlRewriter σ) (urls : σ) : List Run → List Char × σ
  | [] => ([], urls)
  | run :: runs =>
    let first := run.spelled rewriter urls
    let rest := spelled rewriter first.2 runs
    (first.1 ++ rest.1, rest.2)

theorem spelled_append (rewriter : UrlRewriter σ) : ∀ (runs more : List Run) (urls : σ),
    spelled rewriter urls (runs ++ more) =
      ((spelled rewriter urls runs).1 ++ (spelled rewriter (spelled rewriter urls runs).2 more).1,
        (spelled rewriter (spelled rewriter urls runs).2 more).2)
  | [], _, _ => rfl
  | run :: runs, more, urls => by
    rw [List.cons_append, spelled, spelled_append rewriter runs more, spelled]
    dsimp only
    rw [List.append_assoc]

theorem spelled_singleton (rewriter : UrlRewriter σ) (urls : σ) (run : Run) :
    spelled rewriter urls [run] = run.spelled rewriter urls := by
  rw [spelled, spelled]
  dsimp only
  rw [List.append_nil]

/-! ## Rendering prose -/

namespace Render

/-- A rendering writes just these runs. -/
def Spells (rewriter : UrlRewriter σ) (runs : List Run) (m : Render σ Unit) : Prop :=
  ∀ sheet : Sheet σ, m.on sheet =
    (.ok (), ⟨sheet.writer.write (spelled rewriter sheet.urls runs).1, (spelled rewriter sheet.urls runs).2⟩)

variable {rewriter : UrlRewriter σ} {runs more : List Run} {m n : Render σ Unit}

theorem spells_nil : (pure () : Render σ Unit).Spells rewriter [] := fun _ => rfl

theorem Spells.append (hm : m.Spells rewriter runs) (hn : n.Spells rewriter more) :
    (do m; n).Spells rewriter (runs ++ more) := by
  intro sheet
  rw [on_bind, hm sheet, spelled_append, Writer.write_append]
  exact hn _

theorem spells_text (content : List Char) : (write (bodyText content)).Spells rewriter [.text content] := fun sheet => by
  rw [spelled_singleton]
  rfl

theorem spells_mark (strong : Bool) :
    (write (if strong then ['*', '*'] else ['*'])).Spells rewriter [.mark strong] := fun sheet => by
  rw [spelled_singleton]
  rfl

theorem spells_link (link : NodeData) (text : List Char) :
    (renderLink rewriter link text).Spells rewriter [.link text ((link.attribute? "href").getD "")] := fun sheet => by
  rw [spelled_singleton, renderLink, on_bind, on_target]
  dsimp only
  rw [writeBetween_eq, writeBetween_eq, write_write, Run.spelled, linkPassage]
  simp only [List.append_assoc, List.cons_append, List.nil_append]
  rfl

end Render

theorem rule?_emphasis {path : Path} {index : Option Nat} {name : ElementName} (attributes : List Attribute)
    (children : List Tree) (htag : name.tag ∈ ["em", "i", "strong", "b"]) :
    rule? path index name attributes children =
      some (.emphasis (if name.tag = "strong" ∨ name.tag = "b" then ['*', '*'] else ['*'])) := by
  obtain ⟨vocabulary, tag⟩ := name
  simp only [List.mem_cons, List.not_mem_nil, or_false] at htag
  rcases htag with rfl | rfl | rfl | rfl <;> rfl

theorem rule?_link {path : Path} {index : Option Nat} {name : ElementName} {attributes : List Attribute}
    {children : List Tree} {text : List Char} (htag : name.tag = "a")
    (htarget : hasOnlyTarget (.element name attributes) = true) (htext : plainText? children = some text) :
    rule? path index name attributes children = some (.link text) := by
  have hlevel : headingLevel? "a" = none := rfl
  simp [rule?, htag, hlevel, htarget, htext]

mutual
/-- **Prose is written run by run**, with nothing between the runs. -/
theorem spells_renderTree (rewriter : UrlRewriter σ) : ∀ (path : Path) (t : Tree), IsProse t →
    (renderTree rewriter path none t).Spells rewriter (Tree.runs path t)
  | path, .node (.text content) _, _ => by
    rw [renderTree, Tree.runs]
    exact Render.spells_text _
  | path, .node (.element name attributes) children, h => by
    cases h with
    | emphasis hname htag hchildren =>
      have hall := spells_renderKept rewriter (.element name attributes) path 0 [] children hchildren
      have hlink : name.tag ≠ "a" := by
        rintro ha
        rw [ha] at htag
        exact absurd htag (by decide)
      rw [renderTree_native rewriter path none hname, rule?_emphasis attributes children htag, Tree.runs]
      dsimp only
      rw [if_neg hlink]
      have hmark : (Render.write (if name.tag = "strong" ∨ name.tag = "b" then ['*', '*'] else ['*'])).Spells rewriter
          [.mark (name.tag = "strong" ∨ name.tag = "b")] := by
        simpa only [decide_eq_true_eq] using Render.spells_mark (name.tag = "strong" ∨ name.tag = "b")
      exact hmark.append (hall.append hmark)
    | link hname htag htarget htext =>
      rw [renderTree_native rewriter path none hname, rule?_link htag htarget htext, Tree.runs, if_pos htag, htext]
      exact Render.spells_link _ _

theorem spells_renderKept (rewriter : UrlRewriter σ) (parent : NodeData) (path : Path) : ∀ (position : Nat)
    (before ts : List Tree), (∀ t ∈ ts, IsProse t) →
    (renderKept rewriter parent path (fun _ => true) position before ts).Spells rewriter (runsOf parent path before ts)
  | _, _, [], _ => by
    rw [renderKept, runsOf]
    exact Render.spells_nil
  | position, before, t :: after, h => by
    have ht := spells_renderTree rewriter (⟨parent, before, after⟩ :: path) t (h t List.mem_cons_self)
    have hafter := spells_renderKept rewriter parent path (position + 1) (t :: before) after
      fun u hu => h u (List.mem_cons_of_mem _ hu)
    rw [renderKept, runsOf, if_pos rfl]
    exact ht.append hafter
end

/-! ## The text that comes out -/

namespace Writer

/-- Where there is no prefix and nothing is requested, bytes come out as they are. -/
theorem writeByte_bare {w : Writer} (hindents : w.indents = []) (hrequested : w.requested = 0) (b : UInt8) :
    (w.writeByte b).out.toList = w.out.toList ++ [b] ∧ (w.writeByte b).requested = 0 := by
  rw [writeByte]
  split
  · rename_i hb
    refine ⟨?_, hrequested⟩
    rw [writeLinefeed, Array.toList_appendList, indent, hindents, hb]
    exact congrArg (fun indent => w.out.toList ++ linefeed :: indent) (ite_self _)
  · rw [writeContent, flushLinefeeds_of_none hrequested]
    exact ⟨Array.toList_appendList, hrequested⟩

@[inherit_doc writeByte_bare]
theorem writeBytes_bare : ∀ (bytes : List UInt8) {w : Writer}, w.indents = [] → w.requested = 0 →
    (w.writeBytes bytes).out.toList = w.out.toList ++ bytes
  | [], _, _, _ => (List.append_nil _).symm
  | b :: bytes, w, hindents, hrequested => by
    obtain ⟨hout, hafter⟩ := writeByte_bare hindents hrequested b
    rw [writeBytes_cons, writeBytes_bare bytes ((w.modes_writeByte b).2.trans hindents) hafter, hout, List.append_assoc,
      List.singleton_append]

/-- A text is the first thing that is written. -/
theorem spells_write_empty (s : List Char) : (empty.write s).Spells s where
  out := writeBytes_bare (encode s) rfl rfl
  indents := by
    rw [write, (empty.modes_writeBytes (encode s)).2]
    exact List.forall_mem_nil _

end Writer

theorem dropEndWhile_append {p : Char → Bool} {c : Char} (hc : p c = false) (s t : List Char) :
    Text.dropEndWhile p (s ++ [c] ++ t) = s ++ [c] ++ Text.dropEndWhile p t := by
  rw [Text.dropEndWhile, Text.dropEndWhile, List.reverse_append, List.dropWhile_append]
  split
  · rename_i hempty
    rw [List.isEmpty_iff.1 hempty]
    simp [hc]
  · simp

/-- **Prose comes out as its runs are written**, up to newlines at its end. -/
theorem rendered_prose (rewriter : UrlRewriter σ) {root : Tree} (hprose : ∀ t ∈ root.children, IsProse t) (urls : σ) :
    (rendered rewriter root urls).1 =
      .ok (let lines := Text.dropEndWhile (· = '\n') (spelled rewriter urls (runsOf root.data [] [] root.children)).1
        if lines.isEmpty then [] else lines ++ ['\n']) := by
  rw [rendered_eq, renderBody, spells_renderKept rewriter root.data [] 0 [] root.children hprose]
  exact (Writer.spells_write_empty _).finish_eq

/-! ## Links behind exclamation marks -/

section

variable (rewriter : UrlRewriter σ)

theorem linkPassage_ends (text form : List Char) : ∃ s, linkPassage text form = s ++ [')'] :=
  ⟨'[' :: (escape specialInLinkText text ++ ']' :: '(' :: escape specialInTarget form), by simp [linkPassage]⟩

/-- A mark ends in an asterisk and a link in a parenthesis. -/
theorem Run.ends (urls : σ) (run : Run) : (∃ content, run = .text content) ∨
    (∀ content, run ≠ .text content) ∧ ∃ s c, (run.spelled rewriter urls).1 = s ++ [c] ∧ c ≠ '\\' ∧ c ≠ '!' := by
  cases run with
  | text content => exact .inl ⟨content, rfl⟩
  | mark strong =>
    refine .inr ⟨nofun, if strong then ['*'] else [], '*', ?_, by decide, by decide⟩
    cases strong <;> rfl
  | link label url =>
    obtain ⟨s, hs⟩ := linkPassage_ends label (rewriter.rewrite url urls).1.toList
    exact .inr ⟨nofun, s, ')', hs, by decide, by decide⟩

theorem Run.even_slashes (urls : σ) (run : Run) : Even (slashes (run.spelled rewriter urls).1) := by
  rcases run.ends rewriter urls with ⟨content, rfl⟩ | ⟨-, s, c, hs, hc, -⟩
  · exact even_slashes_bodyText content
  · rw [hs]
    exact even_slashes_of_ne s hc

theorem even_slashes_spelled : ∀ (runs : List Run) (urls : σ), Even (slashes (spelled rewriter urls runs).1)
  | [], _ => Even.zero
  | run :: runs, urls => by
    rw [spelled]
    exact (even_slashes_append_iff (run.even_slashes rewriter urls) _).2 (even_slashes_spelled runs _)

/-- A run is a text that ends in an exclamation mark. -/
def Run.IsExclaimed (run : Run) : Prop := ∃ content, run = .text content ∧ content.getLast? = some '!'

/-- One run: unless it is an empty text, it decides how the whole ends. -/
theorem Run.endsOpen_iff {x : List Char} (hx : Even (slashes x)) (urls : σ) {run : Run} (hrun : run ≠ .text []) :
    EndsOpen (x ++ (run.spelled rewriter urls).1) ↔ run.IsExclaimed := by
  rcases run.ends rewriter urls with ⟨content, rfl⟩ | ⟨hother, s, c, hs, -, hc⟩
  · rw [Run.spelled, endsOpen_bodyText_iff hx fun he => hrun (he ▸ rfl)]
    exact ⟨fun h => ⟨content, rfl, h⟩, fun ⟨_, he, h⟩ => Run.text.inj he ▸ h⟩
  · rw [hs, ← List.append_assoc]
    exact iff_of_false (not_endsOpen hc) fun ⟨content, he, _⟩ => hother content he

/-- Some runs end in a text with an exclamation mark at its end, and with nothing but empty texts behind it. -/
def EndsExclaimed (runs : List Run) : Prop :=
  ∃ front last silent, runs = front ++ last :: silent ∧ last.IsExclaimed ∧ ∀ run ∈ silent, run = .text []

theorem not_isExclaimed_empty : ¬ (Run.text []).IsExclaimed := fun ⟨_, he, h⟩ => by
  cases he
  cases h

theorem endsExclaimed_append_iff {runs : List Run} {run : Run} :
    EndsExclaimed (runs ++ [run]) ↔ if run = .text [] then EndsExclaimed runs else run.IsExclaimed := by
  constructor
  · rintro ⟨front, last, silent, he, hlast, hsilent⟩
    rcases List.eq_nil_or_concat' silent with rfl | ⟨silent, quiet, rfl⟩
    · obtain ⟨-, rfl⟩ := List.append_inj' he rfl |>.imp_right List.singleton_inj.1
      rwa [if_neg (by rintro rfl; exact not_isExclaimed_empty hlast)]
    · rw [← List.cons_append, ← List.append_assoc] at he
      obtain ⟨rfl, rfl⟩ := List.append_inj' he rfl |>.imp_right List.singleton_inj.1
      rw [if_pos (hsilent run (List.mem_append_right _ (List.mem_singleton_self run)))]
      exact ⟨front, last, silent, rfl, hlast, fun r hr => hsilent r (List.mem_append_left _ hr)⟩
  · split
    · rintro ⟨front, last, silent, rfl, hlast, hsilent⟩
      refine ⟨front, last, silent ++ [run], by simp, hlast, ?_⟩
      exact List.forall_mem_append.2 ⟨hsilent, List.forall_mem_singleton.2 ‹_›⟩
    · exact fun h => ⟨runs, run, [], rfl, h, nofun⟩

/-- **Prose ends in an open exclamation mark exactly if a text of it does**, and nothing else is written behind it. -/
theorem endsOpen_spelled_iff (urls : σ) (runs : List Run) :
    EndsOpen (spelled rewriter urls runs).1 ↔ EndsExclaimed runs := by
  induction runs using List.reverseRecOn with
  | nil =>
    refine iff_of_false (fun ⟨front, he, _⟩ => ?_) fun ⟨front, last, silent, he, _⟩ => ?_
    · exact List.append_ne_nil_of_right_ne_nil front (List.cons_ne_nil _ _) he.symm
    · exact List.append_ne_nil_of_right_ne_nil front (List.cons_ne_nil _ _) he.symm
  | append_singleton runs run ih =>
    rw [spelled_append, spelled_singleton, endsExclaimed_append_iff]
    split
    · rename_i hrun
      subst hrun
      rw [← ih]
      exact iff_of_eq (congrArg EndsOpen (List.append_nil _))
    · rename_i hrun
      exact run.endsOpen_iff rewriter (even_slashes_spelled rewriter runs urls) _ hrun

end

/-- **A link in prose reads as an image exactly if it stands behind a text that ends in an exclamation mark**, with
nothing but empty texts between them. -/
theorem images_of_exclaimed (rewriter : UrlRewriter σ) {root : Tree} (hprose : ∀ t ∈ root.children, IsProse t)
    (urls : σ) :
    ∃ finished, (rendered rewriter root urls).1 = .ok finished ∧
      ∀ before text url after, runsOf root.data [] [] root.children = before ++ .link text url :: after →
        let written := spelled rewriter urls before
        (∃ rest, finished = written.1 ++ (linkPassage text (rewriter.rewrite url written.2).1.toList ++ rest)) ∧
          (EndsOpen written.1 ↔ EndsExclaimed before) := by
  refine ⟨_, rendered_prose rewriter hprose urls, fun before text url after hruns => ?_⟩
  dsimp only
  refine ⟨?_, endsOpen_spelled_iff rewriter urls before⟩
  obtain ⟨s, hs⟩ := linkPassage_ends text (rewriter.rewrite url (spelled rewriter urls before).2).1.toList
  rw [hruns, spelled_append, spelled]
  dsimp only
  rw [Run.spelled, hs, ← List.append_assoc, ← List.append_assoc, dropEndWhile_append (by decide), if_neg (by simp)]
  simp only [List.append_assoc]
  exact ⟨_, rfl⟩

/-- A page of emphasis that ends in an exclamation mark, and of a link behind it. -/
def prosePage : Dom.Tree :=
  .node (.element (.html "body") [])
    [.node (.element (.html "em") []) [.node (.text ['a', '!']) []],
      .node (.element (.html "a") [.plain "href" "u"]) [.node (.text ['x']) []]]

/-- The mark that ends the emphasis stands between the exclamation mark and the link. -/
theorem images_of_prosePage : (∀ t ∈ prosePage.children, IsProse t) ∧
    ∃ finished, (rendered .identity prosePage ()).1 = .ok finished ∧
      (∃ rest, finished = "*a!*".toList ++ ("[x](u)".toList ++ rest)) ∧ ¬ EndsOpen "*a!*".toList := by
  have hprose : ∀ t ∈ prosePage.children, IsProse t := by
    refine List.forall_mem_cons.2 ⟨.emphasis (by decide) (by decide) ?_, List.forall_mem_singleton.2 ?_⟩
    · exact List.forall_mem_singleton.2 (.text ['a', '!'] [])
    · exact .link (by decide) rfl rfl rfl
  obtain ⟨finished, hok, hlinks⟩ := images_of_exclaimed .identity hprose ()
  obtain ⟨hfinished, -⟩ := hlinks [.mark false, .text ['a', '!'], .mark false] ['x'] "u" [] rfl
  exact ⟨hprose, finished, hok, hfinished, not_endsOpen (s := "*a!".toList) (by decide)⟩

/-- An exclamation mark at the end of a text makes an image of the link behind it. -/
theorem exclamation_before_link :
    let root := Dom.Tree.node (.element (.html "body") [])
      [.node (.text ['a', '!']) [], .node (.element (.html "a") [.plain "href" "u"]) [.node (.text ['x']) []]]
    (∀ t ∈ root.children, IsProse t) ∧
      (rendered .identity root ()).1 = .ok ("a!".toList ++ "[x](u)\n".toList) ∧ EndsOpen "a!".toList := by
  refine ⟨?_, by decide +kernel, ['a'], rfl, by decide⟩
  refine List.forall_mem_cons.2 ⟨.text ['a', '!'] [], List.forall_mem_singleton.2 ?_⟩
  exact .link (by decide) rfl rfl rfl

end BlogMarkdown.Markdown
