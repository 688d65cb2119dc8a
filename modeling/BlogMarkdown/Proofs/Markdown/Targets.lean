import BlogMarkdown.Markdown.Convert
import BlogMarkdown.Proofs.Markdown.Rendering
/-!
# Where the targets go

Rendering asks a URL rewriter for the written form of a target before it writes the link, and often writes it
somewhere else first: the contents of a heading and the text of a caption are rendered on sheets of their own.  Every
target that a rendering asks for stands in the text in the end, unless the rendering fails or the target is inside a
heading that cannot be rendered.
-/
namespace BlogMarkdown.Markdown

open Dom

variable {σ α β : Type}

/-! ## What a rewriter was asked -/

/-- The targets that a rewriter was asked for from one state to another, each with the form that it got. -/
inductive Asked (rewriter : UrlRewriter σ) : σ → List (String × String) → σ → Prop
  | nil (urls : σ) : Asked rewriter urls [] urls
  | cons (target : String) {urls urls' : σ} {asked : List (String × String)} :
    Asked rewriter (rewriter.rewrite target urls).2 asked urls' →
      Asked rewriter urls ((target, (rewriter.rewrite target urls).1) :: asked) urls'

theorem Asked.append {rewriter : UrlRewriter σ} : ∀ {urls urls' urls'' : σ} {asked more : List (String × String)},
    Asked rewriter urls asked urls' → Asked rewriter urls' more urls'' → Asked rewriter urls (asked ++ more) urls''
  | _, _, _, _, _, .nil _, h => h
  | _, _, _, _, _, .cons target h, h' => .cons target (h.append h')

/-! ## Targets in a tree -/

/-- The target of a link, the source of an image. -/
def linkTarget? (d : NodeData) : Option String :=
  if d.isNative "a" then some ((d.attribute? "href").getD "")
  else if d.isNative "img" then some ((d.attribute? "src").getD "")
  else none

/-- A tree has a link or an image with this target. -/
def Names (root : Tree) (target : String) : Prop := ∃ t, Within t root ∧ linkTarget? t.data = some target

/-- A heading whose contents cannot be rendered.  It is written as the markup it is. -/
def GivenUp (heading : Tree) : Prop :=
  (∃ tag, heading.data.isNative tag = true ∧ (headingLevel? tag).isSome) ∧
    ∃ (σ : Type) (rewriter : UrlRewriter σ) (path : Path) (urls : σ) (e : Error),
      ((renderKept rewriter heading.data path (fun _ => true) 0 [] heading.children).on ⟨.empty, urls⟩).1 = .error e

/-- A tree has a link or an image with this target inside a heading that cannot be rendered. -/
def Loses (root : Tree) (target : String) : Prop :=
  ∃ heading, Within heading root ∧ GivenUp heading ∧ Names heading target

theorem Names.of_child {data : NodeData} {children : List Tree} {t : Tree} (ht : t ∈ children) {target : String}
    (h : Names t target) : Names (.node data children) target := by
  obtain ⟨u, hu, htarget⟩ := h
  exact ⟨u, .child ht hu, htarget⟩

theorem Loses.of_child {data : NodeData} {children : List Tree} {t : Tree} (ht : t ∈ children) {target : String}
    (h : Loses t target) : Loses (.node data children) target := by
  obtain ⟨heading, hheading, h⟩ := h
  exact ⟨heading, .child ht hheading, h⟩

/-! ## Renderings that account for what they ask -/

namespace Render

/-- A rendering asks for targets of `named` only; if it succeeds, what it wrote shows each of them, except those of
`lost`, and also shows what is owed to an earlier rendering. -/
def Accounts (rewriter : UrlRewriter σ) (named lost owed : String → Prop) (m : Render σ Unit) : Prop :=
  ∀ (sheet : Sheet σ) (text : List Char), sheet.writer.Spells text →
    ∃ more asked, (m.on sheet).2.writer.Spells (text ++ more) ∧ Asked rewriter sheet.urls asked (m.on sheet).2.urls ∧
      (∀ p ∈ asked, named p.1) ∧
      ((m.on sheet).1 = .ok () →
        (∀ p ∈ asked, Shows more p.2 ∨ lost p.1) ∧ ∀ form, owed form → Shows more form)

/-- Nothing is owed. -/
def nothing : String → Prop := fun _ => False

/-- A rendering accounts for the targets in a tree. -/
abbrev AccountsFor (rewriter : UrlRewriter σ) (t : Tree) (m : Render σ Unit) : Prop :=
  m.Accounts rewriter (Names t) (Loses t) nothing

section

variable {rewriter : UrlRewriter σ} {named lost owed : String → Prop}

theorem Accounts.owing {owed' : String → Prop} {m : Render σ Unit} (h : m.Accounts rewriter named lost owed)
    (ho : ∀ form, owed' form → owed form) : m.Accounts rewriter named lost owed' := by
  intro sheet text ht
  obtain ⟨more, asked, hs, ha, hn, hok⟩ := h sheet text ht
  exact ⟨more, asked, hs, ha, hn, fun h => ⟨(hok h).1, fun form hf => (hok h).2 form (ho form hf)⟩⟩

theorem Accounts.owing_nothing {m : Render σ Unit} (h : m.Accounts rewriter named lost owed) :
    m.Accounts rewriter named lost nothing := h.owing nofun

theorem Accounts.widen {named' lost' : String → Prop} {m : Render σ Unit} (h : m.Accounts rewriter named lost owed)
    (hn : ∀ target, named target → named' target) (hl : ∀ target, lost target → lost' target) :
    m.Accounts rewriter named' lost' owed := by
  intro sheet text ht
  obtain ⟨more, asked, hs, ha, hn', hok⟩ := h sheet text ht
  exact ⟨more, asked, hs, ha, fun p hp => hn _ (hn' p hp),
    fun h => ⟨fun p hp => ((hok h).1 p hp).imp_right (hl _), (hok h).2⟩⟩

theorem accounts_throw (e : Error) : (throw e : Render σ Unit).Accounts rewriter named lost owed :=
  fun sheet text ht => ⟨[], [], by rwa [List.append_nil], .nil _, nofun, nofun⟩

theorem accounts_pure : (pure () : Render σ Unit).Accounts rewriter named lost nothing :=
  fun sheet text ht => ⟨[], [], by rwa [List.append_nil], .nil _, nofun, fun _ => ⟨nofun, nofun⟩⟩

theorem accounts_layout {f : Writer → Writer}
    (hf : ∀ w text, w.Spells text → ∃ more, (f w).Spells (text ++ more) ∧ ∀ form, owed form → Shows more form) :
    (layout f : Render σ Unit).Accounts rewriter named lost owed := by
  intro sheet text ht
  obtain ⟨more, hmore, hshows⟩ := hf sheet.writer text ht
  exact ⟨more, [], hmore, .nil _, nofun, fun _ => ⟨nofun, hshows⟩⟩

theorem accounts_write (s : List Char) : (write s : Render σ Unit).Accounts rewriter named lost (Shows s) :=
  accounts_layout fun _ _ h => h.write_shows s

theorem accounts_ensureLinefeeds (n : Nat) :
    (ensureLinefeeds n : Render σ Unit).Accounts rewriter named lost nothing :=
  accounts_layout fun _ _ h => ⟨[], by rw [List.append_nil]; exact h.ensureLinefeeds n, nofun⟩

theorem accounts_writeVerbatim (s : List Char) :
    (writeVerbatim s : Render σ Unit).Accounts rewriter named lost nothing :=
  accounts_layout fun _ _ h => by
    obtain ⟨more, hmore⟩ := h.enterVerbatim.write s
    exact ⟨more, hmore.leaveVerbatim, nofun⟩

theorem Accounts.bind {owed' : String → Prop} {m : Render σ Unit} {f : Unit → Render σ Unit}
    (hm : m.Accounts rewriter named lost owed) (hf : (f ()).Accounts rewriter named lost owed') :
    (m >>= f).Accounts rewriter named lost (fun form => owed form ∨ owed' form) := by
  intro sheet text ht
  obtain ⟨more, asked, hs, ha, hn, hok⟩ := hm sheet text ht
  rw [on_bind]
  generalize m.on sheet = outcome at *
  obtain ⟨result, after⟩ := outcome
  cases result with
  | error e => exact ⟨more, asked, hs, ha, hn, nofun⟩
  | ok u =>
    obtain ⟨more', asked', hs', ha', hn', hok'⟩ := hf after _ hs
    refine ⟨more ++ more', asked ++ asked', by rwa [← List.append_assoc], ha.append ha',
      List.forall_mem_append.2 ⟨hn, hn'⟩, fun h => ⟨List.forall_mem_append.2 ⟨fun p hp => ?_, fun p hp => ?_⟩, ?_⟩⟩
    · exact ((hok rfl).1 p hp).imp_left (Shows.append_right more')
    · exact ((hok' h).1 p hp).imp_left (Shows.append_left more)
    · rintro form (hform | hform)
      · exact ((hok rfl).2 form hform).append_right more'
      · exact ((hok' h).2 form hform).append_left more

theorem Accounts.indented {s : List Char} {body : Render σ Unit} (hs : ∀ c ∈ s, IsIndent c)
    (h : body.Accounts rewriter named lost owed) : (indented s body).Accounts rewriter named lost owed := by
  intro sheet text ht
  -- linefeeds that were requested before come out before the body
  obtain ⟨linefeeds, -, ht⟩ := ht.pushIndent hs
  obtain ⟨more, asked, hmore, ha, hn, hok⟩ := h ⟨sheet.writer.pushIndent s, sheet.urls⟩ _ ht
  rw [on_indented]
  refine ⟨linefeeds ++ more, asked, ?_, ha, hn, fun h => ⟨fun p hp => ?_, fun form hform => ?_⟩⟩
  · rw [← List.append_assoc]
    exact hmore.popIndent.ensureLinefeeds 1
  · exact ((hok h).1 p hp).imp_left (Shows.append_left linefeeds)
  · exact ((hok h).2 form hform).append_left linefeeds

theorem accounts_target {target : String} {f : List Char → Render σ Unit} (hn : named target)
    (hf : ∀ form : String, (f form.toList).Accounts rewriter named lost (· = form)) :
    (Render.target rewriter target >>= f).Accounts rewriter named lost nothing := by
  intro sheet text ht
  obtain ⟨more, asked, hs, ha, hn', hok⟩ := hf (rewriter.rewrite target sheet.urls).1
    ⟨sheet.writer, (rewriter.rewrite target sheet.urls).2⟩ text ht
  rw [on_bind, on_target]
  exact ⟨more, _, hs, .cons target ha, List.forall_mem_cons.2 ⟨hn, hn'⟩,
    fun h => ⟨List.forall_mem_cons.2 ⟨.inl ((hok h).2 _ rfl), (hok h).1⟩, nofun⟩⟩

/-- What is rendered on a sheet of its own is settled by what is done with that sheet: its text is written, or its
targets are lost. -/
theorem Accounts.aside {m : Render σ Unit} {f : Except Error Writer → Render σ Unit}
    (hm : m.Accounts rewriter named lost nothing)
    (hok : ∀ w text, w.Spells text → (f (.ok w)).Accounts rewriter named lost (Shows text))
    (herror : ∀ e urls, (m.on ⟨.empty, urls⟩).1 = .error e → (f (.error e)).Accounts rewriter named lost nothing ∧
      ∀ sheet, ((f (.error e)).on sheet).1 = .ok () → ∀ target, named target → lost target) :
    (aside m >>= f).Accounts rewriter named lost nothing := by
  intro sheet text ht
  -- the table of names is handed on from the inner sheet, its text is not
  obtain ⟨inner, asked, hs, ha, hn, hshows⟩ := hm ⟨.empty, sheet.urls⟩ [] Writer.spells_empty
  rw [on_bind, on_aside]
  rw [List.nil_append] at hs
  have herror := fun e => herror e sheet.urls
  generalize m.on ⟨.empty, sheet.urls⟩ = outcome at *
  obtain ⟨result, after⟩ := outcome
  cases result with
  | ok u =>
    obtain ⟨more, asked', hs', ha', hn', hok⟩ := hok _ _ hs ⟨sheet.writer, after.urls⟩ text ht
    refine ⟨more, asked ++ asked', hs', ha.append ha', List.forall_mem_append.2 ⟨hn, hn'⟩,
      fun h => ⟨List.forall_mem_append.2 ⟨fun p hp => ?_, (hok h).1⟩, nofun⟩⟩
    exact ((hshows rfl).1 p hp).imp_left ((hok h).2 p.2)
  | error e =>
    obtain ⟨hf, hlost⟩ := herror e rfl
    obtain ⟨more, asked', hs', ha', hn', hok⟩ := hf ⟨sheet.writer, after.urls⟩ text ht
    refine ⟨more, asked ++ asked', hs', ha.append ha', List.forall_mem_append.2 ⟨hn, hn'⟩,
      fun h => ⟨List.forall_mem_append.2 ⟨fun p hp => ?_, (hok h).1⟩, nofun⟩⟩
    exact .inr (hlost _ h p.1 (hn p hp))

end

end Render

/-! ## Elements -/

section

open Render

variable {rewriter : UrlRewriter σ} {named lost : String → Prop}

theorem accounts_renderAsMarkup (t : Tree) :
    (renderAsMarkup t : Render σ Unit).Accounts rewriter named lost nothing := accounts_writeVerbatim _

theorem accounts_renderLink {link : NodeData} (hn : named ((link.attribute? "href").getD "")) (text : List Char) :
    (renderLink rewriter link text).Accounts rewriter named lost nothing := by
  refine accounts_target hn fun form => ?_
  rw [writeBetween_eq, writeBetween_eq, write_write]
  refine (accounts_write _).owing ?_
  rintro _ rfl
  exact shows_of_end List.mem_cons_self ⟨'[' :: escape specialInLinkText text, [], by simp⟩

theorem accounts_renderImage {image : NodeData} (hn : named ((image.attribute? "src").getD "")) :
    (renderImage rewriter image).Accounts rewriter named lost nothing := by
  refine accounts_target hn fun form => ?_
  dsimp only
  split
  · rw [writeBetween_eq, writeBetween_eq, write_write]
    refine (accounts_write _).owing ?_
    rintro _ rfl
    exact shows_of_end List.mem_cons_self ⟨'!' :: '[' :: escape specialInLinkText (altText image), [], by simp⟩
  · rw [writeBetween_eq, writeBetween_eq, writeBetween_eq, write_write, write_write]
    refine (accounts_write _).owing ?_
    rintro _ rfl
    exact shows_of_end (List.mem_cons_of_mem _ List.mem_cons_self)
      ⟨'!' :: '[' :: escape specialInLinkText (altText image),
        escape specialInTitle ((image.attribute? "title").getD "").toList ++ ['"', ')'], by simp⟩

theorem accounts_renderFenced (text : List Char) :
    (renderFenced text : Render σ Unit).Accounts rewriter named lost nothing :=
  Accounts.owing_nothing <| (accounts_ensureLinefeeds 2).bind <| (accounts_write _).bind <| (accounts_write _).bind <|
    (accounts_writeVerbatim _).bind <| (accounts_ensureLinefeeds 1).bind <| (accounts_write _).bind <|
    accounts_ensureLinefeeds 2

theorem accounts_renderFormula (children : List Tree) :
    (renderFormula children : Render σ Unit).Accounts rewriter named lost nothing := by
  rw [renderFormula, writeBetween_eq]
  exact (accounts_write _).owing_nothing

theorem accounts_renderHeading (level : Nat) (text : List Char) :
    (renderHeading level text : Render σ Unit).Accounts rewriter named lost (Shows text) :=
  Accounts.owing ((accounts_ensureLinefeeds 2).bind <| (accounts_write _).bind <| (accounts_write _).bind <|
    accounts_ensureLinefeeds 2) fun _ h => .inr (.inr (.inl h.onOneLine))

theorem accounts_between (s : List Char) {m : Render σ Unit} (h : m.Accounts rewriter named lost nothing) :
    (do Render.write s; m; Render.write s : Render σ Unit).Accounts rewriter named lost nothing :=
  Accounts.owing_nothing <| (accounts_write s).bind <| h.bind <| accounts_write s

end

/-! ## Trees -/

theorem linkTarget?_of_link {d : NodeData} (h : d.isNative "a" = true) :
    linkTarget? d = some ((d.attribute? "href").getD "") := if_pos h

theorem linkTarget?_of_image {d : NodeData} (h : d.isNative "img" = true) :
    linkTarget? d = some ((d.attribute? "src").getD "") := by
  have ha : ¬ d.isNative "a" = true := by
    cases d with
    | element name attributes =>
      simp only [NodeData.isNative, NodeData.elementName?, Option.any_some, decide_eq_true_eq] at h ⊢
      rintro ⟨-, htag⟩
      rw [h.2] at htag
      exact absurd htag (by decide)
    | _ => nofun
  rw [linkTarget?, if_neg ha, if_pos h]

theorem Names.self {data : NodeData} {target : String} (h : linkTarget? data = some target) (children : List Tree) :
    Names (.node data children) target := ⟨_, .self, h⟩

section

open Render

variable {rewriter : UrlRewriter σ}

theorem accounts_heading {name : ElementName} {attributes : List Attribute} {children : List Tree} {path : Path}
    {level : Nat} (hname : (NodeData.element name attributes).isNative name.tag = true)
    (hlevel : headingLevel? name.tag = some level)
    (hall : (renderKept rewriter (.element name attributes) path (fun _ => true) 0 [] children).AccountsFor rewriter
      (.node (.element name attributes) children)) :
    (do
      match ← Render.aside (renderKept rewriter (.element name attributes) path (fun _ => true) 0 [] children) with
      | .ok inner => do
        let text ← liftExcept inner.text
        renderHeading level text
      | .error _ => renderAsMarkup (.node (.element name attributes) children) : Render σ Unit).AccountsFor rewriter
      (.node (.element name attributes) children) := by
  refine hall.aside (fun w text h => ?_) fun e urls h => ⟨accounts_renderAsMarkup _, fun _ _ target hn => ?_⟩
  · dsimp only
    rw [h.text_eq, liftExcept_ok, pure_bind]
    exact accounts_renderHeading level text
  · exact ⟨_, .self, ⟨⟨name.tag, hname, hlevel ▸ rfl⟩, σ, rewriter, path, urls, e, h⟩, hn⟩

theorem accounts_native {name : ElementName} {attributes : List Attribute} {children : List Tree} {path : Path}
    {index : Option Nat} (hname : name.vocabulary ≠ .shortcode)
    (hall : (renderKept rewriter (.element name attributes) path (fun _ => true) 0 [] children).AccountsFor rewriter
      (.node (.element name attributes) children))
    (hitems : (renderItems rewriter (.element name attributes) path 0 [] children).AccountsFor rewriter
      (.node (.element name attributes) children)) :
    (renderTree rewriter path index (.node (.element name attributes) children)).AccountsFor rewriter
      (.node (.element name attributes) children) := by
  have hnative {tag : String} (h : name.tag = tag) : (NodeData.element name attributes).isNative tag = true := by
    simp [NodeData.isNative, NodeData.elementName?, hname, h]
  have hmarkup : (renderAsMarkup (.node (.element name attributes) children) : Render σ Unit).AccountsFor rewriter
      (.node (.element name attributes) children) := accounts_renderAsMarkup _
  rw [renderTree_native rewriter path index hname]
  cases hrule : rule? path index name attributes children with
  | none => exact hmarkup
  | some rule =>
    have hfits := fits_of_rule? hrule
    cases rule with
    | heading level => exact accounts_heading (hnative rfl) hfits hall
    | emphasis mark => exact accounts_between _ hall
    | code text => exact accounts_writeVerbatim _
    | fenced text => exact accounts_renderFenced text
    -- links name their own target, or that of the image they show
    | link text => exact accounts_renderLink (.self (linkTarget?_of_link (hnative hfits)) children) _
    | image source =>
      rcases hfits with ⟨htag, rfl⟩ | ⟨below, rfl, himage⟩
      · exact accounts_renderImage (.self (linkTarget?_of_image (hnative htag)) children)
      · exact accounts_renderImage (.of_child List.mem_cons_self (.self (linkTarget?_of_image himage) below))
    | list => exact Accounts.owing_nothing <| (accounts_ensureLinefeeds 2).bind <| hitems.bind <|
        accounts_ensureLinefeeds 2
    | item marker =>
      have hitem := ((accounts_write marker).bind (f := fun _ => renderKept rewriter _ path _ 0 [] children)
        hall).owing_nothing
      exact hitem.indented (by simp [IsIndent])
    | quotation =>
      have hquote := ((accounts_write ['>', ' ']).bind (f := fun _ => renderKept rewriter _ path _ 0 [] children)
        hall).owing_nothing
      exact Accounts.owing_nothing <| (accounts_ensureLinefeeds 2).bind <| hquote.indented (by simp [IsIndent])

theorem accounts_shortcode {tag : String} {attributes : List Attribute} {children : List Tree} {path : Path}
    {index : Option Nat}
    (hkept : ∀ keep, (renderKept rewriter (.element ⟨.shortcode, tag⟩ attributes) path keep 0 [] children).AccountsFor
      rewriter (.node (.element ⟨.shortcode, tag⟩ attributes) children)) :
    (renderTree rewriter path index (.node (.element ⟨.shortcode, tag⟩ attributes) children)).AccountsFor rewriter
      (.node (.element ⟨.shortcode, tag⟩ attributes) children) := by
  rw [renderTree]
  split
  · exact accounts_renderFormula children
  split
  · split
    · dsimp only
      split
      · simp only [pure_bind]
        exact Accounts.owing_nothing <| (accounts_write _).bind <| (hkept _).bind <| (accounts_write _).bind <|
          (accounts_write _).bind <| accounts_write _
      · refine (hkept _).aside (fun w text h => ?_) fun e urls _ => ⟨accounts_throw e, fun _ h => by cases h⟩
        have hcaption : (Except.ok w : Except Error Writer).bind Writer.text = .ok text := h.text_eq
        simp only [hcaption, liftExcept_ok, pure_bind]
        exact Accounts.owing ((accounts_write _).bind <| (hkept _).bind <| (accounts_write _).bind <|
          (accounts_write _).bind <| accounts_write _) fun _ h => .inr (.inr (.inr (.inl h.trimBlank)))
    · exact accounts_throw _
  · exact accounts_throw _

mutual
/-- **Every rendering accounts for the targets in its tree.** -/
theorem accounts_renderTree (rewriter : UrlRewriter σ) : ∀ (path : Path) (index : Option Nat) (t : Tree),
    (renderTree rewriter path index t).AccountsFor rewriter t
  | path, index, .node (.text content) _ => by
    rw [renderTree]
    exact (accounts_write _).owing_nothing
  | path, index, .node (.comment _) _ => by
    rw [renderTree]
    exact accounts_pure
  | path, index, .node (.doctype _ _ _) _ => by
    rw [renderTree]
    exact accounts_throw _
  | path, index, .node .document children => by
    rw [renderTree]
    exact accounts_renderKept rewriter _ path _ 0 [] children (fun _ h _ => .of_child h) fun _ h _ => .of_child h
  | path, index, .node (.element name attributes) children => by
    have hkept (keep : Nat → Bool) :
        (renderKept rewriter (.element name attributes) path keep 0 [] children).AccountsFor rewriter
          (.node (.element name attributes) children) :=
      accounts_renderKept rewriter _ path keep 0 [] children (fun _ h _ => .of_child h) fun _ h _ => .of_child h
    by_cases hname : name.vocabulary = .shortcode
    · obtain ⟨vocabulary, tag⟩ := name
      cases hname
      exact accounts_shortcode hkept
    · exact accounts_native hname (hkept _)
        (accounts_renderItems rewriter _ path 0 [] children (fun _ h _ => .of_child h) fun _ h _ => .of_child h)

theorem accounts_renderKept {named lost : String → Prop} (rewriter : UrlRewriter σ) (parent : NodeData) (path : Path)
    (keep : Nat → Bool) : ∀ (position : Nat) (before ts : List Tree),
    (∀ t ∈ ts, ∀ target, Names t target → named target) → (∀ t ∈ ts, ∀ target, Loses t target → lost target) →
    (renderKept rewriter parent path keep position before ts).Accounts rewriter named lost nothing
  | _, _, [], _, _ => by
    rw [renderKept]
    exact accounts_pure
  | position, before, t :: after, hn, hl => by
    have ht := (accounts_renderTree rewriter (⟨parent, before, after⟩ :: path) none t).widen (hn t List.mem_cons_self)
      (hl t List.mem_cons_self)
    have hafter := accounts_renderKept rewriter parent path keep (position + 1) (t :: before) after
      (fun u hu => hn u (List.mem_cons_of_mem _ hu)) (fun u hu => hl u (List.mem_cons_of_mem _ hu))
    rw [renderKept]
    split
    · exact (ht.bind hafter).owing_nothing
    · exact hafter

theorem accounts_renderItems {named lost : String → Prop} (rewriter : UrlRewriter σ) (parent : NodeData) (path : Path) :
    ∀ (index : Nat) (before ts : List Tree),
    (∀ t ∈ ts, ∀ target, Names t target → named target) → (∀ t ∈ ts, ∀ target, Loses t target → lost target) →
    (renderItems rewriter parent path index before ts).Accounts rewriter named lost nothing
  | _, _, [], _, _ => by
    rw [renderItems]
    exact accounts_pure
  | index, before, t :: after, hn, hl => by
    have ht := (accounts_renderTree rewriter (⟨parent, before, after⟩ :: path) (some index) t).widen
      (hn t List.mem_cons_self) (hl t List.mem_cons_self)
    have hafter (index : Nat) := accounts_renderItems rewriter parent path index (t :: before) after
      (fun u hu => hn u (List.mem_cons_of_mem _ hu)) (fun u hu => hl u (List.mem_cons_of_mem _ hu))
    rw [renderItems]
    split
    · exact (ht.bind (hafter _)).owing_nothing
    · exact hafter _
end

end

/-! ## Conversions -/

theorem rendered_eq (rewriter : UrlRewriter σ) (root : Tree) (urls : σ) :
    rendered rewriter root urls =
      (((renderBody rewriter root).on ⟨.empty, urls⟩).1.bind fun _ =>
          ((renderBody rewriter root).on ⟨.empty, urls⟩).2.writer.finish,
        ((renderBody rewriter root).on ⟨.empty, urls⟩).2.urls) := rfl

theorem asked_of_rendered (rewriter : UrlRewriter σ) (root : Tree) (urls : σ) :
    ∃ asked, Asked rewriter urls asked (rendered rewriter root urls).2 ∧ (∀ p ∈ asked, Names root p.1) ∧
      ∀ text, (rendered rewriter root urls).1 = .ok text → ∀ p ∈ asked, Shows text p.2 ∨ Loses root p.1 := by
  obtain ⟨data, children⟩ := root
  have hbody : (renderBody rewriter (.node data children)).AccountsFor rewriter (.node data children) :=
    accounts_renderKept rewriter _ [] _ 0 [] children (fun _ h _ => .of_child h) fun _ h _ => .of_child h
  obtain ⟨more, asked, hs, ha, hn, hok⟩ := hbody ⟨.empty, urls⟩ [] Writer.spells_empty
  rw [rendered_eq]
  refine ⟨asked, ha, hn, fun text htext p hp => ?_⟩
  generalize (renderBody rewriter (.node data children)).on ⟨.empty, urls⟩ = outcome at *
  obtain ⟨result, after⟩ := outcome
  cases result with
  | error e => cases htext
  | ok u =>
    obtain ⟨finished, hfinished, hshows⟩ := hs.finish_shows
    obtain rfl : finished = text := Except.ok.inj (hfinished.symm.trans htext)
    exact ((hok rfl).1 p hp).imp_left (hshows p.2)

/-- **What a conversion asks its rewriter.**  Each target that it asks for is the target of a link or of an image of the
post; and if it succeeds its text shows the form that the target got, or the target is inside a heading that cannot be
rendered. -/
theorem asked_of_convert (registry : Shortcode.Registry) (rewriter : UrlRewriter σ) (html : List Char) (urls : σ) :
    ∃ asked, Asked rewriter urls asked (convert registry rewriter html urls).2 ∧
      ∀ p ∈ asked, ∃ root, rewritten registry html = .ok root ∧ Names root p.1 ∧
        ∀ text, (convert registry rewriter html urls).1 = .ok text → Shows text p.2 ∨ Loses root p.1 := by
  unfold convert
  cases rewritten registry html with
  | error e => exact ⟨[], .nil urls, nofun⟩
  | ok root =>
    obtain ⟨asked, ha, hn, hok⟩ := asked_of_rendered rewriter root urls
    exact ⟨asked, ha, fun p hp => ⟨root, rfl, hn p hp, fun text htext => hok text htext p hp⟩⟩

end BlogMarkdown.Markdown
