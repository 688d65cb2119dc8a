import BlogMarkdown.Proofs.Markdown.Rendering
/-!
# What a rendering leaves alone

A rendering adds to the output of its writer and leaves the modes of the writer as it finds them, whether it succeeds or
fails.  It fails only for an obstacle in its tree: a caption without an image, a shortcode without a Markdown form, or a
document type.
-/
namespace BlogMarkdown.Markdown

open Dom

variable {σ : Type}

namespace Writer

/-! ## Writers with the same modes -/

/-- A writer at a later time: its modes are the same again, its output goes on, and is still a text if it was one. -/
structure Later (w w' : Writer) : Prop where
  verbatim : w'.verbatim = w.verbatim
  indents : w'.indents = w.indents
  out : w.out.toList <+: w'.out.toList
  spells : ∀ text, w.Spells text → ∃ more, w'.Spells (text ++ more)

namespace Later

variable {w w' w'' : Writer}

theorem refl (w : Writer) : w.Later w :=
  ⟨rfl, rfl, List.prefix_rfl, fun text h => ⟨[], by rwa [List.append_nil]⟩⟩

theorem trans (h : w.Later w') (h' : w'.Later w'') : w.Later w'' where
  verbatim := h'.verbatim.trans h.verbatim
  indents := h'.indents.trans h.indents
  out := h.out.trans h'.out
  spells text ht := by
    obtain ⟨more, ht⟩ := h.spells text ht
    obtain ⟨rest, ht⟩ := h'.spells _ ht
    exact ⟨more ++ rest, by rwa [← List.append_assoc]⟩

end Later

theorem modes_flushLinefeeds (w : Writer) :
    w.flushLinefeeds.verbatim = w.verbatim ∧ w.flushLinefeeds.indents = w.indents := by
  rw [flushLinefeeds_eq]
  exact ⟨rfl, rfl⟩

theorem out_flushLinefeeds (w : Writer) : w.out.toList <+: w.flushLinefeeds.out.toList := by
  rw [flushLinefeeds_eq]
  exact ⟨w.missing.flatMap Piece.bytes, Array.toList_appendList.symm⟩

theorem modes_writeByte (b : UInt8) (w : Writer) :
    (w.writeByte b).verbatim = w.verbatim ∧ (w.writeByte b).indents = w.indents := by
  rw [writeByte]
  split
  · exact ⟨rfl, rfl⟩
  · exact w.modes_flushLinefeeds

theorem modes_writeBytes : ∀ (bytes : List UInt8) (w : Writer),
    (w.writeBytes bytes).verbatim = w.verbatim ∧ (w.writeBytes bytes).indents = w.indents
  | [], _ => ⟨rfl, rfl⟩
  | b :: bytes, w => by
    obtain ⟨hverbatim, hindents⟩ := modes_writeBytes bytes (w.writeByte b)
    obtain ⟨hb, hb'⟩ := w.modes_writeByte b
    rw [writeBytes_cons]
    exact ⟨hverbatim.trans hb, hindents.trans hb'⟩

theorem out_writeBytes (bytes : List UInt8) (w : Writer) : w.out.toList <+: (w.writeBytes bytes).out.toList := by
  rw [writeBytes_eq, toList_out_foldl]
  exact List.prefix_append _ _

theorem later_write (text : List Char) (w : Writer) : w.Later (w.write text) where
  verbatim := (w.modes_writeBytes _).1
  indents := (w.modes_writeBytes _).2
  out := w.out_writeBytes _
  spells _ h := h.write text

theorem later_writeVerbatim (text : List Char) (w : Writer) :
    w.Later ((w.enterVerbatim.write text).leaveVerbatim) where
  verbatim := by
    rw [leaveVerbatim, (later_write text w.enterVerbatim).verbatim]
    exact Nat.add_sub_cancel w.verbatim 1
  indents := (later_write text w.enterVerbatim).indents
  out := (later_write text w.enterVerbatim).out
  spells _ h := by
    obtain ⟨more, h⟩ := h.enterVerbatim.write text
    exact ⟨more, h.leaveVerbatim⟩

theorem later_ensureLinefeeds (n : Nat) (w : Writer) : w.Later (w.ensureLinefeeds n) := by
  rw [ensureLinefeeds]
  split
  · exact ⟨rfl, rfl, List.prefix_rfl, fun text h => ⟨[], by rw [List.append_nil]; exact ⟨h.out, h.indents⟩⟩⟩
  · exact .refl w

/-- A prefix that was pushed is popped again, and what was requested before comes out under the old prefixes. -/
theorem Later.indented {w w' : Writer} {s : List Char} (hs : ∀ c ∈ s, IsIndent c) (h : (w.pushIndent s).Later w') :
    w.Later (w'.popIndent.ensureLinefeeds 1) := by
  refine .trans ?_ (later_ensureLinefeeds 1 w'.popIndent)
  obtain ⟨hverbatim, hindents⟩ := w.modes_flushLinefeeds
  refine ⟨h.verbatim.trans hverbatim, ?_, w.out_flushLinefeeds.trans h.out, fun text ht => ?_⟩
  · rw [popIndent, h.indents]
    exact hindents
  · obtain ⟨linefeeds, -, ht⟩ := ht.pushIndent hs
    obtain ⟨more, ht⟩ := h.spells _ ht
    exact ⟨linefeeds ++ more, by rw [← List.append_assoc]; exact ht.popIndent⟩

end Writer

/-! ## Renderings that keep order -/

namespace Render

/-- A rendering leaves a later writer behind, also when it fails, and it fails with `faults` only. -/
def Orderly (faults : Error → Prop) (m : Render σ Unit) : Prop :=
  ∀ sheet : Sheet σ, sheet.writer.Later (m.on sheet).2.writer ∧ ∀ e, (m.on sheet).1 = .error e → faults e

section

variable {faults : Error → Prop} {m : Render σ Unit}

theorem Orderly.mono {faults' : Error → Prop} (h : m.Orderly faults) (hf : ∀ e, faults e → faults' e) :
    m.Orderly faults' := fun sheet => ⟨(h sheet).1, fun e he => hf e ((h sheet).2 e he)⟩

theorem orderly_throw {e : Error} (h : faults e) : (throw e : Render σ Unit).Orderly faults :=
  fun _ => ⟨.refl _, fun _ he => Except.error.inj he ▸ h⟩

theorem orderly_pure : (pure () : Render σ Unit).Orderly faults := fun _ => ⟨.refl _, nofun⟩

theorem orderly_layout {f : Writer → Writer} (h : ∀ w : Writer, w.Later (f w)) :
    (layout f : Render σ Unit).Orderly faults := fun sheet => ⟨h sheet.writer, nofun⟩

theorem orderly_write (text : List Char) : (write text : Render σ Unit).Orderly faults :=
  orderly_layout (Writer.later_write text)

theorem orderly_writeVerbatim (text : List Char) : (writeVerbatim text : Render σ Unit).Orderly faults :=
  orderly_layout (Writer.later_writeVerbatim text)

theorem orderly_ensureLinefeeds (n : Nat) : (ensureLinefeeds n : Render σ Unit).Orderly faults :=
  orderly_layout (Writer.later_ensureLinefeeds n)

theorem Orderly.bind {f : Unit → Render σ Unit} (hm : m.Orderly faults) (hf : (f ()).Orderly faults) :
    (m >>= f).Orderly faults := by
  intro sheet
  obtain ⟨hlater, hfault⟩ := hm sheet
  rw [on_bind]
  generalize m.on sheet = outcome at *
  obtain ⟨result, after⟩ := outcome
  cases result with
  | error e => exact ⟨hlater, hfault⟩
  | ok u => exact ⟨hlater.trans (hf after).1, (hf after).2⟩

theorem Orderly.indented {s : List Char} (hs : ∀ c ∈ s, IsIndent c) (h : m.Orderly faults) :
    (Render.indented s m).Orderly faults := by
  intro sheet
  obtain ⟨hlater, hfault⟩ := h ⟨sheet.writer.pushIndent s, sheet.urls⟩
  rw [on_indented]
  exact ⟨hlater.indented hs, hfault⟩

theorem orderly_target {rewriter : UrlRewriter σ} {target : String} {f : List Char → Render σ Unit}
    (hf : ∀ form, (f form).Orderly faults) : (Render.target rewriter target >>= f).Orderly faults := by
  intro sheet
  rw [on_bind, on_target]
  exact hf _ ⟨sheet.writer, (rewriter.rewrite target sheet.urls).2⟩

/-- What is rendered aside begins with nothing, so it is a text. -/
theorem Orderly.aside {f : Except Error Writer → Render σ Unit} (hm : m.Orderly faults)
    (hok : ∀ w text, w.Spells text → (f (.ok w)).Orderly faults)
    (herror : ∀ e, faults e → (f (.error e)).Orderly faults) : (Render.aside m >>= f).Orderly faults := by
  intro sheet
  obtain ⟨hlater, hfault⟩ := hm ⟨.empty, sheet.urls⟩
  obtain ⟨text, ht⟩ := hlater.spells [] Writer.spells_empty
  rw [on_bind, on_aside]
  generalize m.on ⟨.empty, sheet.urls⟩ = outcome at *
  obtain ⟨result, after⟩ := outcome
  cases result with
  | error e => exact herror e (hfault e rfl) ⟨sheet.writer, after.urls⟩
  | ok u => exact hok _ _ ht ⟨sheet.writer, after.urls⟩

end

end Render

/-! ## Obstacles -/

/-- Why a tree cannot be rendered. -/
inductive Obstacle (root : Tree) : Error → Prop
  | caption {tag : String} {attributes : List Attribute} {children : List Tree} :
    Within (.node (.element ⟨.shortcode, tag⟩ attributes) children) root → tag = "caption" ∨ tag = "wp_caption" →
    captionImage? children = none → Obstacle root .captionShape
  | shortcode {tag : String} {attributes : List Attribute} {children : List Tree} :
    Within (.node (.element ⟨.shortcode, tag⟩ attributes) children) root → tag ≠ "latex" →
    ¬ (tag = "caption" ∨ tag = "wp_caption") → Obstacle root (.unsupportedShortcode tag)
  | doctype {name publicId systemId : String} {children : List Tree} :
    Within (.node (.doctype name publicId systemId) children) root → Obstacle root .unexpectedDoctype

theorem Obstacle.of_child {data : NodeData} {children : List Tree} {t : Tree} (ht : t ∈ children) {e : Error}
    (h : Obstacle t e) : Obstacle (.node data children) e := by
  cases h with
  | caption h htag himage => exact .caption (.child ht h) htag himage
  | shortcode h hlatex hcaption => exact .shortcode (.child ht h) hlatex hcaption
  | doctype h => exact .doctype (.child ht h)

/-! ## Elements -/

section

open Render

variable {faults : Error → Prop} {rewriter : UrlRewriter σ}

theorem orderly_writeBetween {start text stop special : List Char} :
    (writeBetween start text stop special : Render σ Unit).Orderly faults := by
  rw [writeBetween_eq]
  exact orderly_write _

theorem orderly_renderImage (image : NodeData) : (renderImage rewriter image).Orderly faults := by
  refine orderly_target fun form => orderly_writeBetween.bind ?_
  split
  · exact orderly_writeBetween
  · exact orderly_writeBetween.bind orderly_writeBetween

theorem orderly_renderLink (link : NodeData) (text : List Char) : (renderLink rewriter link text).Orderly faults :=
  orderly_target fun _ => orderly_writeBetween.bind orderly_writeBetween

theorem orderly_renderFenced (text : List Char) : (renderFenced text : Render σ Unit).Orderly faults :=
  (orderly_ensureLinefeeds 2).bind <| (orderly_write _).bind <| (orderly_write _).bind <|
    (orderly_writeVerbatim _).bind <| (orderly_ensureLinefeeds 1).bind <| (orderly_write _).bind <|
    orderly_ensureLinefeeds 2

theorem orderly_renderHeading (level : Nat) (text : List Char) :
    (renderHeading level text : Render σ Unit).Orderly faults :=
  (orderly_ensureLinefeeds 2).bind <| (orderly_write _).bind <| (orderly_write _).bind <| orderly_ensureLinefeeds 2

/-- **A rule keeps order** if the renderings that it is made of do. -/
theorem Rule.orderly {element : NodeData} {all items otherwise : Render σ Unit} (hall : all.Orderly faults)
    (hitems : items.Orderly faults) (hotherwise : otherwise.Orderly faults) (rule : Rule) :
    (rule.render rewriter element all items otherwise).Orderly faults := by
  cases rule with
  | heading level =>
    refine hall.aside (fun w text h => ?_) fun _ _ => hotherwise
    dsimp only
    rw [h.text_eq, liftExcept_ok, pure_bind]
    exact orderly_renderHeading level text
  | emphasis mark => exact (orderly_write mark).bind <| hall.bind <| orderly_write mark
  | code text => exact orderly_writeVerbatim _
  | fenced text => exact orderly_renderFenced text
  | link text => exact orderly_renderLink element text
  | image source => exact orderly_renderImage source
  | list => exact (orderly_ensureLinefeeds 2).bind <| hitems.bind <| orderly_ensureLinefeeds 2
  | item marker => exact ((orderly_write marker).bind hall).indented (by simp [IsIndent])
  | quotation =>
    have hquote : (do write ['>', ' ']; all : Render σ Unit).Orderly faults := (orderly_write _).bind hall
    exact (orderly_ensureLinefeeds 2).bind <| hquote.indented (by simp [IsIndent])

theorem orderly_native {name : ElementName} (hname : name.vocabulary ≠ .shortcode) {attributes : List Attribute}
    {children : List Tree} {path : Path} {index : Option Nat}
    (hall : (renderKept rewriter (.element name attributes) path (fun _ => true) 0 [] children).Orderly faults)
    (hitems : (renderItems rewriter (.element name attributes) path 0 [] children).Orderly faults) :
    (renderTree rewriter path index (.node (.element name attributes) children)).Orderly faults := by
  have hmarkup : (renderAsMarkup (.node (.element name attributes) children) : Render σ Unit).Orderly faults :=
    orderly_writeVerbatim _
  rw [renderTree_native rewriter path index hname]
  cases rule? path index name attributes children with
  | none => exact hmarkup
  | some rule => exact rule.orderly hall hitems hmarkup

theorem findIdx?_isMeaningful {children : List Tree} {image : Tree} (h : captionImage? children = some image) :
    ∃ first, children.findIdx? isMeaningful = some first := by
  obtain ⟨first, hfirst, -⟩ := Option.bind_eq_some_iff.1 h
  rw [← Option.isSome_iff_exists, List.findIdx?_isSome, List.any_eq_true]
  exact ⟨first, List.mem_of_find?_eq_some hfirst, List.find?_some hfirst⟩

theorem orderly_shortcode {tag : String} {attributes : List Attribute} {children : List Tree} {path : Path}
    {index : Option Nat}
    (hkept : ∀ keep, (renderKept rewriter (.element ⟨.shortcode, tag⟩ attributes) path keep 0 [] children).Orderly
      (Obstacle (.node (.element ⟨.shortcode, tag⟩ attributes) children))) :
    (renderTree rewriter path index (.node (.element ⟨.shortcode, tag⟩ attributes) children)).Orderly
      (Obstacle (.node (.element ⟨.shortcode, tag⟩ attributes) children)) := by
  -- a formula, a caption with an image, and everything else, which has no form
  rw [renderTree]
  split
  · exact orderly_writeBetween
  rename_i hlatex
  split
  · rename_i htag
    cases himage : captionImage? children with
    | none => exact orderly_throw (.caption .self htag himage)
    | some image =>
      obtain ⟨first, hfirst⟩ := findIdx?_isMeaningful himage
      rw [hfirst]
      dsimp only
      split
      · simp only [pure_bind]
        exact (orderly_write _).bind <| (hkept _).bind <| (orderly_write _).bind <| (orderly_write _).bind <|
          orderly_write _
      · refine (hkept _).aside (fun w text h => ?_) fun e he => orderly_throw he
        have hcaption : (Except.ok w : Except Error Writer).bind Writer.text = .ok text := h.text_eq
        simp only [hcaption, liftExcept_ok, pure_bind]
        exact (orderly_write _).bind <| (hkept _).bind <| (orderly_write _).bind <| (orderly_write _).bind <|
          orderly_write _
  · rename_i hcaption
    exact orderly_throw (.shortcode .self hlatex hcaption)

end

/-! ## Trees -/

mutual
/-- **Every rendering keeps order**, and fails only for an obstacle in its tree. -/
theorem orderly_renderTree (rewriter : UrlRewriter σ) : ∀ (path : Path) (index : Option Nat) (t : Tree),
    (renderTree rewriter path index t).Orderly (Obstacle t)
  | path, index, .node (.text content) _ => by
    rw [renderTree]
    exact Render.orderly_write _
  | path, index, .node (.comment _) _ => by
    rw [renderTree]
    exact Render.orderly_pure
  | path, index, .node (.doctype _ _ _) _ => by
    rw [renderTree]
    exact Render.orderly_throw (.doctype .self)
  | path, index, .node .document children => by
    rw [renderTree]
    exact orderly_renderKept rewriter _ path _ 0 [] children fun _ h _ => .of_child h
  | path, index, .node (.element name attributes) children => by
    have hkept (keep : Nat → Bool) : (renderKept rewriter (.element name attributes) path keep 0 [] children).Orderly
        (Obstacle (.node (.element name attributes) children)) :=
      orderly_renderKept rewriter _ path keep 0 [] children fun _ h _ => .of_child h
    by_cases hname : name.vocabulary = .shortcode
    · obtain ⟨vocabulary, tag⟩ := name
      cases hname
      exact orderly_shortcode hkept
    · exact orderly_native hname (hkept _) (orderly_renderItems rewriter _ path 0 [] children fun _ h _ => .of_child h)

theorem orderly_renderKept {faults : Error → Prop} (rewriter : UrlRewriter σ) (parent : NodeData) (path : Path)
    (keep : Nat → Bool) : ∀ (position : Nat) (before ts : List Tree), (∀ t ∈ ts, ∀ e, Obstacle t e → faults e) →
    (renderKept rewriter parent path keep position before ts).Orderly faults
  | _, _, [], _ => by
    rw [renderKept]
    exact Render.orderly_pure
  | position, before, t :: after, h => by
    have ht := (orderly_renderTree rewriter (⟨parent, before, after⟩ :: path) none t).mono (h t List.mem_cons_self)
    have hafter := orderly_renderKept rewriter parent path keep (position + 1) (t :: before) after
      fun u hu => h u (List.mem_cons_of_mem _ hu)
    rw [renderKept]
    split
    · exact ht.bind hafter
    · exact hafter

theorem orderly_renderItems {faults : Error → Prop} (rewriter : UrlRewriter σ) (parent : NodeData) (path : Path) :
    ∀ (index : Nat) (before ts : List Tree), (∀ t ∈ ts, ∀ e, Obstacle t e → faults e) →
    (renderItems rewriter parent path index before ts).Orderly faults
  | _, _, [], _ => by
    rw [renderItems]
    exact Render.orderly_pure
  | index, before, t :: after, h => by
    have ht := (orderly_renderTree rewriter (⟨parent, before, after⟩ :: path) (some index) t).mono
      (h t List.mem_cons_self)
    have hafter (index : Nat) := orderly_renderItems rewriter parent path index (t :: before) after
      fun u hu => h u (List.mem_cons_of_mem _ hu)
    rw [renderItems]
    split
    · exact ht.bind (hafter _)
    · exact hafter _
end

/-- **Rendering restores the modes of the writer and only appends**, for every tree and every writer, whether it
succeeds or fails. -/
theorem frame_of_renderTree (rewriter : UrlRewriter σ) (path : Path) (index : Option Nat) (t : Tree)
    (sheet : Sheet σ) :
    let after := ((renderTree rewriter path index t).on sheet).2.writer
    after.verbatim = sheet.writer.verbatim ∧ after.indents = sheet.writer.indents ∧
      sheet.writer.out.toList <+: after.out.toList := by
  have h := (orderly_renderTree rewriter path index t sheet).1
  exact ⟨h.verbatim, h.indents, h.out⟩

end BlogMarkdown.Markdown
