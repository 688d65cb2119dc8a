import BlogMarkdown.Proofs.Markdown.BodyText
import BlogMarkdown.Proofs.Markdown.Frames
import BlogMarkdown.Proofs.Markdown.Passthrough
/-!
# How a rendering ends

What stands last in a rendering decides how many linefeeds the output ends with, and so what is still missing to a
request.  Most trees end in content.  A text that ends in two newlines or more ends in linefeeds instead, each with the
line prefix of that text behind it, and so does what such a text stands last in.
-/
namespace BlogMarkdown.Markdown

open Dom

variable {σ : Type}

/-- How a rendering ends: it writes nothing, or ends in content, in two linefeeds or more with their line prefixes, or in
a linefeed of its markup, which has none. -/
inductive Ending where
  | nothing
  | content
  | blank
  | bare
  deriving DecidableEq

namespace Ending

/-- One rendering behind another. -/
def andThen : Ending → Ending → Ending
  | e, .nothing => e
  | _, e => e

/-- Renderings one behind the other. -/
def ofAll : List Ending → Ending
  | [] => .nothing
  | e :: endings => e.andThen (ofAll endings)

theorem nothing_andThen (e : Ending) : nothing.andThen e = e := by cases e <;> rfl

/-- What an ending says of the writers before and behind a rendering. -/
def Holds (w w' : Writer) : Ending → Prop
  | .nothing => w'.out = w.out ∧ w'.run = w.run
  | .content => w'.run = .count 0
  | .blank => (∃ n, w'.run = .count (n + 2)) ∧
    ∃ front deeper, w'.out.toList = w.out.toList ++ (front ++ linefeed :: (w.indent ++ deeper))
  | .bare => (∃ n, w'.run = .count (n + 1)) ∧ ∃ front, w'.out.toList = w.out.toList ++ (front ++ [linefeed])

end Ending

namespace Writer

/-- A writer outside verbatim mode in the midst of a document, where no rendering requests more than two linefeeds. -/
structure Begun (w : Writer) : Prop where
  verbatim : w.verbatim = 0
  run : ∃ n, w.run = .count n
  requested : w.requested ≤ 2

/-- A rendering that ends in a certain way between two writers. -/
structure Ends (w w' : Writer) (e : Ending) : Prop where
  later : w.Later w'
  requested : w'.requested ≤ 2
  holds : e.Holds w w'

theorem Later.indent {w w' : Writer} (h : w.Later w') : w'.indent = w.indent := by
  rw [Writer.indent, Writer.indent, h.indents]

namespace Ends

variable {w w' w'' : Writer} {e e' : Ending}

theorem begun (hw : w.Begun) (h : w.Ends w' e) : w'.Begun where
  verbatim := h.later.verbatim.trans hw.verbatim
  requested := h.requested
  run := by
    have hholds := h.holds
    cases e with
    | nothing => exact hholds.2 ▸ hw.run
    | content => exact ⟨0, hholds⟩
    | blank => exact ⟨_, hholds.1.choose_spec⟩
    | bare => exact ⟨_, hholds.1.choose_spec⟩

theorem andThen (h : w.Ends w' e) (h' : w'.Ends w'' e') : w.Ends w'' (e.andThen e') := by
  refine ⟨h.later.trans h'.later, h'.requested, ?_⟩
  obtain ⟨more, hmore⟩ := h.later.out
  have hafter := h'.holds
  cases e' with
  | nothing =>
    obtain ⟨hout, hrun⟩ := hafter
    have hbefore := h.holds
    cases e with
    | nothing => exact ⟨hout.trans hbefore.1, hrun.trans hbefore.2⟩
    | content => exact hrun.trans hbefore
    | blank => exact ⟨hrun ▸ hbefore.1, hout ▸ hbefore.2⟩
    | bare => exact ⟨hrun ▸ hbefore.1, hout ▸ hbefore.2⟩
  | content => exact hafter
  | blank =>
    obtain ⟨hrun, front, deeper, hout⟩ := hafter
    refine ⟨hrun, more ++ front, deeper, ?_⟩
    rw [hout, ← hmore, h.later.indent, List.append_assoc, List.append_assoc]
  | bare =>
    obtain ⟨hrun, front, hout⟩ := hafter
    exact ⟨hrun, more ++ front, by rw [hout, ← hmore, List.append_assoc, List.append_assoc]⟩

end Ends

/-! ## Writing a text -/

section

variable {w : Writer}

/-- Behind anything but a newline, no linefeed is written and none is requested. -/
theorem write_concat {c : Char} (hc : c ≠ '\n') (s : List Char) (w : Writer) :
    (w.write (s ++ [c])).run = .count 0 ∧ (w.write (s ++ [c])).requested = 0 := by
  rw [write_append, write_char hc, writeContent, Text.Utf8.isEmpty_encode]
  exact ⟨rfl, rfl⟩

theorem write_concat_newline (s : List Char) (w : Writer) :
    w.write (s ++ ['\n']) = (w.write s).writeLinefeed (w.verbatim = 0) := by
  rw [write_append, write_newline, (later_write s w).verbatim]

theorem write_counted (hrun : ∃ n, w.run = .count n) (hrequested : w.requested ≤ 2) (s : List Char) :
    (∃ n, (w.write s).run = .count n) ∧ (w.write s).requested ≤ 2 := by
  induction s using List.reverseRecOn with
  | nil => exact ⟨hrun, hrequested⟩
  | append_singleton s c ih =>
    by_cases hc : c = '\n'
    · obtain ⟨⟨n, hn⟩, hafter⟩ := ih
      subst hc
      rw [write_concat_newline]
      exact ⟨⟨n + 1, by rw [writeLinefeed, hn, LinefeedRun.succ]⟩, hafter⟩
    · obtain ⟨hcontent, hnone⟩ := w.write_concat hc s
      exact ⟨⟨0, hcontent⟩, by omega⟩

theorem begun_write (hverbatim : w.verbatim = 0) {c : Char} (hc : c ≠ '\n') (s : List Char) :
    (w.write (s ++ [c])).Begun := by
  obtain ⟨hrun, hrequested⟩ := w.write_concat hc s
  exact ⟨(later_write _ w).verbatim.trans hverbatim, ⟨0, hrun⟩, by omega⟩

namespace Ends

theorem of_content {c : Char} (hc : c ≠ '\n') (s : List Char) : w.Ends (w.write (s ++ [c])) .content := by
  obtain ⟨hrun, hrequested⟩ := w.write_concat hc s
  exact ⟨later_write _ w, by omega, hrun⟩

theorem of_blank (hw : w.Begun) (s : List Char) : w.Ends (w.write (s ++ ['\n', '\n'])) .blank := by
  obtain ⟨⟨n, hn⟩, hrequested⟩ := write_counted hw.run hw.requested s
  obtain ⟨more, hmore⟩ := (later_write s w).out
  have hlater := later_write (s ++ ['\n', '\n']) w
  have hwrite : w.write (s ++ ['\n', '\n']) = ((w.write s).writeLinefeed true).writeLinefeed true := by
    rw [show s ++ ['\n', '\n'] = s ++ ['\n'] ++ ['\n'] by simp, write_concat_newline, write_concat_newline, hw.verbatim]
    rfl
  rw [hwrite] at hlater ⊢
  refine ⟨hlater, hrequested, ⟨n, by simp [writeLinefeed, hn, LinefeedRun.succ]⟩,
    more ++ linefeed :: w.indent, [], ?_⟩
  have hindent := (later_write s w).indent
  simp only [writeLinefeed, if_true, Array.toList_appendList, ← hmore, Writer.indent] at hindent ⊢
  rw [hindent]
  simp

/-- What is written in verbatim mode has no line prefixes. -/
theorem of_verbatim (hw : w.Begun) (s : List Char) (c : Char) :
    w.Ends ((w.enterVerbatim.write (s ++ [c])).leaveVerbatim) (if c = '\n' then .bare else .content) := by
  have hlater := later_writeVerbatim (s ++ [c]) w
  split
  · rename_i hc
    subst hc
    obtain ⟨⟨n, hn⟩, hrequested⟩ := write_counted (w := w.enterVerbatim) hw.run hw.requested s
    obtain ⟨more, hmore⟩ := (later_write s w.enterVerbatim).out
    have hmode : w.enterVerbatim.verbatim ≠ 0 := Nat.succ_ne_zero w.verbatim
    rw [write_concat_newline, decide_eq_false hmode] at hlater ⊢
    refine ⟨hlater, hrequested, ⟨n, by simp [leaveVerbatim, writeLinefeed, hn, LinefeedRun.succ]⟩, more, ?_⟩
    show ((w.enterVerbatim.write s).out ++ [linefeed]).toList = w.enterVerbatim.out.toList ++ (more ++ [linefeed])
    rw [Array.toList_appendList, ← hmore, List.append_assoc]
  · rename_i hc
    obtain ⟨hrun, hrequested⟩ := w.enterVerbatim.write_concat hc s
    exact ⟨hlater, by show (w.enterVerbatim.write (s ++ [c])).requested ≤ 2; omega, hrun⟩

end Ends

end

end Writer

/-! ## Renderings -/

namespace Render

/-- A rendering that succeeds ends in a certain way. -/
def Ends (m : Render σ Unit) (e : Ending) : Prop :=
  ∀ sheet : Sheet σ, sheet.writer.Begun → (m.on sheet).1 = .ok () → sheet.writer.Ends (m.on sheet).2.writer e

variable {m n : Render σ Unit} {e e' : Ending}

theorem ends_throw (error : Error) : (throw error : Render σ Unit).Ends e := fun _ _ h => nomatch h

theorem ends_layout {f : Writer → Writer} (h : ∀ w : Writer, w.Begun → w.Ends (f w) e) :
    (layout f : Render σ Unit).Ends e := fun sheet hw _ => h sheet.writer hw

theorem ends_pure : (pure () : Render σ Unit).Ends .nothing :=
  fun _ hw _ => ⟨.refl _, hw.requested, rfl, rfl⟩

theorem ends_ensureLinefeeds {k : Nat} (hk : k ≤ 2) : (ensureLinefeeds k : Render σ Unit).Ends .nothing := by
  refine ends_layout fun w hw => ⟨Writer.later_ensureLinefeeds k w, ?_, ?_⟩
  · rw [Writer.ensureLinefeeds, if_pos hw.verbatim]
    exact Nat.max_le.2 ⟨hw.requested, hk⟩
  · rw [Writer.ensureLinefeeds, if_pos hw.verbatim]
    exact ⟨rfl, rfl⟩

theorem ends_write {c : Char} (hc : c ≠ '\n') (s : List Char) : (write (s ++ [c]) : Render σ Unit).Ends .content :=
  ends_layout fun _ _ => .of_content hc s

theorem ends_write_newlines (s : List Char) : (write (s ++ ['\n', '\n']) : Render σ Unit).Ends .blank :=
  ends_layout fun _ hw => .of_blank hw s

theorem ends_writeVerbatim (s : List Char) (c : Char) :
    (writeVerbatim (s ++ [c]) : Render σ Unit).Ends (if c = '\n' then .bare else .content) :=
  ends_layout fun _ hw => .of_verbatim hw s c

theorem on_bind_ok {f : Unit → Render σ Unit} {sheet : Sheet σ} (hok : ((m >>= f).on sheet).1 = .ok ()) :
    (m.on sheet).1 = .ok () ∧ (m >>= f).on sheet = (f ()).on (m.on sheet).2 := by
  rw [on_bind] at hok ⊢
  generalize m.on sheet = outcome at hok ⊢
  obtain ⟨result, after⟩ := outcome
  cases result with
  | error error => cases hok
  | ok u => exact ⟨rfl, rfl⟩

theorem Ends.bind {f : Unit → Render σ Unit} (hm : m.Ends e) (hf : (f ()).Ends e') : (m >>= f).Ends (e.andThen e') := by
  intro sheet hw hok
  obtain ⟨hfirst, hon⟩ := on_bind_ok hok
  rw [hon] at hok ⊢
  have hends := hm sheet hw hfirst
  exact hends.andThen (hf _ (hends.begun hw) hok)

theorem Ends.quiet {f : Unit → Render σ Unit} (hm : m.Ends e) (hf : (f ()).Ends .nothing) : (m >>= f).Ends e :=
  hm.bind hf

/-- The text of a sheet of its own adds nothing to the writer by itself. -/
theorem ends_aside {f : Except Error Writer → Render σ Unit} (hf : ∀ outcome, (f outcome).Ends e) :
    (aside m >>= f).Ends e := by
  intro sheet hw hok
  rw [on_bind, on_aside] at hok ⊢
  exact hf _ ⟨sheet.writer, (m.on ⟨.empty, sheet.urls⟩).2.urls⟩ hw hok

theorem ends_target {rewriter : UrlRewriter σ} {url : String} {f : List Char → Render σ Unit}
    (hf : ∀ form, (f form).Ends e) : (target rewriter url >>= f).Ends e := by
  intro sheet hw hok
  rw [on_bind, on_target] at hok ⊢
  exact hf _ ⟨sheet.writer, (rewriter.rewrite url sheet.urls).2⟩ hw hok

theorem ends_liftExcept {α : Type} {r : Except Error α} {f : α → Render σ Unit} (hf : ∀ a, (f a).Ends e) :
    (liftExcept r >>= f).Ends e := by
  cases r with
  | error error => exact ends_throw error
  | ok a => rw [liftExcept_ok, pure_bind]; exact hf a

theorem ends_writeBetween (c : Char) (hc : c ≠ '\n') (start text stop special : List Char) :
    (writeBetween start text (stop ++ [c]) special : Render σ Unit).Ends .content := by
  rw [writeBetween_eq, ← List.append_assoc]
  exact ends_write hc _

theorem ends_write_line {s : List Char} (hs : s ≠ []) (h : '\n' ∉ s) : (write s : Render σ Unit).Ends .content := by
  obtain ⟨s, c, rfl⟩ := List.eq_nil_or_concat' s |>.resolve_left hs
  refine ends_write ?_ s
  rintro rfl
  exact h (List.mem_append_right _ (List.mem_singleton_self _))

/-- A rendering that succeeds leaves a writer in the midst of its document. -/
def Lasts (m : Render σ Unit) : Prop :=
  ∀ sheet : Sheet σ, sheet.writer.Begun → (m.on sheet).1 = .ok () →
    sheet.writer.Later (m.on sheet).2.writer ∧ (m.on sheet).2.writer.Begun

theorem Ends.lasts (h : m.Ends e) : m.Lasts := fun sheet hw hok => ⟨(h sheet hw hok).later, (h sheet hw hok).begun hw⟩

theorem lasts_write (s : List Char) : (write s : Render σ Unit).Lasts := fun sheet hw _ => by
  obtain ⟨hrun, hrequested⟩ := Writer.write_counted hw.run hw.requested s
  have hlater := Writer.later_write s sheet.writer
  exact ⟨hlater, hlater.verbatim.trans hw.verbatim, hrun, hrequested⟩

theorem lasts_writeVerbatim (s : List Char) : (writeVerbatim s : Render σ Unit).Lasts := fun sheet hw _ => by
  obtain ⟨hrun, hrequested⟩ := Writer.write_counted (w := sheet.writer.enterVerbatim) hw.run hw.requested s
  have hlater := Writer.later_writeVerbatim s sheet.writer
  exact ⟨hlater, hlater.verbatim.trans hw.verbatim, hrun, hrequested⟩

theorem Lasts.seq {f : Unit → Render σ Unit} (hm : m.Lasts) (hf : (f ()).Lasts) : (m >>= f).Lasts := by
  intro sheet hw hok
  obtain ⟨hfirst, hon⟩ := on_bind_ok hok
  rw [hon] at hok ⊢
  obtain ⟨hlater, hbegun⟩ := hm sheet hw hfirst
  obtain ⟨hlater', hbegun'⟩ := hf _ hbegun hok
  exact ⟨hlater.trans hlater', hbegun'⟩

/-- Content at the end is all that counts. -/
theorem Lasts.bind {f : Unit → Render σ Unit} (hm : m.Lasts) (hf : (f ()).Ends .content) : (m >>= f).Ends .content := by
  intro sheet hw hok
  obtain ⟨hfirst, hon⟩ := on_bind_ok hok
  rw [hon] at hok ⊢
  obtain ⟨hlater, hbegun⟩ := hm sheet hw hfirst
  have hends := hf _ hbegun hok
  exact ⟨hlater.trans hends.later, hends.requested, hends.holds⟩

end Render

/-! ## Texts and markup -/

/-- How a body text ends: in linefeeds only if two newlines or more stand at its end, for a single one becomes a line
break in markup. -/
def textEnding (s : List Char) : Ending :=
  match s.reverse with
  | [] => .nothing
  | '\n' :: '\n' :: _ => .blank
  | _ => .content

theorem textEnding_concat {c : Char} (hc : c ≠ '\n') (s : List Char) : textEnding (s ++ [c]) = .content := by
  rw [textEnding, List.reverse_concat]
  split
  · rename_i he
    cases he
  · rename_i he
    exact absurd (List.cons.inj he).1 hc
  · rfl

theorem textEnding_newline {s : List Char} (hs : s.getLast? ≠ some '\n') : textEnding (s ++ ['\n']) = .content := by
  rw [textEnding, List.reverse_concat]
  split
  · rename_i he
    cases he
  · rename_i rest he
    rw [← List.head?_reverse, (List.cons.inj he).2] at hs
    exact absurd rfl hs
  · rfl

open Render in
theorem ends_bodyText (s : List Char) : (write (bodyText s) : Render σ Unit).Ends (textEnding s) := by
  rcases List.eq_nil_or_concat' s with rfl | ⟨s, c, rfl⟩
  · exact ends_pure
  · by_cases hc : c = '\n'
    · subst hc
      by_cases hs : s.getLast? = some '\n'
      · obtain ⟨front, rfl⟩ := List.getLast?_eq_some_iff.1 hs
        obtain ⟨a, ha⟩ := bodyText_newlines front
        have hending : textEnding (front ++ ['\n', '\n']) = .blank := by rw [textEnding, List.reverse_append]; rfl
        rw [show front ++ ['\n'] ++ ['\n'] = front ++ ['\n', '\n'] by simp, hending, ha]
        exact ends_write_newlines a
      · rw [textEnding_newline hs, bodyText_newline hs]
        exact ends_write (by decide) _
    · obtain ⟨a, ha⟩ := bodyText_concat hc s
      rw [textEnding_concat hc, ha]
      exact ends_write hc a

/-- How a markup ends. -/
def markupEnding (markup : List Char) : Ending := if markup.getLast? = some '\n' then .bare else .content

theorem ends_renderAsMarkup (name : ElementName) (attributes : List Attribute) (children : List Tree) :
    let t := Dom.Tree.node (.element name attributes) children
    (renderAsMarkup t : Render σ Unit).Ends (markupEnding t.markup) := by
  intro t
  obtain ⟨rest, hmarkup⟩ := markup_element name attributes children
  obtain ⟨s, c, hs⟩ := List.eq_nil_or_concat' ('<' :: rest) |>.resolve_left (List.cons_ne_nil _ _)
  have ht : t.markup = s ++ [c] := hmarkup.trans hs
  rw [renderAsMarkup, markupEnding, ht, List.getLast?_concat]
  simp only [Option.some.injEq]
  exact Render.ends_writeVerbatim s c

/-! ## Elements -/

namespace Render

variable {rewriter : UrlRewriter σ}

theorem ends_renderImage (image : NodeData) : (renderImage rewriter image).Ends .content := by
  refine ends_target fun form => (ends_writeBetween ']' (by decide) _ _ [] _).lasts.bind ?_
  split
  · exact ends_writeBetween ')' (by decide) _ _ [] _
  · exact (ends_writeBetween ' ' (by decide) _ _ [] _).lasts.bind (ends_writeBetween ')' (by decide) _ _ ['"'] _)

theorem ends_renderLink (link : NodeData) (text : List Char) : (renderLink rewriter link text).Ends .content :=
  ends_target fun _ =>
    (ends_writeBetween ']' (by decide) _ _ [] _).lasts.bind (ends_writeBetween ')' (by decide) _ _ [] _)

theorem ends_renderFenced (text : List Char) : (renderFenced text : Render σ Unit).Ends .content := by
  have hfence : (write codeFence : Render σ Unit).Ends .content := ends_write_line (by decide) (by decide)
  have hend : (do write codeFence; ensureLinefeeds 2 : Render σ Unit).Ends .content :=
    hfence.quiet (ends_ensureLinefeeds (Nat.le_refl 2))
  exact (ends_ensureLinefeeds (Nat.le_refl 2)).lasts.bind <| hfence.lasts.bind <| (lasts_write _).bind <|
    (lasts_writeVerbatim _).bind <| (ends_ensureLinefeeds (Nat.le_succ 1)).lasts.bind hend

theorem ends_renderHeading (level : Nat) (text : List Char) :
    (renderHeading level text : Render σ Unit).Ends .content := by
  have hline : '\n' ∉ onOneLine text := by
    rw [onOneLine, List.mem_map]
    rintro ⟨c, -, he⟩
    split at he
    · cases he
    · rename_i hc
      exact hc (.inl he)
  have htext : (do write (List.replicate level '#' ++ [' ']); write (onOneLine text) : Render σ Unit).Ends .content := by
    rw [write_write]
    exact ends_write_line (by simp) (by simp [hline])
  have hbehind := htext.quiet (f := fun _ => ensureLinefeeds 2) (ends_ensureLinefeeds (Nat.le_refl 2))
  rw [bind_assoc] at hbehind
  exact (ends_ensureLinefeeds (Nat.le_refl 2)).lasts.bind hbehind

end Render

/-! ## Indented blocks -/

/-- What is left of a block in its body and in the linefeeds behind it, where the line prefix of the block is longer
than the one around it by `deeper`. -/
def Ending.Leaves (indent deeper body : List UInt8) (run : LinefeedRun) : Ending → Prop
  | .nothing => run = .count 0
  | .content => run = .count 0
  | .blank => (∃ n, run = .count (n + 2)) ∧ ∃ front more, body = front ++ linefeed :: (indent ++ (deeper ++ more))
  | .bare => (∃ n, run = .count (n + 1)) ∧ ∃ front, body = front ++ [linefeed]

namespace Writer

/-- A block between two writers: behind the linefeeds that are due it writes its marker and a body, and it requests a
new line. -/
structure Leaves (w w' : Writer) (deeper marker : List Char) (e : Ending) : Prop where
  later : w.Later w'
  requested : 1 ≤ w'.requested ∧ w'.requested ≤ 2
  written : ∃ body, w'.out.toList = w.out.toList ++ (w.due ++ (Text.Utf8.encode marker ++ body)) ∧
    e.Leaves w.indent (Text.Utf8.encode deeper) body w'.run

theorem Leaves.ends {w w' : Writer} {deeper marker : List Char} {e : Ending} (h : w.Leaves w' deeper marker e) :
    w.Ends w' (Ending.content.andThen e) := by
  obtain ⟨body, hout, hleaves⟩ := h.written
  refine ⟨h.later, h.requested.2, ?_⟩
  cases e with
  | nothing => exact hleaves
  | content => exact hleaves
  | blank =>
    obtain ⟨hrun, front, more, rfl⟩ := hleaves
    refine ⟨hrun, w.due ++ (Text.Utf8.encode marker ++ front), Text.Utf8.encode deeper ++ more, ?_⟩
    simp [hout]
  | bare =>
    obtain ⟨hrun, front, rfl⟩ := hleaves
    exact ⟨hrun, w.due ++ (Text.Utf8.encode marker ++ front), by simp [hout]⟩

theorem indent_pushIndent (w : Writer) (s : List Char) : (w.pushIndent s).indent = w.indent ++ Text.Utf8.encode s := by
  rw [pushIndent, indent, indent, indent, w.modes_flushLinefeeds.2]
  rfl

/-- A marker comes right behind the linefeeds that were due when its prefix was pushed. -/
theorem out_write_marker (w : Writer) (s : List Char) {marker : List Char} (hmarker : marker ≠ []) (hline : '\n' ∉ marker) :
    ((w.pushIndent s).write marker).out.toList = w.out.toList ++ (w.due ++ Text.Utf8.encode marker) := by
  obtain ⟨c, rest, rfl⟩ := List.exists_cons_of_ne_nil hmarker
  have hflush : (w.pushIndent s).flushLinefeeds = w.pushIndent s :=
    flushLinefeeds_of_none (by rw [pushIndent, flushLinefeeds_eq])
  rw [write, writeBytes_eq, ← writeContent_eq (Text.Utf8.linefeed_not_mem_encode hline), writeContent,
    Text.Utf8.isEmpty_encode, if_neg Bool.false_ne_true]
  show ((w.pushIndent s).flushLinefeeds.out ++ Text.Utf8.encode (c :: rest)).toList = _
  rw [hflush, Array.toList_appendList, ← List.append_assoc, ← flatMap_missing]
  congr 1
  show w.flushLinefeeds.out.toList = _
  rw [flushLinefeeds_eq, Array.toList_appendList]

theorem begun_marker {w : Writer} (hverbatim : w.verbatim = 0) (s : List Char) {marker : List Char} (hmarker : marker ≠ [])
    (hline : '\n' ∉ marker) :
    ((w.pushIndent s).write marker).Begun ∧ ((w.pushIndent s).write marker).run = .count 0 := by
  obtain ⟨rest, c, rfl⟩ := List.eq_nil_or_concat' marker |>.resolve_left hmarker
  have hc : c ≠ '\n' := by
    rintro rfl
    exact hline (List.mem_append_right _ (List.mem_singleton_self _))
  have hpushed : (w.pushIndent s).verbatim = 0 := w.modes_flushLinefeeds.1.trans hverbatim
  exact ⟨begun_write hpushed hc rest, ((w.pushIndent s).write_concat hc rest).1⟩

/-- **A block under one more line prefix** leaves behind how its contents end. -/
theorem Leaves.of_ends {w w' : Writer} (hverbatim : w.verbatim = 0) {s marker : List Char} (hindent : ∀ c ∈ s, IsIndent c)
    (hmarker : marker ≠ []) (hline : '\n' ∉ marker) {e : Ending} (h : ((w.pushIndent s).write marker).Ends w' e) :
    w.Leaves (w'.popIndent.ensureLinefeeds 1) s marker e := by
  obtain ⟨hbegun, hrun⟩ := begun_marker hverbatim s hmarker hline
  have hlater := (later_write marker (w.pushIndent s)).trans h.later
  have hprefix := (later_write marker (w.pushIndent s)).indent
  rw [w.indent_pushIndent] at hprefix
  have hafter : w'.popIndent.ensureLinefeeds 1 = { w'.popIndent with requested := max w'.requested 1 } :=
    if_pos (h.begun hbegun).verbatim
  obtain ⟨body, hbody⟩ := h.later.out
  refine ⟨hlater.indented hindent, ?_, body, ?_, ?_⟩
  · rw [hafter]
    exact ⟨Nat.le_max_right _ _, Nat.max_le.2 ⟨h.requested, Nat.le_succ 1⟩⟩
  · rw [hafter]
    show w'.out.toList = _
    rw [← hbody, w.out_write_marker s hmarker hline, List.append_assoc, List.append_assoc]
  · rw [hafter]
    show e.Leaves w.indent (Text.Utf8.encode s) body w'.run
    have hholds := h.holds
    cases e with
    | nothing => exact hholds.2.trans hrun
    | content => exact hholds
    | blank =>
      obtain ⟨hcount, front, deeper, hout⟩ := hholds
      rw [← hbody, hprefix, List.append_assoc] at hout
      exact ⟨hcount, front, deeper, List.append_cancel_left hout⟩
    | bare =>
      obtain ⟨hcount, front, hout⟩ := hholds
      rw [← hbody] at hout
      exact ⟨hcount, front, List.append_cancel_left hout⟩

end Writer

open Render in
theorem leaves_indented {all : Render σ Unit} {e : Ending} (hall : all.Ends e) {s marker : List Char}
    (hindent : ∀ c ∈ s, IsIndent c) (hmarker : marker ≠ []) (hline : '\n' ∉ marker) {sheet : Sheet σ}
    (hverbatim : sheet.writer.verbatim = 0)
    (hok : ((indented s (do write marker; all)).on sheet).1 = .ok ()) :
    sheet.writer.Leaves ((indented s (do write marker; all)).on sheet).2.writer s marker e := by
  let inner : Sheet σ := ⟨(sheet.writer.pushIndent s).write marker, sheet.urls⟩
  have hbody : (do write marker; all).on ⟨sheet.writer.pushIndent s, sheet.urls⟩ = all.on inner := rfl
  rw [on_indented, hbody] at hok ⊢
  exact .of_ends hverbatim hindent hmarker hline (hall inner (Writer.begun_marker hverbatim s hmarker hline).1 hok)

/-! ## Trees -/

/-- How an element ends by its rule, where its children and its items end in certain ways. -/
def Rule.ending (all items : Ending) : Rule → Ending
  | .list => items
  | .item _ => Ending.content.andThen all
  | .quotation => Ending.content.andThen all
  | _ => .content

mutual
/-- How a tree ends at a place. -/
def Tree.ending (path : Path) (index : Option Nat) : Tree → Ending
  | .node (.text content) _ => textEnding (trimAtBlocks path content)
  | .node (.comment _) _ => .nothing
  | .node (.doctype _ _ _) _ => .nothing
  | .node .document children => endingOf .document path [] children
  | .node (.element ⟨.shortcode, _⟩ _) _ => .content
  | .node (.element name attributes) children =>
    let self := NodeData.element name attributes
    match rule? path index name attributes children with
    | some rule => rule.ending (endingOf self path [] children) (Ending.ofAll (itemEndings self path 0 [] children))
    | none => markupEnding (Dom.Tree.node self children).markup
/-- How some children of a node end, where others stand before them. -/
def endingOf (parent : NodeData) (path : Path) (before : List Tree) : List Tree → Ending
  | [] => .nothing
  | t :: after => (Tree.ending (⟨parent, before, after⟩ :: path) none t).andThen (endingOf parent path (t :: before) after)
/-- How the items of a list end, one by one. -/
def itemEndings (parent : NodeData) (path : Path) (index : Nat) (before : List Tree) : List Tree → List Ending
  | [] => []
  | t :: after =>
    if t.data.isElement then
      Tree.ending (⟨parent, before, after⟩ :: path) (some index) t ::
        itemEndings parent path (index + 1) (t :: before) after
    else itemEndings parent path index (t :: before) after
end

theorem ending_native {path : Path} {index : Option Nat} {name : ElementName} (hname : name.vocabulary ≠ .shortcode)
    (attributes : List Attribute) (children : List Tree) :
    let self := NodeData.element name attributes
    Tree.ending path index (.node self children) =
      match rule? path index name attributes children with
      | some rule => rule.ending (endingOf self path [] children) (Ending.ofAll (itemEndings self path 0 [] children))
      | none => markupEnding (Dom.Tree.node self children).markup := by
  intro self
  rw [Tree.ending]
  rintro tag rfl
  exact hname rfl

theorem line_of_itemMarker? {path : Path} {index : Option Nat} {marker : List Char}
    (h : itemMarker? path index = some marker) : marker ≠ [] ∧ '\n' ∉ marker := by
  refine ⟨?_, fun hmem => absurd (of_mem_itemMarker? h hmem) (by decide)⟩
  obtain rfl | ⟨n, rfl⟩ := itemMarker?_eq_some h
  · simp
  · simp

theorem markupEnding_heading {name : ElementName} (hlevel : (headingLevel? name.tag).isSome) (attributes : List Attribute)
    (children : List Tree) : markupEnding (Dom.Tree.node (.element name attributes) children).markup = .content := by
  have hvoid : ∀ tag ∈ voidTags, headingLevel? tag = none := by decide
  have htag : voidTags.contains name.tag = false := by
    rw [Bool.eq_false_iff]
    intro hmem
    rw [hvoid name.tag (List.contains_iff_mem.1 hmem)] at hlevel
    cases hlevel
  have hinside : (Surroundings.top.inside name).inVoid = false := by
    rw [Surroundings.inside, htag, Bool.and_false]
    rfl
  have hmarkup : (Dom.Tree.node (.element name attributes) children).markup =
      startTag name attributes ++ markupAllIn (Surroundings.top.inside name) children ++
        (if (Surroundings.top.inside name).inVoid then [] else endTag name) := rfl
  rw [hmarkup, hinside, if_neg Bool.false_ne_true, endTag, markupEnding, if_neg]
  rw [← List.append_assoc, List.getLast?_concat]
  decide

section

open Render

variable {rewriter : UrlRewriter σ}

theorem Rule.ends {path : Path} {index : Option Nat} {name : ElementName} {attributes : List Attribute}
    {children : List Tree} {element : NodeData} {all items otherwise : Render σ Unit} {e e' : Ending} {rule : Rule}
    (hrule : rule? path index name attributes children = some rule) (hall : all.Ends e) (hitems : items.Ends e')
    (hotherwise : (headingLevel? name.tag).isSome → otherwise.Ends .content) :
    (rule.render rewriter element all items otherwise).Ends (rule.ending e e') := by
  have hapart := ends_ensureLinefeeds (σ := σ) (Nat.le_refl 2)
  cases applies_of_rule? hrule with
  | heading hlevel =>
    refine ends_aside fun outcome => ?_
    cases outcome with
    | error error => exact hotherwise (hlevel ▸ rfl)
    | ok inner => exact ends_liftExcept fun text => ends_renderHeading _ text
  | emphasis => exact (ends_write (by decide) []).lasts.bind (hall.lasts.bind (ends_write (by decide) []))
  | strong => exact (ends_write (by decide) ['*']).lasts.bind (hall.lasts.bind (ends_write (by decide) ['*']))
  | code => exact ends_writeVerbatim _ '\x60'
  | fenced => exact ends_renderFenced _
  | link => exact ends_renderLink _ _
  | linkedImage => exact ends_renderImage _
  | image => exact ends_renderImage _
  | list =>
    have hlist := hapart.bind (f := fun _ => do items; ensureLinefeeds 2) (hitems.quiet hapart)
    rwa [Ending.nothing_andThen] at hlist
  | item _ hmarker =>
    obtain ⟨hne, hline⟩ := line_of_itemMarker? hmarker
    exact fun sheet hw hok => (leaves_indented hall (by simp [IsIndent]) hne hline hw.verbatim hok).ends
  | quotation =>
    have hquote : (indented ['>', ' '] do write ['>', ' ']; all).Ends (Ending.content.andThen e) := fun sheet hw hok =>
      (leaves_indented hall (by simp [IsIndent]) (by decide) (by decide) hw.verbatim hok).ends
    have hends := hapart.bind (f := fun _ => indented ['>', ' '] do write ['>', ' ']; all) hquote
    rwa [Ending.nothing_andThen] at hends

theorem ends_native {path : Path} {index : Option Nat} {name : ElementName} (hname : name.vocabulary ≠ .shortcode)
    {attributes : List Attribute} {children : List Tree}
    (hall : (renderKept rewriter (.element name attributes) path (fun _ => true) 0 [] children).Ends
      (endingOf (.element name attributes) path [] children))
    (hitems : (renderItems rewriter (.element name attributes) path 0 [] children).Ends
      (Ending.ofAll (itemEndings (.element name attributes) path 0 [] children))) :
    (renderTree rewriter path index (.node (.element name attributes) children)).Ends
      (Tree.ending path index (.node (.element name attributes) children)) := by
  rw [renderTree_native rewriter path index hname, ending_native hname]
  have hmarkup := ends_renderAsMarkup (σ := σ) name attributes children
  cases hrule : rule? path index name attributes children with
  | none => exact hmarkup
  | some rule => exact rule.ends hrule hall hitems fun hlevel => markupEnding_heading hlevel attributes children ▸ hmarkup

theorem ends_shortcode {path : Path} {index : Option Nat} {tag : String} {attributes : List Attribute}
    {children : List Tree}
    (hkept : ∀ keep, (renderKept rewriter (.element ⟨.shortcode, tag⟩ attributes) path keep 0 [] children).Lasts) :
    (renderTree rewriter path index (.node (.element ⟨.shortcode, tag⟩ attributes) children)).Ends .content := by
  have hend (caption : List Char) : (do write captionStart; write caption; write figureEnd : Render σ Unit).Ends .content :=
    (lasts_write _).bind <| (lasts_write _).bind <| ends_write_line (by decide) (by decide)
  -- a formula, a caption with an image, and everything else, which has no form
  rw [renderTree]
  split
  · exact ends_writeBetween '$' (by decide) _ _ ['$'] _
  split
  · split
    · dsimp only
      split
      · simp only [pure_bind]
        exact (lasts_write _).bind <| (hkept _).bind (hend _)
      · refine ends_aside fun outcome => ends_liftExcept fun text => ?_
        simp only [pure_bind]
        exact (lasts_write _).bind <| (hkept _).bind (hend _)
    · exact ends_throw _
  · exact ends_throw _

end

mutual
/-- **Every rendering that succeeds ends as its tree says.** -/
theorem ends_renderTree (rewriter : UrlRewriter σ) : ∀ (path : Path) (index : Option Nat) (t : Tree),
    (renderTree rewriter path index t).Ends (Tree.ending path index t)
  | path, index, .node (.text content) _ => by
    rw [renderTree, Tree.ending]
    exact ends_bodyText _
  | path, index, .node (.comment _) _ => by
    rw [renderTree, Tree.ending]
    exact Render.ends_pure
  | path, index, .node (.doctype _ _ _) _ => by
    rw [renderTree]
    exact Render.ends_throw _
  | path, index, .node .document children => by
    rw [renderTree, Tree.ending]
    exact ends_renderKept rewriter _ path 0 [] children
  | path, index, .node (.element name attributes) children => by
    by_cases hname : name.vocabulary = .shortcode
    · obtain ⟨vocabulary, tag⟩ := name
      cases hname
      rw [Tree.ending]
      exact ends_shortcode fun keep => lasts_renderKept rewriter _ path keep 0 [] children
    · exact ends_native hname (ends_renderKept rewriter _ path 0 [] children) (ends_renderItems rewriter _ path 0 [] children)

theorem ends_renderKept (rewriter : UrlRewriter σ) (parent : NodeData) (path : Path) : ∀ (position : Nat)
    (before ts : List Tree),
    (renderKept rewriter parent path (fun _ => true) position before ts).Ends (endingOf parent path before ts)
  | _, _, [] => by
    rw [renderKept, endingOf]
    exact Render.ends_pure
  | position, before, t :: after => by
    have ht := ends_renderTree rewriter (⟨parent, before, after⟩ :: path) none t
    have hafter := ends_renderKept rewriter parent path (position + 1) (t :: before) after
    rw [renderKept, endingOf, if_pos rfl]
    exact ht.bind hafter

theorem lasts_renderKept (rewriter : UrlRewriter σ) (parent : NodeData) (path : Path) (keep : Nat → Bool) :
    ∀ (position : Nat) (before ts : List Tree), (renderKept rewriter parent path keep position before ts).Lasts
  | _, _, [] => by
    rw [renderKept]
    exact Render.ends_pure.lasts
  | position, before, t :: after => by
    have ht := ends_renderTree rewriter (⟨parent, before, after⟩ :: path) none t
    have hafter := lasts_renderKept rewriter parent path keep (position + 1) (t :: before) after
    rw [renderKept]
    split
    · exact ht.lasts.seq hafter
    · exact hafter

theorem ends_renderItems (rewriter : UrlRewriter σ) (parent : NodeData) (path : Path) : ∀ (index : Nat)
    (before ts : List Tree),
    (renderItems rewriter parent path index before ts).Ends (Ending.ofAll (itemEndings parent path index before ts))
  | _, _, [] => by
    rw [renderItems, itemEndings]
    exact Render.ends_pure
  | index, before, t :: after => by
    have ht := ends_renderTree rewriter (⟨parent, before, after⟩ :: path) (some index) t
    have hafter (index : Nat) := ends_renderItems rewriter parent path index (t :: before) after
    rw [renderItems, itemEndings]
    split
    · exact ht.bind (hafter _)
    · exact hafter _
end

end BlogMarkdown.Markdown
