import BlogMarkdown.Proofs.Markdown.Composition
import BlogMarkdown.Proofs.Markdown.Targets
/-!
# What a rendering asks and writes

A rendering that succeeds asks its rewriter for some targets and adds a text to the output.  What it yields, in these
two respects, follows from what the renderings yield that it is made of.  Layout adds blanks and quotation marks to what
is written and takes blanks away, and nothing else.
-/
namespace BlogMarkdown.Markdown

open Dom Text

variable {σ : Type}

/-! ## Texts without their layout -/

/-- A character that layout neither adds nor takes away. -/
def isSolid (c : Char) : Bool := !isBlank c && c ≠ '>'

/-- What stands in a text besides its layout. -/
def solid (s : List Char) : List Char := s.filter isSolid

@[simp] theorem solid_nil : solid [] = [] := rfl

@[simp] theorem solid_append (s t : List Char) : solid (s ++ t) = solid s ++ solid t := List.filter_append ..

theorem solid_eq_nil {s : List Char} (h : ∀ c ∈ s, isSolid c = false) : solid s = [] :=
  List.filter_eq_nil_iff.2 fun c hc => by simp [h c hc]

theorem isSolid_of_isBlank {c : Char} (h : isBlank c = true) : isSolid c = false := by simp [isSolid, h]

theorem isSolid_of_isBreak {c : Char} (h : IsBreak c) : isSolid c = false := by rcases h with rfl | rfl <;> rfl

theorem isSolid_of_isIndent {c : Char} (h : IsIndent c) : isSolid c = false := by rcases h with rfl | rfl <;> rfl

theorem isSolid_of_isGap {c : Char} (h : IsGap c) : isSolid c = false :=
  h.elim (fun h => isSolid_of_isBreak (.inl h)) isSolid_of_isIndent

theorem solid_laid : ∀ {s t : List Char}, Laid s t → solid t = solid s
  | _, _, .nil => rfl
  | _, _, .char c h => by
    rw [solid, solid, List.filter_cons, List.filter_cons, ← solid, ← solid, solid_laid h]
  | _, _, @Laid.line c d indent s t hc hd hi h => by
    have hd' : isSolid d = false := by
      rcases hd with rfl | rfl
      · exact isSolid_of_isBreak hc
      · rfl
    have hindent : solid indent = [] := solid_eq_nil fun x hx => isSolid_of_isIndent (hi x hx)
    rw [solid, solid, List.filter_cons, List.filter_cons, hd', isSolid_of_isBreak hc, ← solid, ← solid]
    simp only [solid_append, hindent, List.nil_append, solid_laid h]
    rfl

theorem solid_arrives {s t : List Char} (h : Arrives s t) : solid t = solid s := by
  obtain ⟨newlines, rest, gap, laid, rfl, rfl, hn, hg, hl⟩ := h
  rw [solid_append, solid_append, solid_laid hl, solid_eq_nil fun c hc => isSolid_of_isGap (hg c hc),
    solid_eq_nil fun c hc => isSolid_of_isBreak (.inl (hn c hc))]

theorem solid_reverse (s : List Char) : solid s.reverse = (solid s).reverse := List.filter_reverse ..

theorem solid_dropWhile {p : Char → Bool} (hp : ∀ c, p c = true → isSolid c = false) (s : List Char) :
    solid (s.dropWhile p) = solid s := by
  have hdropped : solid (s.takeWhile p) = [] := solid_eq_nil fun c hc => hp c (List.mem_takeWhile_imp hc)
  rw [← List.takeWhile_append_dropWhile (p := p) (l := s), solid_append, hdropped, List.nil_append,
    List.takeWhile_append_dropWhile]

theorem solid_dropEndWhile {p : Char → Bool} (hp : ∀ c, p c = true → isSolid c = false) (s : List Char) :
    solid (dropEndWhile p s) = solid s := by
  rw [dropEndWhile, solid_reverse, solid_dropWhile hp, solid_reverse, List.reverse_reverse]

theorem solid_trimBlank (s : List Char) : solid (trimBlank s) = solid s := by
  rw [trimBlank, solid_dropEndWhile fun _ => isSolid_of_isBlank, solid_dropWhile fun _ => isSolid_of_isBlank]

/-! ## Outcomes -/

/-- What may be asked, each target with the form that it got, and written. -/
abbrev Outcome := List (String × String) → List Char → Prop

/-- One outcome behind another. -/
def Outcome.andThen (Q Q' : Outcome) : Outcome := fun asked more =>
  ∃ asked₁ asked₂ more₁ more₂, asked = asked₁ ++ asked₂ ∧ more = more₁ ++ more₂ ∧ Q asked₁ more₁ ∧ Q' asked₂ more₂

namespace Render

/-- A rendering that succeeds has an outcome of `Q`. -/
def Yields (rewriter : UrlRewriter σ) (Q : Outcome) (m : Render σ Unit) : Prop :=
  ∀ (sheet : Sheet σ) (text : List Char), sheet.writer.Spells text → (m.on sheet).1 = .ok () →
    ∃ asked more, Asked rewriter sheet.urls asked (m.on sheet).2.urls ∧
      (m.on sheet).2.writer.Spells (text ++ more) ∧ Q asked more

variable {rewriter : UrlRewriter σ} {Q Q' : Outcome} {m : Render σ Unit}

theorem Yields.mono (h : m.Yields rewriter Q) (hQ : ∀ asked more, Q asked more → Q' asked more) :
    m.Yields rewriter Q' := by
  intro sheet text ht hok
  obtain ⟨asked, more, ha, hs, h⟩ := h sheet text ht hok
  exact ⟨asked, more, ha, hs, hQ asked more h⟩

theorem yields_failure (e : Error) : (throw e : Render σ Unit).Yields rewriter Q := fun _ _ _ hok => nomatch hok

theorem yields_pure (h : Q [] []) : (pure () : Render σ Unit).Yields rewriter Q :=
  fun _ text ht _ => ⟨[], [], .nil _, by rwa [List.append_nil], h⟩

theorem yields_layout {f : Writer → Writer}
    (hf : ∀ w text, w.Spells text → ∃ more, (f w).Spells (text ++ more) ∧ Q [] more) :
    (layout f : Render σ Unit).Yields rewriter Q := by
  intro sheet text ht _
  obtain ⟨more, hs, h⟩ := hf sheet.writer text ht
  exact ⟨[], more, .nil _, hs, h⟩

theorem yields_write {s : List Char} (h : ∀ more, Arrives s more → Q [] more) :
    (write s : Render σ Unit).Yields rewriter Q := yields_layout fun _ _ ht => by
  obtain ⟨more, hs, hmore⟩ := ht.write_arrives s
  exact ⟨more, hs, h more hmore⟩

theorem yields_writeVerbatim {s : List Char} (h : ∀ more, Arrives s more → Q [] more) :
    (writeVerbatim s : Render σ Unit).Yields rewriter Q := yields_layout fun _ _ ht => by
  obtain ⟨more, hs, hmore⟩ := ht.enterVerbatim.write_arrives s
  exact ⟨more, hs.leaveVerbatim, h more hmore⟩

theorem yields_ensureLinefeeds (n : Nat) (h : Q [] []) : (ensureLinefeeds n : Render σ Unit).Yields rewriter Q :=
  yields_layout fun _ _ ht => ⟨[], by rw [List.append_nil]; exact ht.ensureLinefeeds n, h⟩

theorem Yields.bind {f : Unit → Render σ Unit} (hm : m.Yields rewriter Q) (hf : (f ()).Yields rewriter Q') :
    (m >>= f).Yields rewriter (Q.andThen Q') := by
  intro sheet text ht hok
  have hm := hm sheet text ht
  rw [on_bind] at hok ⊢
  generalize m.on sheet = outcome at *
  obtain ⟨result, after⟩ := outcome
  cases result with
  | error e => cases hok
  | ok u =>
    obtain ⟨asked, more, ha, hs, h⟩ := hm rfl
    obtain ⟨asked', more', ha', hs', h'⟩ := hf after _ hs hok
    exact ⟨asked ++ asked', more ++ more', ha.append ha', by rwa [← List.append_assoc], asked, asked', more, more', rfl,
      rfl, h, h'⟩

theorem Yields.indented {s : List Char} (hs : ∀ c ∈ s, IsIndent c) (h : m.Yields rewriter Q)
    (hQ : ∀ asked gap more, (∀ c ∈ gap, IsGap c) → Q asked more → Q' asked (gap ++ more)) :
    (Render.indented s m).Yields rewriter Q' := by
  intro sheet text ht hok
  obtain ⟨gap, hgap, ht⟩ := ht.pushIndent hs
  rw [on_indented] at hok ⊢
  obtain ⟨asked, more, ha, hmore, h⟩ := h ⟨sheet.writer.pushIndent s, sheet.urls⟩ _ ht hok
  refine ⟨asked, gap ++ more, ha, ?_, hQ asked gap more hgap h⟩
  rw [← List.append_assoc]
  exact hmore.popIndent.ensureLinefeeds 1

theorem yields_target {target : String} {f : List Char → Render σ Unit}
    (hf : ∀ form : String, (f form.toList).Yields rewriter fun asked more => Q ((target, form) :: asked) more) :
    (Render.target rewriter target >>= f).Yields rewriter Q := by
  intro sheet text ht hok
  rw [on_bind, on_target] at hok ⊢
  obtain ⟨asked, more, ha, hs, h⟩ :=
    hf (rewriter.rewrite target sheet.urls).1 ⟨sheet.writer, (rewriter.rewrite target sheet.urls).2⟩ text ht hok
  exact ⟨_, more, .cons target ha, hs, h⟩

/-- What is rendered aside comes to its text, or is left for what is done with a failure. -/
theorem Yields.aside {f : Except Error Writer → Render σ Unit} (hm : m.Yields rewriter Q)
    (hok : ∀ asked text w, Q asked text → w.Spells text →
      (f (.ok w)).Yields rewriter fun asked' more => Q' (asked ++ asked') more)
    (herror : ∀ e urls, (m.on ⟨.empty, urls⟩).1 = .error e → ∀ w text, w.Spells text →
      ((f (.error e)).on ⟨w, (m.on ⟨.empty, urls⟩).2.urls⟩).1 = .ok () →
      ∃ asked more, Asked rewriter urls asked ((f (.error e)).on ⟨w, (m.on ⟨.empty, urls⟩).2.urls⟩).2.urls ∧
        ((f (.error e)).on ⟨w, (m.on ⟨.empty, urls⟩).2.urls⟩).2.writer.Spells (text ++ more) ∧ Q' asked more) :
    (Render.aside m >>= f).Yields rewriter Q' := by
  intro sheet text ht hrun
  have hm := hm ⟨.empty, sheet.urls⟩ [] Writer.spells_empty
  have herror := fun e he => herror e sheet.urls he sheet.writer text ht
  rw [on_bind, on_aside] at hrun ⊢
  generalize m.on ⟨.empty, sheet.urls⟩ = outcome at *
  obtain ⟨result, after⟩ := outcome
  cases result with
  | error e => exact herror e rfl hrun
  | ok u =>
    obtain ⟨asked, inner, ha, hs, h⟩ := hm rfl
    obtain ⟨asked', more, ha', hs', h'⟩ := hok asked inner after.writer h hs ⟨sheet.writer, after.urls⟩ text ht hrun
    exact ⟨asked ++ asked', more, ha.append ha', hs', h'⟩

/-! ## Renderings that only write -/

/-- A rendering asks for nothing and writes a text, up to its layout. -/
abbrev Writes (rewriter : UrlRewriter σ) (s : List Char) (m : Render σ Unit) : Prop :=
  m.Yields rewriter fun asked more => asked = [] ∧ solid more = solid s

theorem writes_write (s : List Char) : (write s : Render σ Unit).Writes rewriter s :=
  yields_write fun _ h => ⟨rfl, solid_arrives h⟩

theorem writes_writeVerbatim (s : List Char) : (writeVerbatim s : Render σ Unit).Writes rewriter s :=
  yields_writeVerbatim fun _ h => ⟨rfl, solid_arrives h⟩

theorem writes_ensureLinefeeds (n : Nat) : (ensureLinefeeds n : Render σ Unit).Writes rewriter [] :=
  yields_ensureLinefeeds n ⟨rfl, rfl⟩

theorem Writes.bind {s t : List Char} {f : Unit → Render σ Unit} (hm : m.Writes rewriter s)
    (hf : (f ()).Writes rewriter t) : (m >>= f).Writes rewriter (s ++ t) :=
  (Yields.bind hm hf).mono fun _ _ ⟨_, _, _, _, ha, hmore, h, h'⟩ => by
    rw [ha, hmore, h.1, h'.1, solid_append, solid_append, h.2, h'.2]
    exact ⟨rfl, rfl⟩

theorem writes_writeBetween (start text stop special : List Char) :
    (writeBetween start text stop special : Render σ Unit).Writes rewriter (start ++ escape special text ++ stop) := by
  rw [writeBetween_eq]
  exact writes_write _

theorem writes_renderFenced (text : List Char) :
    (renderFenced text : Render σ Unit).Writes rewriter (codeFence ++ expandTabs 8 text ++ codeFence) := by
  have hblank : (ensureLinefeeds 2 : Render σ Unit).Writes rewriter [] := writes_ensureLinefeeds 2
  have h := hblank.bind (f := fun _ => _) <|
    (writes_write codeFence).bind (f := fun _ => _) <| (writes_write ['\n']).bind (f := fun _ => _) <|
    (writes_writeVerbatim (expandTabs 8 text)).bind (f := fun _ => _) <|
    (writes_ensureLinefeeds 1).bind (f := fun _ => _) <| (writes_write codeFence).bind (f := fun _ => _) <|
    writes_ensureLinefeeds 2
  have hnewline : solid ['\n'] = [] := rfl
  refine h.mono fun _ _ ⟨ha, hmore⟩ => ⟨ha, hmore.trans ?_⟩
  simp only [solid_append, hnewline, List.nil_append, List.append_nil, List.append_assoc]

end Render

/-! ## Outcomes that last -/

/-- Outcomes that stay what they are when their text is laid out anew, or stands between texts without a bracket. -/
structure Outcome.Lasting (Q : Outcome) : Prop where
  behind {asked : List (String × String)} {before more : List Char} : ']' ∉ before → Q asked more →
    Q asked (before ++ more)
  before {asked : List (String × String)} {more after : List Char} : ']' ∉ after → Q asked more →
    Q asked (more ++ after)
  arrives {asked : List (String × String)} {s t : List Char} : Q asked s → Arrives s t → Q asked t
  onOneLine {asked : List (String × String)} {s : List Char} : Q asked s → Q asked (onOneLine s)
  trimBlank {asked : List (String × String)} {s : List Char} : Q asked s → Q asked (trimBlank s)

/-- What may follow something that was asked before. -/
def Outcome.after (Q : Outcome) (asked : List (String × String)) : Outcome :=
  fun asked' more => Q (asked ++ asked') more

theorem Outcome.Lasting.after {Q : Outcome} (h : Q.Lasting) (asked : List (String × String)) :
    (Outcome.after Q asked).Lasting := ⟨h.behind, h.before, h.arrives, h.onOneLine, h.trimBlank⟩

theorem mem_of_solid_eq {s t : List Char} {c : Char} (hc : isSolid c = true) (h : solid t = solid s) :
    c ∈ t → c ∈ s := by
  intro hmem
  have hsolid : c ∈ solid t := List.mem_filter.2 ⟨hmem, hc⟩
  rw [h] at hsolid
  exact (List.mem_filter.1 hsolid).1

theorem bracket_not_mem_gap {gap : List Char} (h : ∀ c ∈ gap, IsGap c) : ']' ∉ gap := fun hmem => by
  rcases h ']' hmem with h | h | h <;> cases h

theorem bracket_not_mem_marker {path : Path} {index : Option Nat} {marker : List Char}
    (h : itemMarker? path index = some marker) : ']' ∉ marker := fun hmem =>
  absurd (of_mem_itemMarker? h hmem) (by decide)

namespace Render

variable {rewriter : UrlRewriter σ} {Q Q' : Outcome} {m : Render σ Unit}

/-- A rendering asks for nothing and writes no bracket. -/
abbrev Marks (rewriter : UrlRewriter σ) (m : Render σ Unit) : Prop :=
  m.Yields rewriter fun asked more => asked = [] ∧ ']' ∉ more

theorem marks_write {s : List Char} (h : ']' ∉ s) : (write s : Render σ Unit).Marks rewriter :=
  yields_write fun _ harrives => ⟨rfl, fun hmem => h (mem_of_solid_eq rfl (solid_arrives harrives) hmem)⟩

theorem marks_ensureLinefeeds (n : Nat) : (ensureLinefeeds n : Render σ Unit).Marks rewriter :=
  yields_ensureLinefeeds n ⟨rfl, nofun⟩

theorem Yields.behind {f : Unit → Render σ Unit} (hQ : Q.Lasting) (hm : m.Marks rewriter)
    (hf : (f ()).Yields rewriter Q) : (m >>= f).Yields rewriter Q :=
  (Yields.bind hm hf).mono fun _ _ ⟨_, _, _, _, ha, hmore, h, h'⟩ => by
    rw [ha, hmore, h.1]
    exact hQ.behind h.2 h'

theorem Yields.before {f : Unit → Render σ Unit} (hQ : Q.Lasting) (hm : m.Yields rewriter Q)
    (hf : (f ()).Marks rewriter) : (m >>= f).Yields rewriter Q :=
  (Yields.bind hm hf).mono fun _ _ ⟨_, _, _, _, ha, hmore, h, h'⟩ => by
    rw [ha, hmore, h'.1, List.append_nil]
    exact hQ.before h'.2 h

theorem yields_renderHeading (hQ : Q.Lasting) (level : Nat) {text : List Char} (h : Q [] text) :
    (renderHeading level text : Render σ Unit).Yields rewriter Q := by
  have hhashes : ']' ∉ List.replicate level '#' ++ [' '] := by simp
  refine .behind hQ (marks_ensureLinefeeds 2) <| .behind hQ (marks_write hhashes) <|
    .before hQ ?_ (marks_ensureLinefeeds 2)
  exact yields_write fun _ harrives => hQ.arrives (hQ.onOneLine h) harrives

section

variable {element : NodeData} {all items otherwise : Render σ Unit}

theorem yields_heading (hQ : Q.Lasting) (level : Nat) (hall : all.Yields rewriter Q)
    (hotherwise : ∀ e urls, (all.on ⟨.empty, urls⟩).1 = .error e →
      ∃ asked, Asked rewriter urls asked (all.on ⟨.empty, urls⟩).2.urls ∧ otherwise.Yields rewriter (Q.after asked)) :
    ((Rule.heading level).render rewriter element all items otherwise).Yields rewriter Q := by
  refine hall.aside (fun asked text w h hw => ?_) fun e urls he w text hw hok => ?_
  · dsimp only
    rw [hw.text_eq, liftExcept_ok, pure_bind]
    exact yields_renderHeading (hQ.after asked) level (by rwa [Outcome.after, List.append_nil])
  · obtain ⟨asked, ha, h⟩ := hotherwise e urls he
    obtain ⟨asked', more, ha', hs, h⟩ := h ⟨w, (all.on ⟨.empty, urls⟩).2.urls⟩ text hw hok
    exact ⟨asked ++ asked', more, ha.append ha', hs, h⟩

theorem yields_emphasis (hQ : Q.Lasting) {mark : List Char} (hmark : ']' ∉ mark) (hall : all.Yields rewriter Q) :
    ((Rule.emphasis mark).render rewriter element all items otherwise).Yields rewriter Q :=
  .behind hQ (marks_write hmark) <| .before hQ hall (marks_write hmark)

theorem yields_list (hQ : Q.Lasting) (hitems : items.Yields rewriter Q) :
    (Rule.list.render rewriter element all items otherwise).Yields rewriter Q :=
  .behind hQ (marks_ensureLinefeeds 2) <| .before hQ hitems (marks_ensureLinefeeds 2)

theorem yields_item (hQ : Q.Lasting) {marker : List Char} (hmarker : ']' ∉ marker) (hall : all.Yields rewriter Q) :
    ((Rule.item marker).render rewriter element all items otherwise).Yields rewriter Q :=
  (Yields.behind (f := fun _ => all) hQ (marks_write hmarker) hall).indented (by simp [IsIndent]) fun _ _ _ hgap h =>
    hQ.behind (bracket_not_mem_gap hgap) h

theorem yields_quotation (hQ : Q.Lasting) (hall : all.Yields rewriter Q) :
    (Rule.quotation.render rewriter element all items otherwise).Yields rewriter Q :=
  .behind hQ (marks_ensureLinefeeds 2) <|
    (Yields.behind (f := fun _ => all) hQ (marks_write (by decide)) hall).indented (by simp [IsIndent])
      fun _ _ _ hgap h => hQ.behind (bracket_not_mem_gap hgap) h

end

theorem yields_renderFigure (hQ : Q.Lasting) {figure : Render σ Unit} {Q₁ Q₂ : Outcome} {caption : List Char}
    (hfigure : figure.Yields rewriter Q₁) (hcaption : (write caption : Render σ Unit).Yields rewriter Q₂)
    (h : ∀ asked₁ asked₂ more₁ between more₂, Q₁ asked₁ more₁ → ']' ∉ between → Q₂ asked₂ more₂ →
      Q (asked₁ ++ asked₂) (more₁ ++ (between ++ more₂))) :
    (renderFigure figure caption).Yields rewriter Q := by
  have hmark : (write captionStart : Render σ Unit).Marks rewriter := marks_write (by decide)
  have hbody := Yields.bind (f := fun _ => do write captionStart; write caption) hfigure <|
    Yields.bind (f := fun _ => write caption) hmark hcaption
  have hbody' : (do figure; write captionStart; write caption : Render σ Unit).Yields rewriter Q :=
    hbody.mono fun asked more hmore => by
      obtain ⟨asked₁, _, more₁, _, rfl, rfl, h₁, asked₃, asked₂, between, more₂, rfl, rfl, hbetween, h₂⟩ := hmore
      obtain rfl : asked₃ = [] := hbetween.1
      exact h asked₁ asked₂ more₁ between more₂ h₁ hbetween.2 h₂
  have hend : (write figureEnd : Render σ Unit).Marks rewriter := marks_write (by decide)
  have hstart : (write figureStart : Render σ Unit).Marks rewriter := marks_write (by decide)
  have hfinished := Yields.behind (f := fun _ => _) hQ hstart <|
    Yields.before (f := fun _ => write figureEnd) hQ hbody' hend
  simpa only [renderFigure, bind_assoc] using hfinished

theorem yields_renderCaptioned (hQ : Q.Lasting) {figure rest : Render σ Unit} {Q₁ Q₂ : Outcome} (hQ₂ : Q₂.Lasting)
    (hfigure : figure.Yields rewriter Q₁) (hrest : rest.Yields rewriter Q₂)
    (h : ∀ asked₁ asked₂ more₁ between more₂, Q₁ asked₁ more₁ → ']' ∉ between → Q₂ asked₂ more₂ →
      Q (asked₂ ++ asked₁) (more₁ ++ (between ++ more₂))) :
    (renderCaptioned figure rest).Yields rewriter Q := by
  refine hrest.aside (fun asked text w htext hw => ?_) fun e urls _ w text _ hok => ?_
  · have hcaption : (Except.ok w : Except Error Writer).bind Writer.text = .ok text := hw.text_eq
    simp only [hcaption, liftExcept_ok, pure_bind]
    refine yields_renderFigure (hQ.after asked) hfigure
      (yields_write (Q := fun asked' more => asked' = [] ∧ Q₂ asked more)
        fun _ harrives => ⟨rfl, hQ₂.arrives (hQ₂.trimBlank htext) harrives⟩) ?_
    rintro asked₁ _ more₁ between more₂ h₁ hbetween ⟨rfl, h₂⟩
    rw [Outcome.after, List.append_nil]
    exact h asked₁ asked more₁ between more₂ h₁ hbetween h₂
  · cases hok

/-- What the contents of a node ask for on a sheet of their own, also if they cannot be rendered. -/
theorem asked_of_renderKept (rewriter : UrlRewriter σ) (parent : NodeData) (path : Path) (children : List Tree)
    (urls : σ) : ∃ asked, Asked rewriter urls asked
        ((renderKept rewriter parent path (fun _ => true) 0 [] children).on ⟨.empty, urls⟩).2.urls ∧
      ∀ p ∈ asked, Names (.node parent children) p.1 := by
  have h : (renderKept rewriter parent path (fun _ => true) 0 [] children).AccountsFor rewriter
      (.node parent children) :=
    accounts_renderKept rewriter parent path _ 0 [] children (fun _ ht _ => .of_child ht) fun _ ht _ => .of_child ht
  obtain ⟨_, asked, -, hasked, hnames, -⟩ := h ⟨.empty, urls⟩ [] Writer.spells_empty
  exact ⟨asked, hasked, hnames⟩

end Render

end BlogMarkdown.Markdown
