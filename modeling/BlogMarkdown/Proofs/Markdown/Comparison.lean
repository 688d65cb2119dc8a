import BlogMarkdown.Proofs.Markdown.Outcome
/-!
# Comparing renderings

Two renderings are run side by side, each on a sheet of its own.  Where both come from one tree they succeed or fail
alike, and from one state of the URL rewriter they write the same up to the layout: what stands in the output before,
what is requested, and how deep the lines are indented changes nothing else.
-/
namespace BlogMarkdown.Markdown

open Dom Text

variable {σ : Type}

/-! ## Relations of texts -/

/-- Two texts are related whatever both have in front, and whatever both have behind. -/
structure Framed (R : List Char → List Char → Prop) : Prop where
  front (s : List Char) {t t' : List Char} : R t t' → R (s ++ t) (s ++ t')
  back {s s' : List Char} (t : List Char) : R s s' → R (s ++ t) (s' ++ t)

theorem framed_eq : Framed Eq := ⟨fun s _ _ h => congrArg (s ++ ·) h, fun t h => congrArg (· ++ t) h⟩

theorem framed_eq_iff (p : Prop) : Framed fun s s' => s = s' ↔ p :=
  ⟨fun s _ _ h => (List.append_right_inj s).trans h, fun t h => (List.append_left_inj t).trans h⟩

theorem Framed.given {R : List Char → List Char → Prop} (h : Framed R) (p : Prop) : Framed fun s s' => p → R s s' :=
  ⟨fun s _ _ hR hp => h.front s (hR hp), fun t hR hp => h.back t (hR hp)⟩

/-- A text is the other one, unless something makes the other one longer. -/
def Grown (same : Prop) (s s' : List Char) : Prop := (same → s = s') ∧ (¬ same → s.length < s'.length)

theorem grown_true {s s' : List Char} : Grown True s s' ↔ s = s' :=
  ⟨fun h => h.1 trivial, fun h => ⟨fun _ => h, fun hnot => absurd trivial hnot⟩⟩

theorem Grown.length_le {same : Prop} {s s' : List Char} (h : Grown same s s') : s.length ≤ s'.length := by
  by_cases hsame : same
  · rw [h.1 hsame]
  · exact Nat.le_of_lt (h.2 hsame)

theorem Grown.append {same same' : Prop} {s s' t t' : List Char} (h : Grown same s s') (h' : Grown same' t t') :
    Grown (same ∧ same') (s ++ t) (s' ++ t') := by
  refine ⟨fun ⟨hsame, hsame'⟩ => by rw [h.1 hsame, h'.1 hsame'], fun hnot => ?_⟩
  have hle := h.length_le
  have hle' := h'.length_le
  rw [List.length_append, List.length_append]
  rcases not_and_or.1 hnot with hsame | hsame'
  · have hlt := h.2 hsame
    omega
  · have hlt := h'.2 hsame'
    omega

theorem framed_grown (same : Prop) : Framed (Grown same) where
  front s _ _ h := ⟨fun hsame => by rw [h.1 hsame], fun hsame => by simpa using h.2 hsame⟩
  back t h := ⟨fun hsame => by rw [h.1 hsame], fun hsame => by simpa using h.2 hsame⟩

namespace Render

/-- Two renderings succeed or fail alike on any sheets.  From one state of the URL rewriter they lead to one state, and
where they succeed, what they write is related besides its layout. -/
def Compares (R : List Char → List Char → Prop) (m m' : Render σ Unit) : Prop :=
  ∀ (sheet sheet' : Sheet σ) (text text' : List Char), sheet.writer.Spells text → sheet'.writer.Spells text' →
    (m.on sheet).1 = (m'.on sheet').1 ∧ ∃ more more', (m.on sheet).2.writer.Spells (text ++ more) ∧
      (m'.on sheet').2.writer.Spells (text' ++ more') ∧
      (sheet.urls = sheet'.urls → (m.on sheet).2.urls = (m'.on sheet').2.urls ∧
        ((m.on sheet).1 = .ok () → R (solid more) (solid more')))

/-- A rendering depends on its sheet for the layout and for the state of the URL rewriter only. -/
abbrev Uniform (m : Render σ Unit) : Prop := Compares Eq m m

variable {R R' R'' : List Char → List Char → Prop} {m m' : Render σ Unit}

theorem Compares.mono (h : Compares R m m') (hR : ∀ s s', R s s' → R' s s') : Compares R' m m' := by
  intro sheet sheet' text text' ht ht'
  obtain ⟨hresult, more, more', hs, hs', hmore⟩ := h sheet sheet' text text' ht ht'
  exact ⟨hresult, more, more', hs, hs', fun hurls => ⟨(hmore hurls).1, fun hok => hR _ _ ((hmore hurls).2 hok)⟩⟩

theorem compares_layout {f f' : Writer → Writer}
    (h : ∀ w w' text text', w.Spells text → w'.Spells text' → ∃ more more', (f w).Spells (text ++ more) ∧
      (f' w').Spells (text' ++ more') ∧ R (solid more) (solid more')) :
    Compares R (layout f : Render σ Unit) (layout f') := by
  intro sheet sheet' text text' ht ht'
  obtain ⟨more, more', hs, hs', hmore⟩ := h _ _ text text' ht ht'
  exact ⟨rfl, more, more', hs, hs', fun hurls => ⟨hurls, fun _ => hmore⟩⟩

theorem compares_write {s s' : List Char} (h : R (solid s) (solid s')) :
    Compares R (write s : Render σ Unit) (write s') := compares_layout fun _ _ _ _ ht ht' => by
  obtain ⟨more, hs, hmore⟩ := ht.write_arrives s
  obtain ⟨more', hs', hmore'⟩ := ht'.write_arrives s'
  exact ⟨more, more', hs, hs', by rwa [solid_arrives hmore, solid_arrives hmore']⟩

theorem uniform_write (s : List Char) : (write s : Render σ Unit).Uniform := compares_write rfl

theorem uniform_writeVerbatim (s : List Char) : (writeVerbatim s : Render σ Unit).Uniform :=
  compares_layout fun _ _ _ _ ht ht' => by
    obtain ⟨more, hs, hmore⟩ := ht.enterVerbatim.write_arrives s
    obtain ⟨more', hs', hmore'⟩ := ht'.enterVerbatim.write_arrives s
    refine ⟨more, more', hs.leaveVerbatim, hs'.leaveVerbatim, ?_⟩
    rw [solid_arrives hmore, solid_arrives hmore']

theorem uniform_ensureLinefeeds (n : Nat) : (ensureLinefeeds n : Render σ Unit).Uniform :=
  compares_layout fun _ _ text text' ht ht' => by
    refine ⟨[], [], ?_, ?_, rfl⟩
    · rw [List.append_nil]
      exact ht.ensureLinefeeds n
    · rw [List.append_nil]
      exact ht'.ensureLinefeeds n

theorem uniform_pure : (pure () : Render σ Unit).Uniform := fun _ _ text text' ht ht' =>
  ⟨rfl, [], [], by rwa [List.append_nil], by rwa [List.append_nil], fun hurls => ⟨hurls, fun _ => rfl⟩⟩

theorem compares_throw (e : Error) : Compares R (throw e : Render σ Unit) (throw e) := fun _ _ text text' ht ht' =>
  ⟨rfl, [], [], by rwa [List.append_nil], by rwa [List.append_nil], fun hurls => ⟨hurls, nofun⟩⟩

theorem Compares.bind {f f' : Unit → Render σ Unit} (hm : Compares R m m') (hf : Compares R' (f ()) (f' ()))
    (h : ∀ s s' t t', R s s' → R' t t' → R'' (s ++ t) (s' ++ t')) : Compares R'' (m >>= f) (m' >>= f') := by
  intro sheet sheet' text text' ht ht'
  obtain ⟨hresult, more, more', hs, hs', hmore⟩ := hm sheet sheet' text text' ht ht'
  rw [on_bind, on_bind]
  generalize m.on sheet = outcome at *
  generalize m'.on sheet' = outcome' at *
  obtain ⟨result, after⟩ := outcome
  obtain ⟨result', after'⟩ := outcome'
  dsimp only at hresult
  subst hresult
  cases result with
  | error e => exact ⟨rfl, more, more', hs, hs', fun hurls => ⟨(hmore hurls).1, nofun⟩⟩
  | ok u =>
    obtain ⟨hresult, rest, rest', hr, hr', hrest⟩ := hf after after' _ _ hs hs'
    refine ⟨hresult, more ++ rest, more' ++ rest', by rwa [← List.append_assoc], by rwa [← List.append_assoc],
      fun hurls => ⟨(hrest (hmore hurls).1).1, fun hok => ?_⟩⟩
    rw [solid_append, solid_append]
    exact h _ _ _ _ ((hmore hurls).2 rfl) ((hrest (hmore hurls).1).2 hok)

theorem Compares.behind {f f' : Unit → Render σ Unit} (hR : Framed R) (hm : Compares Eq m m')
    (hf : Compares R (f ()) (f' ())) : Compares R (m >>= f) (m' >>= f') :=
  hm.bind hf fun s _ _ _ he h => he ▸ hR.front s h

theorem Compares.before {f f' : Unit → Render σ Unit} (hR : Framed R) (hm : Compares R m m')
    (hf : Compares Eq (f ()) (f' ())) : Compares R (m >>= f) (m' >>= f') :=
  hm.bind hf fun _ _ t _ h he => he ▸ hR.back t h

theorem Compares.indented {s : List Char} (hs : ∀ c ∈ s, IsIndent c) (h : Compares R m m') :
    Compares R (Render.indented s m) (Render.indented s m') := by
  intro sheet sheet' text text' ht ht'
  obtain ⟨gap, hgap, ht⟩ := ht.pushIndent hs
  obtain ⟨gap', hgap', ht'⟩ := ht'.pushIndent hs
  obtain ⟨hresult, more, more', hm, hm', hmore⟩ :=
    h ⟨sheet.writer.pushIndent s, sheet.urls⟩ ⟨sheet'.writer.pushIndent s, sheet'.urls⟩ _ _ ht ht'
  rw [on_indented, on_indented]
  refine ⟨hresult, gap ++ more, gap' ++ more', ?_, ?_, fun hurls => ⟨(hmore hurls).1, fun hok => ?_⟩⟩
  · rw [← List.append_assoc]
    exact hm.popIndent.ensureLinefeeds 1
  · rw [← List.append_assoc]
    exact hm'.popIndent.ensureLinefeeds 1
  · rw [solid_append, solid_append, solid_eq_nil fun c hc => isSolid_of_isGap (hgap c hc),
      solid_eq_nil fun c hc => isSolid_of_isGap (hgap' c hc)]
    exact (hmore hurls).2 hok

/-- From one state of the rewriter a target gets one form. -/
theorem uniform_target {rewriter : UrlRewriter σ} {url : String} {f : List Char → Render σ Unit}
    (hf : ∀ form form', Compares (fun s s' => form = form' → s = s') (f form) (f form')) :
    (target rewriter url >>= f).Uniform := by
  intro sheet sheet' text text' ht ht'
  obtain ⟨hresult, more, more', hm, hm', hmore⟩ :=
    hf (rewriter.rewrite url sheet.urls).1.toList (rewriter.rewrite url sheet'.urls).1.toList
      ⟨sheet.writer, (rewriter.rewrite url sheet.urls).2⟩ ⟨sheet'.writer, (rewriter.rewrite url sheet'.urls).2⟩
      text text' ht ht'
  rw [on_bind, on_bind, on_target, on_target]
  refine ⟨hresult, more, more', hm, hm', fun hurls => ?_⟩
  rw [hurls] at hmore ⊢
  exact ⟨(hmore rfl).1, fun hok => (hmore rfl).2 hok rfl⟩

/-- What two renderings come to aside compares as they do. -/
theorem Compares.aside {f f' : Except Error Writer → Render σ Unit} (hm : Compares R m m')
    (hok : ∀ w w' text text', w.Spells text → w'.Spells text' →
      Compares (fun s s' => R (solid text) (solid text') → R' s s') (f (.ok w)) (f' (.ok w')))
    (herror : ∀ e, Compares R' (f (.error e)) (f' (.error e))) :
    Compares R' (Render.aside m >>= f) (Render.aside m' >>= f') := by
  intro sheet sheet' text text' ht ht'
  obtain ⟨hresult, inner, inner', hs, hs', hinner⟩ :=
    hm ⟨.empty, sheet.urls⟩ ⟨.empty, sheet'.urls⟩ [] [] Writer.spells_empty Writer.spells_empty
  rw [on_bind, on_bind, on_aside, on_aside]
  dsimp only at hinner ⊢
  generalize m.on ⟨.empty, sheet.urls⟩ = outcome at *
  generalize m'.on ⟨.empty, sheet'.urls⟩ = outcome' at *
  obtain ⟨result, after⟩ := outcome
  obtain ⟨result', after'⟩ := outcome'
  dsimp only at hresult
  subst hresult
  cases result with
  | error e =>
    obtain ⟨hresult, more, more', hm, hm', hmore⟩ :=
      herror e ⟨sheet.writer, after.urls⟩ ⟨sheet'.writer, after'.urls⟩ text text' ht ht'
    exact ⟨hresult, more, more', hm, hm', fun hurls => hmore (hinner hurls).1⟩
  | ok u =>
    obtain ⟨hresult, more, more', hm, hm', hmore⟩ :=
      hok after.writer after'.writer inner inner' hs hs' ⟨sheet.writer, after.urls⟩ ⟨sheet'.writer, after'.urls⟩
        text text' ht ht'
    refine ⟨hresult, more, more', hm, hm', fun hurls => ?_⟩
    obtain ⟨hafter, hR⟩ := hinner hurls
    exact ⟨(hmore hafter).1, fun hok => (hmore hafter).2 hok (hR rfl)⟩

end Render

open Render

/-! ## Elements -/

section

variable {same same' : Prop} {rewriter : UrlRewriter σ}

theorem uniform_writeBetween (start text stop special : List Char) :
    (writeBetween start text stop special : Render σ Unit).Uniform := by
  rw [writeBetween_eq]
  exact uniform_write _

/-- A form between the same texts. -/
theorem compares_form (start form form' stop special : List Char) :
    Compares (fun s s' => form = form' → s = s') (writeBetween start form stop special : Render σ Unit)
      (writeBetween start form' stop special) := by
  rw [writeBetween_eq, writeBetween_eq]
  exact compares_write fun h => by rw [h]

theorem uniform_renderLink (link : NodeData) (text : List Char) : (renderLink rewriter link text).Uniform :=
  uniform_target fun form form' =>
    .behind (framed_eq.given _) (uniform_writeBetween _ _ _ _) (compares_form _ form form' _ _)

theorem uniform_renderImage (image : NodeData) : (renderImage rewriter image).Uniform := by
  refine uniform_target fun form form' => .behind (framed_eq.given _) (uniform_writeBetween _ _ _ _) ?_
  split
  · exact compares_form _ form form' _ _
  · exact .before (framed_eq.given _) (compares_form _ form form' _ _) (uniform_writeBetween _ _ _ _)

theorem uniform_renderFenced (text : List Char) : (renderFenced text : Render σ Unit).Uniform :=
  .behind framed_eq (uniform_ensureLinefeeds 2) <| .behind framed_eq (uniform_write _) <|
    .behind framed_eq (uniform_write _) <| .behind framed_eq (uniform_writeVerbatim _) <|
    .behind framed_eq (uniform_ensureLinefeeds 1) <| .behind framed_eq (uniform_write _) <| uniform_ensureLinefeeds 2

theorem compares_renderHeading (level : Nat) (text text' : List Char) :
    Compares (fun s s' => solid text = solid text' → s = s') (renderHeading level text : Render σ Unit)
      (renderHeading level text') := by
  have hline : Compares (fun s s' => solid text = solid text' → s = s') (write (onOneLine text) : Render σ Unit)
      (write (onOneLine text')) :=
    compares_write fun h => by rwa [solid_laid (Laid.onOneLine text), solid_laid (Laid.onOneLine text')]
  exact .behind (framed_eq.given _) (uniform_ensureLinefeeds 2) <| .behind (framed_eq.given _) (uniform_write _) <|
    .before (framed_eq.given _) hline (uniform_ensureLinefeeds 2)

theorem compares_renderFigure {figure figure' : Render σ Unit} {caption caption' : List Char} {p : Prop}
    (hfigure : Compares (Grown same) figure figure') (hcaption : p → Grown same' (solid caption) (solid caption')) :
    Compares (fun s s' => p → Grown (same ∧ same') s s') (renderFigure figure caption) (renderFigure figure' caption') := by
  have hgrown := (framed_grown same').given p
  have hwritten : Compares (fun s s' => p → Grown same' s s') (write caption : Render σ Unit) (write caption') :=
    compares_write hcaption
  have hbelow : Compares (fun s s' => p → Grown same' s s')
      (do write captionStart; write caption; write figureEnd : Render σ Unit)
      (do write captionStart; write caption'; write figureEnd) :=
    .behind hgrown (uniform_write captionStart) <| .before hgrown hwritten (uniform_write figureEnd)
  exact .behind ((framed_grown _).given p) (uniform_write figureStart) <|
    hfigure.bind hbelow fun _ _ _ _ h h' hp => h.append (h' hp)

/-- The text of a caption that is rendered aside compares as its rendering does. -/
theorem compares_renderCaptioned {figure figure' rest rest' : Render σ Unit}
    (hfigure : Compares (Grown same) figure figure') (hrest : Compares (Grown same') rest rest') :
    Compares (Grown (same ∧ same')) (renderCaptioned figure rest) (renderCaptioned figure' rest') := by
  refine hrest.aside (fun w w' text text' hw hw' => ?_) fun e => compares_throw e
  have hcaption : (Except.ok w : Except Error Writer).bind Writer.text = .ok text := hw.text_eq
  have hcaption' : (Except.ok w' : Except Error Writer).bind Writer.text = .ok text' := hw'.text_eq
  simp only [hcaption, hcaption', liftExcept_ok, pure_bind]
  refine compares_renderFigure hfigure fun h => ?_
  rwa [solid_trimBlank, solid_trimBlank]

/-- **A rule is uniform** if the renderings that it is made of are. -/
theorem Rule.uniform {element : NodeData} {all items otherwise : Render σ Unit} (hall : all.Uniform)
    (hitems : items.Uniform) (hotherwise : otherwise.Uniform) (rule : Rule) :
    (rule.render rewriter element all items otherwise).Uniform := by
  cases rule with
  | heading level =>
    refine hall.aside (fun w w' text text' hw hw' => ?_) fun e => hotherwise
    dsimp only
    rw [hw.text_eq, hw'.text_eq, liftExcept_ok, liftExcept_ok, pure_bind, pure_bind]
    exact compares_renderHeading level text text'
  | emphasis mark => exact .behind framed_eq (uniform_write mark) <| .behind framed_eq hall (uniform_write mark)
  | code text => exact uniform_writeVerbatim _
  | fenced text => exact uniform_renderFenced text
  | link text => exact uniform_renderLink element text
  | image source => exact uniform_renderImage source
  | list =>
    exact .behind framed_eq (uniform_ensureLinefeeds 2) <| .behind framed_eq hitems (uniform_ensureLinefeeds 2)
  | item marker =>
    have hitem : (do write marker; all : Render σ Unit).Uniform := .behind framed_eq (uniform_write marker) hall
    exact hitem.indented (by simp [IsIndent])
  | quotation =>
    have hquote : (do write ['>', ' ']; all : Render σ Unit).Uniform := .behind framed_eq (uniform_write _) hall
    exact .behind framed_eq (uniform_ensureLinefeeds 2) <| hquote.indented (by simp [IsIndent])

/-- **Every rendering is uniform**: what it writes of a tree does not depend on the output before. -/
theorem compositional_uniform (rewriter : UrlRewriter σ) : Compositional rewriter fun _ m => m.Uniform where
  nil := uniform_pure
  cons hm hn := .behind framed_eq hm hn
  failure _ e := compares_throw e
  text _ _ _ := uniform_write _
  comment _ _ := uniform_pure
  document h := h
  markup _ _ _ := uniform_writeVerbatim _
  rule _ _ hall hitems := Rule.uniform hall hitems (uniform_writeVerbatim _) _
  formula _ _ := uniform_writeBetween _ _ _ _
  figure _ h := (compares_renderFigure (h.mono fun _ _ => grown_true.2)
    fun _ : True => (grown_true.2 rfl : Grown True _ _)).mono fun _ _ h => (h trivial).1 ⟨trivial, trivial⟩
  captioned _ hm hn := (compares_renderCaptioned (hm.mono fun _ _ => grown_true.2) (hn.mono fun _ _ => grown_true.2)).mono
    fun _ _ h => h.1 ⟨trivial, trivial⟩

end

end BlogMarkdown.Markdown
