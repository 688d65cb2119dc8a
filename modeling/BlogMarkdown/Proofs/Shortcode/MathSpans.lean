import BlogMarkdown.Proofs.Text.Search
import BlogMarkdown.Shortcode.MathSpan
/-!
# The spans of a text

A span begins at a marker and ends at the first dollar sign behind it that no backslash stands directly before.  The
spans of a text are taken leftmost first; the first marker that begins no span has no such dollar sign behind it, and so
has none of the markers behind it.  Neither the texts between the spans nor the formulas have a span in them.
-/
namespace BlogMarkdown.Shortcode

/-- **The first span of a text** and what is before and behind it. -/
structure FirstSpan (text before formula after : List Char) : Prop where
  eq : text = before ++ mathMarker ++ (formula ++ '$' :: after)
  leftmost : ∀ u v, text = u ++ mathMarker ++ v → before.length ≤ u.length
  closed : formula.getLast? ≠ some '\\'
  escaped : ∀ u v, formula = u ++ '$' :: v → u.getLast? = some '\\'

/-- **A text without spans**: behind each marker a backslash stands directly before each dollar sign. -/
def NoSpan (text : List Char) : Prop :=
  ∀ before formula after, text = before ++ mathMarker ++ (formula ++ '$' :: after) → formula.getLast? = some '\\'

/-- **The spans of a text**, each with the text before it, and the text behind the last one. -/
inductive Spans : List Char → List (List Char × List Char) → List Char → Prop where
  | none {text : List Char} : NoSpan text → Spans text [] text
  | span {text before formula after last : List Char} {spans : List (List Char × List Char)} :
    FirstSpan text before formula after → Spans after spans last → Spans text ((before, formula) :: spans) last

/-! ## The end of a formula -/

theorem getLast?_cons_of_ne_nil {c : Char} {u : List Char} (h : u ≠ []) : (c :: u).getLast? = u.getLast? := by
  obtain ⟨d, v, rfl⟩ := List.exists_cons_of_ne_nil h
  exact List.getLast?_cons_cons

/-- What holds behind a character holds behind it and the character. -/
theorem getLast?_cons_eq {c d : Char} {u : List Char} (h : u.getLast? = some d) : (c :: u).getLast? = some d := by
  rw [getLast?_cons_of_ne_nil (fun hu => by rw [hu] at h; cases h), h]

theorem splitFormula?_eq_some : ∀ {text formula after : List Char}, splitFormula? text = some (formula, after) →
    text = formula ++ '$' :: after ∧ formula.getLast? ≠ some '\\' ∧
      ∀ u v, formula = u ++ '$' :: v → u.getLast? = some '\\' := by
  intro text
  fun_induction splitFormula? text with
  | case1 => nofun
  | case2 rest ih =>
    -- an escaped dollar sign: the formula goes on behind it
    intro formula after h
    obtain ⟨⟨g, a⟩, hrest, he⟩ := Option.map_eq_some_iff.1 h
    cases he
    obtain ⟨rfl, hclosed, hescaped⟩ := ih hrest
    refine ⟨rfl, ?_, fun u v huv => ?_⟩
    · cases g with
      | nil => decide
      | cons d g => rwa [List.getLast?_cons_cons, List.getLast?_cons_cons]
    · cases u with
      | nil => cases huv
      | cons b u =>
        cases u with
        | nil => cases huv; rfl
        | cons d u =>
          cases huv
          exact getLast?_cons_eq (getLast?_cons_eq (hescaped u v rfl))
  | case3 rest =>
    intro formula after h
    cases h
    exact ⟨rfl, nofun, fun u v huv => by cases u <;> cases huv⟩
  | case4 c rest hslash hdollar ih =>
    intro formula after h
    obtain ⟨⟨g, a⟩, hrest, he⟩ := Option.map_eq_some_iff.1 h
    cases he
    obtain ⟨rfl, hclosed, hescaped⟩ := ih hrest
    refine ⟨rfl, ?_, fun u v huv => ?_⟩
    · cases g with
      | nil =>
        intro hc
        exact hslash after (Option.some.inj hc) rfl
      | cons d g => rwa [List.getLast?_cons_cons]
    · cases u with
      | nil => exact absurd (List.cons.inj huv).1 hdollar
      | cons b u =>
        cases huv
        exact getLast?_cons_eq (hescaped u v rfl)

theorem splitFormula?_eq_none : ∀ {text : List Char}, splitFormula? text = none →
    ∀ u v, text = u ++ '$' :: v → u.getLast? = some '\\' := by
  intro text
  fun_induction splitFormula? text with
  | case1 => exact fun _ u v huv => by cases u <;> cases huv
  | case2 rest ih =>
    intro h u v huv
    have hrest := ih (Option.map_eq_none_iff.1 h)
    cases u with
    | nil => cases huv
    | cons b u =>
      cases u with
      | nil => cases huv; rfl
      | cons d u =>
        cases huv
        exact getLast?_cons_eq (getLast?_cons_eq (hrest u v rfl))
  | case3 rest => nofun
  | case4 c rest hslash hdollar ih =>
    intro h u v huv
    have hrest := ih (Option.map_eq_none_iff.1 h)
    cases u with
    | nil => exact absurd (List.cons.inj huv).1 hdollar
    | cons b u =>
      cases huv
      exact getLast?_cons_eq (hrest u v rfl)

/-! ## Finding the first span -/

theorem findMath?_eq_some {text before formula after : List Char} (h : findMath? text = some (before, formula, after)) :
    FirstSpan text before formula after := by
  unfold findMath? at h
  split at h
  · cases h
  · rename_i b rest hsplit
    obtain ⟨⟨g, a⟩, hformula, he⟩ := Option.map_eq_some_iff.1 h
    cases he
    obtain ⟨heq, hfirst⟩ := Text.splitAtWord?_eq_some hsplit
    obtain ⟨rfl, hclosed, hescaped⟩ := splitFormula?_eq_some hformula
    exact ⟨heq, hfirst, hclosed, hescaped⟩

/-- A marker ends with a blank, so a backslash at the end of what follows it is part of that. -/
theorem getLast?_of_marker {before formula : List Char} (h : (before ++ mathMarker ++ formula).getLast? = some '\\') :
    formula.getLast? = some '\\' := by
  cases formula with
  | nil =>
    rw [List.append_nil, List.getLast?_append] at h
    cases h
  | cons c formula =>
    rwa [List.getLast?_append_of_ne_nil _ (List.cons_ne_nil c formula)] at h

theorem findMath?_eq_none {text : List Char} (h : findMath? text = none) : NoSpan text := by
  intro u formula v huv
  unfold findMath? at h
  split at h
  · rename_i hsplit
    exact absurd huv (Text.splitAtWord?_eq_none hsplit u _)
  · rename_i before rest hsplit
    obtain ⟨heq, hfirst⟩ := Text.splitAtWord?_eq_some hsplit
    have hescaped := splitFormula?_eq_none (Option.map_eq_none_iff.1 h)
    -- the dollar sign stands behind the first marker, whichever marker it ends
    obtain ⟨w, rfl⟩ : before <+: u := by
      have hlen := hfirst u _ huv
      rw [heq, List.append_assoc, List.append_assoc] at huv
      exact List.prefix_of_prefix_length_le (List.prefix_append before _) (huv ▸ List.prefix_append u _) hlen
    have hcut : mathMarker ++ rest = (w ++ mathMarker ++ formula) ++ '$' :: v := by
      rw [heq] at huv
      simpa only [List.append_assoc, List.append_cancel_left_eq] using huv
    rcases List.append_eq_append_iff.1 hcut with ⟨z, hz, hrest⟩ | ⟨z, hz, hrest⟩
    · have hlast := hescaped z v hrest
      have hne : z ≠ [] := fun hnil => by
        rw [hnil] at hlast
        cases hlast
      have hall : (w ++ mathMarker ++ formula).getLast? = some '\\' := by
        rw [hz, List.getLast?_append_of_ne_nil _ hne, hlast]
      exact getLast?_of_marker hall
    · have hlen := congrArg List.length hz
      simp only [List.length_append] at hlen
      have hnil : z = [] := List.length_eq_zero_iff.1 (by omega)
      rw [hnil] at hrest
      cases hescaped [] v hrest.symm

theorem findMath?_of_noSpan {text : List Char} (h : NoSpan text) : findMath? text = none := by
  cases hfind : findMath? text with
  | none => rfl
  | some r =>
    obtain ⟨before, formula, after⟩ := r
    have hfirst := findMath?_eq_some hfind
    exact absurd (h before formula after hfirst.eq) hfirst.closed

/-! ## No span is left -/

/-- No marker stands before the first span. -/
theorem FirstSpan.noSpan_before {text before formula after : List Char} (h : FirstSpan text before formula after) :
    NoSpan before := by
  intro u g v huv
  have hlen := h.leftmost u (g ++ '$' :: v ++ (mathMarker ++ (formula ++ '$' :: after))) (by
    rw [h.eq, huv]
    simp only [List.append_assoc])
  rw [huv] at hlen
  simp only [List.length_append, List.length_cons] at hlen
  omega

/-- Every dollar sign in a formula is escaped, also behind a marker in it. -/
theorem FirstSpan.noSpan_formula {text before formula after : List Char} (h : FirstSpan text before formula after) :
    NoSpan formula := by
  intro u g v huv
  rw [← List.append_assoc] at huv
  exact getLast?_of_marker (h.escaped _ v huv)

theorem Spans.noSpan {text last : List Char} {spans : List (List Char × List Char)} (h : Spans text spans last) :
    (∀ p ∈ spans, NoSpan p.1 ∧ NoSpan p.2) ∧ NoSpan last := by
  induction h with
  | none hno => exact ⟨nofun, hno⟩
  | span hfirst _ ih => exact ⟨List.forall_mem_cons.2 ⟨⟨hfirst.noSpan_before, hfirst.noSpan_formula⟩, ih.1⟩, ih.2⟩

/-- **Written back, the spans and the texts between them are the text.** -/
theorem Spans.source {text last : List Char} {spans : List (List Char × List Char)} (h : Spans text spans last) :
    (spans.flatMap fun p => p.1 ++ (mathMarker ++ p.2 ++ ['$'])) ++ last = text := by
  induction h with
  | none => rfl
  | span hfirst _ ih =>
    rw [List.flatMap_cons, List.append_assoc, ih, hfirst.eq]
    simp only [List.append_assoc, List.singleton_append]

/-! ## Taking the spans -/

theorem length_of_findMath? {text before formula after : List Char}
    (h : findMath? text = some (before, formula, after)) : after.length < text.length := by
  rw [(findMath?_eq_some h).eq]
  simp only [List.length_append, List.length_cons]
  omega

/-- Finds the first span, then the first one in the text behind it, and so on. -/
def mathSpans (text : List Char) : List (List Char × List Char) × List Char :=
  match _h : findMath? text with
  | none => ([], text)
  | some (before, formula, after) => ((before, formula) :: (mathSpans after).1, (mathSpans after).2)
  termination_by text.length
  decreasing_by all_goals exact length_of_findMath? _h

theorem mathSpans_none {text : List Char} (h : findMath? text = none) : mathSpans text = ([], text) := by
  rw [mathSpans]
  split <;> simp_all

theorem mathSpans_some {text before formula after : List Char} (h : findMath? text = some (before, formula, after)) :
    mathSpans text = ((before, formula) :: (mathSpans after).1, (mathSpans after).2) := by
  rw [mathSpans]
  split <;> simp_all

/-- **Finding span by span gives the spans of the text.** -/
theorem spans_mathSpans (text : List Char) : Spans text (mathSpans text).1 (mathSpans text).2 := by
  induction hlen : text.length using Nat.strongRecOn generalizing text with
  | ind n ih =>
    subst hlen
    cases hfind : findMath? text with
    | none =>
      rw [mathSpans_none hfind]
      exact .none (findMath?_eq_none hfind)
    | some r =>
      obtain ⟨before, formula, after⟩ := r
      rw [mathSpans_some hfind]
      exact .span (findMath?_eq_some hfind) (ih _ (length_of_findMath? hfind) after rfl)

/-- A marker in a formula, behind an escaped dollar sign, and a marker that begins no span. -/
example : findMath? "a$latex x\\$latex y$b$latex z".toList =
    some ("a".toList, "x\\$latex y".toList, "b$latex z".toList) := by decide +kernel

end BlogMarkdown.Shortcode
