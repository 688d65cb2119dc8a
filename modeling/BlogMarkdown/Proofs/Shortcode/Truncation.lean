import BlogMarkdown.Proofs.Shortcode.Reading
/-!
# Reading a text that is cut short

What begins at a bracket is decided by the text up to the end of the tag, so it stays the same when more text comes
behind (`lex_append`).  So a bracket that is plain in a text is plain in each piece of that text, and a piece between
two tags, if no escape was in it, has nothing in it to rewrite.
-/
namespace BlogMarkdown.Shortcode

variable {registry : Registry}

/-! ## More text behind a tag -/

theorem lexEscape_append {text : List Char} {l : Lexeme} (h : lexEscape registry text = some l) (more : List Char) :
    lexEscape registry (text ++ more) = some l := by
  obtain ⟨slash, name, rest, block, rfl, hslash, hbefore, hfree, hblock, hclosing, rfl⟩ := lexEscape_eq_some_iff.1 h
  exact lexEscape_eq_some_iff.2 ⟨slash, name, rest ++ more, block, by simp, hslash, hbefore.congr rfl, hfree, hblock,
    hclosing, rfl⟩

/-- The name before a bracket stays the same, for the bracket is there already. -/
theorem NameBefore.append {name between rest : List Char} {c : Char} (h : NameBefore name (between ++ c :: rest))
    (more : List Char) : NameBefore name (between ++ c :: (rest ++ more)) :=
  h.congr (by cases between <;> rfl)

theorem lexClosing_append {text : List Char} {l : Lexeme} (h : lexClosing registry text = some l) (more : List Char) :
    lexClosing registry (text ++ more) = some l := by
  refine lexClosing_eq_some_iff.2 ?_
  rcases lexClosing_eq_some_iff.1 h with
    ⟨name, rest, rfl, hbefore, hfree, hblock, rfl⟩ | ⟨name, between, rest, rfl, hbefore, hfree, hblock, rfl⟩
  · exact .inl ⟨name, rest ++ more, by simp, hbefore.congr rfl, hfree, hblock, rfl⟩
  · exact .inr ⟨name, between, rest ++ more, by simp, hbefore.append more, hfree, hblock, rfl⟩

theorem lexOpening_append {text : List Char} {l : Lexeme} (h : lexOpening registry text = some l) (more : List Char) :
    lexOpening registry (text ++ more) = some l := by
  obtain ⟨name, between, rest, block, rfl, hbefore, hfree, hblock, rfl⟩ := lexOpening_eq_some_iff.1 h
  exact lexOpening_eq_some_iff.2 ⟨name, between, rest ++ more, block, by simp, hbefore.append more, hfree, hblock, rfl⟩

/-- **What begins at a bracket stays the same** when more text comes behind it. -/
theorem lex_append {text : List Char} {l : Lexeme} (h : lex registry text = some l) (more : List Char) :
    lex registry (text ++ more) = some l := by
  unfold lex at h
  split at h
  · exact lexEscape_append h more
  · exact lexClosing_append h more
  · rename_i hbracket hslash
    cases text with
    | nil => cases h
    | cons c rest =>
      -- the first character decides which of the three it is, and that is there already
      have hc : c ≠ '[' := fun he => hbracket rest (he ▸ rfl)
      have hc' : c ≠ '/' := fun he => hslash rest (he ▸ rfl)
      rw [List.cons_append, lex_of_head (by simpa using hc) (by simpa using hc')]
      exact lexOpening_append h more

theorem lex_eq_none_of_prefix {text whole : List Char} (hp : text <+: whole) (h : lex registry whole = none) :
    lex registry text = none := by
  obtain ⟨more, rfl⟩ := hp
  cases hlex : lex registry text with
  | none => rfl
  | some l => rw [lex_append hlex more] at h; cases h

/-! ## Plain texts -/

/-- **A plain text**: nothing begins at any of its brackets. -/
def Plain (registry : Registry) (text : List Char) : Prop :=
  ∀ before after, text = before ++ '[' :: after → lex registry after = none

theorem plain_nil : Plain registry [] := fun before after h => by cases before <;> cases h

theorem Plain.cons {c : Char} {text : List Char} (hc : c = '[' → lex registry text = none) (h : Plain registry text) :
    Plain registry (c :: text) := fun before after hcut => by
  cases before with
  | nil =>
    cases hcut
    exact hc rfl
  | cons b before =>
    cases hcut
    exact h before after rfl

theorem Plain.scanFrom_eq : ∀ {text : List Char}, Plain registry text → ∀ before : List Char,
    scanFrom registry before 0 text = .plain (before.reverse ++ text)
  | [], _, before => by rw [scanFrom, List.append_nil]
  | c :: rest, h, before => by
    have hrest : Plain registry rest := fun b a hcut => h (c :: b) a (congrArg (c :: ·) hcut)
    have hgo : scanFrom registry (c :: before) 0 rest = .plain (before.reverse ++ c :: rest) := by
      rw [hrest.scanFrom_eq, List.reverse_cons, List.append_assoc, List.singleton_append]
    rw [scanFrom]
    by_cases hc : c = '['
    · subst hc
      rw [if_neg (fun hne => hne rfl), h [] rest rfl]
      exact hgo
    · rw [if_pos hc]
      exact hgo

/-- **A scan leaves a plain text as it is.** -/
theorem Plain.scan_eq {text : List Char} (h : Plain registry text) : scan registry text = .plain text :=
  h.scanFrom_eq []

/-- **The pieces of a text without escapes are plain**, and the first of them is its beginning. -/
theorem plain_pieces (text : List Char) (h : ∀ literal, Mark.escape literal ∉ marks registry text) :
    (pieces (marks registry text)).1 <+: text ∧ Plain registry (pieces (marks registry text)).1 ∧
      ∀ p ∈ (pieces (marks registry text)).2, Plain registry p.2 := by
  induction hlen : text.length using Nat.strongRecOn generalizing text with
  | ind n ih =>
    subst hlen
    cases text with
    | nil => exact ⟨List.prefix_refl _, plain_nil, nofun⟩
    | cons c rest =>
      rcases cases_marks registry c rest with ⟨hc, hmarks⟩ | ⟨m, after, -, hafter, hm, hmarks⟩
      · -- a character that is plain here is plain in front of the first piece of the rest
        rw [hmarks] at h ⊢
        obtain ⟨hbegins, hfirst, hothers⟩ :=
          ih _ (Nat.lt_succ_self _) rest (fun literal hm => h literal (List.mem_cons_of_mem _ hm)) rfl
        exact ⟨List.cons_prefix_cons.2 ⟨rfl, hbegins⟩, hfirst.cons fun he => lex_eq_none_of_prefix hbegins (hc he),
          hothers⟩
      · -- a tag ends the piece before it, which is empty here
        rw [hmarks] at h ⊢
        obtain ⟨-, hfirst, hothers⟩ :=
          ih _ (Nat.lt_succ_of_le hafter) after (fun literal hm => h literal (List.mem_cons_of_mem _ hm)) rfl
        cases m with
        | char d => exact absurd rfl (hm d)
        | escape literal => exact absurd List.mem_cons_self (h literal)
        | tag tag => exact ⟨List.nil_prefix, plain_nil, List.forall_mem_cons.2 ⟨hfirst, hothers⟩⟩

end BlogMarkdown.Shortcode
