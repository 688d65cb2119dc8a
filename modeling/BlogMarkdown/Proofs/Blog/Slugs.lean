import BlogMarkdown.Blog.Slug
import Mathlib.Data.List.Infix
/-!
# Slugs of titles

What a title leaves in its slug are letters, digits, underscores and hyphens, and then the words between the hyphens
are joined by single ones.  Read from the left this is two functions that call each other: before the first character
of a word every hyphen is dropped, and behind one a run of hyphens becomes one hyphen if a word follows.  So a slug has
the word characters of its title in their order, and a hyphen between two of them just where the title has a space or
a hyphen.
-/
namespace BlogMarkdown.Blog

/-! ## Words joined by single hyphens -/

/-- The words between hyphens, joined by single hyphens. -/
def hyphenated (l : List Char) : List Char := ['-'].intercalate ((l.splitOnP (· = '-')).filter (· ≠ []))

theorem slug_eq (title : List Char) : slug title = hyphenated (title.filterMap slugChar?) := rfl

/-- What is left behind a character of a word. -/
def behind : List Char → List Char
  | [] => []
  | c :: rest =>
    if c = '-' then if hyphenated rest = [] then [] else '-' :: hyphenated rest
    else c :: behind rest

theorem behind_hyphen (rest : List Char) :
    behind ('-' :: rest) = if hyphenated rest = [] then [] else '-' :: hyphenated rest := if_pos rfl

theorem behind_cons {c : Char} (hc : c ≠ '-') (rest : List Char) : behind (c :: rest) = c :: behind rest := if_neg hc

theorem hyphenated_nil : hyphenated [] = [] := rfl

theorem hyphenated_hyphen (rest : List Char) : hyphenated ('-' :: rest) = hyphenated rest := by
  rw [hyphenated, List.splitOnP_cons_eq_if_modifyHead, if_pos (by simp), List.filter_cons_of_neg (by simp), hyphenated]

theorem intercalate_head (c : Char) (word : List Char) (words : List (List Char)) :
    ['-'].intercalate ((c :: word) :: words) = c :: ['-'].intercalate (word :: words) := by
  cases words with
  | nil => simp
  | cons next words => simp

/-- The word that is begun goes on up to the next hyphen. -/
theorem intercalate_splitOnP (l : List Char) : ∃ word words, l.splitOnP (· = '-') = word :: words ∧
    behind l = ['-'].intercalate (word :: words.filter (· ≠ [])) := by
  induction l with
  | nil => exact ⟨[], [], rfl, rfl⟩
  | cons c rest ih =>
    obtain ⟨word, words, hsplit, hbehind⟩ := ih
    rw [List.splitOnP_cons_eq_if_modifyHead]
    by_cases hc : c = '-'
    · subst hc
      refine ⟨[], rest.splitOnP (· = '-'), if_pos (by simp), ?_⟩
      rw [behind_hyphen, hyphenated]
      cases hwords : (rest.splitOnP (· = '-')).filter (· ≠ []) with
      | nil => simp
      | cons next words =>
        have hnext : next ≠ [] := by
          have hmem : next ∈ (rest.splitOnP (· = '-')).filter (· ≠ []) := by rw [hwords]; exact List.mem_cons_self
          simpa using (List.mem_filter.1 hmem).2
        obtain ⟨d, word, rfl⟩ := List.exists_cons_of_ne_nil hnext
        rw [if_neg (by rw [intercalate_head]; simp), List.intercalate_cons_cons]
        rfl
    · refine ⟨c :: word, words, ?_, ?_⟩
      · rw [if_neg (by simpa using hc), hsplit, List.modifyHead_cons]
      · rw [behind_cons hc, hbehind, intercalate_head]

theorem hyphenated_cons {c : Char} (hc : c ≠ '-') (rest : List Char) :
    hyphenated (c :: rest) = c :: behind rest := by
  obtain ⟨word, words, hsplit, hbehind⟩ := intercalate_splitOnP rest
  rw [hyphenated, List.splitOnP_cons_eq_if_modifyHead, if_neg (by simpa using hc), hsplit, List.modifyHead_cons,
    List.filter_cons_of_pos (by simp), intercalate_head, hbehind]

/-! ## Which characters are left -/

/-- Hyphens apart, nothing is lost. -/
theorem filter_hyphenated : ∀ l : List Char, (behind l).filter (· ≠ '-') = l.filter (· ≠ '-') ∧
    (hyphenated l).filter (· ≠ '-') = l.filter (· ≠ '-')
  | [] => ⟨rfl, rfl⟩
  | c :: rest => by
    obtain ⟨ihb, ihh⟩ := filter_hyphenated rest
    by_cases hc : c = '-'
    · subst hc
      rw [behind_hyphen, hyphenated_hyphen, List.filter_cons_of_neg (by simp)]
      refine ⟨?_, ihh⟩
      split
      · next hnil => rw [← ihh, hnil]
      · rw [List.filter_cons_of_neg (by simp), ihh]
    · rw [behind_cons hc, hyphenated_cons hc, List.filter_cons_of_pos (by simpa using hc),
        List.filter_cons_of_pos (by simpa using hc), ihb]
      exact ⟨rfl, rfl⟩

/-! ## Single hyphens between words -/

/-- No hyphen is last or followed by another. -/
def Spaced (l : List Char) : Prop := l.getLast? ≠ some '-' ∧ ¬ ['-', '-'] <:+: l

theorem spaced_nil : Spaced [] := ⟨by simp, by simp⟩

theorem spaced_cons_iff {c : Char} (hc : c ≠ '-') {l : List Char} : Spaced (c :: l) ↔ Spaced l := by
  have hprefix : ¬ ['-', '-'] <+: c :: l := fun h => hc (List.cons_prefix_cons.1 h).1.symm
  rw [Spaced, Spaced, List.infix_cons_iff, or_iff_right hprefix]
  cases l with
  | nil => simp [hc]
  | cons d l => rw [List.getLast?_cons_cons]

theorem spaced_hyphen_iff {l : List Char} : Spaced ('-' :: l) ↔ l ≠ [] ∧ l.head? ≠ some '-' ∧ Spaced l := by
  rw [Spaced, Spaced, List.infix_cons_iff, List.cons_prefix_cons]
  cases l with
  | nil => simp
  | cons d l =>
    rw [List.getLast?_cons_cons, List.cons_prefix_cons]
    simp [eq_comm, and_left_comm, not_or]

theorem spaced_hyphenated : ∀ l : List Char,
    Spaced (behind l) ∧ Spaced (hyphenated l) ∧ (hyphenated l).head? ≠ some '-'
  | [] => ⟨spaced_nil, spaced_nil, by simp [hyphenated_nil]⟩
  | c :: rest => by
    obtain ⟨ihb, ihh, ihhead⟩ := spaced_hyphenated rest
    by_cases hc : c = '-'
    · subst hc
      rw [behind_hyphen, hyphenated_hyphen]
      refine ⟨?_, ihh, ihhead⟩
      split
      · exact spaced_nil
      · next hne => exact spaced_hyphen_iff.2 ⟨hne, ihhead, ihh⟩
    · rw [behind_cons hc, hyphenated_cons hc, spaced_cons_iff hc]
      exact ⟨ihb, ihb, by simpa using hc⟩

/-- **What has single hyphens between words already stays as it is.** -/
theorem hyphenated_of_spaced : ∀ {l : List Char}, Spaced l →
    behind l = l ∧ (l.head? ≠ some '-' → hyphenated l = l)
  | [], _ => ⟨rfl, fun _ => rfl⟩
  | c :: rest, h => by
    by_cases hc : c = '-'
    · subst hc
      obtain ⟨hne, hhead, hrest⟩ := spaced_hyphen_iff.1 h
      have ih := (hyphenated_of_spaced hrest).2 hhead
      exact ⟨by rw [behind_hyphen, ih, if_neg hne], fun hhead => absurd rfl hhead⟩
    · have ih := (hyphenated_of_spaced ((spaced_cons_iff hc).1 h)).1
      rw [behind_cons hc, hyphenated_cons hc, ih]
      exact ⟨rfl, fun _ => rfl⟩

/-! ## Where a hyphen is -/

/-- **Up to a character of a word** all others are left in front of it, and a hyphen is among them just where one was,
if a word was begun. -/
theorem hyphenated_append {c : Char} (hc : c ≠ '-') (rest : List Char) : ∀ l : List Char,
    (∃ front, behind (l ++ c :: rest) = front ++ c :: behind rest ∧
      front.filter (· ≠ '-') = l.filter (· ≠ '-') ∧ ('-' ∈ front ↔ '-' ∈ l)) ∧
    ∃ front, hyphenated (l ++ c :: rest) = front ++ c :: behind rest ∧
      front.filter (· ≠ '-') = l.filter (· ≠ '-')
  | [] => ⟨⟨[], behind_cons hc rest, rfl, Iff.rfl⟩, [], hyphenated_cons hc rest, rfl⟩
  | d :: l => by
    obtain ⟨⟨front, hfront, hletters, hmem⟩, first, hfirst, hfirstLetters⟩ := hyphenated_append hc rest l
    rw [List.cons_append]
    by_cases hd : d = '-'
    · -- the hyphens behind a word become one, for a word follows; those before the first word go
      subst hd
      rw [behind_hyphen, hyphenated_hyphen, hfirst, if_neg (by simp), List.filter_cons_of_neg (by simp)]
      exact ⟨⟨'-' :: first, rfl, by rwa [List.filter_cons_of_neg (by simp)], by simp⟩, first, rfl, hfirstLetters⟩
    · rw [behind_cons hd, hyphenated_cons hd, hfront, List.filter_cons_of_pos (by simpa using hd)]
      have hkept : (d :: front).filter (· ≠ '-') = d :: l.filter (· ≠ '-') := by
        rw [List.filter_cons_of_pos (by simpa using hd), hletters]
      exact ⟨⟨d :: front, rfl, hkept, by simp [Ne.symm hd, hmem]⟩, d :: front, rfl, hkept⟩

/-! ## What the characters of a title leave -/

/-- Whether a character is an ASCII letter, an ASCII digit or an underscore. -/
def isWordChar (c : Char) : Bool := c.isAlphanum || c = '_'

/-- The word characters of a text, in lower case. -/
def wordChars (l : List Char) : List Char := (l.filter isWordChar).map Char.toLower

/-- Whether a character may stand in a word of a slug. -/
def isSlugChar (c : Char) : Bool := c.isLower || c.isDigit || c = '_'

theorem toLower_of_not_isUpper {c : Char} (h : c.isUpper = false) : c.toLower = c :=
  dif_neg (of_decide_eq_false h)

theorem isLower_toLower {c : Char} (h : c.isUpper = true) : c.toLower.isLower = true := by
  obtain ⟨hlow, hhigh⟩ := of_decide_eq_true h
  have hval : c.toLower.val = c.val + 32 := congrArg Char.val (dif_pos ⟨hlow, hhigh⟩)
  have hlow : 65 ≤ c.val.toNat := UInt32.le_iff_toNat_le.1 hlow
  have hhigh : c.val.toNat ≤ 90 := UInt32.le_iff_toNat_le.1 hhigh
  have hsum : c.toLower.val.toNat = c.val.toNat + 32 := by
    rw [hval, UInt32.toNat_add]
    exact Nat.mod_eq_of_lt (show c.val.toNat + 32 < 2 ^ 32 by omega)
  have hge : 97 ≤ c.toLower.val.toNat := by omega
  have hle : c.toLower.val.toNat ≤ 122 := by omega
  exact Bool.and_eq_true_iff.2 ⟨decide_eq_true (UInt32.le_iff_toNat_le.2 hge), decide_eq_true (UInt32.le_iff_toNat_le.2 hle)⟩

theorem not_isUpper_of_isSlugChar {c : Char} (h : isSlugChar c = true) : c.isUpper = false := by
  refine decide_eq_false fun ⟨hlow, hhigh⟩ => ?_
  have hlow : 65 ≤ c.val.toNat := UInt32.le_iff_toNat_le.1 hlow
  have hhigh : c.val.toNat ≤ 90 := UInt32.le_iff_toNat_le.1 hhigh
  rcases Bool.or_eq_true_iff.1 h with h | h
  · rcases Bool.or_eq_true_iff.1 h with h | h
    · have : 97 ≤ c.val.toNat := UInt32.le_iff_toNat_le.1 (of_decide_eq_true (Bool.and_eq_true_iff.1 h).1)
      omega
    · have : c.val.toNat ≤ 57 := UInt32.le_iff_toNat_le.1 (of_decide_eq_true (Bool.and_eq_true_iff.1 h).2)
      omega
  · rw [of_decide_eq_true h] at hhigh
    exact absurd hhigh (by decide)

theorem isSlugChar_toLower {c : Char} (h : isWordChar c = true) : isSlugChar c.toLower = true := by
  cases hupper : c.isUpper with
  | true => rw [isSlugChar, isLower_toLower hupper, Bool.true_or, Bool.true_or]
  | false =>
    rw [toLower_of_not_isUpper hupper]
    have h : (c.isUpper || c.isLower || c.isDigit || c = '_') = true := h
    rwa [hupper, Bool.false_or] at h

theorem isWordChar_of_isSlugChar {c : Char} (h : isSlugChar c = true) : isWordChar c = true := by
  have h : (c.isLower || c.isDigit || c = '_') = true := h
  show (c.isUpper || c.isLower || c.isDigit || c = '_') = true
  rw [Bool.or_assoc c.isUpper, Bool.or_assoc c.isUpper, h, Bool.or_true]

theorem slugChar?_of_isWordChar {c : Char} (h : isWordChar c = true) : slugChar? c = some c.toLower := by
  have hspace : c ≠ ' ' := fun he => by
    rw [he] at h
    exact absurd h (by decide)
  rw [slugChar?, if_neg hspace]
  refine if_pos ?_
  rcases Bool.or_eq_true_iff.1 h with h | h <;> simp [h]

theorem slugChar?_of_not {c : Char} (h : isWordChar c = false) :
    slugChar? c = if c = ' ' ∨ c = '-' then some '-' else none := by
  obtain ⟨halnum, hline⟩ := Bool.or_eq_false_iff.1 h
  by_cases hspace : c = ' '
  · simp [slugChar?, hspace]
  · by_cases hhyphen : c = '-'
    · subst hhyphen
      rfl
    · simp [slugChar?, hspace, hhyphen, halnum, hline]

theorem slugChar?_of_isSlugChar {c : Char} (h : isSlugChar c = true) : slugChar? c = some c := by
  rw [slugChar?_of_isWordChar (isWordChar_of_isSlugChar h), toLower_of_not_isUpper (not_isUpper_of_isSlugChar h)]

theorem toLower_ne_hyphen {c : Char} (h : isWordChar c = true) : c.toLower ≠ '-' := fun he => by
  have hslug := isSlugChar_toLower h
  rw [he] at hslug
  exact absurd hslug (by decide)

theorem filterMap_slugChar? : ∀ l : List Char,
    (l.filterMap slugChar?).filter (· ≠ '-') = wordChars l ∧ ('-' ∈ l.filterMap slugChar? ↔ ' ' ∈ l ∨ '-' ∈ l)
  | [] => ⟨rfl, by simp⟩
  | c :: l => by
    obtain ⟨ih, ihmem⟩ := filterMap_slugChar? l
    cases hword : isWordChar c with
    | true =>
      have hne := toLower_ne_hyphen hword
      have hspace : c ≠ ' ' := by
        rintro rfl
        cases hword
      have hhyphen : c ≠ '-' := by
        rintro rfl
        cases hword
      rw [List.filterMap_cons_some (slugChar?_of_isWordChar hword), List.filter_cons_of_pos (by simpa using hne), ih,
        wordChars, wordChars, List.filter_cons_of_pos hword, List.map_cons]
      exact ⟨rfl, by simp [Ne.symm hne, Ne.symm hspace, Ne.symm hhyphen, ihmem]⟩
    | false =>
      have hnone : wordChars (c :: l) = wordChars l := by
        rw [wordChars, wordChars, List.filter_cons_of_neg (by simp [hword])]
      have hchar := slugChar?_of_not hword
      rw [hnone]
      by_cases hc : c = ' ' ∨ c = '-'
      · rw [if_pos hc] at hchar
        rw [List.filterMap_cons_some hchar, List.filter_cons_of_neg (by simp), ih]
        refine ⟨rfl, iff_of_true List.mem_cons_self ?_⟩
        rcases hc with rfl | rfl <;> simp
      · rw [if_neg hc] at hchar
        rw [List.filterMap_cons_none hchar, ih, ihmem]
        obtain ⟨hspace, hhyphen⟩ := not_or.1 hc
        exact ⟨rfl, by simp [Ne.symm hspace, Ne.symm hhyphen]⟩

/-! ## The slug of a title -/

/-- **A normalised slug**: lower-case ASCII letters, digits, underscores and hyphens, where no hyphen is first, last or
next to another. -/
structure IsSlug (l : List Char) : Prop where
  chars : ∀ c ∈ l, isSlugChar c = true ∨ c = '-'
  first : l.head? ≠ some '-'
  last : l.getLast? ≠ some '-'
  single : ¬ ['-', '-'] <:+: l

theorem filter_slug (title : List Char) : (slug title).filter (· ≠ '-') = wordChars title :=
  (filter_hyphenated _).2.trans (filterMap_slugChar? title).1

theorem isSlugChar_of_mem_wordChars {l : List Char} {c : Char} (h : c ∈ wordChars l) : isSlugChar c = true := by
  obtain ⟨d, hd, rfl⟩ := List.mem_map.1 h
  exact isSlugChar_toLower (List.mem_filter.1 hd).2

theorem isSlug_slug (title : List Char) : IsSlug (slug title) := by
  obtain ⟨-, ⟨hlast, hsingle⟩, hfirst⟩ := spaced_hyphenated (title.filterMap slugChar?)
  refine ⟨fun c hc => ?_, hfirst, hlast, hsingle⟩
  by_cases hhyphen : c = '-'
  · exact .inr hhyphen
  · have hmem : c ∈ wordChars title := by
      rw [← filter_slug]
      exact List.mem_filter.2 ⟨hc, by simpa using hhyphen⟩
    exact .inl (isSlugChar_of_mem_wordChars hmem)

/-- **A normalised slug is its own slug.** -/
theorem IsSlug.slug_eq_self {l : List Char} (h : IsSlug l) : slug l = l := by
  have hchars : l.filterMap slugChar? = l := by
    refine (List.filterMap_congr fun c hc => ?_).trans List.filterMap_some
    rcases h.chars c hc with hslug | rfl
    · exact slugChar?_of_isSlugChar hslug
    · rfl
  rw [slug_eq, hchars]
  exact (hyphenated_of_spaced ⟨h.last, h.single⟩).2 h.first

/-- **Slugs are normalised.**  The slug of a title has single hyphens inside only; its other characters are the word
characters of the title, in lower case and in their order; between two of them is a hyphen just if the title has a
space or a hyphen there; and it is its own slug. -/
theorem slug_of_title (title : List Char) :
    IsSlug (slug title) ∧
      (slug title).filter (· ≠ '-') = wordChars title ∧
      (∀ before c between d after, title = before ++ c :: (between ++ d :: after) →
        isWordChar c = true → isWordChar d = true →
        ∃ before' between' after', slug title = before' ++ c.toLower :: (between' ++ d.toLower :: after') ∧
          before'.filter (· ≠ '-') = wordChars before ∧ between'.filter (· ≠ '-') = wordChars between ∧
          after'.filter (· ≠ '-') = wordChars after ∧ ('-' ∈ between' ↔ ' ' ∈ between ∨ '-' ∈ between)) ∧
      slug (slug title) = slug title := by
  refine ⟨isSlug_slug title, filter_slug title, ?_, (isSlug_slug title).slug_eq_self⟩
  rintro before c between d after rfl hc hd
  obtain ⟨hbefore, -⟩ := filterMap_slugChar? before
  obtain ⟨hbetween, hmem⟩ := filterMap_slugChar? between
  obtain ⟨hafter, -⟩ := filterMap_slugChar? after
  obtain ⟨⟨between', hsecond, hletters, hiff⟩, -⟩ :=
    hyphenated_append (toLower_ne_hyphen hd) (after.filterMap slugChar?) (between.filterMap slugChar?)
  obtain ⟨-, before', hfirst, hfront⟩ := hyphenated_append (toLower_ne_hyphen hc)
    (between.filterMap slugChar? ++ d.toLower :: after.filterMap slugChar?) (before.filterMap slugChar?)
  refine ⟨before', between', behind (after.filterMap slugChar?), ?_, hfront.trans hbefore, hletters.trans hbetween,
    (filter_hyphenated _).1.trans hafter, hiff.trans hmem⟩
  rw [slug_eq, List.filterMap_append, List.filterMap_cons_some (slugChar?_of_isWordChar hc), List.filterMap_append,
    List.filterMap_cons_some (slugChar?_of_isWordChar hd), hfirst, hsecond]

/-- An accented letter is dropped, and the blanks and hyphens behind it become one hyphen. -/
theorem slug_of_accented_title :
    slug [' ', 'N', 'é', ' ', '-', '-', ' ', '2', '_', 'B', '!', '-'] = ['n', '-', '2', '_', 'b'] ∧
      (∃ before between after, slug [' ', 'N', 'é', ' ', '-', '-', ' ', '2', '_', 'B', '!', '-'] =
          before ++ 'n' :: (between ++ '2' :: after) ∧ '-' ∈ between) ∧
      slug ['n', '-', '2', '_', 'b'] = ['n', '-', '2', '_', 'b'] := by
  have hslug : slug [' ', 'N', 'é', ' ', '-', '-', ' ', '2', '_', 'B', '!', '-'] = ['n', '-', '2', '_', 'b'] := by
    decide
  obtain ⟨-, -, hpairs, hagain⟩ := slug_of_title [' ', 'N', 'é', ' ', '-', '-', ' ', '2', '_', 'B', '!', '-']
  obtain ⟨before, between, after, hcut, -, -, -, hiff⟩ :=
    hpairs [' '] 'N' ['é', ' ', '-', '-', ' '] '2' ['_', 'B', '!', '-'] rfl (by decide) (by decide)
  refine ⟨hslug, ⟨before, between, after, hcut, hiff.2 (.inl (by decide))⟩, ?_⟩
  rwa [hslug] at hagain

end BlogMarkdown.Blog
