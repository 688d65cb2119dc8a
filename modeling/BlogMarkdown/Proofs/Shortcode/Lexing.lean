import BlogMarkdown.Proofs.Text.Utf8
import BlogMarkdown.Proofs.Text.Words
import BlogMarkdown.Shortcode.Tag
/-!
# The grammar of tags

What may follow a bracket, said without the lexer: an escape, an opening tag and a closing tag, each as a text cut into
its parts.  The lexer accepts an escape and an opening tag exactly where their grammar says so, with the parts that it
says.  A closing tag should carry nothing but its name, and that is how it is read, except that a slash before the
bracket lets any text stand in between.
-/
namespace BlogMarkdown.Shortcode

open Text (span_eq_iff)
open Text.Utf8 (byteLength encode IsSlice)

variable {registry : Registry}

/-! ## Names and brackets -/

/-- **A text begins with a name**: one character, whatever it is, and all name characters behind it.  What is behind the
name is `rest`. -/
structure NameBefore (name rest : List Char) : Prop where
  chars : ∃ c run, name = c :: run ∧ ∀ d ∈ run, isNameChar d = true
  stop : ∀ c ∈ rest.head?, isNameChar c = false

/-- Whether a name ends is seen from one character. -/
theorem NameBefore.congr {name rest rest' : List Char} (h : NameBefore name rest) (hhead : rest'.head? = rest.head?) :
    NameBefore name rest' := ⟨h.chars, hhead ▸ h.stop⟩

theorem splitName_eq_some_iff {text name after : List Char} :
    splitName text = some (name, after) ↔ text = name ++ after ∧ NameBefore name after := by
  constructor
  · intro h
    cases text with
    | nil => cases h
    | cons c rest =>
      obtain ⟨hname, hafter⟩ := Prod.mk.inj (Option.some.inj h)
      have hspan : rest.span isNameChar = (rest.takeWhile isNameChar, after) := by
        rw [List.span_eq_takeWhile_dropWhile, hafter]
      obtain ⟨hrest, hrun, hstop⟩ := span_eq_iff.1 hspan
      subst hname
      exact ⟨congrArg (c :: ·) hrest, ⟨c, _, rfl, hrun⟩, hstop⟩
  · rintro ⟨rfl, ⟨c, run, rfl, hrun⟩, hstop⟩
    have hspan := span_eq_iff.2 ⟨rfl, hrun, hstop⟩
    rw [List.span_eq_takeWhile_dropWhile, Prod.mk.injEq] at hspan
    rw [List.cons_append, splitName, hspan.1, hspan.2]

theorem splitBracket_eq_some_iff {text before after : List Char} :
    splitBracket text = some (before, after) ↔ text = before ++ ']' :: after ∧ ']' ∉ before := by
  have hbefore : (∀ c ∈ before, decide (c ≠ ']') = true) ↔ ']' ∉ before := by
    simp only [decide_eq_true_eq]
    exact ⟨fun h hmem => h _ hmem rfl, fun h c hc he => h (he ▸ hc)⟩
  constructor
  · intro h
    rw [splitBracket] at h
    split at h
    · rename_i c rest hspan
      cases h
      obtain ⟨htext, hfree, hc⟩ := span_eq_iff.1 hspan
      have hc : c = ']' := by simpa using hc c rfl
      exact ⟨hc ▸ htext, hbefore.1 hfree⟩
    · cases h
  · rintro ⟨rfl, h⟩
    have hspan : (before ++ ']' :: after).span (· ≠ ']') = (before, ']' :: after) :=
      span_eq_iff.2 ⟨rfl, hbefore.2 h, fun c hc => by simpa using (Option.some.inj hc).symm⟩
    rw [splitBracket, hspan]

theorem cases_slash (text : List Char) :
    (∃ body, text = '/' :: body ∧ splitSlash text = (true, body)) ∨
      (text.head? ≠ some '/' ∧ splitSlash text = (false, text)) := by
  unfold splitSlash
  split
  · exact .inl ⟨_, rfl, rfl⟩
  · rename_i hne
    refine .inr ⟨fun hhead => ?_, rfl⟩
    cases text with
    | nil => cases hhead
    | cons c rest => exact hne rest (congrArg (· :: rest) (Option.some.inj hhead))

/-! ## Escapes -/

/-- What stands behind `[[` and, if there is one, a slash. -/
theorem lexEscape_body_iff {text body : List Char} {slash : Bool} (h : splitSlash text = (slash, body)) {l : Lexeme} :
    lexEscape registry text = some l ↔ ∃ name rest block, body = name ++ ']' :: ']' :: rest ∧
      NameBefore name (']' :: ']' :: rest) ∧ ']' ∉ name ∧ registry.isBlock? (String.ofList name) = some block ∧
      (slash = true → block = true) ∧
      l = .escape ('[' :: (if slash then '/' :: name else name) ++ [']', ']'])
        ('[' :: (if slash then '/' :: name else name) ++ [']']) := by
  rw [lexEscape, h]
  dsimp only
  constructor
  · intro hlex
    split at hlex
    · cases hlex
    · rename_i name after hname
      obtain ⟨hbody, hbefore⟩ := splitName_eq_some_iff.1 hname
      split at hlex
      · cases hlex
      · rename_i block rest hblock
        split at hlex
        · cases hlex
        · rename_i hok
          simp only [Bool.or_eq_true, Bool.and_eq_true, List.contains_iff_mem, not_or, not_and] at hok
          refine ⟨name, rest, block, hbody, hbefore, hok.2, hblock, fun hslash => ?_, (Option.some.inj hlex).symm⟩
          simpa using hok.1 hslash
      · cases hlex
  · rintro ⟨name, rest, block, rfl, hbefore, hbracket, hblock, hslash, rfl⟩
    have hok : ¬ ((slash && !block || name.contains ']') = true) := by
      simp only [Bool.or_eq_true, Bool.and_eq_true, List.contains_iff_mem, not_or, not_and]
      exact ⟨fun hs => by simp [hslash hs], hbracket⟩
    rw [splitName_eq_some_iff.2 ⟨rfl, hbefore⟩]
    dsimp only
    rw [hblock]
    exact if_neg hok

/-- **An escape** is a known name between doubled brackets, with a slash in front only if it is the name of a block
tag. -/
theorem lexEscape_eq_some_iff {text : List Char} {l : Lexeme} :
    lexEscape registry text = some l ↔ ∃ slash name rest block, text = slash ++ name ++ ']' :: ']' :: rest ∧
      (slash = ['/'] ∨ slash = [] ∧ name.head? ≠ some '/') ∧ NameBefore name (']' :: ']' :: rest) ∧ ']' ∉ name ∧
      registry.isBlock? (String.ofList name) = some block ∧ (slash = ['/'] → block = true) ∧
      l = .escape ('[' :: (slash ++ name) ++ [']', ']']) ('[' :: (slash ++ name) ++ [']']) := by
  rcases cases_slash text with ⟨body, rfl, hsplit⟩ | ⟨hhead, hsplit⟩
  · rw [lexEscape_body_iff hsplit]
    constructor
    · rintro ⟨name, rest, block, rfl, hbefore, hbracket, hblock, hslash, rfl⟩
      exact ⟨['/'], name, rest, block, rfl, .inl rfl, hbefore, hbracket, hblock, fun _ => hslash rfl, rfl⟩
    · rintro ⟨slash, name, rest, block, htext, rfl | ⟨rfl, hne⟩, hbefore, hbracket, hblock, hslash, rfl⟩
      · exact ⟨name, rest, block, (List.cons.inj htext).2, hbefore, hbracket, hblock, fun _ => hslash rfl, rfl⟩
      · -- without the slash it is the name that begins with one
        obtain ⟨c, run, rfl, -⟩ := hbefore.chars
        rw [List.nil_append, List.cons_append, List.cons.injEq] at htext
        exact absurd (congrArg some htext.1.symm) hne
  · rw [lexEscape_body_iff hsplit]
    constructor
    · rintro ⟨name, rest, block, rfl, hbefore, hbracket, hblock, -, rfl⟩
      refine ⟨[], name, rest, block, rfl, .inr ⟨rfl, fun hname => hhead ?_⟩, hbefore, hbracket, hblock, nofun, rfl⟩
      rw [List.head?_append, hname]
      rfl
    · rintro ⟨slash, name, rest, block, rfl, rfl | ⟨rfl, -⟩, hbefore, hbracket, hblock, -, rfl⟩
      · exact absurd rfl hhead
      · exact ⟨name, rest, block, rfl, hbefore, hbracket, hblock, nofun, rfl⟩

/-! ## Tags -/

theorem splitBracket_behind_iff {name after between rest : List Char} :
    (splitBracket after = some (between, rest) ∧ name.contains ']' = false) ↔
      after = between ++ ']' :: rest ∧ ']' ∉ name ++ between := by
  rw [splitBracket_eq_some_iff, List.mem_append, not_or, ← Bool.not_eq_true, List.contains_iff_mem]
  constructor
  · rintro ⟨⟨rfl, hbetween⟩, hname⟩
    exact ⟨rfl, hname, hbetween⟩
  · rintro ⟨rfl, hname, hbetween⟩
    exact ⟨⟨rfl, hbetween⟩, hname⟩

/-- **An opening tag** is a known name, and all up to the first bracket is its attributes; a slash before the bracket
makes it complete by itself, and so does the name of a standalone tag. -/
theorem lexOpening_eq_some_iff {text : List Char} {l : Lexeme} :
    lexOpening registry text = some l ↔ ∃ name between rest block, text = name ++ between ++ ']' :: rest ∧
      NameBefore name (between ++ ']' :: rest) ∧ ']' ∉ name ++ between ∧
      registry.isBlock? (String.ofList name) = some block ∧
      l = .tag {
        source := name ++ between ++ [']']
        name
        opens := true
        closes := !block || between.getLast? = some '/'
        attributes := if between.getLast? = some '/' then between.dropLast else between } := by
  unfold lexOpening
  constructor
  · intro hlex
    split at hlex
    · cases hlex
    · rename_i name after hname
      obtain ⟨htext, hbefore⟩ := splitName_eq_some_iff.1 hname
      split at hlex
      · rename_i block between rest hblock hbracket
        split at hlex
        · cases hlex
        · rename_i hfree
          obtain ⟨rfl, hmem⟩ := splitBracket_behind_iff.1 ⟨hbracket, Bool.eq_false_iff.2 hfree⟩
          refine ⟨name, between, rest, block, by rw [htext, List.append_assoc], hbefore, hmem, hblock, ?_⟩
          split at hlex
          · rename_i hlast
            simpa [hlast] using hlex.symm
          · rename_i hlast
            simpa [hlast] using hlex.symm
      · cases hlex
  · rintro ⟨name, between, rest, block, rfl, hbefore, hmem, hblock, rfl⟩
    obtain ⟨hbracket, hfree⟩ := splitBracket_behind_iff.2 ⟨rfl, hmem⟩
    rw [List.append_assoc, splitName_eq_some_iff.2 ⟨rfl, hbefore⟩]
    dsimp only
    rw [hblock, hbracket]
    dsimp only
    rw [if_neg (Bool.eq_false_iff.1 hfree)]
    split
    · rename_i hlast
      simp [hlast]
    · rename_i hlast
      simp [hlast]

/-- **A closing tag** is the name of a block tag and a bracket; but if a slash stands before the bracket, any text may
stand between the name and the slash. -/
theorem lexClosing_eq_some_iff {text : List Char} {l : Lexeme} :
    lexClosing registry text = some l ↔
      (∃ name rest, text = name ++ ']' :: rest ∧ NameBefore name (']' :: rest) ∧ ']' ∉ name ∧
        registry.isBlock? (String.ofList name) = some true ∧
        l = .tag ⟨'/' :: name ++ [']'], name, false, true, []⟩) ∨
      ∃ name between rest, text = name ++ between ++ '/' :: ']' :: rest ∧
        NameBefore name (between ++ '/' :: ']' :: rest) ∧ ']' ∉ name ++ between ∧
        registry.isBlock? (String.ofList name) = some true ∧
        l = .tag ⟨'/' :: name ++ between ++ ['/', ']'], name, false, true, between⟩ := by
  unfold lexClosing
  constructor
  · intro hlex
    split at hlex
    · cases hlex
    · rename_i name after hname
      obtain ⟨htext, hbefore⟩ := splitName_eq_some_iff.1 hname
      split at hlex
      · rename_i between rest hblock hbracket
        split at hlex
        · cases hlex
        · rename_i hfree
          obtain ⟨rfl, hmem⟩ := splitBracket_behind_iff.1 ⟨hbracket, Bool.eq_false_iff.2 hfree⟩
          -- only a slash before the bracket keeps text behind the name from being refused
          split at hlex
          · rename_i hnil
            subst hnil
            rw [List.append_nil] at hmem
            exact .inl ⟨name, rest, htext, hbefore, hmem, hblock, (Option.some.inj hlex).symm⟩
          · split at hlex
            · rename_i hlast
              obtain ⟨between, rfl⟩ := List.getLast?_eq_some_iff.1 hlast
              rw [List.append_assoc, List.singleton_append] at hbefore htext
              rw [← List.append_assoc, List.mem_append, not_or] at hmem
              refine .inr ⟨name, between, rest, by rw [htext, List.append_assoc], hbefore, hmem.1, hblock, ?_⟩
              simpa using hlex.symm
            · cases hlex
      · cases hlex
  · rintro (⟨name, rest, rfl, hbefore, hmem, hblock, rfl⟩ | ⟨name, between, rest, rfl, hbefore, hmem, hblock, rfl⟩)
    · obtain ⟨hbracket, hfree⟩ := splitBracket_behind_iff.2
        ⟨(List.nil_append (']' :: rest)).symm, by rwa [List.append_nil]⟩
      rw [splitName_eq_some_iff.2 ⟨rfl, hbefore⟩]
      dsimp only
      rw [hblock, hbracket]
      dsimp only
      rw [if_neg (Bool.eq_false_iff.1 hfree), if_pos rfl]
    · have hmem' : ']' ∉ name ++ (between ++ ['/']) := by
        rw [← List.append_assoc, List.mem_append, not_or]
        exact ⟨hmem, by decide⟩
      have hafter : between ++ '/' :: ']' :: rest = between ++ ['/'] ++ ']' :: rest := by
        rw [List.append_assoc, List.singleton_append]
      obtain ⟨hbracket, hfree⟩ := splitBracket_behind_iff.2 ⟨hafter, hmem'⟩
      rw [List.append_assoc, splitName_eq_some_iff.2 ⟨rfl, hbefore⟩]
      dsimp only
      rw [hblock, hbracket]
      dsimp only
      rw [if_neg (Bool.eq_false_iff.1 hfree), if_neg (by simp), if_pos (by simp)]
      simp

/-! ## What begins at a bracket -/

theorem lex_of_head {text : List Char} (hbracket : text.head? ≠ some '[') (hslash : text.head? ≠ some '/') :
    lex registry text = lexOpening registry text := by
  unfold lex
  split
  · exact absurd rfl hbracket
  · exact absurd rfl hslash
  · rfl

/-- The parts of the text that a lexeme is made of, each with the byte at which it begins: all that it takes up, and the
text it stands for, or its name and its attributes. -/
def Lexeme.slices : Lexeme → List (Nat × List Char)
  | .escape source literal => [(0, source), (0, literal)]
  | .tag t =>
    let start := if t.opens then 0 else 1
    [(0, t.source), (start, t.name), (start + byteLength t.name, t.attributes)]

theorem isSlice_of_lex {text : List Char} {l : Lexeme} (h : lex registry text = some l) :
    ∀ slice ∈ l.slices, IsSlice text slice.1 slice.2 := by
  unfold lex at h
  split at h
  · obtain ⟨slash, name, rest, block, rfl, -, -, -, -, -, rfl⟩ := lexEscape_eq_some_iff.1 h
    simp only [Lexeme.slices, List.forall_mem_cons, List.not_mem_nil, false_implies, implies_true, and_true]
    exact ⟨⟨[], rest, by simp, rfl⟩, [], ']' :: rest, by simp, rfl⟩
  · rcases lexClosing_eq_some_iff.1 h with ⟨name, rest, rfl, -, -, -, rfl⟩ | ⟨name, between, rest, rfl, -, -, -, rfl⟩
    · simp only [Lexeme.slices, List.forall_mem_cons, List.not_mem_nil, false_implies, implies_true, and_true]
      exact ⟨⟨[], rest, by simp, rfl⟩, ⟨['/'], ']' :: rest, by simp, rfl⟩, '/' :: name, ']' :: rest, by simp, rfl⟩
    · simp only [Lexeme.slices, List.forall_mem_cons, List.not_mem_nil, false_implies, implies_true, and_true]
      exact ⟨⟨[], rest, by simp, rfl⟩, ⟨['/'], between ++ '/' :: ']' :: rest, by simp, rfl⟩,
        '/' :: name, '/' :: ']' :: rest, by simp, rfl⟩
  · obtain ⟨name, between, rest, block, rfl, -, -, -, rfl⟩ := lexOpening_eq_some_iff.1 h
    -- the attributes end before the slash that completes the tag
    obtain ⟨slash, hbetween⟩ : ∃ slash, between =
        (if between.getLast? = some '/' then between.dropLast else between) ++ slash := by
      split
      · exact ⟨['/'], (List.dropLast_append_getLast? '/' ‹_›).symm⟩
      · exact ⟨[], (List.append_nil between).symm⟩
    simp only [Lexeme.slices, List.forall_mem_cons, List.not_mem_nil, false_implies, implies_true, and_true]
    refine ⟨⟨[], rest, by simp, rfl⟩, ⟨[], between ++ ']' :: rest, by simp, rfl⟩, name, slash ++ ']' :: rest, ?_, ?_⟩
    · conv_lhs => rw [hbetween]
      simp
    · simp

/-- **Escapes, opening tags and standalone tags are read exactly where they are written**, for every registry and every
text behind a bracket.  Behind a second bracket and, if there is one, a slash, a known name has to stand directly before
the first closing bracket, and another one behind that; a slash goes only with the name of a block tag.  Else a known
name has to begin the text, and the first closing bracket ends the tag; a slash before it, behind the name, is not one
of its attributes and makes it complete.  All that is read is a slice of the text between characters, also by bytes. -/
theorem lex_eq_some_iff (registry : Registry) (text : List Char) (l : Lexeme) :
    (lex registry ('[' :: text) = some l ↔ ∃ slash name rest block, text = slash ++ name ++ ']' :: ']' :: rest ∧
      (slash = ['/'] ∨ slash = [] ∧ name.head? ≠ some '/') ∧ NameBefore name (']' :: ']' :: rest) ∧ ']' ∉ name ∧
      registry.isBlock? (String.ofList name) = some block ∧ (slash = ['/'] → block = true) ∧
      l = .escape ('[' :: (slash ++ name) ++ [']', ']']) ('[' :: (slash ++ name) ++ [']'])) ∧
    (text.head? ≠ some '[' → text.head? ≠ some '/' → (lex registry text = some l ↔
      ∃ name between rest block, text = name ++ between ++ ']' :: rest ∧ NameBefore name (between ++ ']' :: rest) ∧
        ']' ∉ name ++ between ∧ registry.isBlock? (String.ofList name) = some block ∧
        l = .tag {
          source := name ++ between ++ [']']
          name
          opens := true
          closes := !block || between.getLast? = some '/'
          attributes := if between.getLast? = some '/' then between.dropLast else between })) ∧
    ∀ whole, lex registry whole = some l → ∀ slice ∈ l.slices, IsSlice whole slice.1 slice.2 ∧
      ((encode whole).drop slice.1).take (byteLength slice.2) = encode slice.2 := by
  refine ⟨lexEscape_eq_some_iff, fun hbracket hslash => ?_, fun whole h slice hslice => ?_⟩
  · rw [lex_of_head hbracket hslash]
    exact lexOpening_eq_some_iff
  · have hcut := isSlice_of_lex h slice hslice
    exact ⟨hcut, hcut.bytes⟩

/-- A tag that is complete by itself; its attributes hold a slash and a character of two bytes. -/
theorem lex_of_complete_caption :
    "caption a=/é/]/]".toList.head? ≠ some '[' ∧ "caption a=/é/]/]".toList.head? ≠ some '/' ∧
      lex Registry.standard "caption a=/é/]/]".toList =
        some (.tag ⟨"caption a=/é/]".toList, "caption".toList, true, true, " a=/é".toList⟩) := by
  have hbracket : "caption a=/é/]/]".toList.head? ≠ some '[' := by decide
  have hslash : "caption a=/é/]/]".toList.head? ≠ some '/' := by decide
  have hbefore : NameBefore "caption".toList (" a=/é/".toList ++ ']' :: "/]".toList) :=
    ⟨⟨'c', "aption".toList, rfl, List.all_eq_true.1 (by decide)⟩, fun c hc => Option.some.inj hc ▸ by decide⟩
  refine ⟨hbracket, hslash, ((lex_eq_some_iff Registry.standard _ _).2.1 hbracket hslash).2 ?_⟩
  exact ⟨"caption".toList, " a=/é/".toList, "/]".toList, true, by decide, hbefore, by decide, by decide, by decide⟩

/-- **Closing tags**, for every registry and every text behind a bracket and a slash: what is read is the name of a
block tag directly before a bracket, which closes and does nothing else; or the name of a block tag, any text and a
slash before the first bracket, and that text is then the attributes of the closing tag. -/
theorem lex_slash_eq_some_iff (registry : Registry) (text : List Char) (l : Lexeme) :
    (lex registry ('/' :: text) = some l ↔
      (∃ name rest, text = name ++ ']' :: rest ∧ NameBefore name (']' :: rest) ∧ ']' ∉ name ∧
        registry.isBlock? (String.ofList name) = some true ∧
        l = .tag ⟨'/' :: name ++ [']'], name, false, true, []⟩) ∨
      ∃ name between rest, text = name ++ between ++ '/' :: ']' :: rest ∧
        NameBefore name (between ++ '/' :: ']' :: rest) ∧ ']' ∉ name ++ between ∧
        registry.isBlock? (String.ofList name) = some true ∧
        l = .tag ⟨'/' :: name ++ between ++ ['/', ']'], name, false, true, between⟩) ∧
    (lex registry ('/' :: text) = some l → ∀ slice ∈ l.slices, IsSlice ('/' :: text) slice.1 slice.2 ∧
      ((encode ('/' :: text)).drop slice.1).take (byteLength slice.2) = encode slice.2) := by
  refine ⟨lexClosing_eq_some_iff, fun h slice hslice => ?_⟩
  have hcut := isSlice_of_lex h slice hslice
  exact ⟨hcut, hcut.bytes⟩

/-- A piece of prose closes a caption. -/
theorem closing_tag_with_text : lex Registry.standard "/caption x/]".toList =
    some (.tag ⟨"/caption x/]".toList, "caption".toList, false, true, " x".toList⟩) := by decide

end BlogMarkdown.Shortcode
