import BlogMarkdown.Proofs.Markdown.Prose
/-!
# Reading body text back

Written body text consists of escaped lines and of two kinds of breaks.  No escaped line holds a newline, and an opening
angle bracket of the source never comes out bare, so a reader tells the breaks from the lines and from each other.  What
cannot be read back is only by how many a run of newlines exceeds two.
-/
namespace BlogMarkdown.Markdown

open Text.Utf8

/-- Reads written body text: line breaks, paragraph breaks, escaped characters, and anything else as it is. -/
def decodeBody : List Char → List Char
  | [] => []
  | '\n' :: '<' :: 'b' :: 'r' :: '>' :: rest => '\n' :: decodeBody rest
  | '\n' :: '\n' :: rest => '\n' :: '\n' :: decodeBody rest
  | '\\' :: c :: rest => if specialInText.contains c then c :: decodeBody rest else '\\' :: decodeBody (c :: rest)
  | c :: rest => c :: decodeBody rest

/-- A text in which no more than two newlines stand together. -/
def shortened : List Char → List Char
  | [] => []
  | '\n' :: '\n' :: '\n' :: rest => shortened ('\n' :: '\n' :: rest)
  | c :: rest => c :: shortened rest

/-! ## What the reader does -/

theorem decodeBody_escaped {c : Char} (hc : c ∈ specialInText) (rest : List Char) :
    decodeBody ('\\' :: c :: rest) = c :: decodeBody rest := by
  rw [decodeBody, if_pos (List.contains_iff_mem.2 hc)]

theorem decodeBody_cons {c : Char} (hslash : c ≠ '\\') (hc : c ≠ '\n') (rest : List Char) :
    decodeBody (c :: rest) = c :: decodeBody rest := by
  rw [decodeBody]
  · rintro rest rfl
    exact absurd rfl hc
  · rintro rest rfl
    exact absurd rfl hc
  · rintro d rest rfl
    exact absurd rfl hslash

/-- **A line is read back**, whatever stands behind it. -/
theorem Escaped.decodeBody_append {s a : List Char} (h : Escaped specialInText s a) (hs : '\n' ∉ s) (rest : List Char) :
    decodeBody (a ++ rest) = s ++ decodeBody rest :=
  h.read_append decodeBody_escaped (fun hmem hc => decodeBody_cons hc (ne_of_mem_of_not_mem hmem hs)) rest

theorem lineBreak_long {newlines : Nat} (h : 2 ≤ newlines) : lineBreak newlines = ['\n', '\n'] := by
  rw [lineBreak, if_neg (by omega), if_neg (by omega)]
  rfl

/-- A break is read as the newlines it stands for, two at most. -/
theorem decodeBody_lineBreak (newlines : Nat) (rest : List Char) :
    decodeBody (lineBreak newlines ++ rest) = List.replicate (min newlines 2) '\n' ++ decodeBody rest := by
  rcases newlines with _ | _ | newlines
  · rfl
  · rfl
  · have hmin : min (newlines + 1 + 1) 2 = 2 := by omega
    rw [hmin, lineBreak_long (by omega), List.cons_append, List.singleton_append, decodeBody]
    rfl

/-! ## Shortened texts -/

theorem shortened_cons {c : Char} {s : List Char} (h : ∀ rest, c :: s ≠ '\n' :: '\n' :: '\n' :: rest) :
    shortened (c :: s) = c :: shortened s := by
  rw [shortened]
  rintro rest rfl rfl
  exact h rest rfl

theorem shortened_line {line : List Char} (h : '\n' ∉ line) (s : List Char) : shortened (line ++ s) = line ++ shortened s := by
  induction line with
  | nil => rfl
  | cons c line ih =>
    rw [List.mem_cons, not_or] at h
    have hc (rest : List Char) : c :: (line ++ s) ≠ '\n' :: '\n' :: '\n' :: rest :=
      fun he => h.1 (List.cons.inj he).1.symm
    rw [List.cons_append, shortened_cons hc, ih h.2, List.cons_append]

theorem shortened_newlines {s : List Char} (hs : s.head? ≠ some '\n') : ∀ newlines,
    shortened (List.replicate newlines '\n' ++ s) = List.replicate (min newlines 2) '\n' ++ shortened s
  | 0 => rfl
  | 1 => by
    refine shortened_cons fun rest he => hs ?_
    rw [show s = '\n' :: '\n' :: rest from (List.cons.inj he).2, List.head?_cons]
  | 2 => by
    have hone := shortened_newlines hs 1
    refine (shortened_cons fun rest he => hs ?_).trans (congrArg _ hone)
    rw [show s = '\n' :: rest from (List.cons.inj (List.cons.inj he).2).2, List.head?_cons]
  | newlines + 3 => by
    have hmore := shortened_newlines hs (newlines + 2)
    have hmin : min (newlines + 3) 2 = min (newlines + 2) 2 := by omega
    rw [hmin, ← hmore, List.replicate_succ, List.replicate_succ, List.replicate_succ, List.cons_append, List.cons_append,
      List.cons_append, shortened]

/-- Newlines before a line, where they do not go on. -/
theorem shortened_lead {line s : List Char} (hline : '\n' ∉ line) {newlines : Nat}
    (h : line = [] → newlines = 0 ∨ s.head? ≠ some '\n') :
    shortened (List.replicate newlines '\n' ++ (line ++ s)) =
      List.replicate (min newlines 2) '\n' ++ (line ++ shortened s) := by
  rw [← shortened_line hline]
  cases line with
  | nil =>
    rcases h rfl with rfl | hs
    · rfl
    · exact shortened_newlines hs newlines
  | cons c line => exact shortened_newlines (by simpa using Ne.symm (List.ne_of_not_mem_cons hline)) newlines

/-! ## The lines of a text -/

/-- Lines as they are written, each behind its break. -/
def writtenLines (lines : List (Nat × List Char)) : List Char :=
  lines.flatMap fun (newlines, line) => lineBreak newlines ++ escape specialInText line

theorem decodeBody_writtenLines_cons {line : List Char} (hline : '\n' ∉ line) (newlines : Nat)
    (lines : List (Nat × List Char)) (rest : List Char) :
    decodeBody (writtenLines ((newlines, line) :: lines) ++ rest) =
      List.replicate (min newlines 2) '\n' ++ (line ++ decodeBody (writtenLines lines ++ rest)) := by
  have hread := (escaped_escape backslash_mem_specialInText line).decodeBody_append hline (writtenLines lines ++ rest)
  rw [← hread, ← decodeBody_lineBreak]
  simp [writtenLines]

/-- **Lines are read back** up to the length of runs of newlines. -/
theorem decodeBody_bodyLines (rest : List Char) : ∀ (text line : List Char) (newlines : Nat), '\n' ∉ line →
    decodeBody (writtenLines (bodyLines newlines line text) ++ rest) =
      shortened (List.replicate newlines '\n' ++ (line.reverse ++ text)) ++ decodeBody rest
  | [], line, newlines, hline => by
    have hreverse : '\n' ∉ line.reverse := by simpa using hline
    rw [bodyLines, decodeBody_writtenLines_cons hreverse, shortened_lead hreverse fun _ => .inr (by simp)]
    simp [writtenLines, shortened]
  | c :: text, line, newlines, hline => by
    rw [bodyLines]
    split
    · rename_i hc
      have hlonger : '\n' ∉ c :: line := by simp [hline, Ne.symm hc]
      rw [decodeBody_bodyLines rest text (c :: line) newlines hlonger, List.reverse_cons, List.append_assoc,
        List.singleton_append]
    · rename_i hc
      obtain rfl := not_not.1 hc
      split
      · -- one newline more of the run
        rename_i hopen
        obtain rfl := List.isEmpty_iff.1 hopen.1
        rw [decodeBody_bodyLines rest text [] (newlines + 1) List.not_mem_nil, List.replicate_succ']
        simp
      · -- the line ends
        rename_i hclosed
        have hreverse : '\n' ∉ line.reverse := by simpa using hline
        have hlead : line.reverse = [] → newlines = 0 ∨ ('\n' :: text).head? ≠ some '\n' := fun hempty =>
          .inl (by simpa [List.reverse_eq_nil_iff.1 hempty] using hclosed)
        rw [decodeBody_writtenLines_cons hreverse, decodeBody_bodyLines rest text [] 1 List.not_mem_nil,
          shortened_lead hreverse hlead]
        simp

/-- **Body text is read back** up to the length of runs of newlines, whatever stands behind it. -/
theorem decodeBody_bodyText_append (text rest : List Char) :
    decodeBody (bodyText text ++ rest) = shortened text ++ decodeBody rest :=
  decodeBody_bodyLines rest text [] 0 List.not_mem_nil

theorem decodeBody_bodyText (text : List Char) : decodeBody (bodyText text) = shortened text := by
  have hread := decodeBody_bodyText_append text []
  rwa [decodeBody, List.append_nil, List.append_nil] at hread

/-! ## Texts that are written alike -/

/-- From two newlines on their number makes no difference. -/
theorem writtenLines_long : ∀ (text line : List Char) {m n : Nat}, 2 ≤ m → 2 ≤ n →
    writtenLines (bodyLines m line text) = writtenLines (bodyLines n line text)
  | [], line, m, n, hm, hn => by
    simp only [bodyLines, writtenLines, List.flatMap_singleton, lineBreak_long hm, lineBreak_long hn]
  | c :: text, line, m, n, hm, hn => by
    have hm' : m ≠ 0 := by omega
    have hn' : n ≠ 0 := by omega
    have hlonger := writtenLines_long text (c :: line) hm hn
    have hmore := writtenLines_long text [] (Nat.le_succ_of_le hm) (Nat.le_succ_of_le hn)
    simp only [bodyLines, ne_eq, hm', hn', not_false_eq_true, and_true]
    split
    · exact hlonger
    · split
      · exact hmore
      · simp only [writtenLines, List.flatMap_cons, lineBreak_long hm, lineBreak_long hn]

theorem writtenLines_shortened (text : List Char) : ∀ (line : List Char) (newlines : Nat),
    writtenLines (bodyLines newlines line (shortened text)) = writtenLines (bodyLines newlines line text) := by
  induction text using shortened.induct with
  | case1 => exact fun _ _ => rfl
  | case2 rest ih =>
    -- two newlines are left of three, wherever the run has begun
    intro line newlines
    have hnext {n : Nat} (hn : n ≠ 0) : writtenLines (bodyLines n [] ('\n' :: rest)) =
        writtenLines (bodyLines n [] ('\n' :: '\n' :: rest)) := by
      rw [bodyLines_newline n, bodyLines_newline n, if_pos ⟨rfl, hn⟩, if_pos ⟨rfl, hn⟩, bodyLines_newline (n + 1),
        if_pos ⟨rfl, Nat.succ_ne_zero n⟩]
      exact writtenLines_long rest [] (by omega) (by omega)
    rw [shortened, ih, bodyLines_newline newlines line, bodyLines_newline newlines line]
    split
    · exact hnext (Nat.succ_ne_zero newlines)
    · rw [writtenLines, writtenLines, List.flatMap_cons, List.flatMap_cons]
      exact congrArg _ (hnext Nat.one_ne_zero)
  | case3 c rest h ih =>
    intro line newlines
    rw [shortened_cons fun rest' he => h rest' (List.cons.inj he).1 (List.cons.inj he).2, bodyLines, bodyLines]
    split
    · exact ih (c :: line) newlines
    · split
      · exact ih [] (newlines + 1)
      · rw [writtenLines, writtenLines, List.flatMap_cons, List.flatMap_cons]
        exact congrArg _ (ih [] 1)

/-- **Two body texts are written alike exactly if they differ only in the length of runs of newlines.** -/
theorem bodyText_eq_iff {s t : List Char} : bodyText s = bodyText t ↔ shortened s = shortened t := by
  refine ⟨fun h => by rw [← decodeBody_bodyText, h, decodeBody_bodyText], fun h => ?_⟩
  have hshort (s : List Char) : bodyText (shortened s) = bodyText s := writtenLines_shortened s [] 0
  rw [← hshort, h, hshort]

/-- **Rendered body text can be decoded.**  What a text writes on an empty sheet is read back as the text with every run
of two or more newlines shortened to two; so texts that differ otherwise never come out the same. -/
theorem decodeBody_of_written (text : List Char) : ∃ out, (Writer.empty.write (bodyText text)).text = .ok out ∧
    decodeBody out = shortened text ∧
    ∀ other, (Writer.empty.write (bodyText other)).text = .ok out ↔ shortened other = shortened text := by
  have hout (s : List Char) : (Writer.empty.write (bodyText s)).text = .ok (bodyText s) :=
    (Writer.spells_write_empty _).text_eq
  refine ⟨bodyText text, hout text, decodeBody_bodyText text, fun other => ?_⟩
  rw [hout other, Except.ok.injEq]
  exact bodyText_eq_iff

example : bodyText "a\n<br>\n\n\n\\".toList = "a\n<br>\\<br\\>\n\n\\\\".toList := by decide

end BlogMarkdown.Markdown
