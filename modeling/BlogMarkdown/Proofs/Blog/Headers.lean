import BlogMarkdown.Proofs.Blog.Records
import BlogMarkdown.Proofs.Markdown.Beginning
/-!
# Headers

The file of a doc is a header of a few lines and the text right behind it.  The header can be read back since the text
never looks like another line of it: what the title needs to be is one line.
-/
namespace BlogMarkdown.Blog

open Markdown

/-! ## Lines -/

/-- The lines of a text, each with the newline that ends it. -/
def linesOf : List Char → List (List Char)
  | [] => []
  | c :: rest =>
    if c = '\n' then [c] :: linesOf rest
    else
      match linesOf rest with
      | [] => [[c]]
      | line :: more => (c :: line) :: more

theorem flatten_linesOf : ∀ s : List Char, (linesOf s).flatten = s
  | [] => rfl
  | c :: rest => by
    have ih := flatten_linesOf rest
    rw [linesOf]
    split
    · rw [List.flatten_cons, ih]
      rfl
    · cases hlines : linesOf rest with
      | nil =>
        rw [hlines] at ih
        simp [← ih]
      | cons line more =>
        rw [hlines] at ih
        simp [← ih]

theorem linesOf_line : ∀ {line : List Char}, '\n' ∉ line → ∀ rest : List Char,
    linesOf (line ++ '\n' :: rest) = (line ++ ['\n']) :: linesOf rest
  | [], _, rest => by
    rw [List.nil_append, linesOf, if_pos rfl]
    rfl
  | c :: line, h, rest => by
    obtain ⟨hc, hline⟩ := List.ne_and_not_mem_of_not_mem_cons h
    rw [List.cons_append, linesOf, if_neg (Ne.symm hc), linesOf_line hline rest]
    rfl

theorem head?_linesOf {s line : List Char} {more : List (List Char)} (h : linesOf s = line :: more) :
    line.head? = s.head? := by
  cases s with
  | nil => cases h
  | cons c rest =>
    rw [linesOf] at h
    split at h
    · cases h
      rfl
    · split at h <;> cases h <;> rfl

/-! ## Headers -/

/-- What the lines of a header begin with. -/
def headerMarks : List (List Char) := ["-title=".toList, "-time=".toList, "-type=".toList]

/-- Whether a line belongs to a header. -/
def isHeaderLine (line : List Char) : Bool := headerMarks.any (·.isPrefixOf line)

/-- The header lines that a file begins with, and what stands behind them. -/
def readHeader (file : List Char) : List (List Char) × List Char :=
  ((linesOf file).takeWhile isHeaderLine, ((linesOf file).dropWhile isHeaderLine).flatten)

/-- The header of a doc, line by line. -/
def Doc.header (doc : Doc) : List (List Char) :=
  ("-title=".toList ++ doc.title.toList ++ ['\n']) ::
    ((doc.published.toList.map fun time => "-time=".toList ++ time.toList ++ ['\n']) ++
      if doc.kind = .page then ["-type=page\n".toList] else [])

theorem isHeaderLine_append {mark : List Char} (h : mark ∈ headerMarks) (rest : List Char) :
    isHeaderLine (mark ++ rest) = true :=
  List.any_eq_true.2 ⟨mark, h, List.isPrefixOf_iff_prefix.2 (List.prefix_append mark rest)⟩

theorem readHeader_line {mark line : List Char} (hmark : mark ∈ headerMarks) (h : '\n' ∉ line) (rest : List Char) :
    readHeader (mark ++ line ++ '\n' :: rest) =
      ((mark ++ line ++ ['\n']) :: (readHeader rest).1, (readHeader rest).2) := by
  have hline : '\n' ∉ mark ++ line := by
    rw [List.mem_append]
    rintro (hmem | hmem)
    · revert mark
      decide
    · exact h hmem
  have hheader : isHeaderLine (mark ++ line ++ ['\n']) = true := by
    rw [List.append_assoc]
    exact isHeaderLine_append hmark _
  rw [readHeader, linesOf_line hline, List.takeWhile_cons_of_pos hheader, List.dropWhile_cons_of_pos hheader]
  rfl

/-- A text that does not begin with a hyphen is behind the header. -/
theorem readHeader_text {s : List Char} (h : s.head? ≠ some '-') : readHeader s = ([], s) := by
  have hlines := flatten_linesOf s
  unfold readHeader
  cases hs : linesOf s with
  | nil =>
    rw [hs] at hlines
    rw [← hlines]
    rfl
  | cons line more =>
    have hno : isHeaderLine line = false := by
      have hhead := head?_linesOf hs
      rw [← hhead] at h
      refine Bool.eq_false_iff.2 fun hline => h ?_
      obtain ⟨mark, hmark, hprefix⟩ := List.any_eq_true.1 hline
      obtain ⟨rest, rfl⟩ := List.isPrefixOf_iff_prefix.1 hprefix
      have hdash : ∀ mark ∈ headerMarks, mark.head? = some '-' := by decide
      rw [List.head?_append, hdash mark hmark]
      rfl
    rw [List.takeWhile_cons_of_neg (by simp [hno]), List.dropWhile_cons_of_neg (by simp [hno]), ← hs, hlines]

/-- What a file has behind the title. -/
def Doc.behindTitle (doc : Doc) : List Char :=
  (match doc.published with
    | some time => "-time=".toList ++ time.toList ++ ['\n']
    | none => []) ++
  (if doc.kind = .page then "-type=page\n".toList else []) ++ doc.content.toList

theorem file_eq (doc : Doc) :
    doc.file = "-title=".toList ++ doc.title.toList ++ '\n' :: doc.behindTitle := by
  unfold Doc.file Doc.behindTitle
  cases doc.published <;> simp only [List.append_assoc, List.cons_append, List.nil_append]

theorem readHeader_behindTitle {doc : Doc} (htime : ∀ time ∈ doc.published, '\n' ∉ time.toList)
    (hcontent : doc.content.toList.head? ≠ some '-') :
    readHeader doc.behindTitle = (doc.header.tail, doc.content.toList) := by
  have htext := readHeader_text hcontent
  have hkind : readHeader ((if doc.kind = .page then "-type=page\n".toList else []) ++ doc.content.toList) =
      (if doc.kind = .page then ["-type=page\n".toList] else [], doc.content.toList) := by
    split
    · have hline := readHeader_line (by decide : "-type=".toList ∈ headerMarks)
        (by decide : '\n' ∉ "page".toList) doc.content.toList
      rw [htext] at hline
      exact hline
    · exact htext
  unfold Doc.behindTitle Doc.header
  cases hpublished : doc.published with
  | none => exact hkind
  | some time =>
    have hline := readHeader_line (by decide : "-time=".toList ∈ headerMarks) (htime time hpublished)
      ((if doc.kind = .page then "-type=page\n".toList else []) ++ doc.content.toList)
    rw [hkind] at hline
    simp only [List.append_assoc, List.cons_append, List.nil_append] at hline ⊢
    exact hline

/-- The header of a doc is read back exactly if its title is one line. -/
theorem readHeader_file {doc : Doc} (htime : ∀ time ∈ doc.published, '\n' ∉ time.toList)
    (hcontent : doc.content.toList.head? ≠ some '-') :
    readHeader doc.file = (doc.header, doc.content.toList) ↔ '\n' ∉ doc.title.toList := by
  constructor
  · intro hread hmem
    obtain ⟨first, more, htitle, hfirst⟩ := List.eq_append_cons_of_mem hmem
    -- the first line ends within the title
    have hline := readHeader_line (by decide : "-title=".toList ∈ headerMarks) hfirst (more ++ '\n' :: doc.behindTitle)
    have hfile : doc.file = "-title=".toList ++ first ++ '\n' :: (more ++ '\n' :: doc.behindTitle) := by
      rw [file_eq, htitle]
      simp
    rw [hfile, hline] at hread
    have hhead := (List.cons.inj (Prod.mk.inj hread).1).1
    rw [List.append_assoc, List.append_assoc] at hhead
    have htitle' : first = doc.title.toList := List.append_cancel_right (List.append_cancel_left hhead)
    exact hfirst (htitle' ▸ hmem)
  · intro htitle
    rw [file_eq, readHeader_line (by decide) htitle, readHeader_behindTitle htime hcontent]
    rfl

/-! ## Docs of a blog -/

theorem newline_not_mem_of_isTime {value : List Char} (h : isTime value = true) : '\n' ∉ value := by
  unfold isTime at h
  split at h
  case h_2 => cases h
  simp only [Bool.and_eq_true] at h
  have hdigits := List.all_eq_true.1 h.1.1.1.1.1.1.1
  intro hmem
  have hdigit : ¬ '\n'.isDigit = true := by decide
  simp only [List.mem_cons, List.not_mem_nil, or_false] at hmem hdigits
  exact hdigit (hdigits _ (by grind))

theorem newline_not_mem_of_publishedTime {value time : String} (h : publishedTime value = .ok (some time)) :
    '\n' ∉ time.toList := by
  unfold publishedTime at h
  split at h
  · cases h
  split at h
  · rename_i htime
    cases h
    exact newline_not_mem_of_isTime htime
  · cases h

theorem publishedTime_of_makes {item : Export.Item} {entry : Entry} (h : Makes item entry) :
    publishedTime item.postDateGmt = .ok entry.doc.published := by
  unfold Makes Entry.ofItem at h
  split at h
  · cases h
  split at h
  · cases h
  · obtain ⟨status, -, h⟩ := exists_of_bind h
    obtain ⟨published, hpublished, h⟩ := exists_of_bind h
    obtain ⟨comments, -, h⟩ := exists_of_bind h
    cases h
    exact hpublished

/-- Each attempt converts one of the docs. -/
theorem of_mem_attempts {links : Links} {attempt : Attempt} : ∀ {docs : List Doc} {names : FileNames},
    attempt ∈ (attempts links names docs).1 → attempt.doc ∈ docs ∧
      ∃ names, attempt.result = (convert .standard links.rewriter attempt.doc.html.toList names).1
  | doc :: docs, names, h => by
    rw [attempts] at h
    rcases List.mem_cons.1 h with rfl | h
    · exact ⟨List.mem_cons_self, names, by dsimp only⟩
    · obtain ⟨hdoc, hresult⟩ := of_mem_attempts h
      exact ⟨List.mem_cons_of_mem _ hdoc, hresult⟩

theorem of_converted? {attempt : Attempt} {doc : Doc} (h : attempt.converted? = some doc) :
    ∃ text, attempt.result = .ok text ∧ doc = { attempt.doc with content := String.ofList text } := by
  unfold Attempt.converted? at h
  split at h
  · rename_i text hresult
    exact ⟨text, hresult, (Option.some.inj h).symm⟩
  · cases h

/-- **A header can be read back exactly if the title is one line.**  Of the file of a doc, the leading lines that look
like lines of a header are one with the title, one with the time if the doc was published, and one with the kind if it
is a page; and what stands behind them is the text of the doc. -/
theorem readHeader_of_ofChannel {channel : Export.Channel} {options : Options} {blog : Blog}
    (h : ofChannel channel options = .ok blog) {doc : Doc} (hdoc : doc ∈ blog.docs) :
    readHeader doc.file = (doc.header, doc.content.toList) ↔ '\n' ∉ doc.title.toList := by
  obtain ⟨prepared, hprepared, rfl⟩ := exists_prepared h
  have hmade : List.Forall₂ Makes (channel.items.filter isDocItem) prepared.entries :=
    forall₂_entriesOf (entriesOf_of_prepared hprepared).1
  have hdocs : doc ∈ (attempts (prepared.links options.mediaDir) [] prepared.docs).1.filterMap (·.converted?) := hdoc
  obtain ⟨attempt, hattempt, hconverted⟩ := List.mem_filterMap.1 hdocs
  obtain ⟨text, htext, rfl⟩ := of_converted? hconverted
  obtain ⟨hmem, names, hresult⟩ := of_mem_attempts hattempt
  obtain ⟨entry, hentry, hentryDoc⟩ := List.mem_map.1 hmem
  obtain ⟨before, after, hsplit⟩ := List.append_of_mem hentry
  obtain ⟨-, item, -, -, hitem, -⟩ := exists_item_of_append (hsplit ▸ hmade)
  refine readHeader_file (fun time htime => ?_) ?_
  · have hpublished := publishedTime_of_makes hitem
    rw [hentryDoc, show attempt.doc.published = some time from htime] at hpublished
    exact newline_not_mem_of_publishedTime hpublished
  · rw [String.toList_ofList]
    exact undashed_of_convert (hresult.symm.trans htext)

/-- A channel of one doc. -/
def titledChannel (title postType html : String) : Export.Channel :=
  { items := [
      { title := title, postType := postType, postName := "p", content := html, postDateGmt := "2013-07-15 10:00:00",
        status := "publish", commentStatus := "open" }] }

/-- A page whose title and text begin like header lines. -/
def markedPage : Doc :=
  { id := "p", title := "-time=b", content := "\\-type=page\n", html := "-type=page", kind := .page, status := .publish,
    published := some "2013-07-15 10:00:00", commentsEnabled := true }

theorem readHeader_of_markedPage :
    (∃ blog, ofChannel (titledChannel "-time=b" "page" "-type=page") {} = .ok blog ∧ markedPage ∈ blog.docs) ∧
      readHeader markedPage.file = (["-title=-time=b\n".toList, "-time=2013-07-15 10:00:00\n".toList,
        "-type=page\n".toList], "\\-type=page\n".toList) := by
  have hblog : ofChannel (titledChannel "-time=b" "page" "-type=page") {} = .ok
      { author := {}, docs := [markedPage], attachments := [], failures := [] } := by decide +kernel
  have hmem : markedPage ∈ [markedPage] := List.mem_cons_self
  exact ⟨⟨_, hblog, hmem⟩, (readHeader_of_ofChannel hblog hmem).2 (by decide)⟩

/-- A post whose title ends in a line of its own is read back as a page. -/
theorem header_of_two_lines : ∃ blog doc, ofChannel (titledChannel "a\n-type=page" "post" "x") {} = .ok blog ∧
    doc ∈ blog.docs ∧ doc.kind = .post ∧ doc.header = ["-title=a\n-type=page\n".toList,
      "-time=2013-07-15 10:00:00\n".toList] ∧
    readHeader doc.file = (["-title=a\n".toList, "-type=page\n".toList, "-time=2013-07-15 10:00:00\n".toList],
      "x\n".toList) := by
  refine ⟨{ author := {}, attachments := [], failures := [], docs := [_] },
    { id := "p", title := "a\n-type=page", content := "x\n", html := "x", kind := .post, status := .publish,
      published := some "2013-07-15 10:00:00", commentsEnabled := true }, ?_, List.mem_cons_self, ?_⟩ <;> decide +kernel

end BlogMarkdown.Blog
