import BlogMarkdown.Blog.Conversion
import Mathlib.Data.List.Basic
/-!
# What becomes of each doc

Docs are converted in order, each with the names of files that those before it left.  Whether a failure ends the
conversion or sets the doc aside makes no difference up to the first failure, so a conversion that stops there tells
what one that goes on finds first.
-/
namespace BlogMarkdown.Blog

open Markdown

/-! ## Attempts -/

/-- A doc and what converting it gave. -/
structure Attempt where
  doc : Doc
  result : Except Error (List Char)

namespace Attempt

/-- The converted doc. -/
def converted? (attempt : Attempt) : Option Doc :=
  match attempt.result with
  | .ok text => some { attempt.doc with content := String.ofList text }
  | .error _ => none

/-- Why the doc is set aside. -/
def failure? (attempt : Attempt) : Option Error :=
  match attempt.result with
  | .ok _ => none
  | .error e => some (.document attempt.doc.title e)

theorem document_of_failure? {attempt : Attempt} {e : Error} (h : attempt.failure? = some e) :
    ∃ source, e = .document attempt.doc.title source := by
  rw [failure?] at h
  cases hresult : attempt.result with
  | ok text => rw [hresult] at h; cases h
  | error source => rw [hresult] at h; exact ⟨source, (Option.some.inj h).symm⟩

end Attempt

/-- Converts docs in order, each with the names of files that those before it left. -/
def attempts (links : Links) (names : FileNames) : List Doc → List Attempt × FileNames
  | [] => ([], names)
  | doc :: docs =>
    let outcome := convert .standard links.rewriter doc.html.toList names
    let rest := attempts links outcome.2 docs
    (⟨doc, outcome.1⟩ :: rest.1, rest.2)

/-- Every doc is attempted, in order. -/
theorem map_doc_attempts (links : Links) : ∀ (docs : List Doc) (names : FileNames),
    (attempts links names docs).1.map (·.doc) = docs
  | [], _ => rfl
  | doc :: docs, names => by
    rw [attempts, List.map_cons, map_doc_attempts links docs]

/-- What some attempts add to what was done before them. -/
def Converted.add (done : Converted) (tried : List Attempt × FileNames) : Converted :=
  { docs := done.docs ++ tried.1.filterMap (·.converted?)
    failures := done.failures ++ tried.1.filterMap (·.failure?)
    names := tried.2 }

theorem convertDoc_eq (links : Links) (keepGoing : Bool) (done : Converted) (doc : Doc) :
    convertDoc links keepGoing done doc =
      let outcome := convert .standard links.rewriter doc.html.toList done.names
      match (Attempt.mk doc outcome.1).failure? with
      | some failure =>
        if keepGoing then .ok (done.add ([⟨doc, outcome.1⟩], outcome.2)) else .error failure
      | none => .ok (done.add ([⟨doc, outcome.1⟩], outcome.2)) := by
  unfold convertDoc Converted.add
  generalize convert .standard links.rewriter doc.html.toList done.names = outcome
  obtain ⟨result, names⟩ := outcome
  cases result with
  | ok text => simp [Attempt.failure?, Attempt.converted?]
  | error e => cases keepGoing <;> simp [Attempt.failure?, Attempt.converted?]

theorem add_attempts_nil (links : Links) (done : Converted) : done.add (attempts links done.names []) = done := by
  rw [attempts, Converted.add, List.filterMap_nil, List.filterMap_nil, List.append_nil, List.append_nil]

theorem add_attempts_cons (links : Links) (done : Converted) (doc : Doc) (docs : List Doc) :
    let outcome := convert .standard links.rewriter doc.html.toList done.names
    done.add (attempts links done.names (doc :: docs)) =
      (done.add ([⟨doc, outcome.1⟩], outcome.2)).add (attempts links outcome.2 docs) := by
  dsimp only
  rw [attempts]
  simp only [Converted.add, List.append_assoc, ← List.filterMap_append, List.singleton_append]

/-- A conversion that goes on keeps what every attempt gave. -/
theorem foldlM_convertDoc_true (links : Links) : ∀ (docs : List Doc) (done : Converted),
    docs.foldlM (convertDoc links true) done = .ok (done.add (attempts links done.names docs))
  | [], done => by
    rw [List.foldlM_nil, add_attempts_nil]
    rfl
  | doc :: docs, done => by
    rw [List.foldlM_cons, convertDoc_eq, add_attempts_cons]
    dsimp only
    generalize convert .standard links.rewriter doc.html.toList done.names = outcome
    cases (Attempt.mk doc outcome.1).failure? <;> exact foldlM_convertDoc_true links docs _

/-- A conversion that stops gives the first failure, or what one that goes on gives. -/
theorem foldlM_convertDoc_false (links : Links) : ∀ (docs : List Doc) (done : Converted),
    docs.foldlM (convertDoc links false) done =
      match (attempts links done.names docs).1.filterMap (·.failure?) with
      | [] => .ok (done.add (attempts links done.names docs))
      | failure :: _ => .error failure
  | [], done => by
    rw [List.foldlM_nil, add_attempts_nil, attempts, List.filterMap_nil]
    rfl
  | doc :: docs, done => by
    rw [List.foldlM_cons, convertDoc_eq, add_attempts_cons, attempts]
    dsimp only
    generalize convert .standard links.rewriter doc.html.toList done.names = outcome
    cases hfailure : (Attempt.mk doc outcome.1).failure? with
    | some failure =>
      rw [List.filterMap_cons_some hfailure]
      rfl
    | none =>
      rw [List.filterMap_cons_none hfailure]
      exact foldlM_convertDoc_false links docs _

/-! ## Faults of the export -/

/-- Whatever is refused is refused for a fault of the export. -/
def FaultsOnly {α : Type} (x : Except Error α) : Prop := ∀ e, x = .error e → ∃ fault, e = .invalidExport fault

namespace FaultsOnly

variable {α β : Type}

theorem ok (a : α) : FaultsOnly (.ok a) := by
  intro e h
  cases h

theorem fault (fault : ExportFault) : FaultsOnly (.error (.invalidExport fault) : Except Error α) := by
  intro e h
  cases h
  exact ⟨fault, rfl⟩

theorem bind {x : Except Error α} {f : α → Except Error β} (hx : FaultsOnly x) (hf : ∀ a, FaultsOnly (f a)) :
    FaultsOnly (x >>= f) := by
  intro e h
  cases x with
  | error e' => exact hx e (by cases h; rfl)
  | ok a => exact hf a e h

theorem foldlM {step : β → α → Except Error β} (hstep : ∀ b a, FaultsOnly (step b a)) : ∀ (l : List α) (b : β),
    FaultsOnly (l.foldlM step b)
  | [], b => ok b
  | a :: l, b => by
    rw [List.foldlM_cons]
    exact bind (hstep b a) (foldlM hstep l)

theorem mapM {f : α → Except Error β} (hf : ∀ a, FaultsOnly (f a)) : ∀ l : List α, FaultsOnly (l.mapM f)
  | [] => ok []
  | a :: l => by
    rw [List.mapM_cons]
    exact bind (hf a) fun b => bind (mapM hf l) fun bs => ok (b :: bs)

end FaultsOnly

theorem faultsOnly_authorOf (channel : Export.Channel) : FaultsOnly (authorOf channel) := by
  rw [authorOf]
  split
  · exact .ok _
  · exact .ok _
  · exact .fault _

theorem faultsOnly_docStatus (status : String) : FaultsOnly (docStatus status) := by
  unfold docStatus
  split <;> first | exact .ok _ | exact .fault _

theorem faultsOnly_commentsEnabled (status : String) : FaultsOnly (commentsEnabled status) := by
  unfold commentsEnabled
  split <;> first | exact .ok _ | exact .fault _

theorem faultsOnly_publishedTime (value : String) : FaultsOnly (publishedTime value) := by
  rw [publishedTime]
  split
  · exact .ok _
  · split
    · exact .ok _
    · exact .fault _

theorem faultsOnly_ofItem (item : Export.Item) : FaultsOnly (Entry.ofItem item) := by
  rw [Entry.ofItem]
  split
  · exact .ok _
  split
  · exact .fault _
  · exact .bind (faultsOnly_docStatus _) fun _ => .bind (faultsOnly_publishedTime _) fun _ =>
      .bind (faultsOnly_commentsEnabled _) fun _ => .ok _

theorem faultsOnly_addEntry (entries : List Entry) (item : Export.Item) : FaultsOnly (addEntry entries item) := by
  refine .bind (faultsOnly_ofItem item) fun entry? => ?_
  cases entry? with
  | none => exact .ok _
  | some entry =>
    dsimp only
    cases entries.find? (·.doc.id = entry.doc.id) with
    | none => exact .ok _
    | some other => exact .fault _

theorem faultsOnly_entriesOf (channel : Export.Channel) : FaultsOnly (entriesOf channel) :=
  .foldlM faultsOnly_addEntry channel.items []

theorem faultsOnly_attachmentsOf (channel : Export.Channel) (entries : List Entry) :
    FaultsOnly (attachmentsOf channel entries) := by
  refine .mapM (fun item => ?_) _
  rw [parentOf]
  cases entries.reverse.find? (·.postId = item.postParent) with
  | none => exact .fault _
  | some entry => exact .ok _

/-! ## Stopping and going on -/

/-- What is read off a channel before any doc is converted. -/
structure Prepared where
  author : Author
  entries : List Entry
  attachments : List Attachment

namespace Prepared

/-- The author, the docs and the attachments of a channel. -/
def ofChannel (channel : Export.Channel) : Except Error Prepared := do
  let author ← authorOf channel
  let entries ← entriesOf channel
  let attachments ← attachmentsOf channel entries
  return ⟨author, entries, attachments⟩

/-- Where the docs and attachments were on the web. -/
def links (prepared : Prepared) (mediaDir : String) : Links := linksOf mediaDir prepared.entries prepared.attachments

/-- The docs in order. -/
def docs (prepared : Prepared) : List Doc := prepared.entries.map (·.doc)

/-- The blog once the docs are converted. -/
def blog (prepared : Prepared) (done : Converted) : Blog where
  author := prepared.author
  docs := done.docs
  attachments := prepared.attachments.zipIdx.map fun (attachment, number) =>
    { attachment with filename := done.names.lookup number }
  failures := done.failures

theorem faultsOnly (channel : Export.Channel) : FaultsOnly (ofChannel channel) :=
  .bind (faultsOnly_authorOf channel) fun _ => .bind (faultsOnly_entriesOf channel) fun entries =>
    .bind (faultsOnly_attachmentsOf channel entries) fun _ => .ok _

end Prepared

theorem ofChannel_eq (channel : Export.Channel) (options : Options) :
    ofChannel channel options = Prepared.ofChannel channel >>= fun prepared =>
      prepared.docs.foldlM (convertDoc (prepared.links options.mediaDir) options.keepGoing) {} >>= fun done =>
        .ok (prepared.blog done) := by
  unfold ofChannel Prepared.ofChannel
  cases authorOf channel with
  | error e => rfl
  | ok author =>
    cases entriesOf channel with
    | error e => rfl
    | ok entries =>
      show (attachmentsOf channel entries >>= _) = (attachmentsOf channel entries >>= _) >>= _
      cases attachmentsOf channel entries with
      | error e => rfl
      | ok attachments => rfl

/-- What a conversion of some prepared docs comes to when it sets failures aside. -/
def Prepared.converted (prepared : Prepared) (options : Options) : Converted :=
  ({} : Converted).add (attempts (prepared.links options.mediaDir) [] prepared.docs)

/-- An export is refused in either way, or the first failure of what goes on is what stops the conversion. -/
theorem ofChannel_prepared {channel : Export.Channel} {prepared : Prepared}
    (h : Prepared.ofChannel channel = .ok prepared) (options : Options) :
    ofChannel channel options =
      match options.keepGoing, (prepared.converted options).failures with
      | false, failure :: _ => .error failure
      | _, _ => .ok (prepared.blog (prepared.converted options)) := by
  rw [ofChannel_eq, h]
  change (prepared.docs.foldlM (convertDoc (prepared.links options.mediaDir) options.keepGoing) {} >>= fun done =>
    .ok (prepared.blog done)) = _
  cases options.keepGoing with
  | true => rw [foldlM_convertDoc_true]; rfl
  | false =>
    rw [foldlM_convertDoc_false]
    unfold Prepared.converted Converted.add
    simp only [List.nil_append]
    cases (attempts (prepared.links options.mediaDir) [] prepared.docs).1.filterMap (·.failure?) with
    | nil => rfl
    | cons failure rest => rfl

theorem document_of_mem_failures {prepared : Prepared} {options : Options} {e : Error}
    (h : e ∈ (prepared.converted options).failures) : ∃ title source, e = .document title source := by
  rw [Prepared.converted, Converted.add, List.nil_append] at h
  obtain ⟨attempt, -, h⟩ := List.mem_filterMap.1 h
  exact ⟨_, Attempt.document_of_failure? h⟩

theorem ofChannel_refused {channel : Export.Channel} {e : Error} (h : Prepared.ofChannel channel = .error e)
    (options : Options) : ofChannel channel options = .error e := by
  rw [ofChannel_eq, h]
  rfl

/-- **Going on changes only what follows the first failure.**  Where a conversion that stops gives a blog, one that goes
on gives the same blog without failures; where it stops at a doc, one that goes on gives a blog with this failure first;
any other error is an error of both; and a conversion that goes on never stops at a doc. -/
theorem keepGoing_of_stopping (channel : Export.Channel) (options : Options) :
    (∀ blog, ofChannel channel { options with keepGoing := false } = .ok blog →
      ofChannel channel { options with keepGoing := true } = .ok blog ∧ blog.failures = []) ∧
    (∀ title source, ofChannel channel { options with keepGoing := false } = .error (.document title source) →
      ∃ blog, ofChannel channel { options with keepGoing := true } = .ok blog ∧
        blog.failures.head? = some (.document title source)) ∧
    (∀ e, (∀ title source, e ≠ .document title source) →
      ofChannel channel { options with keepGoing := false } = .error e →
        ofChannel channel { options with keepGoing := true } = .error e) ∧
    ∀ title source, ofChannel channel { options with keepGoing := true } ≠ .error (.document title source) := by
  cases h : Prepared.ofChannel channel with
  | error e =>
    obtain ⟨fault, rfl⟩ := Prepared.faultsOnly channel e h
    simp only [ofChannel_refused h]
    refine ⟨?_, ?_, ?_, ?_⟩
    · intro blog hblog
      cases hblog
    · intro title source herror
      cases herror
    · intro e _ herror
      exact herror
    · intro title source herror
      cases herror
  | ok prepared =>
    have hdone : prepared.converted { options with keepGoing := false } =
        prepared.converted { options with keepGoing := true } := rfl
    simp only [ofChannel_prepared h, hdone]
    generalize hfailures : (prepared.converted { options with keepGoing := true }).failures = failures
    have hdocument : ∀ e ∈ failures, ∃ title source, e = .document title source :=
      fun e he => document_of_mem_failures (hfailures ▸ he)
    refine ⟨?_, ?_, ?_, ?_⟩
    · intro blog hblog
      cases failures with
      | cons failure rest => cases hblog
      | nil =>
        cases hblog
        exact ⟨rfl, hfailures⟩
    · intro title source herror
      cases failures with
      | nil => cases herror
      | cons failure rest =>
        cases herror
        exact ⟨_, rfl, congrArg List.head? hfailures⟩
    · intro e hother herror
      cases failures with
      | nil => cases herror
      | cons failure rest =>
        cases herror
        obtain ⟨title, source, rfl⟩ := hdocument _ List.mem_cons_self
        exact absurd rfl (hother title source)
    · intro title source herror
      cases herror

/-- A channel of one post. -/
def postChannel (html : String) : Export.Channel :=
  { items := [
      { postType := "post", postName := "p", content := html, postDateGmt := zeroTime, status := "draft",
        commentStatus := "open" }] }

/-- A post that is converted, one that is not, and a channel that is refused. -/
theorem keepGoing_of_single_posts :
    (ofChannel (postChannel "x") { keepGoing := true } = ofChannel (postChannel "x") { keepGoing := false } ∧
      ∃ blog, ofChannel (postChannel "x") { keepGoing := false } = .ok blog ∧ blog.failures = []) ∧
    (ofChannel (postChannel "[caption]x[/caption]") { keepGoing := false } = .error (.document "" .captionShape) ∧
      ∃ blog, ofChannel (postChannel "[caption]x[/caption]") { keepGoing := true } = .ok blog ∧
        blog.failures.head? = some (.document "" .captionShape)) ∧
    ofChannel { authors := [{}, {}] } { keepGoing := true } = .error (.invalidExport (.severalAuthors 2)) := by
  have hpost : ofChannel (postChannel "x") { keepGoing := false } = .ok
      { author := {}, attachments := [], failures := [], docs := [
          { id := "p", title := "", content := "x\n", html := "x", kind := .post, status := .draft, published := none,
            commentsEnabled := true }] } := by decide +kernel
  have hbroken : ofChannel (postChannel "[caption]x[/caption]") { keepGoing := false } =
      .error (.document "" .captionShape) := by decide +kernel
  obtain ⟨hgoes, hfailures⟩ := (keepGoing_of_stopping (postChannel "x") {}).1 _ hpost
  exact ⟨⟨hgoes.trans hpost.symm, _, hpost, hfailures⟩,
    ⟨hbroken, (keepGoing_of_stopping (postChannel "[caption]x[/caption]") {}).2.1 _ _ hbroken⟩,
    (keepGoing_of_stopping { authors := [{}, {}] } {}).2.2.1 _ (fun _ _ => nofun) (by decide +kernel)⟩

end BlogMarkdown.Blog
