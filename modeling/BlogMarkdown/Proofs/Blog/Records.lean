import BlogMarkdown.Proofs.Blog.Conversion
import BlogMarkdown.Proofs.Blog.Filenames
import Mathlib.Data.List.Nodup
/-!
# What a blog has of its channel

Each post and each page of a channel is a doc of the blog or one of its failures, and each uploaded file is one
attachment, all in the order of the channel.  Docs have ids of their own.  A name that a file got is made from the URL
of the attachment that has it.
-/
namespace BlogMarkdown.Blog

open Markdown

/-! ## Docs of items -/

/-- Whether an item is a post or a page. -/
def isDocItem (item : Export.Item) : Bool := item.postType = "post" || item.postType = "page"

theorem isSome_docKind? (item : Export.Item) : (docKind? item.postType).isSome = isDocItem item := by
  rw [isDocItem]
  unfold docKind?
  split <;> simp_all

/-- An item of another kind makes no doc; a post or a page makes one that has its number, id and title. -/
theorem ofItem_ok {item : Export.Item} {made : Option Entry} (h : Entry.ofItem item = .ok made) :
    (isDocItem item = false ∧ made = none) ∨
      ∃ entry, made = some entry ∧ isDocItem item = true ∧ entry.postId = item.postId ∧ entry.doc.id = docId item ∧
        entry.doc.title = item.title := by
  rw [← isSome_docKind?]
  unfold Entry.ofItem at h
  cases hkind : docKind? item.postType with
  | none =>
    rw [hkind] at h
    cases h
    exact .inl ⟨rfl, rfl⟩
  | some kind =>
    rw [hkind] at h
    dsimp only at h
    split at h
    · cases h
    · obtain ⟨status, -, h⟩ := exists_of_bind h
      obtain ⟨published, -, h⟩ := exists_of_bind h
      obtain ⟨comments, -, h⟩ := exists_of_bind h
      cases h
      exact .inr ⟨_, rfl, rfl, rfl, rfl, rfl⟩

/-- An item makes a doc. -/
def Makes (item : Export.Item) (entry : Entry) : Prop := Entry.ofItem item = .ok (some entry)

theorem Makes.fields {item : Export.Item} {entry : Entry} (h : Makes item entry) : isDocItem item = true ∧
    entry.postId = item.postId ∧ entry.doc.id = docId item ∧ entry.doc.title = item.title := by
  rcases ofItem_ok h with ⟨-, hnone⟩ | ⟨_, hsome, hfields⟩
  · cases hnone
  · cases hsome
    exact hfields

/-- A step over the items adds nothing, or the doc of a post or page under an id that no doc before it has. -/
theorem addEntry_ok {entries entries' : List Entry} {item : Export.Item} (h : addEntry entries item = .ok entries') :
    (isDocItem item = false ∧ entries' = entries) ∨
      ∃ entry, Makes item entry ∧ (∀ other ∈ entries, other.doc.id ≠ entry.doc.id) ∧
        entries' = entries ++ [entry] := by
  obtain ⟨made, hitem, h⟩ := exists_of_bind h
  rcases ofItem_ok hitem with ⟨hother, rfl⟩ | ⟨entry, rfl, -⟩
  · cases h
    exact .inl ⟨hother, rfl⟩
  · dsimp only at h
    cases hfind : entries.find? (·.doc.id = entry.doc.id) with
    | some other =>
      rw [hfind] at h
      cases h
    | none =>
      rw [hfind] at h
      cases h
      refine .inr ⟨entry, hitem, fun other hother => ?_, rfl⟩
      simpa using List.find?_eq_none.1 hfind other hother

theorem foldlM_addEntry_ok : ∀ {items : List Export.Item} {entries entries' : List Entry},
    items.foldlM addEntry entries = .ok entries' → ∃ added, entries' = entries ++ added ∧
      List.Forall₂ Makes (items.filter isDocItem) added
  | [], entries, _, h => by
    cases h
    exact ⟨[], (List.append_nil entries).symm, .nil⟩
  | item :: items, entries, _, h => by
    rw [List.foldlM_cons] at h
    obtain ⟨after, hitem, h⟩ := exists_of_bind h
    obtain ⟨added, rfl, hadded⟩ := foldlM_addEntry_ok h
    rcases addEntry_ok hitem with ⟨hother, rfl⟩ | ⟨entry, hentry, -, rfl⟩
    · rw [List.filter_cons_of_neg (by simp [hother])]
      exact ⟨added, rfl, hadded⟩
    · rw [List.filter_cons_of_pos hentry.fields.1]
      exact ⟨entry :: added, List.append_assoc _ _ _, .cons hentry hadded⟩

/-- The docs of a channel are its posts and pages in order. -/
theorem forall₂_entriesOf {channel : Export.Channel} {entries : List Entry} (h : entriesOf channel = .ok entries) :
    List.Forall₂ Makes (channel.items.filter isDocItem) entries := by
  obtain ⟨added, rfl, hadded⟩ := foldlM_addEntry_ok h
  exact hadded

/-- No two docs of a channel have one id. -/
theorem nodup_entriesOf {channel : Export.Channel} {entries : List Entry} (h : entriesOf channel = .ok entries) :
    (entries.map (·.doc.id)).Nodup := by
  refine foldlM_preserves (P := fun entries : List Entry => (entries.map (·.doc.id)).Nodup)
    (fun item _ before after hbefore hitem => ?_) (by exact List.nodup_nil) h
  rcases addEntry_ok hitem with ⟨-, rfl⟩ | ⟨entry, -, hnew, rfl⟩
  · exact hbefore
  · rw [List.map_append, List.map_singleton, List.nodup_append]
    refine ⟨hbefore, List.nodup_singleton _, fun id hid id' hid' => ?_⟩
    obtain ⟨other, hother, rfl⟩ := List.mem_map.1 hid
    rw [List.mem_singleton.1 hid']
    exact hnew other hother

theorem map_eq_map_of_forall₂ {α β γ : Type} {R : α → β → Prop} {f : α → γ} {g : β → γ} {l : List α} {l' : List β}
    (hR : ∀ a b, R a b → f a = g b) (h : List.Forall₂ R l l') : l.map f = l'.map g := by
  induction h with
  | nil => rfl
  | cons hab _ ih => rw [List.map_cons, List.map_cons, ih, hR _ _ hab]

/-! ## Attachments of items -/

/-- An item is the last post or page of a channel with a number. -/
def LastDocItem (channel : Export.Channel) (number : Nat) (item : Export.Item) : Prop :=
  ∃ before after, channel.items.filter isDocItem = before ++ item :: after ∧ item.postId = number ∧
    ∀ other ∈ after, other.postId ≠ number

/-- An attachment has the URL of its item, and belongs to the last doc with the number that the item names. -/
structure Attachment.OfItem (channel : Export.Channel) (item : Export.Item) (attachment : Attachment) : Prop where
  url : attachment.url = item.attachmentUrl
  parent : ∃ parent, LastDocItem channel item.postParent parent ∧ attachment.parent = docId parent

/-- Doc and item of one place. -/
theorem exists_item_of_append {items : List Export.Item} {before after : List Entry} {entry : Entry}
    (h : List.Forall₂ Makes items (before ++ entry :: after)) :
    ∃ itemsBefore item itemsAfter, items = itemsBefore ++ item :: itemsAfter ∧
      Makes item entry ∧
      List.Forall₂ Makes itemsAfter after := by
  have hdrop := List.forall₂_drop_append _ _ _ h
  obtain ⟨item, itemsAfter, hentry, hafter, hitems⟩ := List.forall₂_cons_right_iff.1 hdrop
  exact ⟨items.take before.length, item, itemsAfter, by rw [← hitems, List.take_append_drop], hentry, hafter⟩

theorem lastDocItem_of_parentOf {channel : Export.Channel} {entries : List Entry} {item : Export.Item} {entry : Entry}
    (hentries : List.Forall₂ Makes (channel.items.filter isDocItem) entries) (h : parentOf entries item = .ok entry) :
    ∃ parent, LastDocItem channel item.postParent parent ∧ entry.doc.id = docId parent := by
  unfold parentOf at h
  split at h
  case h_2 => cases h
  case h_1 found hfind =>
    cases h
    obtain ⟨hnumber, later, earlier, hreverse, hlater⟩ := List.find?_eq_some_iff_append.1 hfind
    have hsplit : entries = earlier.reverse ++ entry :: later.reverse := by
      rw [← List.reverse_reverse entries, hreverse, List.reverse_append, List.reverse_cons, List.append_assoc]
      rfl
    obtain ⟨before, parent, after, hitems, hparent, hafter⟩ := exists_item_of_append (hsplit ▸ hentries)
    refine ⟨parent, ⟨before, after, hitems, ?_, fun other hother => ?_⟩, hparent.fields.2.2.1⟩
    · rw [← hparent.fields.2.1]
      exact of_decide_eq_true hnumber
    · have hnumbers := map_eq_map_of_forall₂ (fun _ _ h => h.fields.2.1.symm) hafter
      obtain ⟨otherEntry, hmem, hnumber⟩ := List.mem_map.1 (hnumbers ▸ List.mem_map_of_mem hother)
      rw [← hnumber]
      simpa using hlater otherEntry (List.mem_reverse.1 hmem)

/-- Each uploaded file of a channel is one attachment. -/
theorem forall₂_attachmentsOf {channel : Export.Channel} {entries : List Entry} {attachments : List Attachment}
    (hentries : List.Forall₂ Makes (channel.items.filter isDocItem) entries)
    (h : attachmentsOf channel entries = .ok attachments) :
    List.Forall₂ (Attachment.OfItem channel) (channel.items.filter (·.postType = "attachment")) attachments := by
  refine (forall₂_of_mapM h).imp fun item attachment hitem => ?_
  cases hparent : parentOf entries item with
  | error e =>
    rw [hparent] at hitem
    cases hitem
  | ok entry =>
    rw [hparent] at hitem
    cases hitem
    obtain ⟨parent, hlast, hid⟩ := lastDocItem_of_parentOf hentries hparent
    exact ⟨rfl, parent, hlast, hid⟩

/-! ## Names of files -/

theorem lookup_of_mem {α β : Type} [BEq α] [LawfulBEq α] {a : α} {b : β} : ∀ {l : List (α × β)},
    (l.map (·.1)).Nodup → (a, b) ∈ l → l.lookup a = some b
  | (a', b') :: l, hnodup, h => by
    rw [List.map_cons, List.nodup_cons] at hnodup
    rw [List.lookup_cons]
    rcases List.mem_cons.1 h with heq | h
    · cases heq
      rw [beq_self_eq_true]
    · have hne : a ≠ a' := fun heq => hnodup.1 (heq ▸ List.mem_map_of_mem (f := (·.1)) h)
      rw [beq_false_of_ne hne]
      exact lookup_of_mem hnodup.2 h

/-- The table of a blog has the URL of each attachment under its number. -/
theorem lookup_urls_linksOf {mediaDir : String} {entries : List Entry} {attachments : List Attachment} {number : Nat}
    {attachment : Attachment} (h : attachments[number]? = some attachment) :
    (linksOf mediaDir entries attachments).urls.lookup number = some attachment.url := by
  have hmem : (attachment.url, number) ∈ (attachments.map (·.url)).zipIdx :=
    List.mk_mem_zipIdx_iff_getElem?.2 (by rw [List.getElem?_map, h]; rfl)
  rw [linksOf_eq, Links.urls_ofBlog]
  refine lookup_of_mem ?_ (List.mem_reverse.2 (List.mem_map_of_mem (f := Prod.swap) hmem))
  rw [List.map_reverse, List.map_map, List.nodup_reverse]
  show ((attachments.map (·.url)).zipIdx.map Prod.snd).Nodup
  rw [List.zipIdx_map_snd]
  exact List.nodup_range'

/-- Names that were given to attachments one after the other, the latest in front: each to one that had none, and made
from its URL. -/
inductive Given (attachments : List Attachment) : FileNames → Prop
  | nil : Given attachments []
  | cons {names : FileNames} {number : Nat} {attachment : Attachment} : Given attachments names →
    names.lookup number = none → attachments[number]? = some attachment →
      Given attachments ((number, String.ofList (Links.freshName
        (names.map fun (_, name) => Text.lowercase name.toList) attachment.url)) :: names)

theorem given_rewrite {mediaDir : String} {entries : List Entry} {attachments : List Attachment} {names : FileNames}
    (h : Given attachments names) (target : String) :
    Given attachments ((linksOf mediaDir entries attachments).rewrite target names).2 := by
  rcases (linksOf mediaDir entries attachments).names_of_rewrite target names with hkept | ⟨number, hfile, hnew, -, hgiven⟩
  · rwa [hkept]
  · obtain ⟨url, -, -, hfile⟩ := Links.fileAt?_eq_some hfile
    obtain ⟨attachment, hattachment, -⟩ := attachment_of_lookup hfile
    rw [hgiven, Links.newName, lookup_urls_linksOf hattachment]
    exact .cons h hnew hattachment

theorem given_asked {mediaDir : String} {entries : List Entry} {attachments : List Attachment} :
    ∀ {names names' : FileNames} {asked : List (String × String)},
      Asked (linksOf mediaDir entries attachments).rewriter names asked names' →
      Given attachments names → Given attachments names'
  | _, _, _, .nil _, h => h
  | _, _, _, .cons target hasked, h => given_asked hasked (given_rewrite h target)

theorem given_attempts {mediaDir : String} {entries : List Entry} {attachments : List Attachment} :
    ∀ {docs : List Doc} {names : FileNames}, Given attachments names →
      Given attachments (attempts (linksOf mediaDir entries attachments) names docs).2
  | [], _, h => h
  | doc :: docs, names, h => by
    obtain ⟨asked, hasked, -⟩ :=
      asked_of_convert .standard (linksOf mediaDir entries attachments).rewriter doc.html.toList names
    rw [attempts]
    exact given_attempts (given_asked hasked h)

namespace Given

variable {attachments : List Attachment} {names : FileNames}

theorem nodup (h : Given attachments names) : (names.map (·.1)).Nodup := by
  induction h with
  | nil => exact List.nodup_nil
  | @cons names number attachment _ hnew _ ih =>
    rw [List.map_cons, List.nodup_cons]
    refine ⟨fun hmem => ?_, ih⟩
    obtain ⟨⟨_, name⟩, hgiven, rfl⟩ := List.mem_map.1 (show number ∈ names.map (·.1) from hmem)
    rw [lookup_of_mem ih hgiven] at hnew
    cases hnew

theorem attachment_of_mem (h : Given attachments names) {number : Nat} {name : String} (hmem : (number, name) ∈ names) :
    ∃ attachment, attachments[number]? = some attachment := by
  induction h with
  | nil => cases hmem
  | cons _ _ hattachment ih =>
    rcases List.mem_cons.1 hmem with heq | hmem
    · cases heq
      exact ⟨_, hattachment⟩
    · exact ih hmem

/-- Only the URLs of the attachments matter. -/
theorem congr {attachments' : List Attachment} (hurls : attachments.map (·.url) = attachments'.map (·.url))
    (h : Given attachments names) : Given attachments' names := by
  induction h with
  | nil => exact .nil
  | @cons names number attachment _ hnew hattachment ih =>
    have hmap : (attachments'.map (·.url))[number]? = some attachment.url := by
      rw [← hurls, List.getElem?_map, hattachment]
      rfl
    rw [List.getElem?_map] at hmap
    obtain ⟨attachment', hattachment', hurl⟩ := Option.map_eq_some_iff.1 hmap
    rw [← hurl]
    exact .cons ih hnew hattachment'

end Given

/-! ## Blogs -/

theorem entriesOf_of_prepared {channel : Export.Channel} {prepared : Prepared}
    (h : Prepared.ofChannel channel = .ok prepared) :
    entriesOf channel = .ok prepared.entries ∧ attachmentsOf channel prepared.entries = .ok prepared.attachments := by
  obtain ⟨author, -, h⟩ := exists_of_bind h
  obtain ⟨entries, hentries, h⟩ := exists_of_bind h
  obtain ⟨attachments, hattachments, h⟩ := exists_of_bind h
  cases h
  exact ⟨hentries, hattachments⟩

/-- A blog comes from a prepared channel. -/
theorem exists_prepared {channel : Export.Channel} {options : Options} {blog : Blog}
    (h : ofChannel channel options = .ok blog) :
    ∃ prepared, Prepared.ofChannel channel = .ok prepared ∧ blog = prepared.blog (prepared.converted options) := by
  cases hprepared : Prepared.ofChannel channel with
  | error e =>
    rw [ofChannel_refused hprepared] at h
    cases h
  | ok prepared =>
    refine ⟨prepared, rfl, ?_⟩
    rw [ofChannel_prepared hprepared] at h
    split at h
    · cases h
    · exact (Except.ok.inj h).symm

theorem linksOf_congr {mediaDir : String} {entries : List Entry} {attachments attachments' : List Attachment}
    (h : attachments.map (·.url) = attachments'.map (·.url)) :
    linksOf mediaDir entries attachments = linksOf mediaDir entries attachments' := by
  rw [linksOf_eq, linksOf_eq, h]

theorem length_filterMap_attempts : ∀ tried : List Attempt,
    (tried.filterMap (·.converted?)).length + (tried.filterMap (·.failure?)).length = tried.length
  | [] => rfl
  | attempt :: tried => by
    have ih := length_filterMap_attempts tried
    cases hresult : attempt.result with
    | ok text =>
      have hconverted : attempt.converted? = some { attempt.doc with content := String.ofList text } := by
        rw [Attempt.converted?, hresult]
      have hfailure : attempt.failure? = none := by rw [Attempt.failure?, hresult]
      simp only [List.filterMap_cons, hconverted, hfailure, List.length_cons]
      omega
    | error e =>
      have hconverted : attempt.converted? = none := by rw [Attempt.converted?, hresult]
      have hfailure : attempt.failure? = some (.document attempt.doc.title e) := by rw [Attempt.failure?, hresult]
      simp only [List.filterMap_cons, hconverted, hfailure, List.length_cons]
      omega

/-- What a blog has of its channel.  `tried` are the docs, each with what its conversion gave, and `names` the local
names that the conversions gave to files. -/
structure Records (channel : Export.Channel) (mediaDir : String) (blog : Blog) (entries : List Entry)
    (tried : List Attempt) (names : FileNames) : Prop where
  /-- The docs are the posts and pages of the channel in order. -/
  made : List.Forall₂ Makes (channel.items.filter isDocItem) entries
  ids : ((channel.items.filter isDocItem).map docId).Nodup
  attempted : attempts (linksOf mediaDir entries blog.attachments) [] (entries.map (·.doc)) = (tried, names)
  /-- Those that were converted, in order. -/
  docs : blog.docs = tried.filterMap (·.converted?)
  /-- Why the others were not, in order. -/
  failures : blog.failures = tried.filterMap (·.failure?)
  count : blog.docs.length + blog.failures.length = (channel.items.filter isDocItem).length
  attachments : List.Forall₂ (Attachment.OfItem channel) (channel.items.filter (·.postType = "attachment"))
    blog.attachments
  /-- Each name was made from the URL of the attachment with its number … -/
  given : Given blog.attachments names
  /-- … and is the filename of this attachment; no attachment has another one. -/
  filenames : ∀ number name, (number, name) ∈ names ↔
    ∃ attachment, blog.attachments[number]? = some attachment ∧ attachment.filename = some name

theorem forall₂_map_zipIdx {α β : Type} {R : α → β → Prop} {f : β × Nat → β} {l : List α} {l' : List β}
    (hf : ∀ a b number, R a b → R a (f (b, number))) (h : List.Forall₂ R l l') :
    ∀ start, List.Forall₂ R l ((l'.zipIdx start).map f) := by
  induction h with
  | nil => exact fun _ => .nil
  | cons hab _ ih => exact fun start => .cons (hf _ _ start hab) (ih (start + 1))

theorem getElem?_attachments (prepared : Prepared) (done : Converted) (number : Nat) :
    (prepared.blog done).attachments[number]? = prepared.attachments[number]?.map fun attachment =>
      { attachment with filename := done.names.lookup number } := by
  show (prepared.attachments.zipIdx.map _)[number]? = _
  rw [List.getElem?_map, List.getElem?_zipIdx, Option.map_map, Nat.zero_add]
  rfl

theorem map_url_attachments (prepared : Prepared) (done : Converted) :
    (prepared.blog done).attachments.map (·.url) = prepared.attachments.map (·.url) := by
  refine List.ext_getElem? fun number => ?_
  rw [List.getElem?_map, List.getElem?_map, getElem?_attachments, Option.map_map]
  rfl

/-- **A blog has each record of its channel once.**  Its docs and its failures are the posts and pages in order, parted
by whether they could be converted, under ids that differ.  Its attachments are the uploaded files in order, each with
the last doc that has the number of its parent, and the names that links gave to files are those of the attachments
from whose URLs they were made. -/
theorem records_of_ofChannel {channel : Export.Channel} {options : Options} {blog : Blog}
    (h : ofChannel channel options = .ok blog) :
    ∃ entries tried names, Records channel options.mediaDir blog entries tried names := by
  obtain ⟨prepared, hprepared, rfl⟩ := exists_prepared h
  obtain ⟨hentries, hattachments⟩ := entriesOf_of_prepared hprepared
  have hmade : List.Forall₂ Makes (channel.items.filter isDocItem) prepared.entries := forall₂_entriesOf hentries
  have hurls := map_url_attachments prepared (prepared.converted options)
  have hgiven : Given prepared.attachments (prepared.converted options).names := given_attempts .nil
  refine ⟨prepared.entries, (attempts (prepared.links options.mediaDir) [] prepared.docs).1,
    (prepared.converted options).names, ?_⟩
  exact {
    made := hmade
    ids := by
      rw [map_eq_map_of_forall₂ (fun _ _ h => h.fields.2.2.1.symm) hmade]
      exact nodup_entriesOf hentries
    attempted := by
      rw [linksOf_congr hurls]
      rfl
    docs := List.nil_append _
    failures := List.nil_append _
    count := by
      have hdocs : (attempts (prepared.links options.mediaDir) [] prepared.docs).1.length = prepared.entries.length := by
        rw [← List.length_map (f := (·.doc)), map_doc_attempts, Prepared.docs, List.length_map]
      rw [hmade.length_eq, ← hdocs, ← length_filterMap_attempts]
      rfl
    attachments := forall₂_map_zipIdx (fun _ _ _ h => ⟨h.url, h.parent⟩) (forall₂_attachmentsOf hmade hattachments) 0
    given := hgiven.congr hurls.symm
    filenames := fun number name => by
      rw [getElem?_attachments]
      constructor
      · intro hmem
        obtain ⟨attachment, hattachment⟩ := hgiven.attachment_of_mem hmem
        exact ⟨_, by rw [hattachment]; rfl, lookup_of_mem hgiven.nodup hmem⟩
      · rintro ⟨_, hattachment, hname⟩
        obtain ⟨attachment, -, rfl⟩ := Option.map_eq_some_iff.1 hattachment
        exact mem_of_lookup hname }

/-- A channel of a post that can be converted, a page of the same number that cannot, and a file that names this
number. -/
def mixedChannel : Export.Channel :=
  { items := [
      { postType := "post", postName := "a", postId := 1, content := "x", postDateGmt := zeroTime, status := "publish",
        commentStatus := "open" },
      { postType := "attachment", postId := 2, postParent := 1, attachmentUrl := "file:///f.png" },
      { postType := "page", postName := "b", postId := 1, content := "[caption]", postDateGmt := zeroTime,
        status := "publish", commentStatus := "open" }] }

/-- Its blog: the file belongs to the page, which was set aside. -/
def mixedBlog : Blog where
  author := {}
  docs := [{
    id := "a", title := "", content := "x\n", html := "x", kind := .post, status := .publish, published := none,
    commentsEnabled := true }]
  attachments := [{ parent := "b", url := "file:///f.png", filename := none }]
  failures := [.document "" (.unclosedShortcodes ["caption"])]

theorem records_of_mixedChannel :
    ofChannel mixedChannel { keepGoing := true } = .ok mixedBlog ∧
      ∃ entries tried names, Records mixedChannel "wpmedia" mixedBlog entries tried names := by
  have hblog : ofChannel mixedChannel { keepGoing := true } = .ok mixedBlog := by decide +kernel
  exact ⟨hblog, records_of_ofChannel hblog⟩

end BlogMarkdown.Blog
