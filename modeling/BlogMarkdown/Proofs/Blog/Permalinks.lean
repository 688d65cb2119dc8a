import BlogMarkdown.Blog.Links
import BlogMarkdown.Proofs.Url.Fragment
/-!
# Links of docs lead to the docs

The rewriter keeps docs by where their links lead.  A doc that is added takes the place of one that leads to the same
place and of no other, so among docs whose links lead to different places each is found by its own link, with or without
a fragment.  The query of a link says nothing about where it leads.
-/
namespace BlogMarkdown.Blog

namespace Links

/-- The docs added one after the other, each given by its link and its id. -/
def addDocs (links : Links) (docs : List (String × String)) : Links :=
  docs.foldl (fun links doc => links.addDoc doc.1 doc.2) links

/-- Where a link leads, if it is a URL. -/
def place? (link : String) : Option (List Char × Option (List Char) × Option Nat × List Char) :=
  (Url.ofText? link.toList).map Url.place

/-- A link that has no fragment, of a URL whose path does not look like a host. -/
def IsPermalink (link : String) : Prop :=
  '#' ∉ link.toList ∧ ∃ url ∈ Url.ofText? link.toList, url.HasPlainPath

instance (link : String) : Decidable (IsPermalink link) := inferInstanceAs (Decidable (_ ∧ _))

/-! ## One doc -/

theorem docs_addDoc {links : Links} {link id : String} {url : Url} (h : Url.ofText? link.toList = some url) :
    (links.addDoc link id).docs = (url.address, id) :: links.docs := by
  rw [addDoc, h]

/-- Adding a doc leaves alone what leads elsewhere. -/
theorem lookup_addDoc_of_ne (links : Links) {link : String} (id : String) {address : List Char}
    (h : ∀ url, Url.ofText? link.toList = some url → address ≠ url.address) :
    (links.addDoc link id).docs.lookup address = links.docs.lookup address := by
  cases hurl : Url.ofText? link.toList with
  | none => rw [addDoc, hurl]
  | some url => rw [docs_addDoc hurl, List.lookup_cons, beq_false_of_ne (h url hurl)]

/-! ## All docs -/

theorem lookup_addDocs_of_ne {address : List Char} : ∀ {docs : List (String × String)} (links : Links),
    (∀ doc ∈ docs, ∀ url, Url.ofText? doc.1.toList = some url → address ≠ url.address) →
    (links.addDocs docs).docs.lookup address = links.docs.lookup address
  | [], _, _ => rfl
  | doc :: docs, links, h => by
    rw [← lookup_addDoc_of_ne links doc.2 (h doc List.mem_cons_self)]
    exact lookup_addDocs_of_ne _ fun other hother => h other (List.mem_cons_of_mem doc hother)

/-- Links that lead to different places have different addresses. -/
theorem address_ne_of_place {link other : String} (hlink : IsPermalink link) (hother : IsPermalink other)
    (hne : place? link ≠ place? other) {url url' : Url} (hurl : Url.ofText? link.toList = some url)
    (hurl' : Url.ofText? other.toList = some url') : url.address ≠ url'.address := by
  obtain ⟨-, u, hu, hplain⟩ := hlink
  obtain ⟨-, v, hv, hplain'⟩ := hother
  cases hurl.symm.trans hu
  cases hurl'.symm.trans hv
  intro haddress
  refine hne ?_
  rw [place?, place?, hu, hv]
  exact congrArg some (Url.place_eq_of_address (Url.isWritten_of_ofText hu) (Url.isWritten_of_ofText hv) hplain hplain'
    haddress)

/-- Each doc stands at the address of its own link, whatever docs were added before or after it. -/
theorem lookup_addDocs : ∀ {docs : List (String × String)} (links : Links), (∀ doc ∈ docs, IsPermalink doc.1) →
    docs.Pairwise (fun doc other => place? doc.1 ≠ place? other.1) → ∀ doc ∈ docs, ∀ url,
    Url.ofText? doc.1.toList = some url → (links.addDocs docs).docs.lookup url.address = some doc.2
  | first :: docs, links, hlinks, hapart, doc, hdoc, url, hurl => by
    have hrest : ∀ other ∈ docs, IsPermalink other.1 := fun other h => hlinks other (List.mem_cons_of_mem first h)
    rw [List.pairwise_cons] at hapart
    rcases List.mem_cons.1 hdoc with rfl | hdoc
    · -- the docs behind it lead elsewhere
      have hbehind : (links.addDocs (doc :: docs)).docs.lookup url.address =
          (links.addDoc doc.1 doc.2).docs.lookup url.address :=
        lookup_addDocs_of_ne _ fun other hother url' hurl' =>
          address_ne_of_place (hlinks doc List.mem_cons_self) (hrest other hother) (hapart.1 other hother) hurl hurl'
      rw [hbehind, docs_addDoc hurl, List.lookup_cons, beq_self_eq_true]
    · exact lookup_addDocs _ hrest hapart.2 doc hdoc url hurl

theorem rewrite_of_lookup {links : Links} {target id : String} {url : Url} (names : FileNames)
    (hurl : Url.ofText? target.toList = some url) (hid : links.docs.lookup url.address = some id) :
    links.rewrite target names = (reference id url.fragment, names) := by
  have hdoc : links.doc? url.address = some id := by rw [doc?, hid]
  rw [rewrite, hurl]
  dsimp only
  rw [hdoc]

theorem reference_of_ne_nil (id : String) {fragment : List Char} (h : fragment ≠ []) :
    reference id (some fragment) = "*" ++ id ++ "#" ++ String.ofList fragment := by
  cases fragment with
  | nil => exact absurd rfl h
  | cons c rest => rfl

/-- **Permalinks.**  Docs are added to any links, all of them under links without fragment that lead to places that
differ in scheme, host, port or path.  Then the link of each doc is written as a reference to that doc, and so is the link
with a fragment, which is kept as it is or in its written form. -/
theorem rewrite_permalink (links : Links) (docs : List (String × String)) (hlinks : ∀ doc ∈ docs, IsPermalink doc.1)
    (hapart : docs.Pairwise fun doc other => place? doc.1 ≠ place? other.1) (names : FileNames) :
    ∀ doc ∈ docs, (links.addDocs docs).rewrite doc.1 names = ("*" ++ doc.2, names) ∧
      (Url.TakesFragment doc.1.toList → ∀ fragment : String, fragment ≠ "" →
        ((∀ c ∈ fragment.toList, Url.Percent.isBarredInFragment c = false) →
          (links.addDocs docs).rewrite (doc.1 ++ "#" ++ fragment) names = ("*" ++ doc.2 ++ "#" ++ fragment, names)) ∧
        ((∀ c ∈ fragment.toList.getLast?, ' ' < c) →
          (links.addDocs docs).rewrite (doc.1 ++ "#" ++ fragment) names =
            ("*" ++ doc.2 ++ "#" ++ String.ofList (Url.writtenFragment fragment.toList), names))) := by
  intro doc hdoc
  obtain ⟨hhash, url, hurl, -⟩ := hlinks doc hdoc
  have hid := lookup_addDocs links hlinks hapart doc hdoc url hurl
  have hwritten : Url.TakesFragment doc.1.toList → ∀ fragment : String, fragment ≠ "" →
      (∀ c ∈ fragment.toList.getLast?, ' ' < c) → (links.addDocs docs).rewrite (doc.1 ++ "#" ++ fragment) names =
        ("*" ++ doc.2 ++ "#" ++ String.ofList (Url.writtenFragment fragment.toList), names) := by
    intro htakes fragment hne hlast
    have hread : Url.ofText? (doc.1 ++ "#" ++ fragment).toList =
        some (url.withFragment (some (Url.writtenFragment fragment.toList))) := by
      rw [← Url.ofText_append_fragment hurl hhash htakes hlast]
      simp
    rw [rewrite_of_lookup names hread hid, Url.fragment_withFragment]
    have hne' : fragment.toList ≠ [] := fun h => hne (String.toList_eq_nil_iff.1 h)
    rw [reference_of_ne_nil doc.2 (Url.writtenFragment_ne_nil hne' hlast)]
  refine ⟨?_, fun htakes fragment hne => ⟨fun hfree => ?_, hwritten htakes fragment hne⟩⟩
  · rw [rewrite_of_lookup names hurl hid, Url.fragment_of_ofText hurl hhash]
    rfl
  · have hlast : ∀ c ∈ fragment.toList.getLast?, ' ' < c := fun c hc =>
      Url.blank_lt_of_unbarred (hfree c (List.mem_of_getLast? hc))
    rw [hwritten htakes fragment hne hlast, Url.writtenFragment_eq_self hfree, String.ofList_toList]

/-- A rewriter that knows some docs and nothing else. -/
def ofDocs (docs : List (String × String)) : Links := addDocs ⟨"m", [], [], []⟩ docs

theorem rewrite_two_permalinks :
    (ofDocs [("http://[::1]/a", "a"), ("http://[::1]/b?p=1", "b")]).rewrite "http://[::1]/a" [] = ("*" ++ "a", []) ∧
      (ofDocs [("http://[::1]/a", "a"), ("http://[::1]/b?p=1", "b")]).rewrite ("http://[::1]/b?p=1" ++ "#" ++ "top") [] =
        ("*" ++ "b" ++ "#" ++ "top", []) := by
  have hapart : place? "http://[::1]/a" ≠ place? "http://[::1]/b?p=1" := by decide +kernel
  have hall := rewrite_permalink ⟨"m", [], [], []⟩ [("http://[::1]/a", "a"), ("http://[::1]/b?p=1", "b")]
    (by decide +kernel) (List.pairwise_pair.2 hapart) []
  obtain ⟨ha, -⟩ := hall ("http://[::1]/a", "a") (by decide)
  obtain ⟨-, hb⟩ := hall ("http://[::1]/b?p=1", "b") (by decide)
  have htakes : Url.TakesFragment "http://[::1]/b?p=1".toList := by
    refine ⟨?_, by decide⟩
    rintro c ⟨⟩
    decide
  have hfree : ∀ c ∈ "top".toList, Url.Percent.isBarredInFragment c = false := by
    intro c hc
    simp only [String.reduceToList, List.mem_cons, List.not_mem_nil, or_false] at hc
    rcases hc with rfl | rfl | rfl <;> decide
  exact ⟨ha, (hb htakes "top" (by decide)).1 hfree⟩

/-- Links that differ in their queries alone lead to one place, and the doc that was added last has it.  The other limits
are needed too: a path may look like a host, and behind a blank or an empty user a fragment leads elsewhere. -/
theorem rewrite_permalinks_of_one_address :
    ((Url.ofText? "http://[::1]/?p=1".toList).isSome ∧ (Url.ofText? "http://[::1]/?p=2".toList).isSome ∧
      (ofDocs [("http://[::1]/?p=1", "a"), ("http://[::1]/?p=2", "b")]).rewrite "http://[::1]/?p=1" [] = ("*b", [])) ∧
    (place? "foo://h/x" ≠ place? "foo:/.//h/x" ∧
      (ofDocs [("foo://h/x", "a"), ("foo:/.//h/x", "b")]).rewrite "foo://h/x" [] = ("*b", [])) ∧
    (ofDocs [("http://[::1]/ ", "a")]).rewrite "http://[::1]/ #f" [] = ("http://[::1]/ #f", []) ∧
    (ofDocs [("foo://@", "a")]).rewrite "foo://@#f" [] = ("foo://@#f", []) := by
  decide +kernel

end Links

end BlogMarkdown.Blog
