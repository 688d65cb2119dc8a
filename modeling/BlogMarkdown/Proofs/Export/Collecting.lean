import BlogMarkdown.Export.Reader
import BlogMarkdown.Proofs.Steps
/-!
# Collecting records

The items and the authors of an export are collected alike: an element of a certain name begins a record, the elements
in it set its fields, and where it ends the record is complete.  Neither collection looks at the other one, so a reading
is two of them side by side.
-/
namespace BlogMarkdown.Export

open Xml

/-- Elements of one name become records. -/
structure Collector (α : Type) where
  name : String
  initial : α
  setField : α → String → List Char → Except Error α
  /-- The names of the fields. -/
  fields : List String
  setField_of_not_mem (record : α) {field : String} (value : List Char) : field ∉ fields →
    setField record field value = .ok record

/-- How far records have been collected. -/
structure Collected (α : Type) where
  /-- The records that are complete. -/
  done : List α := []
  /-- The record that is being read. -/
  slot : Option α := none
  /-- The names of the open elements, the innermost first. -/
  path : List String := []
  /-- The text since the last tag, last character first. -/
  text : List Char := []

namespace Collector

def items : Collector Item where
  name := "item"
  initial := {}
  setField := Item.setField
  fields := ["title", "link", "content:encoded", "wp:post_id", "wp:post_date_gmt", "wp:post_name", "wp:post_type",
    "wp:post_parent", "wp:comment_status", "wp:status", "wp:attachment_url", "category"]
  setField_of_not_mem record field value h := by
    unfold Item.setField
    split <;> first | rfl | simp at h

def authors : Collector Author where
  name := "wp:author"
  initial := {}
  setField author field value := .ok (author.setField field value)
  fields := ["wp:author_login", "wp:author_email", "wp:author_display_name", "wp:author_first_name",
    "wp:author_last_name"]
  setField_of_not_mem author field value h := by
    unfold Author.setField
    split <;> first | rfl | simp at h

variable {α : Type} (c : Collector α)

/-- Uses the value of an element that is complete. -/
def close (s : Collected α) (parent name : String) (value : List Char) : Except Error (Collected α) :=
  match s.slot with
  | none => .ok s
  | some record =>
    if name = c.name then .ok { s with done := s.done ++ [record], slot := none }
    else if parent = c.name then (c.setField record name value).map fun record => { s with slot := some record }
    else .ok s

/-- Takes one event. -/
def step (s : Collected α) : Event → Except Error (Collected α)
  | .start name =>
    .ok { s with slot := if name = c.name then some c.initial else s.slot, path := name :: s.path, text := [] }
  | .text content => .ok { s with text := content.reverseAux s.text }
  | .reference name => .ok { s with text := (referenceText name).reverseAux s.text }
  | .stop =>
    match s.path with
    | [] => .ok s
    | name :: path => c.close { s with path := path, text := [] } (path.head?.getD "") name s.text.reverse
  | .empty _ | .other => .ok s
  | .fault => .error .xml

/-- The records that some events describe. -/
def collect (es : List Event) : Except Error (List α) := (es.foldlM c.step {}).map (·.done)

end Collector

/-! ## A reading as two collections -/

namespace Reading

/-- The collection of items in a reading. -/
def items (r : Reading) : Collected Item := ⟨r.channel.items, r.item, r.path, r.text⟩

/-- The collection of authors in a reading. -/
def authors (r : Reading) : Collected Author := ⟨r.channel.authors, r.author, r.path, r.text⟩

/-- The fields of the blog itself leave its records alone. -/
theorem records_setField (channel : Channel) (field : String) (value : List Char) :
    (channel.setField field value).items = channel.items ∧
      (channel.setField field value).authors = channel.authors := by
  unfold Channel.setField
  split <;> exact ⟨rfl, rfl⟩

theorem items_close (r : Reading) (parent name : String) (value : List Char) :
    (r.close parent name value).map items = Collector.items.close r.items parent name value := by
  obtain ⟨channel, item, author, path, text⟩ := r
  unfold close Collector.close
  by_cases hitem : name = "item"
  · cases item <;> simp [hitem, items, Collector.items, Except.map]
  by_cases hauthor : name = "wp:author"
  · -- an author in an item is no field of it
    cases item <;> cases author <;> simp [hauthor, items, Collector.items, Except.map, Item.setField]
  by_cases hparent : parent = "item"
  · cases item with
    | none => simp [hitem, hauthor, hparent, items, Except.map]
    | some item =>
      cases hset : item.setField name value <;>
        simp [hitem, hauthor, hparent, items, Collector.items, Except.map, hset]
  · have hslot : Collector.items.close ⟨channel.items, item, path, text⟩ parent name value =
        .ok ⟨channel.items, item, path, text⟩ := by
      cases item <;> simp [Collector.close, Collector.items, hitem, hparent]
    rw [if_neg hitem, if_neg hauthor, if_neg hparent]
    split
    · exact hslot.symm
    split
    · refine Eq.trans ?_ hslot.symm
      simp [Except.map, items, records_setField]
    · exact hslot.symm

theorem authors_close {r r' : Reading} {parent name : String} {value : List Char}
    (h : r.close parent name value = .ok r') :
    Collector.authors.close r.authors parent name value = .ok r'.authors := by
  obtain ⟨channel, item, author, path, text⟩ := r
  unfold close at h
  unfold Collector.close
  by_cases hauthor : name = "wp:author"
  · subst hauthor
    cases author <;> cases h <;> rfl
  by_cases hitem : name = "item"
  · -- an item in an author is no field of it
    subst hitem
    cases author <;> cases item <;> cases h <;> by_cases hparent : parent = "wp:author" <;>
      simp [authors, Collector.authors, hparent, Except.map, Author.setField]
  rw [if_neg hitem, if_neg hauthor] at h
  have hother (hparent : parent ≠ "wp:author") :
      Collector.authors.close ⟨channel.authors, author, path, text⟩ parent name value =
        .ok ⟨channel.authors, author, path, text⟩ := by
    cases author <;> simp [Collector.close, Collector.authors, hauthor, hparent]
  split at h
  · rename_i hparent
    refine (hother (by rw [hparent]; decide)).trans ?_
    cases item with
    | none =>
      cases h
      rfl
    | some item =>
      obtain ⟨_, -, rfl⟩ := exists_of_map h
      rfl
  split at h
  · rename_i hparent
    cases h
    cases author <;> simp [authors, Collector.authors, hauthor, hparent, Except.map]
  · rename_i hparent
    refine (hother hparent).trans ?_
    split at h
    · cases h
      simp [authors, records_setField]
    · cases h
      rfl

theorem items_step (r : Reading) (e : Event) : (r.step e).map items = Collector.items.step r.items e := by
  cases e with
  | stop =>
    rw [step, leave, Collector.step]
    obtain ⟨channel, item, author, path, text⟩ := r
    cases path with
    | nil => rfl
    | cons name path => exact items_close _ _ _ _
  | _ => rfl

theorem authors_step {r r' : Reading} {e : Event} (h : r.step e = .ok r') :
    Collector.authors.step r.authors e = .ok r'.authors := by
  cases e with
  | stop =>
    rw [step, leave] at h
    rw [Collector.step]
    obtain ⟨channel, item, author, path, text⟩ := r
    cases path with
    | nil =>
      cases h
      rfl
    | cons name path => exact authors_close h
  | _ => cases h <;> rfl

end Reading

/-- **The items that are read are those that are collected**, and the errors are the same. -/
theorem collect_items (es : List Event) : Collector.items.collect es = (ofEvents es).map (·.items) := by
  have hfold := map_foldlM Reading.items_step es {}
  rw [Collector.collect, ofEvents]
  change _ = es.foldlM Collector.items.step {} at hfold
  rw [← hfold]
  cases es.foldlM Reading.step {} <;> rfl

/-- **The authors that are read are those that are collected.** -/
theorem collect_authors {es : List Event} {channel : Channel} (h : ofEvents es = .ok channel) :
    Collector.authors.collect es = .ok channel.authors := by
  obtain ⟨r, hr, rfl⟩ := exists_of_map h
  have hfold := foldlM_map_ok (fun _ _ _ => Reading.authors_step) hr
  change es.foldlM Collector.authors.step {} = _ at hfold
  rw [Collector.collect, hfold]
  rfl

end BlogMarkdown.Export
