import BlogMarkdown.Proofs.Dom.EmptyTexts
import BlogMarkdown.Proofs.Dom.Operations
/-!
# Histories of a node store

The calls that build and change a document, as data.  Each call is one change of a store and one change of a forest.
As long as every call keeps to its conditions, the links of the store are well formed after each of them and tell the
forest that the changes of forests give.
-/
namespace BlogMarkdown.Dom

open Relation (ReflTransGen)

/-- The forest that the links of a store tell: its nodes, and for each the walk from its first child. -/
def Store.forest (s : Store) : Forest := ⟨s.size, s.data?, s.children⟩

theorem Store.Holds.forest_eq {s : Store} {f : Forest} (h : s.Holds f) : s.forest = f :=
  Forest.ext h.size (funext h.data?_eq) (funext h.children_eq)

inductive Call where
  | create (data : NodeData)
  | append (parent child : NodeId)
  | insertBefore (sibling new : NodeId)
  | detach (target : NodeId)
  | appendText (parent : NodeId) (content : List Char)
  | splitText (id : NodeId) (stop start : Nat)
  | setText (id : NodeId) (content : List Char)
  | removeEmptyTexts (root : NodeId)
  | moveChildren (source target : NodeId)

namespace Call

/-- What a call does to a store. -/
def run (s : Store) : Call → Store
  | .create data => (s.create data).1
  | .append parent child => s.append (some parent) (some child)
  | .insertBefore sibling new => s.insertBefore (some sibling) (some new)
  | .detach target => s.detach target
  | .appendText parent content => s.appendText (some parent) content
  | .splitText id stop start => (s.splitText id stop start).1
  | .setText id content => s.setText id content
  | .removeEmptyTexts root => s.removeEmptyTexts root
  | .moveChildren source target => s.moveChildren source target

/-- What a call does to a forest. -/
noncomputable def apply (f : Forest) : Call → Forest
  | .create data => f.create data
  | .append parent child => f.append parent child
  | .insertBefore sibling new => f.insertBefore sibling new
  | .detach target => f.remove target
  | .appendText parent content => f.appendText parent content
  | .splitText id stop start => f.splitText id stop start
  | .setText id content => f.setText id content
  | .removeEmptyTexts root => f.removeEmptyTexts root
  | .moveChildren source target => f.moveChildren source target

/-- Two byte offsets cut a text between characters, the first one not behind the second. -/
def Cuts (content : List Char) (stop start : Nat) : Prop :=
  ∃ before between after, content = before ++ between ++ after ∧
    stop = Text.Utf8.byteLength before ∧ start = Text.Utf8.byteLength (before ++ between)

/-- **The conditions of a call**: the nodes exist, none is moved to a place at or below itself, a node that something
goes next to has a parent, and a text is cut between characters. -/
def Allowed (f : Forest) : Call → Prop
  | .create _ => True
  | .append parent child => parent < f.size ∧ child < f.size ∧ ¬ f.Within parent child
  | .insertBefore sibling new => (∃ p, sibling ∈ f.children p) ∧ new < f.size ∧ ¬ f.Within sibling new
  | .detach target => target < f.size
  | .appendText parent _ => parent < f.size
  | .splitText id stop start =>
    (∃ p, id ∈ f.children p) ∧ ∀ content, f.text? id = some content → Cuts content stop start
  | .setText id _ => id < f.size
  | .removeEmptyTexts root => root < f.size
  | .moveChildren source target =>
    source < f.size ∧ target < f.size ∧ ∀ c ∈ f.children source, ¬ f.Within target c

/-- Each call keeps to its conditions in the forest that the calls before it give. -/
def AllAllowed : Forest → List Call → Prop
  | _, [] => True
  | f, call :: calls => call.Allowed f ∧ AllAllowed (call.apply f) calls

end Call

open Call

/-- **One call**: the links tell the changed forest. -/
theorem Store.Holds.call {s : Store} {f : Forest} (h : s.Holds f) {call : Call} (hc : call.Allowed f) :
    (call.run s).Holds (call.apply f) := by
  cases call with
  | create data => exact h.create data
  | append parent child =>
    obtain ⟨hp, hc, hw⟩ := hc
    exact h.append hp hc hw
  | insertBefore sibling new =>
    obtain ⟨⟨p, hp⟩, hn, hw⟩ := hc
    exact h.insertBefore hp hn hw
  | detach target => exact h.detach target
  | appendText parent content => exact h.appendText hc content
  | splitText id stop start =>
    obtain ⟨⟨p, hp⟩, -⟩ := hc
    exact h.splitText hp stop start
  | setText id content => exact h.setText id content
  | removeEmptyTexts root => exact h.removeEmptyTexts hc
  | moveChildren source target =>
    obtain ⟨-, ht, hw⟩ := hc
    exact h.moveChildren ht hw

theorem Store.Holds.calls : ∀ {before after : List Call} {s : Store} {f : Forest}, s.Holds f →
    AllAllowed f (before ++ after) → (before.foldl run s).Holds (before.foldl apply f)
  | [], _, _, _, h, _ => h
  | call :: before, after, s, f, h, hc => by
    obtain ⟨hcall, hrest⟩ := hc
    rw [List.foldl_cons, List.foldl_cons]
    exact (h.call hcall).calls hrest

/-- **After every call of a history** the store is well formed, and its forest is the one that the same changes give
when they are made to forests, from the document alone. -/
theorem forest_after_every_call {calls : List Call} (h : AllAllowed Forest.empty calls) (before after : List Call)
    (hcut : calls = before ++ after) :
    (before.foldl run Store.empty).WellFormed ∧
      (before.foldl run Store.empty).forest = before.foldl apply Forest.empty := by
  subst hcut
  have hholds : (before.foldl run Store.empty).Holds (before.foldl apply Forest.empty) := Store.holds_empty.calls h
  exact ⟨⟨_, hholds⟩, hholds.forest_eq⟩

/-- A text is put into the document and cut in two, and its first half is taken out again. -/
theorem forest_after_cutting_a_text :
    AllAllowed Forest.empty [.create (.text ['a', 'b']), .append 0 1, .splitText 1 1 1, .detach 1] ∧
      ([.create (.text ['a', 'b']), .append 0 1, .splitText 1 1 1, .detach 1].foldl run Store.empty).WellFormed ∧
      ([.create (.text ['a', 'b']), .append 0 1, .splitText 1 1 1].foldl run Store.empty).children 0 = [1, 2] := by
  have hallowed : AllAllowed Forest.empty [.create (.text ['a', 'b']), .append 0 1, .splitText 1 1 1, .detach 1] := by
    refine ⟨trivial, ⟨by decide, by decide, ?_⟩, ⟨⟨0, by decide⟩, fun content hc => ?_⟩, (by decide : 1 < 3), trivial⟩
    · exact Forest.valid_empty.not_within_new (by decide) _
    · cases hc
      exact ⟨['a'], [], ['b'], rfl, by decide, by decide⟩
  exact ⟨hallowed, (forest_after_every_call hallowed _ [] (List.append_nil _).symm).1, by decide⟩

end BlogMarkdown.Dom
