import BlogMarkdown.Proofs.Shortcode.Reference
import BlogMarkdown.Proofs.Shortcode.Simulation
/-!
# Rewriting gives the rewriting

A walk that succeeds has read the children of each node as tokens and matched their tags as brackets.  So when
rewriting the shortcodes below a node of a store succeeds, the tree that stands there then is the one rewriting of the
tree that stood there before, without its empty texts.
-/
namespace BlogMarkdown.Shortcode

open Dom
open Dom.Numbered (trees trees_append StandAll Becomes)

variable {registry : Registry}

/-! ## A walk as a reading -/

def Walk.read (w : Walk) (ts : List Token) : Except Error (List Open × List Tree) :=
  Shortcode.read w.erase.1 w.erase.2 ts

theorem Walk.read_nil (w : Walk) : w.read [] = .ok w.erase := rfl

theorem Walk.read_tree (w : Walk) (t : Numbered) (ts : List Token) :
    w.read (.tree t.tree :: ts) = ({ w with content := w.content ++ [t] } : Walk).read ts := by
  rw [Walk.read, Walk.read, Walk.erase, Walk.erase, trees_append, Shortcode.read]
  rfl

theorem Walk.read_tag {w w' : Walk} {node : Numbered} {g : Tag} (h : w.meet node g = .ok w') (ts : List Token) :
    w.read (.tree node.tree :: .tag g :: ts) = w'.read ts := by
  rw [Walk.read, Shortcode.read, Shortcode.read, Walk.erase_meet, h]
  rfl

theorem read_of_walkCuts : ∀ {cs : Cuts} {w w' : Walk} {id : NodeId} {below : List Numbered},
    walkCuts w id below cs = .ok w' → ∀ ts, w.read (pieceTokens cs.pieces (trees below) ++ ts) = w'.read ts
  | .whole text, w, w', id, below, h, ts => by
    rw [walkCuts] at h
    cases h
    exact w.read_tree (.node id (.text text) below) ts
  | .cut before g raw rest, w, w', id, below, h, ts => by
    rw [walkCuts] at h
    cases hmeet : w.meet (.node id (.text before) below) g with
    | error e => rw [hmeet] at h; cases h
    | ok w₁ =>
      rw [hmeet] at h
      exact (Walk.read_tag hmeet _).trans (read_of_walkCuts h ts)

mutual
/-- **A walk that succeeds ends with the rewriting of the tree.** -/
theorem rewritten_of_walk : ∀ {t : Numbered} {size : Nat}, (walk registry size t).result = .ok () →
    Rewritten registry t.tree (walk registry size t).tree.tree
  | .node id data children, size, h => by
    rw [walk] at h ⊢
    cases hwalk : walkAll registry ⟨size, [], []⟩ children with
    | error e => rw [hwalk] at h; cases h
    | ok w =>
      rw [hwalk] at h
      obtain ⟨ts, htokens, hread⟩ := tokens_of_walkAll hwalk
      obtain ⟨size', levels, content⟩ := w
      cases levels with
      | cons l outer => cases h
      | nil => exact .node htokens (bracketed_iff_read.2 hread)
theorem tokens_of_walkAll : ∀ {cs : List Numbered} {w w' : Walk}, walkAll registry w cs = .ok w' →
    ∃ ts, Tokens registry (trees cs) ts ∧ w.read ts = .ok w'.erase
  | [], w, w', h => by
    rw [walkAll] at h
    cases h
    exact ⟨[], .nil, w.read_nil⟩
  | .node id data below :: rest, w, w', h => by
    rw [walkAll] at h
    cases data with
    | text content =>
      simp only [Numbered.data, Numbered.id, Numbered.children] at h
      cases hcuts : walkCuts w id below (cuts registry content) with
      | error e => rw [hcuts] at h; cases h
      | ok w₁ =>
        rw [hcuts] at h
        obtain ⟨ts, htokens, hread⟩ := tokens_of_walkAll h
        refine ⟨_, .text htokens, ?_⟩
        rw [textTokens, ← pieces_cuts, read_of_walkCuts hcuts, hread]
    | element name attributes =>
      simp only [Numbered.data] at h
      cases hresult : (walk registry w.size (.node id (.element name attributes) below)).result with
      | error e => rw [hresult] at h; cases h
      | ok =>
        rw [hresult] at h
        obtain ⟨ts, htokens, hread⟩ := tokens_of_walkAll h
        refine ⟨_, .element rfl (rewritten_of_walk hresult) htokens, ?_⟩
        rw [w.read_tree, ← hread]
        rfl
    | document =>
      obtain ⟨ts, htokens, hread⟩ := tokens_of_walkAll h
      exact ⟨_, .other rfl rfl htokens, (w.read_tree (.node id .document below) ts).trans hread⟩
    | comment content =>
      obtain ⟨ts, htokens, hread⟩ := tokens_of_walkAll h
      exact ⟨_, .other rfl rfl htokens, (w.read_tree (.node id (.comment content) below) ts).trans hread⟩
    | doctype name publicId systemId =>
      obtain ⟨ts, htokens, hread⟩ := tokens_of_walkAll h
      exact ⟨_, .other rfl rfl htokens, (w.read_tree (.node id (.doctype name publicId systemId) below) ts).trans hread⟩
end

/-! ## Rewriting a store -/

/-- A block with an attribute that opens in one text and closes in another, and between them an escape, a tag for itself
and an element. -/
def blockPage : Store :=
  let s := (Store.empty.create (.text "x[b k=v]y[[b]][c]".toList)).1.append (some 0) (some 1)
  let s := (s.create (.element (.html "p") [])).1.append (some 0) (some 2)
  (s.create (.text "z[/b]".toList)).1.append (some 0) (some 3)

end BlogMarkdown.Shortcode
