import BlogMarkdown.Proofs.Dom.Content
import BlogMarkdown.Proofs.Shortcode.Refinement
import BlogMarkdown.Proofs.Shortcode.Truncation
/-!
# Rewriting what is rewritten

Where every text is plain and none is empty, rewriting succeeds and leaves the store as it is.  A rewriting that
succeeds leaves such a tree, if no escape was in it: an escape leaves a literal that is a tag when it is read again.
-/
namespace BlogMarkdown.Shortcode

open Dom
open Dom.Numbered (trees StandAll)

variable {registry : Registry}

/-! ## A rewriting has plain texts -/

/-- The texts of the trees among some tokens are plain. -/
def PlainTokens (registry : Registry) (ts : List Token) : Prop :=
  ∀ t, Token.tree t ∈ ts → ∀ content ∈ textsAll [t], Plain registry content

theorem textsAll_element (g : Tag) (children : List Tree) : textsAll [g.element children] = textsAll children :=
  List.append_nil _

theorem Bracketed.plain {ts : List Token} {us : List Tree} (h : Bracketed ts us) (hts : PlainTokens registry ts) :
    ∀ content ∈ textsAll us, Plain registry content := by
  induction h with
  | nil => nofun
  | tree t _ ih =>
    rw [textsAll_cons, List.forall_mem_append]
    exact ⟨hts t List.mem_cons_self, ih fun u hu => hts u (List.mem_cons_of_mem _ hu)⟩
  | single _ _ _ ih =>
    rw [textsAll_cons, textsAll_element]
    exact ih fun u hu => hts u (List.mem_cons_of_mem _ hu)
  | pair _ _ _ _ _ _ ihInner ih =>
    rw [textsAll_cons, textsAll_element, List.forall_mem_append]
    refine ⟨ihInner fun u hu => hts u ?_, ih fun u hu => hts u ?_⟩
    · exact List.mem_cons_of_mem _ (List.mem_append_left _ hu)
    · exact List.mem_cons_of_mem _ (List.mem_append_right _ (List.mem_cons_of_mem _ hu))

theorem plainTokens_append {ts us : List Token} (ht : PlainTokens registry ts) (hu : PlainTokens registry us) :
    PlainTokens registry (ts ++ us) := fun t h => (List.mem_append.1 h).elim (ht t) (hu t)

theorem plainTokens_cons {t : Tree} {ts : List Token} (ht : ∀ content ∈ textsAll [t], Plain registry content)
    (hts : PlainTokens registry ts) : PlainTokens registry (.tree t :: ts) := fun u hu => by
  rcases List.mem_cons.1 hu with he | hu
  · cases he
    exact ht
  · exact hts u hu

theorem forall_mem_textsAll_text {p : List Char → Prop} {text : List Char} {below : List Tree} (h : p text) :
    ∀ content ∈ textsAll [.node (.text text) below], p content := fun _ hm => by
  rwa [List.mem_singleton.1 hm]

theorem plainTokens_textTokens {content : List Char} (h : ∀ literal, Mark.escape literal ∉ marks registry content)
    (below : List Tree) : PlainTokens registry (textTokens registry content below) := by
  obtain ⟨-, hfirst, hothers⟩ := plain_pieces content h
  refine plainTokens_cons (forall_mem_textsAll_text hfirst) fun t ht => ?_
  obtain ⟨p, hp, ht⟩ := List.mem_flatMap.1 ht
  have he : t = .node (.text p.2) [] := by simpa using ht
  rw [he]
  exact forall_mem_textsAll_text (hothers p hp)

mutual
/-- **The texts of a rewriting are plain**, if no escape is in the texts of the tree. -/
theorem Rewritten.plain : ∀ {t u : Tree}, Rewritten registry t u →
    (∀ content ∈ texts t, ∀ literal, Mark.escape literal ∉ marks registry content) →
    ∀ content ∈ texts u, Plain registry content
  | .node _ _, _, .node htokens hbracketed, h => hbracketed.plain (Tokens.plain htokens h)
theorem Tokens.plain : ∀ {cs : List Tree} {ts : List Token}, Tokens registry cs ts →
    (∀ content ∈ textsAll cs, ∀ literal, Mark.escape literal ∉ marks registry content) → PlainTokens registry ts
  | [], _, .nil, _ => nofun
  | t :: rest, _, htokens, h => by
    rw [textsAll_cons, List.forall_mem_append] at h
    obtain ⟨ht, hrest⟩ := h
    cases htokens with
    | text hts => exact plainTokens_append (plainTokens_textTokens (ht _ List.mem_cons_self) _) (Tokens.plain hts hrest)
    | @element _ u _ _ he hu hts =>
      rw [textsAll_of_isElement he] at ht
      refine plainTokens_cons ?_ (Tokens.plain hts hrest)
      rw [textsAll_of_isElement (hu.data_eq ▸ he)]
      exact Rewritten.plain hu ht
    | other he hx hts =>
      refine plainTokens_cons ?_ (Tokens.plain hts hrest)
      rw [textsAll_of_other he hx]
      nofun
end

/-! ## Plain texts stay as they are -/

variable {s : Store} {f : Forest}

theorem outcome_rewritePieces_of_plain {pieces : Nat} {node : NodeId} {content : List Char}
    (hs : s.text? node = some content) (h : Plain registry content) :
    outcome (rewritePieces registry (pieces + 1) [] node) s = (.ok [], s) := by
  have hscan : scan registry ((s.text? node).getD []) = .plain content := by
    rw [hs]
    exact h.scan_eq
  rw [outcome_rewritePieces_plain hscan, s.setText_eq_self hs]
  rfl

theorem outcome_rewriteChildren_of_plain {inner : NodeId → Rewrite Unit} (h : s.Holds f) :
    ∀ {ts : List Numbered}, StandAll f ts → (∀ content ∈ textsAll (trees ts), Plain registry content) →
    (∀ t ∈ ts, (∀ content ∈ texts t.tree, Plain registry content) → outcome (inner t.id) s = (.ok (), s)) →
    outcome (rewriteChildren registry inner [] (ts.map Numbered.id)) s = (.ok [], s)
  | [], _, _, _ => rfl
  | .node id data below :: rest, hts, hplain, hinner => by
    obtain ⟨ht, hrest⟩ := hts
    have hdata : s.data? id = some data := (h.data?_eq id).trans ht.data_eq
    rw [trees, textsAll, List.forall_mem_append] at hplain
    have hgo := outcome_rewriteChildren_of_plain h hrest hplain.2 fun t hm => hinner t (List.mem_cons_of_mem _ hm)
    rw [List.map_cons, Numbered.id, rewriteChildren, outcome_bind, outcome_get]
    dsimp only
    rw [hdata]
    cases data with
    | text content =>
      have htext : s.text? id = some content := by
        rw [Store.text?, hdata]
        rfl
      dsimp only
      rw [outcome_bind, outcome_rewritePieces_of_plain htext (hplain.1 content List.mem_cons_self)]
      exact hgo
    | element name attributes =>
      have hchild : outcome (inner id) s = (.ok (), s) := hinner _ List.mem_cons_self hplain.1
      dsimp only
      rw [outcome_bind, hchild]
      exact hgo
    | _ => exact hgo

theorem outcome_rewriteBelow_of_plain (h : s.Holds f) : ∀ (depth : Nat) {t : Numbered}, t.Stands f →
    (∀ content ∈ texts t.tree, Plain registry content) → outcome (rewriteBelow registry depth t.id) s = (.ok (), s)
  | 0, _, _, _ => rfl
  | depth + 1, .node id data children, ht, hplain => by
    have hchildren := outcome_rewriteChildren_of_plain h ht.standAll hplain fun u hu hplain' =>
      outcome_rewriteBelow_of_plain h depth (ht.standAll.of_mem hu) hplain'
    have hids : s.children id = children.map Numbered.id := (h.children_eq id).trans ht.children_eq
    rw [rewriteBelow, outcome_bind, outcome_get]
    dsimp only [Numbered.id]
    rw [hids, outcome_bind]
    dsimp only [Numbered.children] at hchildren
    rw [hchildren]
    rfl

/-! ## Rewriting twice -/

/-- What stands below the root when rewriting has succeeded. -/
theorem rewritten_of_outcome (h : s.Holds f) {t : Numbered} (ht : t.Stands f)
    (hok : (outcome (rewrite registry t.id) s).1 = .ok ()) :
    ∃ (f' : Forest) (v : Numbered), (outcome (rewrite registry t.id) s).2.Holds (f'.removeEmptyTexts t.id) ∧
      v.withoutEmptyTexts.Stands (f'.removeEmptyTexts t.id) ∧ v.id = t.id ∧ Rewritten registry t.tree v.tree := by
  obtain ⟨hresult, f', hv, hb, h'⟩ := outcome_rewrite registry h ht
  rw [hok] at hresult
  rw [← hresult] at h'
  have hid := id_walk registry f.size t
  refine ⟨f', _, h', ?_, hid, rewritten_of_walk hresult.symm⟩
  rw [← hid]
  exact hb.stands.withoutEmptyTexts hv

/-- **Rewriting again changes nothing**: when rewriting succeeds and no escape was in the texts below the root, a second
rewriting succeeds and leaves the store as it is. -/
theorem rewrite_again {root : NodeId} (hs : s.WellFormed) (hroot : root < s.size)
    (hok : (outcome (rewrite registry root) s).1 = .ok ())
    (hescape : ∀ content ∈ texts (s.tree root), ∀ literal, Mark.escape literal ∉ marks registry content) :
    outcome (rewrite registry root) (outcome (rewrite registry root) s).2 =
      (.ok (), (outcome (rewrite registry root) s).2) := by
  obtain ⟨f, h⟩ := hs
  obtain ⟨t, ht, rfl⟩ := Numbered.exists_stands h.valid root (h.size ▸ hroot)
  obtain ⟨f', v, h', hv, hid, hrewritten⟩ := rewritten_of_outcome h ht hok
  rw [ht.tree_eq h] at hescape
  generalize (outcome (rewrite registry t.id) s).2 = s' at h'
  have hplain : ∀ content ∈ texts v.withoutEmptyTexts.tree, Plain registry content := fun content hm => by
    rw [Numbered.tree_withoutEmptyTexts, texts_withoutEmptyTexts] at hm
    exact hrewritten.plain hescape content (List.mem_filter.1 hm).1
  have hbelow := outcome_rewriteBelow_of_plain h' (s'.size + 1) hv hplain
  rw [Numbered.id_withoutEmptyTexts, hid] at hbelow
  rw [rewrite, outcome_bind, outcome_get]
  dsimp only
  rw [outcome_bind, hbelow]
  show (Except.ok (), s'.removeEmptyTexts t.id) = _
  rw [h'.removeEmptyTexts_again]

/-- A tag for itself in a block, and before them a closing form of it, which is plain. -/
def standalonePage : Store :=
  let s := (Store.empty.create (.text "[/c][b]x[c]".toList)).1.append (some 0) (some 1)
  let s := (s.create (.element (.html "p") [])).1.append (some 0) (some 2)
  (s.create (.text "y[/b]".toList)).1.append (some 0) (some 3)

theorem rewrite_standalone_page_again :
    standalonePage.WellFormed ∧ 0 < standalonePage.size ∧
      (outcome (rewrite ⟨[("b", true), ("c", false)]⟩ 0) standalonePage).1 = .ok () ∧
      (∀ content ∈ texts (standalonePage.tree 0), ∀ literal,
        Mark.escape literal ∉ marks ⟨[("b", true), ("c", false)]⟩ content) ∧
      outcome (rewrite ⟨[("b", true), ("c", false)]⟩ 0)
          (outcome (rewrite ⟨[("b", true), ("c", false)]⟩ 0) standalonePage).2 =
        (.ok (), (outcome (rewrite ⟨[("b", true), ("c", false)]⟩ 0) standalonePage).2) := by
  have hs : standalonePage.WellFormed :=
    ⟨_, ((Store.holds_empty.appendNew (by decide) _).appendNew (by decide) _).appendNew (by decide) _⟩
  have hroot : 0 < standalonePage.size := by decide
  have hok : (outcome (rewrite ⟨[("b", true), ("c", false)]⟩ 0) standalonePage).1 = .ok () := by decide +kernel
  have htexts : texts (standalonePage.tree 0) = ["[/c][b]x[c]".toList, "y[/b]".toList] := by decide +kernel
  have hescape : ∀ content ∈ texts (standalonePage.tree 0), ∀ literal,
      Mark.escape literal ∉ marks ⟨[("b", true), ("c", false)]⟩ content := by
    have hmarks : ∀ content ∈ texts (standalonePage.tree 0), ∀ m ∈ marks ⟨[("b", true), ("c", false)]⟩ content,
        (match m with | .escape _ => true | _ => false) = false := by
      rw [htexts]
      decide +kernel
    exact fun content hc literal hm => Bool.noConfusion (hmarks content hc _ hm)
  exact ⟨hs, hroot, hok, hescape, rewrite_again hs hroot hok hescape⟩

end BlogMarkdown.Shortcode
