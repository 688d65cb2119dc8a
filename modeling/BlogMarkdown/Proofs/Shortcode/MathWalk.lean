import BlogMarkdown.Proofs.Dom.Content
import BlogMarkdown.Proofs.Shortcode.MathSpans
/-!
# The spans of a tree

Each span of a text becomes an element that holds the formula, and the texts between the spans stay (`Spanned`).  The
walk over a numbered tree does this with the numbers of all nodes.  No span is left in the tree it ends with, and when
the new elements are written back as spans its content is that of the tree there was.
-/
namespace BlogMarkdown.Shortcode

open Dom
open Dom.Numbered (ids idsAll trees trees_append spelled spelledAll inside spelledAll_append spelled_old spelled_new)

/-! ## Spans in a tree -/

/-- What the element for a span holds. -/
def mathData : NodeData := .element (.shortcode "latex") []

/-- What takes the place of a text, if `below` is below the text. -/
def spanTrees (below : List Tree) : List (List Char × List Char) → List Char → List Tree
  | [], last => [.node (.text last) below]
  | (before, formula) :: spans, last =>
    .node (.text before) below :: .node mathData [.node (.text formula) []] :: spanTrees [] spans last

mutual
/-- **A tree, and the same tree with an element for each span**, in the texts that only elements lead to. -/
inductive Spanned : Tree → Tree → Prop where
  | node {data : NodeData} {children us : List Tree} : SpannedAll children us →
    Spanned (.node data children) (.node data us)
inductive SpannedAll : List Tree → List Tree → Prop where
  | nil : SpannedAll [] []
  | text {content last : List Char} {spans : List (List Char × List Char)} {below rest us : List Tree} :
    Spans content spans last → SpannedAll rest us →
    SpannedAll (.node (.text content) below :: rest) (spanTrees below spans last ++ us)
  | element {t u : Tree} {rest us : List Tree} : t.data.isElement = true → Spanned t u → SpannedAll rest us →
    SpannedAll (t :: rest) (u :: us)
  | other {t : Tree} {rest us : List Tree} : t.data.isElement = false → t.data.isText = false → SpannedAll rest us →
    SpannedAll (t :: rest) (t :: us)
end

theorem Spanned.data_eq : ∀ {t u : Tree}, Spanned t u → u.data = t.data
  | _, _, .node _ => rfl

theorem noSpan_spanTrees : ∀ {spans : List (List Char × List Char)} {last : List Char} {below : List Tree},
    (∀ p ∈ spans, NoSpan p.1 ∧ NoSpan p.2) → NoSpan last →
    ∀ content ∈ textsAll (spanTrees below spans last), NoSpan content
  | [], last, below, _, hlast => fun content hm => by
    rwa [List.mem_singleton.1 hm]
  | (before, formula) :: spans, last, below, hspans, hlast => by
    obtain ⟨hfirst, hrest⟩ := List.forall_mem_cons.1 hspans
    have htexts : textsAll (spanTrees below ((before, formula) :: spans) last) =
        before :: formula :: textsAll (spanTrees [] spans last) := rfl
    rw [htexts, List.forall_mem_cons, List.forall_mem_cons]
    exact ⟨hfirst.1, hfirst.2, noSpan_spanTrees hrest hlast⟩

mutual
/-- **No span is left** where each has become an element. -/
theorem Spanned.noSpan : ∀ {t u : Tree}, Spanned t u → ∀ content ∈ texts u, NoSpan content
  | .node _ _, _, .node h => SpannedAll.noSpan h
theorem SpannedAll.noSpan : ∀ {cs us : List Tree}, SpannedAll cs us → ∀ content ∈ textsAll us, NoSpan content
  | [], _, .nil => nofun
  | t :: rest, _, h => by
    cases h with
    | text hspans hrest =>
      obtain ⟨hall, hlast⟩ := hspans.noSpan
      rw [textsAll_append, List.forall_mem_append]
      exact ⟨noSpan_spanTrees hall hlast, SpannedAll.noSpan hrest⟩
    | element he hu hrest =>
      rw [textsAll_cons, textsAll_of_isElement (hu.data_eq ▸ he), List.forall_mem_append]
      exact ⟨Spanned.noSpan hu, SpannedAll.noSpan hrest⟩
    | other he hx hrest =>
      rw [textsAll_cons, textsAll_of_other he hx]
      exact SpannedAll.noSpan hrest
end

/-! ## The walk over a numbered tree -/

/-- What takes the place of a text where `size` nodes exist.  The text behind a span is made first. -/
def spanNodes (size : Nat) (id : NodeId) (below : List Numbered) :
    List (List Char × List Char) → List Char → List Numbered
  | [], last => [.node id (.text last) below]
  | (before, formula) :: spans, last =>
    .node id (.text before) below :: .node (size + 1) mathData [.node (size + 2) (.text formula) []] ::
      spanNodes (size + 3) size [] spans last

mutual
/-- How many nodes there are behind the walk over a tree, where `size` nodes exist, and what stands there then. -/
def mathWalk (size : Nat) : Numbered → Nat × Numbered
  | .node id data children => ((mathWalkAll size children).1, .node id data (mathWalkAll size children).2)
def mathWalkAll (size : Nat) : List Numbered → Nat × List Numbered
  | [] => (size, [])
  | t :: rest =>
    match t.data with
    | .text content =>
      let r := mathWalkAll (size + 3 * (mathSpans content).1.length) rest
      (r.1, spanNodes size t.id t.children (mathSpans content).1 (mathSpans content).2 ++ r.2)
    | .element _ _ =>
      let r := mathWalkAll (mathWalk size t).1 rest
      (r.1, (mathWalk size t).2 :: r.2)
    | _ =>
      let r := mathWalkAll size rest
      (r.1, t :: r.2)
end

theorem id_mathWalk (size : Nat) (t : Numbered) : (mathWalk size t).2.id = t.id := by
  cases t
  rw [mathWalk]
  rfl

theorem trees_spanNodes : ∀ (size : Nat) (id : NodeId) (below : List Numbered) (spans : List (List Char × List Char))
    (last : List Char), trees (spanNodes size id below spans last) = spanTrees (trees below) spans last
  | _, _, _, [], _ => rfl
  | size, id, below, (before, formula) :: spans, last => by
    have hrest := trees_spanNodes (size + 3) size [] spans last
    rw [spanNodes, spanTrees, trees, trees, hrest]
    rfl

mutual
/-- **The walk makes an element of each span.** -/
theorem spanned_mathWalk : ∀ (t : Numbered) (size : Nat), Spanned t.tree (mathWalk size t).2.tree
  | .node _ _ children, size => by
    rw [mathWalk]
    exact .node (spannedAll_mathWalkAll children size)
theorem spannedAll_mathWalkAll : ∀ (cs : List Numbered) (size : Nat),
    SpannedAll (trees cs) (trees (mathWalkAll size cs).2)
  | [], _ => .nil
  | .node id data below :: rest, size => by
    rw [mathWalkAll, trees]
    cases data with
    | text content =>
      dsimp only [Numbered.data, Numbered.id, Numbered.children]
      rw [trees_append, trees_spanNodes]
      exact .text (spans_mathSpans content) (spannedAll_mathWalkAll rest _)
    | element name attributes =>
      exact .element rfl (spanned_mathWalk (.node id (.element name attributes) below) size)
        (spannedAll_mathWalkAll rest _)
    | _ => exact .other rfl rfl (spannedAll_mathWalkAll rest _)
end

/-! ## Writing the elements back -/

variable {n : Nat}

theorem spelledAll_spanNodes : ∀ (size : Nat), n ≤ size → ∀ (id : NodeId) (below : List Numbered)
    (spans : List (List Char × List Char)) (last : List Char),
    spelledAll false n mathMarker ['$'] (spanNodes size id below spans last) =
      ((spans.flatMap fun p => p.1 ++ (mathMarker ++ p.2 ++ ['$'])) ++ last).map .char
  | _, _, id, below, [], last => by
    rw [spanNodes, Numbered.spelledAll_singleton, Numbered.spelled_text_alone]
    rfl
  | size, hsize, id, below, (before, formula) :: spans, last => by
    have hrest := spelledAll_spanNodes (size + 3) (Nat.le_add_right_of_le hsize) size [] spans last
    have helement : spelled false n mathMarker ['$'] (.node (size + 1) mathData [.node (size + 2) (.text formula) []]) =
        (mathMarker ++ formula ++ ['$']).map .char := by
      rw [mathData, spelled_new (Nat.le_add_right_of_le hsize), Numbered.spelledAll_singleton, Numbered.spelled_text_alone,
        List.map_append, List.map_append]
    rw [spanNodes, spelledAll, spelledAll, hrest, helement, Numbered.spelled_text_alone, List.flatMap_cons]
    simp only [List.map_append, List.append_assoc]

mutual
theorem le_mathWalk : ∀ (t : Numbered) (size : Nat), size ≤ (mathWalk size t).1
  | .node _ _ children, size => by
    rw [mathWalk]
    exact le_mathWalkAll children size
theorem le_mathWalkAll : ∀ (cs : List Numbered) (size : Nat), size ≤ (mathWalkAll size cs).1
  | [], _ => Nat.le_refl _
  | .node id data below :: rest, size => by
    rw [mathWalkAll]
    cases data with
    | text content => exact Nat.le_trans (Nat.le_add_right ..) (le_mathWalkAll rest _)
    | element name attributes => exact Nat.le_trans (le_mathWalk _ size) (le_mathWalkAll rest _)
    | _ => exact le_mathWalkAll rest _
end

mutual
/-- **Written back as spans, the elements give the content there was.** -/
theorem inside_mathWalk : ∀ (t : Numbered) (size : Nat), n ≤ size → (∀ x ∈ t.ids, x < n) →
    inside false n mathMarker ['$'] (mathWalk size t).2 = inside false n [] [] t
  | .node id data children, size, hsize, hids => by
    have hchildren := spelledAll_mathWalkAll children size hsize fun x hx => hids x (List.mem_cons_of_mem id hx)
    rw [mathWalk]
    exact congrArg (· ++ [Part.leave id]) hchildren
theorem spelledAll_mathWalkAll : ∀ (cs : List Numbered) (size : Nat), n ≤ size → (∀ x ∈ idsAll cs, x < n) →
    spelledAll false n mathMarker ['$'] (mathWalkAll size cs).2 = spelledAll false n [] [] cs
  | [], _, _, _ => rfl
  | .node id data below :: rest, size, hsize, hids => by
    have hid : id < n := hids id (List.mem_append_left _ List.mem_cons_self)
    have hgo : ∀ size', size ≤ size' →
        spelledAll false n mathMarker ['$'] (mathWalkAll size' rest).2 = spelledAll false n [] [] rest := fun size' hle =>
      spelledAll_mathWalkAll rest size' (Nat.le_trans hsize hle) fun x hx => hids x (List.mem_append_right _ hx)
    rw [mathWalkAll]
    cases data with
    | text content =>
      dsimp only [Numbered.data, Numbered.id, Numbered.children]
      rw [spelledAll_append, spelledAll_spanNodes size hsize, (spans_mathSpans content).source,
        hgo _ (Nat.le_add_right ..), spelledAll, Numbered.spelled_text_alone]
    | element name attributes =>
      have hbelow := spelledAll_mathWalkAll below size hsize fun x hx =>
        hids x (List.mem_append_left _ (List.mem_cons_of_mem id hx))
      dsimp only [Numbered.data]
      rw [spelledAll, hgo _ (le_mathWalk _ size), mathWalk, spelled_old hid, hbelow, spelledAll, spelled_old hid]
    | _ =>
      dsimp only [Numbered.data]
      rw [spelledAll, hgo _ (Nat.le_refl _)]
      rfl
end

end BlogMarkdown.Shortcode
