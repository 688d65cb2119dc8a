import BlogMarkdown.Proofs.Dom.Keeping
import BlogMarkdown.Proofs.Shortcode.MathWalk
import BlogMarkdown.Proofs.Shortcode.Simulation
/-!
# Rewriting inline mathematics

Each computation on a store leaves a store whose links tell the forest in which the walked tree stands.  So rewriting
the mathematics below a node loses nothing, leaves no span, and changes nothing when it is done again.
-/
namespace BlogMarkdown.Shortcode

open Dom
open Dom.Numbered (ids idsAll trees inside StandAll Becomes)

variable {s : Store} {f : Forest} {top : NodeId} {data : NodeData} {done rest : List Numbered}

/-! ## One span -/

/-- The element for a span, with the formula in it, behind the text before the span. -/
def addMath (s : Store) (node : NodeId) (formula : List Char) : Store :=
  let (s, element) := s.create mathData
  let (s, inner) := s.create (.text formula)
  (s.append (some element) (some inner)).insertAfter (some node) (some element)

theorem addMath_eq (h : s.Holds f) (node : NodeId) (formula : List Char) :
    addMath s node formula =
      (((s.create mathData).1.create (.text formula)).1.append (some f.size) (some (f.size + 1))).insertAfter
        (some node) (some f.size) := by
  have helement : (s.create mathData).2 = f.size := Store.create_snd h mathData
  have hinner : ((s.create mathData).1.create (.text formula)).2 = f.size + 1 :=
    Store.create_snd (h.create mathData) (.text formula)
  show (((s.create mathData).1.create (.text formula)).1.append (some (s.create mathData).2)
    (some ((s.create mathData).1.create (.text formula)).2)).insertAfter (some node) (some (s.create mathData).2) = _
  rw [helement, hinner]

/-- What stands below a new node is new, if the lists of new nodes hold new nodes only. -/
theorem le_of_within {n x a : NodeId} (h : ∀ p c, n ≤ p → c ∈ f.children p → n ≤ c) (ha : n ≤ a)
    (hw : f.Within x a) : n ≤ x := by
  induction hw using Relation.ReflTransGen.head_induction_on with
  | refl => exact ha
  | head hxp _ ih => exact h _ _ ih hxp

/-- The element, and the formula as its child, before the element has a place. -/
def mathForest (f : Forest) (formula : List Char) : Forest :=
  ((f.create mathData).create (.text formula)).append f.size (f.size + 1)

theorem children_mathForest (hv : f.Valid) (formula : List Char) (p : NodeId) :
    (mathForest f formula).children p = if p = f.size then [f.size + 1] else f.children p := by
  have hnot : f.size + 1 ∉ f.children p := fun hm => Nat.not_succ_lt_self (hv.child_lt hm)
  show (f.children p).filter (· ≠ f.size + 1) ++ (if p = f.size then [f.size + 1] else []) = _
  rw [filter_ne_of_not_mem hnot]
  by_cases hp : p = f.size
  · rw [if_pos hp, if_pos hp, hp, hv.children_eq_nil (Nat.le_refl _), List.nil_append]
  · rw [if_neg hp, if_neg hp, List.append_nil]

theorem data_mathForest_of_lt (formula : List Char) {x : NodeId} (hx : x < f.size) :
    (mathForest f formula).data x = f.data x :=
  (if_neg (Nat.ne_of_lt (Nat.lt_succ_of_lt hx))).trans (if_neg (Nat.ne_of_lt hx))

theorem holds_mathForest (h : s.Holds f) (formula : List Char) :
    (((s.create mathData).1.create (.text formula)).1.append (some f.size) (some (f.size + 1))).Holds
      (mathForest f formula) := by
  have hcreate := (h.create mathData).create (.text formula)
  have helement : f.size < (f.create mathData).size := Nat.lt_succ_self _
  have hwithin := (h.valid.create mathData).not_within_new helement (.text formula)
  exact hcreate.append (Nat.lt_succ_of_lt helement) (Nat.lt_succ_self _) hwithin

/-- Nothing that was there stands below the new element. -/
theorem not_within_mathForest (hv : f.Valid) (formula : List Char) {x : NodeId} (hx : x < f.size) :
    ¬ (mathForest f formula).Within x f.size := by
  intro hw
  refine absurd (le_of_within (fun p c hp hc => ?_) (Nat.le_refl f.size) hw) (Nat.not_le.2 hx)
  rw [children_mathForest hv] at hc
  split at hc
  · rw [List.mem_singleton.1 hc]
    exact Nat.le_succ _
  · rw [hv.children_eq_nil hp] at hc
    cases hc

/-- **The element for a span comes right behind the text before it.** -/
theorem turns_addMath (h : s.Holds f) {t : Numbered} (ht : (Numbered.node top data (done ++ t :: rest)).Stands f)
    (formula : List Char) :
    Turns f (.node top data (done ++ t :: rest)) (addMath s t.id formula) (f.size + 2)
      (.node top data (done ++ t :: .node f.size mathData [.node (f.size + 1) (.text formula) []] :: rest)) := by
  have hv := h.valid
  have hmem : t.id ∈ f.children top := ht.child_mem (List.mem_append_right _ List.mem_cons_self)
  have htop : top ≠ f.size := Nat.ne_of_lt (hv.parent_lt hmem)
  have hchildren := children_mathForest hv formula
  have htopChildren : (mathForest f formula).children top = f.children top := (hchildren top).trans (if_neg htop)
  have hnew : ∀ q, f.size ∉ (mathForest f formula).children q := fun q hm => by
    rw [hchildren] at hm
    split at hm
    · exact absurd (List.mem_singleton.1 hm) (Nat.ne_of_lt (Nat.lt_succ_self _))
    · exact hv.not_mem_new q hm
  have hlt : f.size < (mathForest f formula).size := Nat.lt_succ_of_lt (Nat.lt_succ_self _)
  have hsucc : successor t.id ((mathForest f formula).children top) ≠ some f.size := fun he =>
    hnew top (mem_of_successor he)
  have hholds := holds_mathForest h formula
  -- the element stands nowhere yet, so only the list that it comes into changes
  have hinsert := hholds.insertAfter (htopChildren ▸ hmem) hlt
    (not_within_mathForest hv formula (hv.child_lt hmem)) hsucc
  have hafter := Numbered.children_insertAfter_of_not_mem hholds.valid (htopChildren.trans ht.children_split) hnew
  have hstands : (Numbered.node f.size mathData [.node (f.size + 1) (.text formula) []]).Stands
      ((mathForest f formula).insertAfter t.id f.size) := by
    refine ⟨?_, ?_, ⟨if_pos rfl, ?_, trivial⟩, trivial⟩
    · exact (if_neg (Nat.ne_of_lt (Nat.lt_succ_self _))).trans (if_pos rfl)
    · rw [hafter, if_neg htop.symm, hchildren, if_pos rfl]
      rfl
    · have htop' : f.size + 1 ≠ top := fun he => Nat.not_succ_lt_self (he ▸ hv.parent_lt hmem)
      rw [hafter, if_neg htop', hchildren, if_neg (Nat.succ_ne_self _), hv.children_eq_nil (Nat.le_succ _)]
      rfl
  have hold : ∀ x < f.size, ((mathForest f formula).insertAfter t.id f.size).data x = f.data x ∧
      (x ≠ top → ((mathForest f formula).insertAfter t.id f.size).children x = f.children x) := fun x hx => by
    refine ⟨data_mathForest_of_lt formula hx, fun hne => ?_⟩
    rw [hafter, if_neg hne, hchildren, if_neg (Nat.ne_of_lt hx)]
  have hids : ∀ x, x ∈ (Numbered.node f.size mathData [.node (f.size + 1) (.text formula) []]).ids ↔
      x = f.size ∨ x = f.size + 1 := fun x => by simp [ids, idsAll]
  rw [addMath_eq h]
  refine ⟨_, hinsert, rfl, ht.becomes_of_inserted hv hold ((hafter top).trans (if_pos rfl)) hstands (Nat.le_of_lt hlt)
    (fun x hx => ?_) fun x hx hx' => (hids x).2 ?_⟩
  · rcases (hids x).1 hx with rfl | rfl
    · exact Nat.le_refl _
    · exact Nat.le_succ _
  · rcases Nat.lt_succ_iff_lt_or_eq.1 hx' with hlt | heq
    · exact .inl (Nat.le_antisymm (Nat.le_of_lt_succ hlt) hx)
    · exact .inr heq

theorem cutMath_none {node : NodeId} (h : findMath? ((s.text? node).getD []) = none) : cutMath s node = (s, none) := by
  unfold cutMath
  rw [h]

/-- What a span takes away from the text: the marker, the formula and the dollar sign. -/
def spanSource (formula : List Char) : List Char := mathMarker ++ formula ++ ['$']

theorem eq_spanSource_of_findMath? {text before formula after : List Char}
    (h : findMath? text = some (before, formula, after)) : text = before ++ spanSource formula ++ after := by
  rw [(findMath?_eq_some h).eq, spanSource]
  simp only [List.append_assoc, List.singleton_append]

theorem cutMath_some {node : NodeId} {before formula after : List Char}
    (h : findMath? ((s.text? node).getD []) = some (before, formula, after)) :
    cutMath s node =
      (addMath (s.splitText node (Text.Utf8.byteLength before)
          (Text.Utf8.byteLength (before ++ spanSource formula))).1 node formula,
        some (s.splitText node (Text.Utf8.byteLength before)
          (Text.Utf8.byteLength (before ++ spanSource formula))).2) := by
  have hstop : Text.Utf8.byteLength (before ++ spanSource formula) =
      Text.Utf8.byteLength before + Text.Utf8.byteLength mathMarker + Text.Utf8.byteLength formula + 1 := by
    rw [spanSource, Text.Utf8.byteLength_append, Text.Utf8.byteLength_append, Text.Utf8.byteLength_append,
      ← Nat.add_assoc, ← Nat.add_assoc]
    rfl
  unfold cutMath
  rw [h, hstop]
  rfl

/-- **The first span of a text is cut out.** -/
theorem turns_cutMath (h : s.Holds f) {id : NodeId} {content before formula after : List Char} {below : List Numbered}
    (ht : (Numbered.node top data (done ++ .node id (.text content) below :: rest)).Stands f)
    (hfind : findMath? content = some (before, formula, after)) :
    Turns f (.node top data (done ++ .node id (.text content) below :: rest)) (cutMath s id).1 (f.size + 3)
        (.node top data (done ++ .node id (.text before) below ::
          .node (f.size + 1) mathData [.node (f.size + 2) (.text formula) []] ::
            .node f.size (.text after) [] :: rest)) ∧
      (cutMath s id).2 = some f.size := by
  have hcut := eq_spanSource_of_findMath? hfind
  rw [← text_of_stands h ht] at hfind
  subst hcut
  -- the split gives the text behind the span its number before the element gets one
  obtain ⟨⟨f₁, h₁, hsize₁, hb₁⟩, htail⟩ := turns_splitText h ht
  obtain ⟨f₂, h₂, hsize₂, hb₂⟩ := turns_addMath h₁ hb₁.stands formula
  rw [cutMath_some hfind, htail]
  rw [hsize₁] at hsize₂ hb₂
  dsimp only
  exact ⟨⟨f₂, h₂, hsize₂, hb₁.trans hb₂⟩, rfl⟩

/-! ## The spans of a text -/

theorem turns_rewriteMathText : ∀ {pieces : Nat} {content : List Char} {s : Store} {f : Forest} {id : NodeId}
    {below done : List Numbered}, content.length < pieces → s.Holds f →
    (Numbered.node top data (done ++ .node id (.text content) below :: rest)).Stands f →
    Turns f (.node top data (done ++ .node id (.text content) below :: rest)) (rewriteMathText pieces s id)
      (f.size + 3 * (mathSpans content).1.length)
      (.node top data (done ++ (spanNodes f.size id below (mathSpans content).1 (mathSpans content).2 ++ rest)))
  | 0, _, _, _, _, _, _, hlen, _, _ => absurd hlen (Nat.not_lt_zero _)
  | pieces + 1, content, s, f, id, below, done, hlen, h, ht => by
    rw [rewriteMathText]
    cases hfind : findMath? content with
    | none =>
      rw [cutMath_none (text_of_stands h ht ▸ hfind), mathSpans_none hfind]
      exact ⟨f, h, rfl, .refl h.valid ht⟩
    | some r =>
      obtain ⟨before, formula, after⟩ := r
      have hafter : after.length < pieces := Nat.lt_of_lt_of_le (length_of_findMath? hfind) (Nat.le_of_lt_succ hlen)
      obtain ⟨⟨f₁, h₁, hsize₁, hb₁⟩, htail⟩ := turns_cutMath h ht hfind
      generalize cutMath s id = cut at h₁ htail ⊢
      obtain ⟨s₁, tail⟩ := cut
      subst htail
      -- the text behind the span is cut in turn, with the element among what is done
      have hmoved : ∀ behind : List Numbered, done ++ .node id (.text before) below ::
          .node (f.size + 1) mathData [.node (f.size + 2) (.text formula) []] :: behind =
          (done ++ [.node id (.text before) below,
            .node (f.size + 1) mathData [.node (f.size + 2) (.text formula) []]]) ++ behind := fun behind => by
        rw [List.append_assoc]
        rfl
      have hstands := hb₁.stands
      rw [hmoved] at hstands
      obtain ⟨f₂, h₂, hsize₂, hb₂⟩ := turns_rewriteMathText hafter h₁ hstands
      rw [hsize₁] at hsize₂ hb₂
      rw [← hmoved, ← hmoved] at hb₂
      rw [mathSpans_some hfind]
      exact ⟨f₂, h₂, by rw [hsize₂, List.length_cons]; omega, hb₁.trans hb₂⟩

/-! ## The children of a node, and the tree below it -/

/-- Rewrites one child. -/
def rewriteMathChild (depth : Nat) (s : Store) (child : NodeId) : Store :=
  match s.data? child with
  | some (.text content) => rewriteMathText (content.length + 1) s child
  | some (.element _ _) => rewriteMathBelow depth s child
  | _ => s

theorem rewriteMathBelow_succ (depth : Nat) (s : Store) (node : NodeId) :
    rewriteMathBelow (depth + 1) s node = (s.children node).foldl (rewriteMathChild depth) s := rfl

/-- **Rewriting below a tree follows the walk.** -/
def MathWalks (depth : Nat) (t : Numbered) : Prop :=
  ∀ (s : Store) (f : Forest), s.Holds f → t.Stands f →
    Turns f t (rewriteMathBelow depth s t.id) (mathWalk f.size t).1 (mathWalk f.size t).2

theorem turns_foldl_rewriteMathChild {depth : Nat} : ∀ {cs done : List Numbered} {s : Store} {f : Forest},
    (∀ u ∈ cs, MathWalks depth u) → s.Holds f → (Numbered.node top data (done ++ cs)).Stands f →
    Turns f (.node top data (done ++ cs)) ((cs.map Numbered.id).foldl (rewriteMathChild depth) s)
      (mathWalkAll f.size cs).1 (.node top data (done ++ (mathWalkAll f.size cs).2))
  | [], _, _, f, _, h, ht => ⟨f, h, rfl, .refl h.valid ht⟩
  | .node id d below :: rest, done, s, f, hwalks, h, ht => by
    have hrest := fun u hu => hwalks u (List.mem_cons_of_mem _ hu)
    -- what takes the place of the child goes to what is done
    have hgo : ∀ (us : List Numbered) {s₁ : Store} {size : Nat},
        Turns f (.node top data (done ++ .node id d below :: rest)) s₁ size (.node top data (done ++ (us ++ rest))) →
        Turns f (.node top data (done ++ .node id d below :: rest))
          ((rest.map Numbered.id).foldl (rewriteMathChild depth) s₁) (mathWalkAll size rest).1
          (.node top data (done ++ (us ++ (mathWalkAll size rest).2))) := by
      rintro us s₁ size ⟨f₁, h₁, rfl, hb₁⟩
      rw [← List.append_assoc] at hb₁ ⊢
      exact (turns_foldl_rewriteMathChild hrest h₁ hb₁.stands).after hb₁
    have hdata : s.data? id = some d := (h.data?_eq id).trans ht.split.2.1.data_eq
    rw [List.map_cons, List.foldl_cons, Numbered.id, rewriteMathChild, hdata, mathWalkAll]
    cases d with
    | text content => exact hgo _ (turns_rewriteMathText (Nat.lt_succ_self _) h ht)
    | element name attributes =>
      obtain ⟨f₁, h₁, hsize₁, hb₁⟩ := hwalks _ List.mem_cons_self s f h ht.split.2.1
      have hid := id_mathWalk f.size (.node id (.element name attributes) below)
      exact hgo [_] ⟨f₁, h₁, hsize₁, ht.becomes_of_child h.valid hb₁ hid⟩
    | _ => exact hgo [_] ⟨f, h, rfl, .refl h.valid ht⟩

theorem mathWalks_rewriteMathBelow : ∀ {depth : Nat} {t : Numbered}, t.ids.length ≤ depth → MathWalks depth t
  | 0, .node id data children, hlen => by
    rw [ids] at hlen
    cases hlen
  | depth + 1, .node id data children, hlen => by
    intro s f h ht
    rw [ids, List.length_cons, Nat.succ_le_succ_iff] at hlen
    have hwalks : ∀ u ∈ children, MathWalks depth u := fun u hu =>
      mathWalks_rewriteMathBelow (Nat.le_trans (Numbered.length_ids_le_of_mem hu) hlen)
    have hchildren : s.children id = children.map Numbered.id := (h.children_eq id).trans ht.children_eq
    have ht' : (Numbered.node id data ([] ++ children)).Stands f := ht
    rw [Numbered.id, rewriteMathBelow_succ, hchildren, mathWalk]
    exact turns_foldl_rewriteMathChild hwalks h ht'

/-! ## Where no span is left -/

theorem rewriteMathText_of_noSpan {node : NodeId} {content : List Char} (htext : s.text? node = some content)
    (h : NoSpan content) (pieces : Nat) : rewriteMathText pieces s node = s := by
  cases pieces with
  | zero => rfl
  | succ pieces =>
    have hfind : findMath? ((s.text? node).getD []) = none := by
      rw [htext]
      exact findMath?_of_noSpan h
    rw [rewriteMathText, cutMath_none hfind]

theorem foldl_rewriteMathChild_of_noSpan {depth : Nat} (h : s.Holds f) : ∀ {cs : List Numbered}, StandAll f cs →
    (∀ content ∈ textsAll (trees cs), NoSpan content) →
    (∀ u ∈ cs, (∀ content ∈ texts u.tree, NoSpan content) → rewriteMathBelow depth s u.id = s) →
    (cs.map Numbered.id).foldl (rewriteMathChild depth) s = s
  | [], _, _, _ => rfl
  | .node id d below :: rest, hcs, hno, hbelow => by
    obtain ⟨hstands, hrest⟩ := hcs
    have hdata : s.data? id = some d := (h.data?_eq id).trans hstands.data_eq
    rw [trees, textsAll, List.forall_mem_append] at hno
    have hchild : rewriteMathChild depth s id = s := by
      rw [rewriteMathChild, hdata]
      cases d with
      | text content =>
        have htext : s.text? id = some content := by
          rw [Store.text?, hdata]
          rfl
        exact rewriteMathText_of_noSpan htext (hno.1 content List.mem_cons_self) _
      | element name attributes => exact hbelow _ List.mem_cons_self hno.1
      | _ => rfl
    rw [List.map_cons, List.foldl_cons, Numbered.id, hchild]
    exact foldl_rewriteMathChild_of_noSpan h hrest hno.2 fun u hu => hbelow u (List.mem_cons_of_mem _ hu)

theorem rewriteMathBelow_of_noSpan (h : s.Holds f) : ∀ (depth : Nat) {t : Numbered}, t.Stands f →
    (∀ content ∈ texts t.tree, NoSpan content) → rewriteMathBelow depth s t.id = s
  | 0, _, _, _ => rfl
  | depth + 1, .node id data children, ht, hno => by
    have hids : s.children id = children.map Numbered.id := (h.children_eq id).trans ht.children_eq
    rw [Numbered.id, rewriteMathBelow_succ, hids]
    exact foldl_rewriteMathChild_of_noSpan h ht.standAll hno fun u hu hno' =>
      rewriteMathBelow_of_noSpan h depth (ht.standAll.of_mem hu) hno'

/-! ## Rewriting a store -/

/-- **Rewriting mathematics follows the walk**, and then the empty texts go. -/
theorem holds_rewriteMath (h : s.Holds f) {t : Numbered} (ht : t.Stands f) :
    ∃ f', f'.Valid ∧ Becomes f t f' (mathWalk f.size t).2 ∧ (rewriteMath s t.id).Holds (f'.removeEmptyTexts t.id) := by
  have hlen : t.ids.length ≤ s.size + 1 := Nat.le_succ_of_le (h.size ▸ ht.length_ids_le h.valid)
  obtain ⟨f', h', -, hb⟩ := mathWalks_rewriteMathBelow hlen s f h ht
  have hlt : t.id < f'.size := by
    rw [← id_mathWalk f.size t]
    exact hb.stands.lt_size h'.valid (Numbered.id_mem_ids _)
  exact ⟨f', h'.valid, hb, h'.removeEmptyTexts hlt⟩

/-- Two spans, the second with an escaped dollar sign, and a marker that begins none. -/
def mathPage : Store :=
  let s := (Store.empty.create (.text "a$latex x$b".toList)).1.append (some 0) (some 1)
  let s := (s.create (.element (.html "p") [])).1.append (some 0) (some 2)
  (s.create (.text "$latex y\\$z$$latex ".toList)).1.append (some 2) (some 3)

end BlogMarkdown.Shortcode
