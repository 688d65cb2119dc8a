import BlogMarkdown.Proofs.Dom.Keeping
import BlogMarkdown.Proofs.Shortcode.Settling
/-!
# What rewriting does to the content of a tree

Rewriting settles the readings of a tree up to and including the first violation, and then it stops.  Nothing that was
there is gone but, where all was settled, the texts without characters.  A text is rewritten as if nothing stood below
it: what does stays with the first piece of a text that is cut, and goes away with a text that is taken out.  So the
content is that of the settled readings if what stands below texts is left out of both, and if nothing stands below
texts that are cut or taken out it is also with what stands below the others.
-/
namespace BlogMarkdown.Shortcode

open Dom
open Dom.Numbered (ids idsAll textNodes textNodesAll hanging spelled spelledAll inside Light spelledAll_append
  spelledAll_singleton spelled_text spelled_new)

variable {whole : Bool} {registry : Registry}

/-! ## Texts that are cut or taken out -/

/-- Rewriting takes out a text without characters, and cuts one that has a tag. -/
def Touched (registry : Registry) (content : List Char) : Prop := content = [] ∨ textTags registry content ≠ []

/-- Nothing that is listed stands below the texts that rewriting takes out or cuts. -/
def Unburdened (whole : Bool) (registry : Registry) (ts : List Numbered) : Prop :=
  ∀ y ∈ textNodesAll ts, ∀ content, y.data = .text content → Touched registry content → hanging whole y.children = []

theorem unburdened_append {ts us : List Numbered} :
    Unburdened whole registry (ts ++ us) ↔ Unburdened whole registry ts ∧ Unburdened whole registry us := by
  rw [Unburdened, Numbered.textNodesAll_append, List.forall_mem_append]
  rfl

theorem light_text {id : NodeId} {content : List Char} {below : List Numbered}
    (h : content = [] → hanging whole below = []) : Light whole [.node id (.text content) below] := fun y hy hempty => by
  cases List.mem_singleton.1 hy
  exact h (List.isEmpty_iff.1 hempty)

theorem light_element (l : Level) {content : List Numbered} (h : Light whole content) :
    Light whole [l.element content] := by
  rw [Light, textNodesAll_element]
  exact h

theorem light_plug {levels : List Level} {content more : List Numbered} :
    Light whole (plug levels (content ++ more)) ↔ Light whole (plug levels content) ∧ Light whole more := by
  rw [Light, textNodesAll_plug, List.forall_mem_append]
  rfl

/-! ## The walk settles readings -/

variable {n : Nat}

/-- The elements for the open tags are new since there were `n` nodes, and so is what is still to be made.  Nothing that
is listed stands below an empty text. -/
structure Walk.Above (whole : Bool) (n : Nat) (w : Walk) : Prop where
  size : n ≤ w.size
  levels : ∀ l ∈ w.levels, n ≤ l.id
  light : Light whole (plug w.levels w.content)

/-- What has been walked, read as content. -/
def Walk.spelled (whole : Bool) (n : Nat) (w : Walk) : List Part := spelledAll whole n [] [] (plug w.levels w.content)

theorem spelled_element {l : Level} (hl : n ≤ l.id) (content : List Numbered) :
    Numbered.spelled whole n [] [] (l.element content) = spelledAll whole n [] [] content := by
  rw [Level.element, Tag.data, spelled_new hl, List.map_nil, List.nil_append, List.append_nil]

theorem spelledAll_plug_append : ∀ {levels : List Level}, (∀ l ∈ levels, n ≤ l.id) → ∀ content more : List Numbered,
    spelledAll whole n [] [] (plug levels (content ++ more)) =
      spelledAll whole n [] [] (plug levels content) ++ spelledAll whole n [] [] more
  | [], _, content, more => spelledAll_append content more
  | l :: outer, h, content, more => by
    have houter := fun k hk => h k (List.mem_cons_of_mem l hk)
    have hl := h l List.mem_cons_self
    rw [plug, plug, spelledAll_plug_append houter, spelledAll_plug_append houter, spelledAll_singleton,
      spelledAll_singleton, spelled_element hl, spelled_element hl, spelledAll_append, List.append_assoc]

/-- **A tag adds nothing to the content** but the text before it. -/
theorem Walk.spelled_meet {w w' : Walk} (hw : w.Above whole n) {node : Numbered} (hnode : Light whole [node]) {g : Tag}
    (h : w.meet node g = .ok w') :
    w'.Above whole n ∧ w'.spelled whole n = w.spelled whole n ++ Numbered.spelled whole n [] [] node := by
  obtain ⟨hsize, hlevels, hlight⟩ := hw
  obtain ⟨size, levels, content⟩ := w
  have hid : n ≤ size + 1 := Nat.le_succ_of_le hsize
  have hmet : Light whole (plug levels (content ++ [node])) := light_plug.2 ⟨hlight, hnode⟩
  have hnone : Light whole [] := nofun
  cases ho : g.opens with
  | true =>
    cases hc : g.closes with
    | true =>
      rw [Walk.meet_single ho hc] at h
      cases h
      have hnew : Numbered.spelled whole n [] [] (.node (size + 1) g.data []) = [] :=
        spelled_element (l := ⟨g, size + 1, []⟩) hid []
      refine ⟨⟨Nat.le_succ_of_le hid, hlevels, ?_⟩, ?_⟩
      · show Light whole (plug levels (content ++ ([node] ++ [_])))
        rw [← List.append_assoc]
        exact light_plug.2 ⟨hmet, light_element ⟨g, size + 1, []⟩ hnone⟩
      · show spelledAll whole n [] [] (plug levels (content ++ _)) = _
        rw [spelledAll_plug_append hlevels, spelledAll, spelledAll, hnew, spelledAll, List.append_nil, List.append_nil]
        rfl
    | false =>
      rw [Walk.meet_opening ho hc] at h
      cases h
      refine ⟨⟨Nat.le_succ_of_le hid, fun l hl => ?_, ?_⟩, ?_⟩
      · rcases List.mem_cons.1 hl with rfl | hl
        · exact hid
        · exact hlevels l hl
      · exact light_plug.2 ⟨hmet, light_element ⟨g, size + 1, content ++ [node]⟩ hnone⟩
      · show spelledAll whole n [] [] (plug levels ((content ++ [node]) ++ [_])) = _
        rw [spelledAll_plug_append hlevels, spelledAll_plug_append hlevels, spelledAll_singleton, spelledAll_singleton,
          spelled_element (l := ⟨g, size + 1, content ++ [node]⟩) hid, spelledAll, List.append_nil]
        rfl
  | false =>
    cases levels with
    | nil =>
      rw [Walk.meet_unexpected ho fun l hl => by cases hl] at h
      cases h
    | cons l outer =>
      by_cases hname : l.tag.name = g.name
      · rw [Walk.meet_closing ho rfl hname] at h
        cases h
        refine ⟨⟨hid, fun k hk => hlevels k (List.mem_cons_of_mem l hk), hmet⟩, ?_⟩
        -- the element stays where `plug` has put it all along
        show spelledAll whole n [] [] (plug (l :: outer) (content ++ [node])) = _
        rw [spelledAll_plug_append hlevels, spelledAll_singleton]
        rfl
      · rw [Walk.meet_unexpected ho fun l' hl => by cases hl; exact hname] at h
        cases h

/-- **A walk over some children settles their readings**, and those behind them as far as it allows. -/
def Walk.Settles (whole : Bool) (n : Nat) (outer : List (List (List Char))) (w : Walk) (rs : List Reading) :
    Except Fault Walk → Prop
  | .error e => ∀ more, w.spelled whole n ++ settled (w.names :: outer) (rs ++ more) =
      spelledAll whole n [] [] e.children ++ more.flatMap Reading.source
  | .ok w' => w'.Above whole n ∧ ∀ more, w.spelled whole n ++ settled (w.names :: outer) (rs ++ more) =
      w'.spelled whole n ++ settled (w'.names :: outer) more

/-- Readings that only add `part` to what has been walked. -/
theorem Walk.Settles.of_settled {outer : List (List (List Char))} {w w' : Walk} {rs rs' : List Reading}
    (h : ∀ more, w.spelled whole n ++ settled (w.names :: outer) (rs ++ more) =
      w'.spelled whole n ++ settled (w'.names :: outer) (rs' ++ more)) :
    ∀ {x : Except Fault Walk}, w'.Settles whole n outer rs' x → w.Settles whole n outer rs x
  | .error _, hx => fun more => (h more).trans (hx more)
  | .ok _, ⟨habove, hx⟩ => ⟨habove, fun more => (h more).trans (hx more)⟩

/-- **The cuts of a text settle its marks.** -/
theorem settles_walkCuts (outer : List (List (List Char))) (text : List Char) : ∀ {w : Walk}, w.Above whole n →
    ∀ (id : NodeId) (below : List Numbered), (Touched registry text → hanging whole below = []) →
    w.Settles whole n outer ((marks registry text).map .mark ++ (hanging whole below).map .part)
      (walkCuts w id below (cuts registry text)) := by
  -- the text behind a tag is cut in turn, and all that is known of it is that it is shorter
  induction hlen : text.length using Nat.strongRecOn generalizing text with
  | ind k ih =>
    subst hlen
    intro w hw id below hbelow
    have hreads := scan_reads registry text
    cases hscan : scan registry text with
    | plain t =>
      rw [hscan] at hreads
      obtain ⟨rfl, htags⟩ := hreads
      rw [cuts_plain hscan, walkCuts]
      refine ⟨⟨hw.size, hw.levels, light_plug.2 ⟨hw.light, light_text fun ht => ?_⟩⟩, fun more => ?_⟩
      · exact hbelow (.inl (eq_nil_of_text_eq_nil htags ht))
      · rw [Walk.spelled, Walk.spelled, spelledAll_plug_append hw.levels, spelledAll_singleton, spelled_text,
          List.append_assoc, settled_of_tagless _ _ htags, settled_hanging]
        simp only [List.append_assoc]
        rfl
    | tagged before g after =>
      rw [hscan] at hreads
      obtain ⟨first, hmarks, rfl, htags⟩ := hreads
      -- the text is cut, so nothing that is listed stands below it
      have hnone : hanging whole below = [] := hbelow (.inr (by simp [textTags, hmarks, Mark.tag?]))
      have hmeet := w.meet_names (.node id (.text ([].reverse ++ first.flatMap Mark.text)) below) g
      have hevent : (Reading.mark (.tag g)).event? = some (.tag g) := rfl
      rw [cuts_tagged hscan, walkCuts, hnone, List.map_nil, List.append_nil, hmarks, List.map_append, List.map_cons]
      cases hm : w.meet (.node id (.text ([].reverse ++ first.flatMap Mark.text)) below) g with
      | error e =>
        -- the tag is gone, and what is behind it is still the text that it was
        rw [hm] at hmeet
        intro more
        have hafter : ((marks registry after).map Reading.mark).flatMap Reading.source = after.map .char := by
          rw [source_marks, marks_source]
        rw [List.append_assoc, settled_of_tagless _ _ htags, List.cons_append,
          settled_cons_some (w.names :: outer) hevent hmeet, List.flatMap_append, hafter, spelledAll_append, spelledAll,
          spelledAll_singleton, spelled_text, spelled_text, hnone, Numbered.hanging_nil, List.append_assoc,
          List.append_assoc, List.append_nil, List.append_nil]
        rfl
      | ok w' =>
        rw [hm] at hmeet
        obtain ⟨hw', hspelled⟩ := Walk.spelled_meet hw (light_text fun _ => hnone) hm
        have hrest := ih _ (scanFrom_tagged hscan).1 after rfl hw' w.size [] fun _ => Numbered.hanging_nil whole
        rw [Numbered.hanging_nil, List.map_nil, List.append_nil] at hrest
        refine .of_settled (fun more => ?_) hrest
        rw [List.append_assoc, settled_of_tagless _ _ htags, List.cons_append,
          settled_cons_none (w.names :: outer) hevent hmeet.1, hspelled, spelled_text, hnone, List.append_nil,
          ← List.append_assoc, hmeet.2]
        rfl

/-- **A walk over a tree settles its readings.** -/
def Outcome.Settles (whole : Bool) (n : Nat) (outer : List (List (List Char))) (rs : List Reading) (o : Outcome) :
    Prop :=
  match o.result with
  | .error _ => ∀ more, settled ([] :: outer) (rs ++ more) =
      inside whole n [] [] o.tree ++ more.flatMap Reading.source
  | .ok _ => n ≤ o.size ∧ Light whole o.tree.children ∧ ∀ more, settled ([] :: outer) (rs ++ more) =
      inside whole n [] [] o.tree ++ settled outer more

mutual
theorem settles_walk (outer : List (List (List Char))) : ∀ {t : Numbered} {size : Nat}, n ≤ size →
    (∀ x ∈ t.ids, x < n) → Unburdened whole registry t.children →
    (walk registry size t).Settles whole n outer (readings whole registry t)
  | .node id data children, size, hsize, hids, hbelow => by
    have hstart : Walk.Above whole n ⟨size, [], []⟩ := ⟨hsize, nofun, nofun⟩
    have hall := settles_walkAll outer hstart (fun x hx => hids x (List.mem_cons_of_mem id hx)) hbelow
    have hnames : Walk.names ⟨size, [], []⟩ = [] := rfl
    rw [readings, walk]
    cases hwalk : walkAll registry ⟨size, [], []⟩ children with
    | error e =>
      rw [hwalk] at hall
      intro more
      have := hall ([.part (.leave id)] ++ more)
      rw [hnames, ← List.append_assoc] at this
      exact this.trans (List.append_assoc ..).symm
    | ok w =>
      rw [hwalk] at hall
      obtain ⟨habove, hall⟩ := hall
      obtain ⟨size', levels, content⟩ := w
      -- what is left is the end of the element, which is a violation if tags are open
      have hevent : (Reading.part (.leave id)).event? = some .leave := rfl
      have hstep : ∀ more, settled ([] :: outer) (readingsAll whole registry children ++ [.part (.leave id)] ++ more) =
          Walk.spelled whole n ⟨size', levels, content⟩ ++
            settled (Walk.names ⟨size', levels, content⟩ :: outer) (.part (.leave id) :: more) := fun more => by
        have := hall ([.part (.leave id)] ++ more)
        rw [← List.append_assoc] at this
        exact this
      cases levels with
      | nil =>
        refine ⟨habove.size, habove.light, fun more => ?_⟩
        rw [hstep, settled_cons_none _ hevent rfl, ← List.append_assoc]
        rfl
      | cons l inner =>
        intro more
        have hleave := violation_leave (w := ⟨size', l :: inner, content⟩) (List.cons_ne_nil l inner)
        rw [hstep, settled_cons_some (Walk.names ⟨size', l :: inner, content⟩ :: outer) hevent hleave,
          ← List.append_assoc]
        rfl
theorem settles_walkAll (outer : List (List (List Char))) : ∀ {cs : List Numbered} {w : Walk}, w.Above whole n →
    (∀ x ∈ idsAll cs, x < n) → Unburdened whole registry cs →
    w.Settles whole n outer (readingsAll whole registry cs) (walkAll registry w cs)
  | [], w, hw, _, _ => ⟨hw, fun _ => rfl⟩
  | .node id data below :: rest, w, hw, hids, hbelow => by
    have hrest : ∀ x ∈ idsAll rest, x < n := fun x hx => hids x (List.mem_append_right _ hx)
    have ht : ∀ x ∈ ids (.node id data below), x < n := fun x hx => hids x (List.mem_append_left _ hx)
    have hsplit : Unburdened whole registry ([.node id data below] ++ rest) := hbelow
    obtain ⟨hchild, hbehind⟩ := unburdened_append.1 hsplit
    -- a child that is no text and no element stays as it is
    have hleaf : ∀ c : Numbered, Numbered.spelled whole n [] [] c = [.leaf c] → textNodesAll [c] = [] →
        w.Settles whole n outer ([.part (.leaf c)] ++ readingsAll whole registry rest)
          (walkAll registry { w with content := w.content ++ [c] } rest) := fun c hc hnone => by
      have habove : Walk.Above whole n { w with content := w.content ++ [c] } :=
        ⟨hw.size, hw.levels, light_plug.2 ⟨hw.light, by rw [Light, hnone]; nofun⟩⟩
      refine .of_settled (fun more => ?_) (settles_walkAll outer habove hrest hbehind)
      rw [List.singleton_append, List.cons_append, settled_cons (w.names :: outer) (r := .part (.leaf c)) rfl,
        ← List.append_assoc, Walk.spelled, Walk.spelled, spelledAll_plug_append hw.levels, spelledAll_singleton, hc]
      rfl
    rw [readingsAll, walkAll]
    cases data with
    | text content =>
      have hcuts : w.Settles whole n outer _ (walkCuts w id below (cuts registry content)) :=
        settles_walkCuts outer content hw id below (hchild _ List.mem_cons_self content rfl)
      dsimp only [Numbered.data, Numbered.id, Numbered.children]
      cases hwalk : walkCuts w id below (cuts registry content) with
      | error e =>
        rw [hwalk] at hcuts
        intro more
        rw [List.append_assoc, hcuts, List.flatMap_append, source_readingsAll hrest, ← List.append_assoc,
          ← spelledAll_append]
      | ok w' =>
        rw [hwalk] at hcuts
        obtain ⟨hw', hcuts⟩ := hcuts
        refine .of_settled (fun more => ?_) (settles_walkAll outer hw' hrest hbehind)
        rw [List.append_assoc, hcuts]
    | element name attributes =>
      rw [Unburdened, Numbered.textNodesAll_of_isElement rfl] at hchild
      have hinner : (walk registry w.size (.node id (.element name attributes) below)).Settles whole n
          (w.names :: outer) _ := settles_walk (w.names :: outer) hw.size ht hchild
      have hid : (walk registry w.size (.node id (.element name attributes) below)).tree.id = id := id_walk ..
      have hdata : (walk registry w.size (.node id (.element name attributes) below)).tree.data =
        .element name attributes := data_walk ..
      dsimp only [Numbered.data, Numbered.id]
      generalize walk registry w.size (.node id (.element name attributes) below) = o at hinner hid hdata ⊢
      obtain ⟨result, size, tree⟩ := o
      dsimp only at hid hdata
      have helement : tree.data.isElement = true := by rw [hdata]; rfl
      have hspelled : Numbered.spelled whole n [] [] tree =
          .enter id (.element name attributes) :: inside whole n [] [] tree := by
        rw [spelled_eq_inside helement (by rw [hid]; exact ht id List.mem_cons_self), hid, hdata]
      have hevent : (Reading.part (.enter id (.element name attributes))).event? = some .enter := rfl
      have hstep : ∀ rs, settled (w.names :: outer) (.part (.enter id (.element name attributes)) :: rs) =
          .enter id (.element name attributes) :: settled ([] :: w.names :: outer) rs := fun rs =>
        settled_cons_none (w.names :: outer) hevent rfl rs
      cases result with
      | error e =>
        intro more
        rw [List.cons_append, List.cons_append, hstep, List.append_assoc, hinner, List.flatMap_append,
          source_readingsAll hrest, spelledAll_append, spelledAll, hspelled, List.append_assoc, List.append_assoc]
        rfl
      | ok =>
        obtain ⟨hsize, hlight, hinner⟩ := hinner
        have htree : Light whole [tree] := by
          rw [Light, Numbered.textNodesAll_of_isElement helement, Numbered.textNodes_eq]
          exact hlight
        have habove : Walk.Above whole n ⟨size, w.levels, w.content ++ [tree]⟩ :=
          ⟨hsize, hw.levels, light_plug.2 ⟨hw.light, htree⟩⟩
        refine .of_settled (fun more => ?_) (settles_walkAll outer habove hrest hbehind)
        rw [List.cons_append, List.cons_append, hstep, List.append_assoc, hinner, Walk.spelled, Walk.spelled,
          spelledAll_plug_append hw.levels, spelledAll_singleton, hspelled, List.append_assoc]
        rfl
    | document => exact hleaf _ rfl rfl
    | comment content => exact hleaf _ rfl rfl
    | doctype name publicId systemId => exact hleaf _ rfl rfl
end

theorem inside_walk {t : Numbered} {size : Nat} (h : ∀ x ∈ t.ids, x < size)
    (hbelow : Unburdened whole registry t.children) :
    inside whole size [] [] (walk registry size t).tree = settled [[]] (readings whole registry t) ∧
      ((walk registry size t).result = .ok () → Light whole (walk registry size t).tree.children) := by
  have hsettles : (walk registry size t).Settles whole size [] (readings whole registry t) :=
    settles_walk [] (Nat.le_refl _) h hbelow
  unfold Outcome.Settles at hsettles
  cases hwalk : (walk registry size t).result with
  | error e =>
    rw [hwalk] at hsettles
    have hall := hsettles []
    rw [List.append_nil, List.flatMap_nil, List.append_nil] at hall
    exact ⟨hall.symm, nofun⟩
  | ok =>
    rw [hwalk] at hsettles
    obtain ⟨-, hlight, hall⟩ := hsettles
    have hall := hall []
    rw [List.append_nil, settled, List.append_nil] at hall
    exact ⟨hall.symm, fun _ => hlight⟩

/-! ## Rewriting a store -/

/-- The nodes that are gone when `root` has been rewritten in the store `s`: if that failed there are none. -/
def lost (s : Store) (root : NodeId) (r : Except Error Unit × Store) : List NodeId :=
  match r.1 with
  | .ok _ => s.emptied root r.2
  | .error _ => []

/-- **The content below `root` is settled** where rewriting has come to, and it is what it was behind that. -/
def Settled (whole : Bool) (registry : Registry) (s : Store) (root : NodeId) (r : Except Error Unit × Store) : Prop :=
  ∃ done rest, readings whole registry (s.numbered root) = done ++ rest ∧
    (done ++ rest).flatMap Reading.source = inside whole s.size [] [] (s.numbered root) ∧
    inside whole s.size [] [] (r.2.numbered root) = done.flatMap Reading.result ++ rest.flatMap Reading.source ∧
    Stops [[]] done rest r.1

/-- **Nothing stands below the texts that rewriting takes out or cuts.** -/
def CutsLeaves (registry : Registry) (t : Numbered) : Prop :=
  ∀ y ∈ t.textNodes, ∀ content, y.data = .text content → Touched registry content → y.children = []

section

variable {s : Store} {f : Forest} {t : Numbered}

theorem CutsLeaves.unburdened (h : CutsLeaves registry t) : Unburdened true registry t.children := by
  intro y hy content hdata htouched
  rw [h y (t.textNodes_eq ▸ hy) content hdata htouched]
  rfl

/-- Rewriting keeps what a pass has to keep. -/
theorem keeps_outcome (registry : Registry) (h : s.Holds f) (ht : t.Stands f) :
    s.Keeps t.id (outcome (rewrite registry t.id) s).2 (lost s t.id (outcome (rewrite registry t.id) s)) := by
  obtain ⟨hresult, f', hv, hb, h'⟩ := outcome_rewrite registry h ht
  have hid := id_walk registry f.size t
  rw [lost, hresult]
  cases hwalk : (walk registry f.size t).result with
  | error e =>
    rw [hwalk] at h'
    exact hb.keeps h ht hid h'
  | ok =>
    rw [hwalk] at h'
    exact hb.keeps_removeEmptyTexts h ht hv hid h'

/-- The content is that of the walk, with or without empty texts. -/
theorem settled_outcome (h : s.Holds f) (ht : t.Stands f) (hbelow : Unburdened whole registry t.children) :
    Settled whole registry s t.id (outcome (rewrite registry t.id) s) := by
  obtain ⟨hresult, f', hv, hb, h'⟩ := outcome_rewrite registry h ht
  have hlt : ∀ x ∈ t.ids, x < f.size := fun x hx => ht.lt_size h.valid hx
  have hid := id_walk registry f.size t
  obtain ⟨hinside, hlight⟩ := inside_walk hlt hbelow
  have hcontent : inside whole f.size [] [] ((outcome (rewrite registry t.id) s).2.numbered t.id) =
      inside whole f.size [] [] (walk registry f.size t).tree := by
    cases hwalk : (walk registry f.size t).result with
    | error e =>
      rw [hwalk] at h'
      have hnumbered := hb.stands.numbered_eq h'
      rw [hid] at hnumbered
      rw [hnumbered]
    | ok =>
      rw [hwalk] at h'
      have hstands := hb.stands.withoutEmptyTexts hv
      rw [hid] at hstands
      have hnumbered := hstands.numbered_eq h'
      rw [Numbered.id_withoutEmptyTexts, hid] at hnumbered
      rw [hnumbered, Numbered.inside_withoutEmptyTexts (hlight hwalk)]
  obtain ⟨done, rest, hreadings, hsettled, hstops⟩ := exists_settled (readings whole registry t) [[]]
  refine ⟨done, rest, ?_⟩
  have hevents : (readings whole registry t).filterMap Reading.event? = events registry t.tree := events_readings t
  rw [ht.numbered_eq h, h.size, hcontent, hinside, hsettled, hresult, result_walk, ← hevents]
  exact ⟨hreadings, hreadings ▸ source_readings hlt, rfl, hstops⟩

/-- Where only leaves are cut or taken out, only texts without characters are gone. -/
theorem text?_of_mem_lost (h : s.Holds f) (ht : t.Stands f) (hcuts : CutsLeaves registry t) {x : NodeId}
    (hx : x ∈ lost s t.id (outcome (rewrite registry t.id) s)) :
    (outcome (rewrite registry t.id) s).2.text? x = some [] := by
  obtain ⟨hresult, f', hv, hb, h'⟩ := outcome_rewrite registry h ht
  obtain ⟨-, hlight⟩ := inside_walk (fun x hx => ht.lt_size h.valid hx) hcuts.unburdened
  rw [lost, hresult] at hx
  cases hwalk : (walk registry f.size t).result with
  | error e =>
    rw [hwalk] at hx
    cases hx
  | ok =>
    rw [hwalk] at hx h'
    have hxt : x ∈ t.ids := by
      simp only [Store.emptied, ht.numbered_eq h, List.mem_flatMap, List.mem_filter] at hx
      obtain ⟨y, ⟨hy, -⟩, hxy⟩ := hx
      exact Numbered.ids_subset_of_mem_textNodes hy x hxy
    obtain ⟨y, hy, hempty, hxy⟩ := (hb.mem_emptied_iff h ht h' (fun _ => rfl) hxt).1 hx
    have hhanging := hlight hwalk y (Numbered.textNodes_eq _ ▸ hy) hempty
    have hnone : y.children = [] := List.map_eq_nil_iff.1 hhanging
    have hxy : x = y.id := by
      obtain ⟨id, data, children⟩ := y
      cases hnone
      exact List.mem_singleton.1 hxy
    rw [hxy]
    exact (hb.isEmptyText_iff h' (fun _ => rfl) hy).2 hempty

end

/-- **Rewriting damages nothing but the tags it consumed**, whether it succeeds or fails, where nothing stands below the
texts that it takes out or cuts.  The store stays well formed, what stands elsewhere keeps its links and its data, and
what stood below the root is there once and in the same order, but for empty texts.  The content below the root is what
it was, with the readings settled up to and including the first violation: there a tag is gone, an escape is its literal,
and each element, comment and character is what it was.  If nothing is violated all readings are settled.

In every store a failed rewriting takes nothing away, and one that succeeds takes away the nodes at and below the texts
that only elements lead to and that are empty then; and the content is settled in this way if what stands below texts
is left out of it. -/
theorem content_of_rewrite {s : Store} {root : NodeId} (hs : s.WellFormed) (hroot : root < s.size) :
    let r := outcome (rewrite registry root) s
    s.Keeps root r.2 (lost s root r) ∧ Settled false registry s root r ∧
      (CutsLeaves registry (s.numbered root) →
        (∀ x ∈ lost s root r, r.2.text? x = some []) ∧ Settled true registry s root r) := by
  obtain ⟨f, h⟩ := hs
  obtain ⟨t, ht, rfl⟩ := Numbered.exists_stands h.valid root (h.size ▸ hroot)
  rw [ht.numbered_eq h]
  exact ⟨keeps_outcome registry h ht, settled_outcome h ht fun _ _ _ _ _ => rfl,
    fun hcuts => ⟨fun _ => text?_of_mem_lost h ht hcuts, settled_outcome h ht hcuts.unburdened⟩⟩

/-- A text with an emphasis below it, and an element that closes what was opened outside. -/
def crossedTexts : Store :=
  let s := (Store.empty.create (.text "a".toList)).1.append (some 0) (some 1)
  let s := (s.create (.element (.html "em") [])).1.append (some 1) (some 2)
  let s := (s.create (.text "[b]c".toList)).1.append (some 0) (some 3)
  let s := (s.create (.element (.html "p") [])).1.append (some 0) (some 4)
  (s.create (.text "d[/b]e".toList)).1.append (some 4) (some 5)

/-- The closing tag in the element inside is the first violation: the two tags are gone, and all nodes are still
there. -/
theorem content_of_crossedTexts :
    crossedTexts.WellFormed ∧ 0 < crossedTexts.size ∧ CutsLeaves ⟨[("b", true)]⟩ (crossedTexts.numbered 0) ∧
      (outcome (rewrite ⟨[("b", true)]⟩ 0) crossedTexts).1 = .error (.unexpectedClosingShortcode "b") ∧
      crossedTexts.Keeps 0 (outcome (rewrite ⟨[("b", true)]⟩ 0) crossedTexts).2 [] ∧
      Settled true ⟨[("b", true)]⟩ crossedTexts 0 (outcome (rewrite ⟨[("b", true)]⟩ 0) crossedTexts) := by
  have hs : crossedTexts.WellFormed := ⟨_, ((((Store.holds_empty.appendNew (by decide) _).appendNew (by decide)
    _).appendNew (by decide) _).appendNew (by decide) _).appendNew (by decide) _⟩
  have hroot : 0 < crossedTexts.size := by decide
  have herror : (outcome (rewrite ⟨[("b", true)]⟩ 0) crossedTexts).1 = .error (.unexpectedClosingShortcode "b") := by
    decide +kernel
  have htexts : (crossedTexts.numbered 0).textNodes =
      [.node 1 (.text "a".toList) [.node 2 (.element (.html "em") []) []], .node 3 (.text "[b]c".toList) [],
        .node 5 (.text "d[/b]e".toList) []] := rfl
  have huntouched : ¬ Touched ⟨[("b", true)]⟩ "a".toList := by
    unfold Touched
    decide +kernel
  have hcuts : CutsLeaves ⟨[("b", true)]⟩ (crossedTexts.numbered 0) := by
    intro y hy content hdata htouched
    rw [htexts] at hy
    rcases List.mem_cons.1 hy with rfl | hy
    · cases hdata
      exact absurd htouched huntouched
    · rcases List.mem_pair.1 hy with rfl | rfl <;> rfl
  obtain ⟨hkeeps, -, hall⟩ := content_of_rewrite hs hroot
  rw [lost, herror] at hkeeps
  exact ⟨hs, hroot, hcuts, herror, hkeeps, (hall hcuts).2⟩

/-- An emphasis below a text that holds nothing but a tag. -/
def tagOverEmphasis : Store :=
  let s := (Store.empty.create (.text "[b/]".toList)).1.append (some 0) (some 1)
  (s.create (.element (.html "em") [])).1.append (some 1) (some 2)

/-- The text is empty when the tag has been cut out, and the emphasis goes away with it. -/
theorem lost_with_emptied_text :
    tagOverEmphasis.WellFormed ∧ 0 < tagOverEmphasis.size ∧
      (outcome (rewrite ⟨[("b", true)]⟩ 0) tagOverEmphasis).1 = .ok () ∧
      tagOverEmphasis.data? 2 = some (.element (.html "em") []) ∧ 2 ∈ (tagOverEmphasis.numbered 0).ids ∧
      2 ∉ ((outcome (rewrite ⟨[("b", true)]⟩ 0) tagOverEmphasis).2.numbered 0).ids :=
  ⟨⟨_, (Store.holds_empty.appendNew (by decide) _).appendNew (by decide) _⟩, by decide +kernel, by decide +kernel,
    by decide +kernel, by decide +kernel, by decide +kernel⟩

end BlogMarkdown.Shortcode
