import BlogMarkdown.Proofs.Shortcode.Reference
import BlogMarkdown.Proofs.Shortcode.Simulation
/-!
# What rewriting accepts

The tags of a tree in document order, with the ends of the elements they stand in, tell by themselves how rewriting
ends.  It succeeds when the own tags of every element match as brackets, and else fails with the first violation: a
closing tag that does not fit, or an element that ends while tags are open in it.
-/
namespace BlogMarkdown.Shortcode

open Dom
open Dom.Numbered (trees)

variable {registry : Registry}

/-! ## The tags of one element -/

def textTags (registry : Registry) (content : List Char) : List Tag := (marks registry content).filterMap Mark.tag?

/-- The tags of the texts among some children. -/
def tagsAll (registry : Registry) : List Tree → List Tag
  | [] => []
  | t :: rest =>
    (match t.data with
      | .text content => textTags registry content
      | _ => []) ++ tagsAll registry rest

def ownTags (registry : Registry) (t : Tree) : List Tag := tagsAll registry t.children

/-- **A properly nested bracket word.** -/
def Nested (tags : List Tag) : Prop := ∃ us, Bracketed (tags.map .tag) us

mutual
/-- A tree, and the elements in it to which only elements lead. -/
def scopes : Tree → List Tree
  | .node data children => .node data children :: scopesAll children
def scopesAll : List Tree → List Tree
  | [] => []
  | t :: rest => (if t.data.isElement then scopes t else []) ++ scopesAll rest
end

/-! ## The tags of a tree in order -/

/-- A tag, or the beginning or end of an element. -/
inductive Event where
  | tag (g : Tag)
  | enter
  | leave

mutual
/-- What comes in a tree, up to the end of its root. -/
def events (registry : Registry) : Tree → List Event
  | .node _ children => eventsAll registry children ++ [.leave]
def eventsAll (registry : Registry) : List Tree → List Event
  | [] => []
  | t :: rest =>
    (match t.data with
      | .text content => (textTags registry content).map .tag
      | .element _ _ => .enter :: events registry t
      | _ => []) ++ eventsAll registry rest
end

/-- The names of the tags open in one element after a tag, innermost first. -/
def namesAfter (names : List (List Char)) (g : Tag) : List (List Char) :=
  if g.opens then if g.closes then names else g.name :: names else names.tail

/-- The names of the open tags, for each of the elements around a place, innermost first. -/
def openAfter (open_ : List (List (List Char))) : Event → List (List (List Char))
  | .tag g => namesAfter (open_.headD []) g :: open_.tail
  | .enter => [] :: open_
  | .leave => open_.tail

/-- What an event violates, given the names open in the innermost element. -/
def violation (names : List (List Char)) : Event → Option Error
  | .tag g => if g.opens = false ∧ names.head? ≠ some g.name then some g.unexpected else none
  | .enter => none
  | .leave => if names = [] then none else some (.unclosedShortcodes (names.reverse.map String.ofList))

/-- What an event violates behind others, where the first ones are in the root. -/
def violationBehind (before : List Event) (e : Event) : Option Error :=
  violation ((before.foldl openAfter [[]]).headD []) e

/-- **The first violation** among some events. -/
def FirstViolation (events : List Event) (error : Error) : Prop :=
  ∃ before e after, events = before ++ e :: after ∧ violationBehind before e = some error ∧
    ∀ past d more, before = past ++ d :: more → violationBehind past d = none

/-! ## Checking event by event -/

/-- Checks events up to the first violation. -/
def verdict (open_ : List (List (List Char))) : List Event → Except Error Unit
  | [] => .ok ()
  | e :: events =>
    match violation (open_.headD []) e with
    | some error => .error error
    | none => verdict (openAfter open_ e) events

theorem verdict_cons_none (open_ : List (List (List Char))) {e : Event} (h : violation (open_.headD []) e = none)
    (events : List Event) : verdict open_ (e :: events) = verdict (openAfter open_ e) events := by
  rw [verdict, h]

theorem verdict_cons_some (open_ : List (List (List Char))) {e : Event} {error : Error}
    (h : violation (open_.headD []) e = some error) (events : List Event) :
    verdict open_ (e :: events) = .error error := by
  rw [verdict, h]

/-- **The check fails with the first violation.** -/
theorem verdict_eq_error_iff {error : Error} : ∀ {events : List Event} {open_ : List (List (List Char))},
    verdict open_ events = .error error ↔
      ∃ before e after, events = before ++ e :: after ∧
        violation ((before.foldl openAfter open_).headD []) e = some error ∧
        ∀ past d more, before = past ++ d :: more → violation ((past.foldl openAfter open_).headD []) d = none
  | [], open_ => by
    refine ⟨(nomatch ·), fun ⟨before, e, after, h, _⟩ => ?_⟩
    cases before <;> cases h
  | e :: events, open_ => by
    constructor
    · intro h
      cases hv : violation (open_.headD []) e with
      | some found =>
        rw [verdict_cons_some open_ hv] at h
        cases h
        exact ⟨[], e, events, rfl, hv, fun past d more h => by cases past <;> cases h⟩
      | none =>
        rw [verdict_cons_none open_ hv] at h
        obtain ⟨before, d, after, rfl, hd, hbefore⟩ := verdict_eq_error_iff.1 h
        refine ⟨e :: before, d, after, rfl, hd, fun past d' more hcut => ?_⟩
        cases past with
        | nil =>
          cases hcut
          exact hv
        | cons p past =>
          cases hcut
          exact hbefore past d' more rfl
    · rintro ⟨before, d, after, hcut, hd, hbefore⟩
      cases before with
      | nil =>
        cases hcut
        exact verdict_cons_some open_ hd _
      | cons b before =>
        cases hcut
        rw [verdict_cons_none open_ (hbefore [] e before rfl)]
        exact verdict_eq_error_iff.2 ⟨before, d, after, rfl, hd, fun past d' more hp =>
          hbefore (e :: past) d' more (by rw [hp]; rfl)⟩

def follow (names : List (List Char)) : List Tag → Except Error (List (List Char))
  | [] => .ok names
  | g :: tags =>
    match violation names (.tag g) with
    | some error => .error error
    | none => follow (namesAfter names g) tags

theorem follow_append : ∀ (tags more : List Tag) (names : List (List Char)),
    follow names (tags ++ more) = (follow names tags).bind fun names' => follow names' more
  | [], _, _ => rfl
  | g :: tags, more, names => by
    rw [List.cons_append, follow, follow]
    cases violation names (.tag g) with
    | some error => rfl
    | none => exact follow_append tags more _

theorem verdict_tags : ∀ (tags : List Tag) (names : List (List Char)) (outer : List (List (List Char)))
    (more : List Event), verdict (names :: outer) (tags.map .tag ++ more) =
      (follow names tags).bind fun names' => verdict (names' :: outer) more
  | [], _, _, _ => rfl
  | g :: tags, names, outer, more => by
    rw [follow, List.map_cons, List.cons_append]
    cases hv : violation names (.tag g) with
    | some error => exact verdict_cons_some (names :: outer) hv _
    | none => exact (verdict_cons_none (names :: outer) hv _).trans (verdict_tags tags _ outer more)

/-! ## Brackets without trees -/

def namesOf (levels : List Open) : List (List Char) := levels.map (·.tag.name)

theorem violation_eq_none_iff {names : List (List Char)} {g : Tag} :
    violation names (.tag g) = none ↔ (g.opens = false → names.head? = some g.name) := by
  rw [violation]
  split
  · rename_i h
    exact ⟨nofun, fun hn => absurd (hn h.1) h.2⟩
  · rename_i h
    exact ⟨fun _ ho => by_contra fun hn => h ⟨ho, hn⟩, fun _ => rfl⟩

/-- **A tag nests exactly if it violates nothing**, and then it changes the names. -/
theorem meet_names (levels : List Open) (content : List Tree) (g : Tag) :
    match meet levels content g with
    | .error e => violation (namesOf levels) (.tag g) = some e
    | .ok r => violation (namesOf levels) (.tag g) = none ∧ namesOf r.1 = namesAfter (namesOf levels) g := by
  cases ho : g.opens with
  | true =>
    have hv : violation (namesOf levels) (.tag g) = none := violation_eq_none_iff.2 fun hn => by rw [ho] at hn; cases hn
    cases hc : g.closes with
    | true =>
      rw [meet_single ho hc]
      exact ⟨hv, by rw [namesAfter, if_pos ho, if_pos hc]⟩
    | false =>
      rw [meet_opening ho hc]
      exact ⟨hv, by rw [namesAfter, if_pos ho, if_neg (by rw [hc]; exact Bool.false_ne_true)]; rfl⟩
  | false =>
    have hno : ¬ g.opens = true := by rw [ho]; exact Bool.false_ne_true
    cases levels with
    | nil =>
      unfold meet
      rw [if_neg hno]
      exact if_pos ⟨ho, nofun⟩
    | cons l outer =>
      by_cases hname : l.tag.name = g.name
      · rw [meet_closing ho hname]
        exact ⟨violation_eq_none_iff.2 fun _ => congrArg some hname, by rw [namesAfter, if_neg hno]; rfl⟩
      · unfold meet
        rw [if_neg hno]
        simp only [if_neg hname]
        exact if_pos ⟨ho, fun he => hname (Option.some.inj he)⟩

theorem read_tags : ∀ (tags : List Tag) (levels : List Open) (content : List Tree),
    (read levels content (tags.map .tag)).map (fun r => namesOf r.1) = follow (namesOf levels) tags
  | [], _, _ => rfl
  | g :: tags, levels, content => by
    have hmeet := meet_names levels content g
    rw [List.map_cons, read, follow]
    cases hm : meet levels content g with
    | error e =>
      rw [hm] at hmeet
      rw [hmeet]
      rfl
    | ok r =>
      rw [hm] at hmeet
      rw [hmeet.1, ← hmeet.2]
      exact read_tags tags r.1 r.2

/-- **Tags are properly nested exactly if following them leaves none open.** -/
theorem nested_iff_follow {tags : List Tag} : Nested tags ↔ follow [] tags = .ok [] := by
  have hread := read_tags tags [] []
  rw [show namesOf [] = [] from rfl] at hread
  rw [← hread]
  constructor
  · rintro ⟨us, hus⟩
    rw [bracketed_iff_read.1 hus]
    rfl
  · intro h
    cases hr : read [] [] (tags.map .tag) with
    | error e => rw [hr] at h; cases h
    | ok r =>
      rw [hr] at h
      obtain ⟨levels, us⟩ := r
      have hlevels : levels = [] := List.map_eq_nil_iff.1 (Except.ok.inj h)
      subst hlevels
      exact ⟨us, bracketed_iff_read.2 hr⟩

mutual
/-- **A tree is without violation exactly if the own tags of all its scopes are nested.** -/
theorem verdict_events (registry : Registry) : ∀ (t : Tree) (outer : List (List (List Char))) (more : List Event),
    verdict ([] :: outer) (events registry t ++ more) = .ok () ↔
      (∀ u ∈ scopes t, Nested (ownTags registry u)) ∧ verdict outer more = .ok ()
  | .node data children, outer, more => by
    rw [events, List.append_assoc, verdict_eventsAll registry children, scopes, List.forall_mem_cons, ownTags,
      nested_iff_follow]
    have hleave : ∀ names, verdict (names :: outer) ([.leave] ++ more) = .ok () ↔
        names = [] ∧ verdict outer more = .ok () := fun names => by
      by_cases hn : names = []
      · subst hn
        exact ⟨fun h => ⟨rfl, h⟩, And.right⟩
      · have hv : violation ((names :: outer).headD []) .leave = some _ := if_neg hn
        rw [List.singleton_append, verdict_cons_some (names :: outer) hv]
        exact ⟨nofun, fun h => absurd h.1 hn⟩
    simp only [hleave]
    constructor
    · rintro ⟨names', hfollow, hscopes, rfl, hmore⟩
      exact ⟨⟨hfollow, hscopes⟩, hmore⟩
    · rintro ⟨⟨hfollow, hscopes⟩, hmore⟩
      exact ⟨[], hfollow, hscopes, rfl, hmore⟩
theorem verdict_eventsAll (registry : Registry) : ∀ (cs : List Tree) (names : List (List Char))
    (outer : List (List (List Char))) (more : List Event),
    verdict (names :: outer) (eventsAll registry cs ++ more) = .ok () ↔
      ∃ names', follow names (tagsAll registry cs) = .ok names' ∧
        (∀ u ∈ scopesAll cs, Nested (ownTags registry u)) ∧ verdict (names' :: outer) more = .ok ()
  | [], names, outer, more => by
    constructor
    · exact fun h => ⟨names, rfl, nofun, h⟩
    · rintro ⟨names', hfollow, -, h⟩
      cases hfollow
      exact h
  | t :: rest, names, outer, more => by
    have ih := fun names => verdict_eventsAll registry rest names outer more
    cases hd : t.data with
    | text content =>
      rw [eventsAll, tagsAll, scopesAll, hd]
      show verdict (names :: outer) ((textTags registry content).map .tag ++ eventsAll registry rest ++ more) = _ ↔ _
      rw [List.append_assoc, verdict_tags, follow_append]
      cases follow names (textTags registry content) with
      | error e => exact ⟨nofun, fun ⟨_, h, _⟩ => nomatch h⟩
      | ok names' => exact ih names'
    | element name attributes =>
      rw [eventsAll, tagsAll, scopesAll, hd]
      show verdict ([] :: names :: outer) (events registry t ++ eventsAll registry rest ++ more) = _ ↔ _
      rw [List.append_assoc, verdict_events registry t, ih]
      constructor
      · rintro ⟨ht, names', hfollow, hscopes, h⟩
        exact ⟨names', hfollow, List.forall_mem_append.2 ⟨ht, hscopes⟩, h⟩
      · rintro ⟨names', hfollow, hscopes, h⟩
        exact ⟨(List.forall_mem_append.1 hscopes).1, names', hfollow, (List.forall_mem_append.1 hscopes).2, h⟩
    | _ =>
      rw [eventsAll, tagsAll, scopesAll, hd]
      exact ih names
end

/-! ## The walk fails with the first violation -/

def Walk.names (w : Walk) : List (List Char) := namesOf w.erase.1

theorem Walk.meet_names (w : Walk) (node : Numbered) (g : Tag) :
    match w.meet node g with
    | .error e => violation w.names (.tag g) = some e
    | .ok w' => violation w.names (.tag g) = none ∧ w'.names = namesAfter w.names g := by
  have hmeet := Shortcode.meet_names w.erase.1 (w.erase.2 ++ [node.tree]) g
  rw [w.erase_meet] at hmeet
  cases hm : w.meet node g with
  | error e =>
    rw [hm] at hmeet
    exact hmeet
  | ok w' =>
    rw [hm] at hmeet
    exact hmeet

theorem violation_leave {w : Walk} (h : w.levels ≠ []) : violation w.names .leave = some (unclosed w.levels) := by
  have hnames : w.names = w.levels.map (·.tag.name) := by
    rw [Walk.names, namesOf, Walk.erase, List.map_map]
    rfl
  rw [hnames, violation, if_neg (mt List.map_eq_nil_iff.1 h), unclosed, ← List.map_reverse, List.map_map]
  rfl

theorem follow_walkCuts : ∀ (cs : Cuts) (w : Walk) (id : NodeId) (below : List Numbered),
    follow w.names (cs.pieces.2.map (·.1)) =
      match walkCuts w id below cs with
      | .error e => .error e.error
      | .ok w' => .ok w'.names
  | .whole text, w, id, below => rfl
  | .cut before g raw rest, w, id, below => by
    have hmeet := w.meet_names (.node id (.text before) below) g
    rw [Cuts.pieces, List.map_cons, follow, walkCuts]
    cases hm : w.meet (.node id (.text before) below) g with
    | error e =>
      rw [hm] at hmeet
      rw [hmeet]
    | ok w' =>
      rw [hm] at hmeet
      rw [hmeet.1, ← hmeet.2]
      exact follow_walkCuts rest w' w.size []

mutual
/-- **The walk over a tree ends as its events say.** -/
theorem verdict_walk (registry : Registry) : ∀ (t : Numbered) (size : Nat) (outer : List (List (List Char)))
    (more : List Event),
    verdict ([] :: outer) (events registry t.tree ++ more) =
      (walk registry size t).result.bind fun _ => verdict outer more
  | .node id data children, size, outer, more => by
    have hall := verdict_walkAll registry children ⟨size, [], []⟩ outer ([.leave] ++ more)
    rw [show Walk.names ⟨size, [], []⟩ = [] from rfl] at hall
    rw [Numbered.tree, events, List.append_assoc, walk, hall]
    cases walkAll registry ⟨size, [], []⟩ children with
    | error e => rfl
    | ok w =>
      obtain ⟨size', levels, content⟩ := w
      cases levels with
      | nil => rfl
      | cons l inner =>
        exact verdict_cons_some (Walk.names ⟨size', l :: inner, content⟩ :: outer)
          (violation_leave (List.cons_ne_nil l inner)) more
theorem verdict_walkAll (registry : Registry) : ∀ (cs : List Numbered) (w : Walk) (outer : List (List (List Char)))
    (more : List Event),
    verdict (w.names :: outer) (eventsAll registry (trees cs) ++ more) =
      match walkAll registry w cs with
      | .error e => .error e.error
      | .ok w' => verdict (w'.names :: outer) more
  | [], w, outer, more => rfl
  | .node id data below :: rest, w, outer, more => by
    rw [trees, Numbered.tree, eventsAll, walkAll]
    cases data with
    | text content =>
      simp only [Tree.data, Numbered.data, Numbered.id, Numbered.children]
      rw [List.append_assoc, verdict_tags, textTags, ← map_fst_pieces, ← pieces_cuts, follow_walkCuts _ w id below]
      cases walkCuts w id below (cuts registry content) with
      | error e => rfl
      | ok w' => exact verdict_walkAll registry rest w' outer more
    | element name attributes =>
      have ht := verdict_walk registry (.node id (.element name attributes) below) w.size (w.names :: outer)
        (eventsAll registry (trees rest) ++ more)
      simp only [Tree.data, Numbered.data]
      rw [List.append_assoc, List.cons_append, verdict_cons_none (w.names :: outer) rfl]
      refine ht.trans ?_
      cases (walk registry w.size (.node id (.element name attributes) below)).result with
      | error e => rfl
      | ok => exact verdict_walkAll registry rest ⟨_, w.levels, w.content ++ [_]⟩ outer more
    | document => exact verdict_walkAll registry rest { w with content := w.content ++ [_] } outer more
    | comment content => exact verdict_walkAll registry rest { w with content := w.content ++ [_] } outer more
    | doctype name publicId systemId =>
      exact verdict_walkAll registry rest { w with content := w.content ++ [_] } outer more
end

theorem result_walk (t : Numbered) (size : Nat) :
    (walk registry size t).result = verdict [[]] (events registry t.tree) := by
  have h := verdict_walk registry t size [] []
  rw [List.append_nil] at h
  rw [h]
  cases (walk registry size t).result <;> rfl

/-- **Rewriting accepts exactly properly nested shortcodes and reports the first violation.**  It succeeds if and only
if, in the root and in each element to which only elements lead, the own tags are a properly nested bracket word; and
it fails with an error if and only if this error is the first violation in document order. -/
theorem result_of_rewrite {s : Store} {root : NodeId} (hs : s.WellFormed) (hroot : root < s.size) :
    ((outcome (rewrite registry root) s).1 = .ok () ↔ ∀ t ∈ scopes (s.tree root), Nested (ownTags registry t)) ∧
      ∀ error, (outcome (rewrite registry root) s).1 = .error error ↔
        FirstViolation (events registry (s.tree root)) error := by
  obtain ⟨f, h⟩ := hs
  obtain ⟨t, ht, rfl⟩ := Numbered.exists_stands h.valid root (h.size ▸ hroot)
  rw [(outcome_rewrite registry h ht).1, result_walk, ht.tree_eq h]
  refine ⟨?_, fun error => verdict_eq_error_iff⟩
  have hevents := verdict_events registry t.tree [] []
  rw [List.append_nil] at hevents
  rw [hevents]
  exact and_iff_left rfl

/-- A block that an element inside it tries to close: the closing tag comes before the end of the outer element. -/
def crossedPage : Store :=
  let s := (Store.empty.create (.text "[b]".toList)).1.append (some 0) (some 1)
  let s := (s.create (.element (.html "p") [])).1.append (some 0) (some 2)
  (s.create (.text "[/b]".toList)).1.append (some 2) (some 3)

theorem result_of_crossed_page :
    crossedPage.WellFormed ∧ 0 < crossedPage.size ∧
      FirstViolation (events ⟨[("b", true)]⟩ (crossedPage.tree 0)) (.unexpectedClosingShortcode "b") := by
  have hs : crossedPage.WellFormed :=
    ⟨_, ((Store.holds_empty.appendNew (by decide) _).appendNew (by decide) _).appendNew (by decide) _⟩
  have herror : (outcome (rewrite ⟨[("b", true)]⟩ 0) crossedPage).1 = .error (.unexpectedClosingShortcode "b") := by
    decide +kernel
  exact ⟨hs, by decide, ((result_of_rewrite hs (by decide)).2 _).1 herror⟩

end BlogMarkdown.Shortcode
