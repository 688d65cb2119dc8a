import BlogMarkdown.Proofs.Dom.Content
import BlogMarkdown.Proofs.Shortcode.Violations
/-!
# Settling the content of a tree

The content below a node is read as marks of texts and as what stands between texts.  These readings are settled one
after the other, up to and including the first violation: a tag is taken out, an escape becomes its literal, and all
else stays.  What comes behind the first violation is not touched.
-/
namespace BlogMarkdown.Shortcode

open Dom
open Dom.Numbered (ids idsAll trees hanging spelled spelledAll inside spelled_old)

variable {whole : Bool} {registry : Registry}

/-! ## Readings -/

/-- A mark of a text, or what stands between texts. -/
inductive Reading where
  | mark (m : Mark)
  | part (p : Part)

namespace Reading

/-- What stands there before it is settled. -/
def source : Reading → List Part
  | .mark m => m.source.map .char
  | .part p => [p]

/-- What stands there once it is settled. -/
def result : Reading → List Part
  | .mark m => m.text.map .char
  | .part p => [p]

def event? : Reading → Option Event
  | .mark m => m.tag?.map .tag
  | .part (.enter _ _) => some .enter
  | .part (.leave _) => some .leave
  | .part _ => none

end Reading

mutual
/-- What is read below a node, up to its end. -/
def readings (whole : Bool) (registry : Registry) : Numbered → List Reading
  | .node id _ children => readingsAll whole registry children ++ [.part (.leave id)]
def readingsAll (whole : Bool) (registry : Registry) : List Numbered → List Reading
  | [] => []
  | t :: rest =>
    (match t.data with
      | .text content => (marks registry content).map .mark ++ (hanging whole t.children).map .part
      | .element _ _ => .part (.enter t.id t.data) :: readings whole registry t
      | _ => [.part (.leaf t)]) ++ readingsAll whole registry rest
end

theorem source_marks (ms : List Mark) :
    (ms.map Reading.mark).flatMap Reading.source = (ms.flatMap Mark.source).map .char := by
  rw [List.flatMap_map, List.map_flatMap]
  rfl

theorem result_marks (ms : List Mark) :
    (ms.map Reading.mark).flatMap Reading.result = (ms.flatMap Mark.text).map .char := by
  rw [List.flatMap_map, List.map_flatMap]
  rfl

theorem source_parts (ps : List Part) : (ps.map Reading.part).flatMap Reading.source = ps := by
  rw [List.flatMap_map]
  exact List.flatMap_singleton' ps

theorem result_parts (ps : List Part) : (ps.map Reading.part).flatMap Reading.result = ps := by
  rw [List.flatMap_map]
  exact List.flatMap_singleton' ps

theorem events_marks (ms : List Mark) :
    (ms.map Reading.mark).filterMap Reading.event? = (ms.filterMap Mark.tag?).map .tag := by
  rw [List.filterMap_map, List.map_filterMap]
  rfl

theorem events_hanging (children : List Numbered) :
    ((hanging whole children).map Reading.part).filterMap Reading.event? = [] := by
  rw [List.filterMap_map, List.filterMap_eq_nil_iff]
  intro p hp
  obtain ⟨t, rfl⟩ := Numbered.eq_leaf_of_mem_hanging hp
  rfl

theorem spelled_eq_inside {size : Nat} {start stop : List Char} : ∀ {t : Numbered}, t.data.isElement = true →
    t.id < size → spelled whole size start stop t = .enter t.id t.data :: inside whole size start stop t
  | .node _ (.element name attributes) children, _, hid => spelled_old hid name attributes children

mutual
/-- **Unsettled readings are the content of the tree.** -/
theorem source_readings {size : Nat} : ∀ {t : Numbered}, (∀ x ∈ t.ids, x < size) →
    (readings whole registry t).flatMap Reading.source = inside whole size [] [] t
  | .node id data children, h => by
    have hchildren := source_readingsAll fun x hx => h x (List.mem_cons_of_mem _ hx)
    rw [readings, List.flatMap_append, hchildren]
    rfl
theorem source_readingsAll {size : Nat} : ∀ {ts : List Numbered}, (∀ x ∈ idsAll ts, x < size) →
    (readingsAll whole registry ts).flatMap Reading.source = spelledAll whole size [] [] ts
  | [], _ => rfl
  | .node id data children :: rest, h => by
    have ht : ∀ x ∈ ids (.node id data children), x < size := fun x hx => h x (List.mem_append_left _ hx)
    have hrest := source_readingsAll fun x hx => h x (List.mem_append_right _ hx)
    rw [readingsAll, List.flatMap_append, hrest, spelledAll]
    refine congrArg (· ++ _) ?_
    cases data with
    | text content =>
      dsimp only [Numbered.data, Numbered.children]
      rw [List.flatMap_append, source_marks, marks_source, source_parts]
      rfl
    | element name attributes =>
      rw [spelled_eq_inside rfl (ht id List.mem_cons_self), ← source_readings ht]
      rfl
    | _ => rfl
end

mutual
/-- **The events among the readings** are those of the tree. -/
theorem events_readings : ∀ t : Numbered, (readings whole registry t).filterMap Reading.event? = events registry t.tree
  | .node id data children => by
    rw [readings, List.filterMap_append, events_readingsAll children]
    rfl
theorem events_readingsAll : ∀ ts : List Numbered,
    (readingsAll whole registry ts).filterMap Reading.event? = eventsAll registry (trees ts)
  | [] => rfl
  | .node id data children :: rest => by
    rw [readingsAll, List.filterMap_append, events_readingsAll rest, trees, eventsAll, Numbered.data_tree]
    refine congrArg (· ++ _) ?_
    cases data with
    | text content =>
      dsimp only [Numbered.data, Numbered.children]
      rw [List.filterMap_append, events_marks, events_hanging, List.append_nil]
      rfl
    | element name attributes =>
      have ht := events_readings (.node id (.element name attributes) children)
      exact congrArg (Event.enter :: ·) ht
    | _ => rfl
end

/-! ## Settling readings -/

/-- The content once the readings up to the first violation are settled. -/
def settled (open_ : List (List (List Char))) : List Reading → List Part
  | [] => []
  | r :: rs => r.result ++
    match r.event? with
    | none => settled open_ rs
    | some e =>
      match violation (open_.headD []) e with
      | some _ => rs.flatMap Reading.source
      | none => settled (openAfter open_ e) rs

theorem settled_cons (open_ : List (List (List Char))) {r : Reading} (h : r.event? = none) (rs : List Reading) :
    settled open_ (r :: rs) = r.result ++ settled open_ rs := by
  rw [settled, h]

theorem settled_cons_none (open_ : List (List (List Char))) {r : Reading} {e : Event} (h : r.event? = some e)
    (hv : violation (open_.headD []) e = none) (rs : List Reading) :
    settled open_ (r :: rs) = r.result ++ settled (openAfter open_ e) rs := by
  rw [settled, h]
  simp only [hv]

theorem settled_cons_some (open_ : List (List (List Char))) {r : Reading} {e : Event} {error : Error}
    (h : r.event? = some e) (hv : violation (open_.headD []) e = some error) (rs : List Reading) :
    settled open_ (r :: rs) = r.result ++ rs.flatMap Reading.source := by
  rw [settled, h]
  simp only [hv]

/-- Readings without an event are settled where they stand. -/
theorem settled_of_eventless (open_ : List (List (List Char))) (more : List Reading) : ∀ {rs : List Reading},
    rs.filterMap Reading.event? = [] → settled open_ (rs ++ more) = rs.flatMap Reading.result ++ settled open_ more
  | [], _ => rfl
  | r :: rs, h => by
    have hr : r.event? = none := by
      cases hr : r.event? with
      | none => rfl
      | some e => rw [List.filterMap_cons_some hr] at h; cases h
    rw [List.filterMap_cons_none hr] at h
    rw [List.cons_append, settled_cons open_ hr, settled_of_eventless open_ more h, List.flatMap_cons, List.append_assoc]

theorem settled_of_tagless (open_ : List (List (List Char))) (more : List Reading) {ms : List Mark}
    (h : ms.filterMap Mark.tag? = []) :
    settled open_ (ms.map .mark ++ more) = (ms.flatMap Mark.text).map .char ++ settled open_ more := by
  have hevents : (ms.map Reading.mark).filterMap Reading.event? = [] := by rw [events_marks, h, List.map_nil]
  rw [settled_of_eventless open_ more hevents, result_marks]

theorem settled_hanging (open_ : List (List (List Char))) (more : List Reading) (children : List Numbered) :
    settled open_ ((hanging whole children).map .part ++ more) = hanging whole children ++ settled open_ more := by
  rw [settled_of_eventless open_ more (events_hanging children), result_parts]

/-- Where checking the readings stops: at their end, or right behind the first violation. -/
def Stops (open_ : List (List (List Char))) (done rest : List Reading) : Except Error Unit → Prop
  | .ok _ => rest = []
  | .error e => ∃ past last, done = past ++ [last] ∧ verdict open_ (past.filterMap Reading.event?) = .ok () ∧
      verdict open_ (done.filterMap Reading.event?) = .error e

theorem Stops.cons {open_ open' : List (List (List Char))} {r : Reading} {done rest : List Reading}
    (h : ∀ rs : List Reading, verdict open_ ((r :: rs).filterMap Reading.event?) =
      verdict open' (rs.filterMap Reading.event?)) :
    ∀ {x : Except Error Unit}, Stops open' done rest x → Stops open_ (r :: done) rest x
  | .ok _, hx => hx
  | .error _, ⟨past, last, hdone, hpast, hlast⟩ =>
    ⟨r :: past, last, congrArg (r :: ·) hdone, (h past).trans hpast, (h done).trans hlast⟩

/-- **Settling parts the readings where their check stops.** -/
theorem exists_settled : ∀ (rs : List Reading) (open_ : List (List (List Char))), ∃ done rest, rs = done ++ rest ∧
    settled open_ rs = done.flatMap Reading.result ++ rest.flatMap Reading.source ∧
    Stops open_ done rest (verdict open_ (rs.filterMap Reading.event?))
  | [], _ => ⟨[], [], rfl, rfl, rfl⟩
  | r :: rs, open_ => by
    -- a reading that violates nothing goes to the settled ones
    have hgo : ∀ open', settled open_ (r :: rs) = r.result ++ settled open' rs →
        (∀ more : List Reading, verdict open_ ((r :: more).filterMap Reading.event?) =
          verdict open' (more.filterMap Reading.event?)) →
        ∃ done rest, r :: rs = done ++ rest ∧
          settled open_ (r :: rs) = done.flatMap Reading.result ++ rest.flatMap Reading.source ∧
          Stops open_ done rest (verdict open_ ((r :: rs).filterMap Reading.event?)) := by
      intro open' hsettled hverdict
      obtain ⟨done, rest, hrs, hdone, hstops⟩ := exists_settled rs open'
      rw [hsettled, hdone, hverdict, ← List.append_assoc]
      exact ⟨r :: done, rest, congrArg (r :: ·) hrs, rfl, .cons hverdict hstops⟩
    cases hevent : r.event? with
    | none => exact hgo open_ (settled_cons open_ hevent rs) fun more => by rw [List.filterMap_cons_none hevent]
    | some e =>
      cases hv : violation (open_.headD []) e with
      | none =>
        refine hgo _ (settled_cons_none open_ hevent hv rs) fun more => ?_
        rw [List.filterMap_cons_some hevent, verdict_cons_none open_ hv]
      | some error =>
        rw [settled_cons_some open_ hevent hv, List.filterMap_cons_some hevent, verdict_cons_some open_ hv]
        refine ⟨[r], rs, rfl, by rw [List.flatMap_singleton], [], r, rfl, rfl, ?_⟩
        rw [List.filterMap_cons_some hevent, verdict_cons_some open_ hv]

end BlogMarkdown.Shortcode
