import BlogMarkdown.Proofs.Export.Collecting
/-!
# Elements that are open

A document may end while elements are open: that is no fault, and an export that was cut off is read all the same.  What
is missing then is what was open: the items and authors that are read, with those still open, are as many as were begun.
-/
namespace BlogMarkdown.Export

open Xml

/-- The names of the open elements behind an event, the innermost first.  No event closes an element where none is open,
and there is nothing behind a fault. -/
def opened? (path : List String) : Event → Option (List String)
  | .start name => some (name :: path)
  | .stop => path.tail?
  | .fault => none
  | .empty _ | .text _ | .reference _ | .other => some path

/-- The names of the elements that are open behind some events. -/
def openBehind? (es : List Event) : Option (List String) := es.foldlM opened? []

/-- No element of this name is opened inside another one, given the names of the elements that are open. -/
def unnested (name : String) : List String → List Event → Bool
  | _, [] => true
  | path, e :: es => (e ≠ .start name || !path.contains name) && (opened? path e).all (unnested name · es)

/-! ## Events of documents -/

/-- A document closes only what is open, up to its first fault. -/
theorem opened_eventsFrom : ∀ (pieces : List Piece) (path : List OpenElement) (scope : Scope) (names : List String),
    names.length = path.length → Event.fault ∉ eventsFrom path scope pieces →
    ∃ behind, (eventsFrom path scope pieces).foldlM opened? names = some behind
  | [], _, _, names, _, _ => ⟨names, rfl⟩
  | .text _ :: pieces, path, scope, names, hlength, hfault =>
    opened_eventsFrom pieces path scope names hlength fun h => hfault (List.mem_cons_of_mem _ h)
  | .reference _ :: pieces, path, scope, names, hlength, hfault =>
    opened_eventsFrom pieces path scope names hlength fun h => hfault (List.mem_cons_of_mem _ h)
  | .other :: pieces, path, scope, names, hlength, hfault =>
    opened_eventsFrom pieces path scope names hlength fun h => hfault (List.mem_cons_of_mem _ h)
  | .fault :: _, _, _, _, _, hfault => absurd List.mem_cons_self hfault
  | .start content :: pieces, path, scope, names, hlength, hfault => by
    rw [eventsFrom] at hfault ⊢
    dsimp only at hfault ⊢
    cases hscope : scope.enter (splitName content).2 with
    | none =>
      rw [hscope] at hfault
      exact absurd List.mem_cons_self hfault
    | some inner =>
      rw [hscope] at hfault
      refine opened_eventsFrom pieces _ inner (String.ofList (inner.resolve (splitName content).1) :: names) ?_
        fun h => hfault (List.mem_cons_of_mem _ h)
      rw [List.length_cons, List.length_cons, hlength]
  | .empty content :: pieces, path, scope, names, hlength, hfault => by
    rw [eventsFrom] at hfault ⊢
    dsimp only at hfault ⊢
    cases hscope : scope.enter (splitName content).2 with
    | none =>
      rw [hscope] at hfault
      exact absurd List.mem_cons_self hfault
    | some inner =>
      rw [hscope] at hfault
      exact opened_eventsFrom pieces path scope names hlength fun h => hfault (List.mem_cons_of_mem _ h)
  | .stop content :: pieces, [], scope, names, _, hfault => absurd List.mem_cons_self hfault
  | .stop content :: pieces, element :: path, scope, names, hlength, hfault => by
    obtain ⟨name, names, rfl⟩ := List.exists_cons_of_length_eq_add_one hlength
    rw [eventsFrom] at hfault ⊢
    split at hfault
    · rename_i hname
      rw [if_pos hname]
      exact opened_eventsFrom pieces path element.outer names (Nat.succ.inj hlength) fun h =>
        hfault (List.mem_cons_of_mem _ h)
    · exact absurd List.mem_cons_self hfault

/-! ## Counting records -/

namespace Collector

variable {α : Type} {c : Collector α} {s s' : Collected α} {e : Event}

theorem fault_not_mem {es : List Event} (h : es.foldlM c.step s = .ok s') : Event.fault ∉ es := by
  intro hmem
  obtain ⟨before, after, rfl⟩ := List.append_of_mem hmem
  rw [List.foldlM_append] at h
  obtain ⟨_, -, h⟩ := exists_of_bind h
  cases h

/-- `n` records were begun: they are complete, except for one if an element of the name is open. -/
structure Begun (c : Collector α) (s : Collected α) (n : Nat) : Prop where
  count : s.done.length + s.path.count c.name = n
  slot : s.path.count c.name = if s.slot.isSome then 1 else 0

theorem path_of_close {parent name : String} {value : List Char} (h : c.close s parent name value = .ok s') :
    s'.path = s.path := by
  unfold close at h
  split at h
  · cases h
    rfl
  split at h
  · cases h
    rfl
  split at h
  · obtain ⟨_, -, rfl⟩ := exists_of_map h
    rfl
  · cases h
    rfl

theorem path_of_step {path : List String} (h : c.step s e = .ok s') (hpath : opened? s.path e = some path) :
    s'.path = path := by
  cases e with
  | stop =>
    rw [step] at h
    split at h
    · rename_i hnil
      rw [hnil] at hpath
      cases hpath
    · rename_i hcons
      rw [hcons] at hpath
      exact (path_of_close h).trans (Option.some.inj hpath)
  | fault => cases h
  | _ =>
    cases h
    exact Option.some.inj hpath

theorem Begun.close {done : List α} {slot : Option α} {name : String} {path : List String} {text text' : List Char}
    {n : Nat} (h : c.Begun ⟨done, slot, name :: path, text⟩ n) {parent : String} {value : List Char}
    (hclose : c.close ⟨done, slot, path, text'⟩ parent name value = .ok s') : c.Begun s' n := by
  obtain ⟨hcount, hslot⟩ := h
  dsimp only at hcount hslot
  cases slot with
  | none =>
    cases hclose
    rw [List.count_cons] at hcount hslot
    have hzero : path.count c.name + (if name == c.name then 1 else 0) = 0 := hslot
    exact ⟨by dsimp only; omega, (Nat.add_eq_zero_iff.1 hzero).1⟩
  | some record =>
    unfold Collector.close at hclose
    dsimp only at hclose
    by_cases hname : name = c.name
    · -- the record is complete, and no other element of the name is open
      rw [if_pos hname] at hclose
      rw [hname, List.count_cons_self] at hcount hslot
      cases hclose
      refine ⟨?_, Nat.succ.inj hslot⟩
      rw [List.length_append, List.length_singleton, Nat.add_right_comm]
      exact hcount
    · rw [List.count_cons_of_ne hname] at hcount hslot
      rw [if_neg hname] at hclose
      split at hclose
      · obtain ⟨_, -, rfl⟩ := exists_of_map hclose
        exact ⟨hcount, hslot⟩
      · cases hclose
        exact ⟨hcount, hslot⟩

theorem Begun.step {n : Nat} (h : c.Begun s n) (hnested : e = .start c.name → c.name ∉ s.path)
    (hstep : c.step s e = .ok s') : c.Begun s' (n + if e = .start c.name then 1 else 0) := by
  cases e with
  | start name =>
    cases hstep
    by_cases hname : name = c.name
    · subst hname
      have hzero : s.path.count c.name = 0 := List.count_eq_zero.2 (hnested rfl)
      have hone : (if Event.start c.name = Event.start c.name then 1 else 0) = 1 := if_pos rfl
      refine ⟨?_, ?_⟩
      · rw [List.count_cons_self, hone, ← h.count]
        rfl
      · rw [List.count_cons_self, if_pos rfl, hzero]
        rfl
    · refine ⟨?_, ?_⟩
      · rw [List.count_cons_of_ne hname, if_neg fun heq => hname (Event.start.inj heq)]
        exact h.count
      · rw [List.count_cons_of_ne hname, if_neg hname]
        exact h.slot
  | stop =>
    obtain ⟨done, slot, path, text⟩ := s
    cases path with
    | nil =>
      cases hstep
      exact h
    | cons name path => exact h.close hstep
  | fault => cases hstep
  | _ =>
    cases hstep
    exact ⟨h.count, h.slot⟩

theorem Begun.run : ∀ {es : List Event} {s s' : Collected α} {n : Nat} {path : List String}, c.Begun s n →
    unnested c.name s.path es = true → es.foldlM c.step s = .ok s' → es.foldlM opened? s.path = some path →
    s'.path = path ∧ c.Begun s' (n + es.count (.start c.name))
  | [], _, _, _, _, h, _, hrun, hpath => by
    cases hrun
    exact ⟨Option.some.inj hpath, h⟩
  | e :: es, s, s', n, path, h, hnested, hrun, hpath => by
    rw [List.foldlM_cons] at hrun hpath
    obtain ⟨after, hstep, hrun⟩ := exists_of_bind hrun
    obtain ⟨names, hnames, hpath⟩ := Option.bind_eq_some_iff.1 hpath
    rw [unnested, hnames, Bool.and_eq_true] at hnested
    have hbegun := h.step (fun he => by simpa [he] using hnested.1) hstep
    obtain rfl := path_of_step hstep hnames
    obtain ⟨hbehind, hbegun⟩ := hbegun.run hnested.2 hrun hpath
    refine ⟨hbehind, ?_⟩
    rw [List.count_cons, Nat.add_comm (es.count _), ← Nat.add_assoc]
    simpa using hbegun

/-- As many records were begun as are complete or open. -/
theorem length_of_collect {es : List Event} {records : List α} (h : c.collect es = .ok records) {path : List String}
    (hpath : openBehind? es = some path) (hnested : unnested c.name [] es = true) :
    records.length + path.count c.name = es.count (.start c.name) := by
  obtain ⟨s, hrun, rfl⟩ := exists_of_map h
  have hbegun : c.Begun {} 0 := ⟨rfl, rfl⟩
  obtain ⟨rfl, hbegun⟩ := hbegun.run hnested hrun hpath
  rw [hbegun.count, Nat.zero_add]

end Collector

/-! ## Documents -/

/-- **What is missing of an export that is accepted is open where the export ends.**  Every closing tag closes the
element opened last; and if no item is in another one, the items that are read and those still open are as many as were
begun, and so are the authors. -/
theorem records_of_parse {document : List Char} {channel : Channel} (h : parse document = .ok channel) :
    ∃ path, openBehind? (events document) = some path ∧
      (unnested "item" [] (events document) = true →
        channel.items.length + path.count "item" = (events document).count (.start "item")) ∧
      (unnested "wp:author" [] (events document) = true →
        channel.authors.length + path.count "wp:author" = (events document).count (.start "wp:author")) := by
  have hitems : Collector.items.collect (events document) = .ok channel.items := by
    rw [collect_items, show ofEvents (events document) = .ok channel from h]
    rfl
  obtain ⟨s, hrun, -⟩ := exists_of_map hitems
  obtain ⟨path, hpath⟩ := opened_eventsFrom (pieces document) [] .initial [] rfl (Collector.fault_not_mem hrun)
  exact ⟨path, hpath, Collector.length_of_collect hitems hpath, Collector.length_of_collect (collect_authors h) hpath⟩

/-- A document that ends in its second item. -/
def cutExport : List Char := "<rss><channel><item><title>x</title></item><item><title>y".toList

theorem records_of_cutExport : ∃ channel, parse cutExport = .ok channel ∧ channel.items = [{ title := "x" }] ∧
    openBehind? (events cutExport) = some ["title", "item", "channel", "rss"] ∧
    channel.items.length + 1 = (events cutExport).count (.start "item") := by
  have hparse : parse cutExport = .ok { items := [{ title := "x" }] } := by decide +kernel
  have hopen : openBehind? (events cutExport) = some ["title", "item", "channel", "rss"] := by decide +kernel
  obtain ⟨path, hpath, hitems, -⟩ := records_of_parse hparse
  obtain rfl := Option.some.inj (hopen.symm.trans hpath)
  exact ⟨_, hparse, rfl, hopen, hitems (by decide +kernel)⟩

/-- An export that ends in its only item is accepted without any. -/
theorem cut_export_accepted :
    let document := "<rss><channel><item><title>x</title>".toList
    parse document = .ok {} ∧ openBehind? (events document) = some ["item", "channel", "rss"] ∧
      unnested "item" [] (events document) = true ∧ (events document).count (.start "item") = 1 := by
  decide +kernel

end BlogMarkdown.Export
