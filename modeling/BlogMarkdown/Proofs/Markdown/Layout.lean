import BlogMarkdown.Markdown.Writer
/-!
# What a writer lays out

The calls of a writer come down to seven kinds of events, and each byte of the output belongs to a piece: a content,
or a linefeed with the line prefix behind it.  What a piece is follows from the events before it alone: how often
verbatim mode was entered and not left, the prefixes pushed and not popped, and what was requested since the last
content.
-/
namespace BlogMarkdown.Markdown

/-- What happens to a writer.  A content is a run of bytes without a linefeed; it is never empty. -/
inductive Event where
  | content (first : UInt8) (rest : List UInt8)
  | linefeed
  | request (n : Nat)
  | push (indent : List UInt8)
  | pop
  | enter
  | leave
  deriving DecidableEq

def Event.content? : Event → Option (List UInt8)
  | .content first rest => some (first :: rest)
  | _ => none

inductive WriterCall where
  | write (text : List Char)
  | writeBytes (bytes : List UInt8)
  | writeByte (b : UInt8)
  | ensureLinefeeds (n : Nat)
  | pushIndent (text : List Char)
  | popIndent
  | enterVerbatim
  | leaveVerbatim

/-- Bytes as contents, as long as they can be, and the linefeeds between them. -/
def lineEvents : List UInt8 → List Event
  | [] => []
  | b :: bytes =>
    if b = linefeed then .linefeed :: lineEvents bytes
    else match lineEvents bytes with
      | .content first rest :: events => .content b (first :: rest) :: events
      | events => .content b [] :: events

theorem lineEvents_linefeed {rest : List UInt8} : ∀ {line : List UInt8}, linefeed ∉ line →
    lineEvents (line ++ linefeed :: rest) = lineEvents line ++ .linefeed :: lineEvents rest
  | [], _ => if_pos rfl
  | b :: line, h => by
    rw [List.mem_cons, not_or] at h
    rw [List.cons_append, lineEvents, if_neg (Ne.symm h.1), lineEvents_linefeed h.2, lineEvents, if_neg (Ne.symm h.1)]
    cases lineEvents line with
    | nil => rfl
    | cons e events => cases e <;> rfl

theorem lineEvents_line : ∀ {rest : List UInt8} {first : UInt8}, linefeed ∉ first :: rest →
    lineEvents (first :: rest) = [.content first rest]
  | [], first, h => by
    rw [List.mem_singleton] at h
    rw [lineEvents, if_neg (Ne.symm h), lineEvents]
  | second :: rest, first, h => by
    rw [List.mem_cons, not_or] at h
    rw [lineEvents, if_neg (Ne.symm h.1), lineEvents_line h.2]

theorem contents_lineEvents : ∀ bytes : List UInt8,
    ((lineEvents bytes).filterMap Event.content?).flatten = bytes.filter (· ≠ linefeed)
  | [] => rfl
  | b :: bytes => by
    have ih := contents_lineEvents bytes
    rw [lineEvents]
    by_cases hb : b = linefeed
    · rw [if_pos hb, List.filter_cons_of_neg (by simpa using hb), ← ih]
      rfl
    · rw [if_neg hb, List.filter_cons_of_pos (by simpa using hb), ← ih]
      cases lineEvents bytes with
      | nil => rfl
      | cons e events => cases e <;> rfl

namespace WriterCall

def run (w : Writer) : WriterCall → Writer
  | .write text => w.write text
  | .writeBytes bytes => w.writeBytes bytes
  | .writeByte b => w.writeByte b
  | .ensureLinefeeds n => w.ensureLinefeeds n
  | .pushIndent text => w.pushIndent text
  | .popIndent => w.popIndent
  | .enterVerbatim => w.enterVerbatim
  | .leaveVerbatim => w.leaveVerbatim

def events : WriterCall → List Event
  | .write text => lineEvents (Text.Utf8.encode text)
  | .writeBytes bytes => lineEvents bytes
  | .writeByte b => lineEvents [b]
  | .ensureLinefeeds n => [.request n]
  | .pushIndent text => [.push (Text.Utf8.encode text)]
  | .popIndent => [.pop]
  | .enterVerbatim => [.enter]
  | .leaveVerbatim => [.leave]

def bytes : WriterCall → List UInt8
  | .write text => Text.Utf8.encode text
  | .writeBytes bytes => bytes
  | .writeByte b => [b]
  | _ => []

end WriterCall

/-! ## What a history says -/

namespace Event

/-- How often verbatim mode is entered and not left. -/
def depth (n : Nat) : Event → Nat
  | .enter => n + 1
  | .leave => n - 1
  | _ => n

/-- The prefixes pushed and not popped, innermost first. -/
def indents (open_ : List (List UInt8)) : Event → List (List UInt8)
  | .push indent => indent :: open_
  | .pop => open_.tail
  | _ => open_

def isContent (e : Event) : Bool := e.content?.isSome

def isPush : Event → Bool
  | .push _ => true
  | _ => false

end Event

/-- The verbatim depth after some events. -/
def depthAfter (history : List Event) : Nat := history.foldl Event.depth 0

/-- The prefix of a line after some events: all prefixes pushed and not popped, outermost first. -/
def indentAfter (history : List Event) : List UInt8 := (history.foldl Event.indents []).reverse.flatten

/-- The largest request made outside verbatim mode, where the events begin at a verbatim depth. -/
def largestRequest : Nat → List Event → Nat
  | _, [] => 0
  | depth, .request n :: events => max (if depth = 0 then n else 0) (largestRequest depth events)
  | depth, e :: events => largestRequest (e.depth depth) events

/-! ## Pieces of output -/

/-- A piece of the output.  A linefeed is written as a byte of the text or because it was requested. -/
inductive Piece where
  | content (bytes : List UInt8)
  | linefeed (requested : Bool) (indent : List UInt8)
  deriving DecidableEq

namespace Piece

def bytes : Piece → List UInt8
  | .content bytes => bytes
  | .linefeed _ indent => Markdown.linefeed :: indent

def content? : Piece → Option (List UInt8)
  | .content bytes => some bytes
  | .linefeed _ _ => none

def isLinefeed : Piece → Bool
  | .content _ => false
  | .linefeed _ _ => true

end Piece

def linefeeds (pieces : List Piece) : Nat := pieces.countP Piece.isLinefeed

namespace Writer

def step (w : Writer) : Event → Writer
  | .content first rest => w.writeContent (first :: rest)
  | .linefeed => w.writeLinefeed (w.verbatim = 0)
  | .request n => w.ensureLinefeeds n
  | .push indent =>
    let w := w.flushLinefeeds
    { w with indents := (w.indent ++ indent) :: w.indents }
  | .pop => w.popIndent
  | .enter => w.enterVerbatim
  | .leave => w.leaveVerbatim

/-- The linefeeds that are missing to what was requested. -/
def missing (w : Writer) : List Piece := List.replicate (w.run.missing w.requested) (.linefeed true w.indent)

/-- The pieces that one event adds to the output. -/
def emitted (w : Writer) : Event → List Piece
  | .content first rest => w.missing ++ [.content (first :: rest)]
  | .linefeed => [.linefeed false (if w.verbatim = 0 then w.indent else [])]
  | .push _ => w.missing
  | _ => []

/-- The pieces that some events add to the output, one after the other. -/
def written (w : Writer) : List Event → List Piece
  | [] => []
  | e :: events => w.emitted e ++ (w.step e).written events

def after (history : List Event) : Writer := history.foldl step empty

/-! ## Missing linefeeds -/

theorem repeat_writeLinefeed : ∀ (n : Nat) (w : Writer),
    Nat.repeat (writeLinefeed true) n w =
      { w with
        out := w.out ++ (List.replicate n (Piece.linefeed true w.indent)).flatMap Piece.bytes
        run := Nat.repeat LinefeedRun.succ n w.run }
  | 0, w => by
    have hout : w.out ++ ([] : List UInt8) = w.out := by simp
    rw [List.replicate_zero, List.flatMap_nil, hout]
    rfl
  | n + 1, w => by
    have hassoc (a : Array UInt8) (l m : List UInt8) : a ++ l ++ m = a ++ (l ++ m) := Array.ext' (by simp)
    rw [Nat.repeat, repeat_writeLinefeed n w, List.replicate_succ', List.flatMap_append, List.flatMap_singleton,
      ← hassoc]
    rfl

theorem repeat_succ_unbounded : ∀ n, Nat.repeat LinefeedRun.succ n .unbounded = .unbounded
  | 0 => rfl
  | n + 1 => by rw [Nat.repeat, repeat_succ_unbounded n, LinefeedRun.succ]

theorem repeat_succ_count (k : Nat) : ∀ n, Nat.repeat LinefeedRun.succ n (.count k) = .count (k + n)
  | 0 => rfl
  | n + 1 => by rw [Nat.repeat, repeat_succ_count k n, LinefeedRun.succ, Nat.add_assoc]

theorem flushLinefeeds_eq (w : Writer) :
    w.flushLinefeeds =
      { w with
        out := w.out ++ w.missing.flatMap Piece.bytes
        run := Nat.repeat LinefeedRun.succ (w.run.missing w.requested) w.run
        requested := 0 } := by
  rw [flushLinefeeds, repeat_writeLinefeed, missing]

/-! ## The output is the pieces -/

theorem toList_out_step (w : Writer) (e : Event) :
    (w.step e).out.toList = w.out.toList ++ (w.emitted e).flatMap Piece.bytes := by
  cases e with
  | content first rest =>
    show (w.flushLinefeeds.out ++ (first :: rest)).toList = _
    rw [flushLinefeeds_eq, emitted, List.flatMap_append, List.flatMap_singleton, Array.toList_appendList,
      Array.toList_appendList, List.append_assoc]
    rfl
  | linefeed =>
    show (w.out ++ Markdown.linefeed :: (if decide (w.verbatim = 0) = true then w.indent else [])).toList = _
    rw [emitted, List.flatMap_singleton, Array.toList_appendList]
    simp only [decide_eq_true_eq]
    rfl
  | request n =>
    show (w.ensureLinefeeds n).out.toList = w.out.toList ++ []
    rw [ensureLinefeeds, List.append_nil]
    split <;> rfl
  | push indent =>
    show w.flushLinefeeds.out.toList = _
    rw [flushLinefeeds_eq, emitted, Array.toList_appendList]
  | pop => exact (List.append_nil _).symm
  | enter => exact (List.append_nil _).symm
  | leave => exact (List.append_nil _).symm

theorem toList_out_foldl : ∀ (events : List Event) (w : Writer),
    (events.foldl step w).out.toList = w.out.toList ++ (w.written events).flatMap Piece.bytes
  | [], w => (List.append_nil _).symm
  | e :: events, w => by
    rw [List.foldl_cons, toList_out_foldl events, toList_out_step, written, List.flatMap_append, List.append_assoc]

theorem written_append : ∀ (events more : List Event) (w : Writer),
    w.written (events ++ more) = w.written events ++ (events.foldl step w).written more
  | [], _, _ => rfl
  | e :: events, more, w => by
    rw [List.cons_append, written, written, written_append events, List.append_assoc, List.foldl_cons]

theorem written_singleton (w : Writer) (e : Event) : w.written [e] = w.emitted e := List.append_nil _

/-! ## Calls as events -/

theorem writeContent_eq {line : List UInt8} (h : linefeed ∉ line) (w : Writer) :
    w.writeContent line = (lineEvents line).foldl step w := by
  cases line with
  | nil => rfl
  | cons first rest => rw [lineEvents_line h, List.foldl_cons, List.foldl_nil, step]

theorem writeLines_eq : ∀ (bytes content : List UInt8) (w : Writer), linefeed ∉ content →
    writeLines content bytes w = (lineEvents (content.reverse ++ bytes)).foldl step w
  | [], content, w, h => by
    rw [writeLines, List.append_nil, writeContent_eq (mt List.mem_reverse.1 h)]
  | b :: bytes, content, w, h => by
    have hrev := mt List.mem_reverse.1 h
    by_cases hb : b = linefeed
    · subst hb
      rw [writeLines, if_pos rfl, lineEvents_linefeed hrev, List.foldl_append, List.foldl_cons, ← writeContent_eq hrev]
      exact writeLines_eq bytes [] _ List.not_mem_nil
    · rw [writeLines, if_neg hb, writeLines_eq bytes (b :: content) w fun hm => ?_, List.reverse_cons,
        List.append_assoc, List.singleton_append]
      rcases List.mem_cons.1 hm with he | hm
      · exact hb he.symm
      · exact h hm

theorem writeBytes_eq (bytes : List UInt8) (w : Writer) : w.writeBytes bytes = (lineEvents bytes).foldl step w :=
  writeLines_eq bytes [] w List.not_mem_nil

end Writer

namespace WriterCall

theorem run_eq (w : Writer) (call : WriterCall) : call.run w = call.events.foldl Writer.step w := by
  cases call with
  | write text => exact Writer.writeBytes_eq _ w
  | writeBytes bytes => exact Writer.writeBytes_eq bytes w
  | writeByte b =>
    rw [run, events, Writer.writeByte]
    by_cases hb : b = linefeed
    · subst hb
      rfl
    · rw [if_neg hb, Writer.writeContent_eq]
      simpa using Ne.symm hb
  | ensureLinefeeds n => rfl
  | pushIndent text => rfl
  | popIndent => rfl
  | enterVerbatim => rfl
  | leaveVerbatim => rfl

theorem foldl_run_eq : ∀ (calls : List WriterCall) (w : Writer),
    calls.foldl run w = (calls.flatMap events).foldl Writer.step w
  | [], _ => rfl
  | call :: calls, w => by
    rw [List.foldl_cons, run_eq, foldl_run_eq calls, List.flatMap_cons, List.foldl_append]

theorem contents_events (call : WriterCall) :
    (call.events.filterMap Event.content?).flatten = call.bytes.filter (· ≠ linefeed) := by
  cases call with
  | write text => exact contents_lineEvents _
  | writeBytes bytes => exact contents_lineEvents bytes
  | writeByte b => exact contents_lineEvents [b]
  | ensureLinefeeds n => rfl
  | pushIndent text => rfl
  | popIndent => rfl
  | enterVerbatim => rfl
  | leaveVerbatim => rfl

theorem contents_flatMap : ∀ calls : List WriterCall,
    ((calls.flatMap events).filterMap Event.content?).flatten = (calls.flatMap bytes).filter (· ≠ linefeed)
  | [] => rfl
  | call :: calls => by
    rw [List.flatMap_cons, List.filterMap_append, List.flatten_append, contents_events, contents_flatMap calls,
      List.flatMap_cons, List.filter_append]

end WriterCall

namespace Writer

/-! ## The state after a history -/

/-- What the stack of a writer holds for each open prefix: it and those around it. -/
def stacked : List (List UInt8) → List (List UInt8)
  | [] => []
  | indent :: outer => (outer.reverse.flatten ++ indent) :: stacked outer

theorem headD_stacked : ∀ indents : List (List UInt8), (stacked indents).headD [] = indents.reverse.flatten
  | [] => rfl
  | indent :: outer => by rw [stacked, List.headD_cons, List.reverse_cons, List.flatten_append, List.flatten_singleton]

theorem verbatim_step (w : Writer) (e : Event) : (w.step e).verbatim = e.depth w.verbatim := by
  cases e with
  | content first rest =>
    show w.flushLinefeeds.verbatim = _
    rw [flushLinefeeds_eq]
    rfl
  | push indent =>
    show w.flushLinefeeds.verbatim = _
    rw [flushLinefeeds_eq]
    rfl
  | request n =>
    show (w.ensureLinefeeds n).verbatim = _
    rw [ensureLinefeeds]
    split <;> rfl
  | linefeed => rfl
  | pop => rfl
  | enter => rfl
  | leave => rfl

theorem indents_step {w : Writer} {indents : List (List UInt8)} (h : w.indents = stacked indents) (e : Event) :
    (w.step e).indents = stacked (e.indents indents) := by
  cases e with
  | content first rest =>
    show w.flushLinefeeds.indents = _
    rw [flushLinefeeds_eq]
    exact h
  | push indent =>
    show (w.flushLinefeeds.indent ++ indent) :: w.flushLinefeeds.indents = _
    rw [Writer.indent, flushLinefeeds_eq, Event.indents, stacked, ← headD_stacked, ← h]
  | request n =>
    show (w.ensureLinefeeds n).indents = _
    rw [ensureLinefeeds]
    split <;> exact h
  | pop =>
    show w.indents.tail = stacked indents.tail
    rw [h]
    cases indents <;> rfl
  | linefeed => exact h
  | enter => exact h
  | leave => exact h

theorem verbatim_foldl : ∀ (events : List Event) (w : Writer),
    (events.foldl step w).verbatim = events.foldl Event.depth w.verbatim
  | [], _ => rfl
  | e :: events, w => by rw [List.foldl_cons, List.foldl_cons, verbatim_foldl events, verbatim_step]

theorem indents_foldl : ∀ (events : List Event) {w : Writer} {indents : List (List UInt8)},
    w.indents = stacked indents → (events.foldl step w).indents = stacked (events.foldl Event.indents indents)
  | [], _, _, h => h
  | e :: events, _, _, h => indents_foldl events (indents_step h e)

theorem verbatim_after (history : List Event) : (after history).verbatim = depthAfter history :=
  verbatim_foldl history _

theorem indent_after (history : List Event) : (after history).indent = indentAfter history := by
  have hindents : (after history).indents = stacked (history.foldl Event.indents []) := indents_foldl history rfl
  rw [Writer.indent, hindents, headD_stacked]
  rfl

theorem after_append (history events : List Event) : after (history ++ events) = events.foldl step (after history) :=
  List.foldl_append ..

/-! ## Runs of linefeeds -/

theorem linefeeds_append (p q : List Piece) : linefeeds (p ++ q) = linefeeds p + linefeeds q := List.countP_append ..

theorem linefeeds_missing (w : Writer) : linefeeds w.missing = w.run.missing w.requested := by
  rw [linefeeds, missing, List.countP_replicate]
  exact if_pos rfl

theorem run_flush_unbounded {w : Writer} (h : w.run = .unbounded) : w.flushLinefeeds.run = .unbounded := by
  rw [flushLinefeeds_eq]
  show Nat.repeat LinefeedRun.succ _ w.run = _
  rw [h, repeat_succ_unbounded]

theorem run_flush_count {w : Writer} {n : Nat} (h : w.run = .count n) :
    w.flushLinefeeds.run = .count (n + linefeeds w.missing) := by
  rw [linefeeds_missing, flushLinefeeds_eq]
  show Nat.repeat LinefeedRun.succ _ w.run = _
  rw [h, repeat_succ_count]

/-- Before the first content a run is as long as anyone can ask for. -/
theorem run_of_no_content : ∀ (events : List Event) {w : Writer}, w.run = .unbounded →
    (∀ e ∈ events, e.isContent = false) → (events.foldl step w).run = .unbounded
  | [], _, h, _ => h
  | e :: events, w, h, he => by
    refine run_of_no_content events ?_ fun d hd => he d (List.mem_cons_of_mem _ hd)
    cases e with
    | content first rest => cases he _ List.mem_cons_self
    | linefeed =>
      show w.run.succ = _
      rw [h, LinefeedRun.succ]
    | request n =>
      show (w.ensureLinefeeds n).run = _
      rw [ensureLinefeeds]
      split <;> exact h
    | push indent => exact run_flush_unbounded h
    | pop => exact h
    | enter => exact h
    | leave => exact h

/-- How an event that is no content changes a run of `n` linefeeds and the largest request `r` in it. -/
theorem run_step {w : Writer} {n r : Nat} (h : w.run = .count n) (hr : max n w.requested = max n r) {e : Event}
    (he : e.isContent = false) :
    (w.step e).run = .count (n + linefeeds (w.emitted e)) ∧
      max (n + linefeeds (w.emitted e)) (w.step e).requested =
        max (n + linefeeds (w.emitted e)) (max r (largestRequest w.verbatim [e])) := by
  have hkeep : max (n + 0) w.requested = max (n + 0) (max r 0) := by rwa [Nat.max_zero]
  cases e with
  | content first rest => cases he
  | linefeed =>
    refine ⟨by show w.run.succ = _; rw [h]; rfl, ?_⟩
    show max (n + 1) w.requested = max (n + 1) (max r 0)
    omega
  | request k =>
    show (w.ensureLinefeeds k).run = .count n ∧
      max n (w.ensureLinefeeds k).requested = max n (max r (max (if w.verbatim = 0 then k else 0) 0))
    rw [ensureLinefeeds]
    by_cases hv : w.verbatim = 0
    · rw [if_pos hv, if_pos hv]
      refine ⟨h, ?_⟩
      show max n (max w.requested k) = _
      omega
    · rw [if_neg hv, if_neg hv]
      exact ⟨h, by omega⟩
  | push indent =>
    refine ⟨run_flush_count h, ?_⟩
    show max (n + linefeeds w.missing) w.flushLinefeeds.requested = max (n + linefeeds w.missing) (max r 0)
    rw [linefeeds_missing, flushLinefeeds_eq, h]
    show max (n + (w.requested - n)) 0 = max (n + (w.requested - n)) (max r 0)
    omega
  | pop => exact ⟨h, hkeep⟩
  | enter => exact ⟨h, hkeep⟩
  | leave => exact ⟨h, hkeep⟩

theorem largestRequest_cons (depth : Nat) (e : Event) (events : List Event) :
    largestRequest depth (e :: events) = max (largestRequest depth [e]) (largestRequest (e.depth depth) events) := by
  cases e <;> simp [largestRequest, Event.depth]

/-- **Between contents** the run is the number of linefeeds written since the last one, and what is still requested
differs from the largest request only as far as the run has completed it. -/
theorem run_foldl : ∀ {gap : List Event} {w : Writer} {n r : Nat}, w.run = .count n → max n w.requested = max n r →
    (∀ e ∈ gap, e.isContent = false) →
    (gap.foldl step w).run = .count (n + linefeeds (w.written gap)) ∧
      max (n + linefeeds (w.written gap)) (gap.foldl step w).requested =
        max (n + linefeeds (w.written gap)) (max r (largestRequest w.verbatim gap))
  | [], w, n, r, h, hr, _ => ⟨h, by simpa [written, largestRequest, linefeeds] using hr⟩
  | e :: gap, w, n, r, h, hr, hc => by
    obtain ⟨hrun, hreq⟩ := run_step h hr (hc e List.mem_cons_self)
    have ih := run_foldl hrun hreq fun d hd => hc d (List.mem_cons_of_mem _ hd)
    rw [verbatim_step, Nat.max_assoc] at ih
    rwa [List.foldl_cons, written, linefeeds_append, ← Nat.add_assoc, largestRequest_cons]

theorem run_after_content (history : List Event) (first : UInt8) (rest : List UInt8) :
    (after (history ++ [.content first rest])).run = .count 0 ∧
      (after (history ++ [.content first rest])).requested = 0 := by
  rw [after_append]
  refine ⟨rfl, ?_⟩
  show (after history).flushLinefeeds.requested = 0
  rw [flushLinefeeds_eq]

theorem linefeeds_emitted {w : Writer} {e : Event} (he : e.isContent = true ∨ e.isPush = true) :
    linefeeds (w.emitted e) = w.run.missing w.requested := by
  rw [← linefeeds_missing]
  cases e with
  | content first rest => exact linefeeds_append _ _
  | push indent => rfl
  | _ => rcases he with he | he <;> cases he

/-- **What completes a run**: the next content, and a new prefix. -/
theorem linefeeds_completed (history : List Event) (first : UInt8) (rest : List UInt8) {gap : List Event} {e : Event}
    (hgap : ∀ d ∈ gap, d.isContent = false) (he : e.isContent = true ∨ e.isPush = true) :
    linefeeds ((after (history ++ [.content first rest])).written (gap ++ [e])) =
      max (linefeeds ((after (history ++ [.content first rest])).written gap))
        (largestRequest (depthAfter (history ++ [.content first rest])) gap) := by
  obtain ⟨hrun, hreq⟩ := run_after_content history first rest
  obtain ⟨hrun, hreq⟩ := run_foldl (r := 0) hrun (by rw [hreq]) hgap
  rw [verbatim_after] at hreq
  rw [written_append, linefeeds_append, written_singleton, linefeeds_emitted he, hrun]
  show _ + (_ - (0 + linefeeds _)) = _
  omega

theorem linefeeds_written : ∀ {gap : List Event} {w : Writer}, (∀ e ∈ gap, e.isContent = false ∧ e.isPush = false) →
    linefeeds (w.written gap) = gap.count .linefeed
  | [], _, _ => rfl
  | e :: gap, w, h => by
    obtain ⟨hc, hp⟩ := h e List.mem_cons_self
    rw [written, linefeeds_append, linefeeds_written fun d hd => h d (List.mem_cons_of_mem _ hd), List.count_cons,
      Nat.add_comm]
    cases e with
    | content first rest => cases hc
    | push indent => cases hp
    | _ => rfl

theorem contents_emitted (w : Writer) (e : Event) :
    (w.emitted e).filterMap Piece.content? = e.content?.toList := by
  have hmissing : w.missing.filterMap Piece.content? = [] :=
    List.filterMap_eq_nil_iff.2 fun p hp => List.eq_of_mem_replicate hp ▸ rfl
  cases e with
  | content first rest =>
    rw [emitted, List.filterMap_append, hmissing]
    rfl
  | push indent => exact hmissing
  | _ => rfl

theorem contents_written : ∀ (events : List Event) (w : Writer),
    (w.written events).filterMap Piece.content? = events.filterMap Event.content?
  | [], _ => rfl
  | e :: events, w => by
    rw [written, List.filterMap_append, contents_emitted, contents_written events, List.filterMap_cons]
    cases e.content? <;> rfl

end Writer

/-- **The layout of a sequence of events.**  What an event adds to the output, and how many linefeeds stand in a gap,
follows from the events before it. -/
structure LaidOut (events : List Event) : Prop where
  /-- Requested linefeeds come right before a content or a new prefix, each with the prefix of that moment. -/
  requested : ∀ before e after, events = before ++ e :: after → e ≠ .linefeed →
    ∃ k, (Writer.after before).emitted e =
        List.replicate k (.linefeed true (indentAfter before)) ++ e.content?.toList.map Piece.content ∧
      (e.isContent = false → e.isPush = false → k = 0)
  /-- A linefeed of the text carries the prefix, except in verbatim mode. -/
  linefeed : ∀ before after, events = before ++ .linefeed :: after →
    (Writer.after before).emitted .linefeed =
      [.linefeed false (if depthAfter before = 0 then indentAfter before else [])]
  /-- Before the first content, requests add no linefeed. -/
  start : ∀ before e after, events = before ++ e :: after → (∀ d ∈ before, d.isContent = false) →
    ∀ indent, Piece.linefeed true indent ∉ (Writer.after before).emitted e
  /-- Between two contents, if no prefix is added there. -/
  between : ∀ before first rest gap first' rest' after,
    events = before ++ .content first rest :: (gap ++ .content first' rest' :: after) →
    (∀ d ∈ gap, d.isContent = false ∧ d.isPush = false) →
    linefeeds ((Writer.after (before ++ [.content first rest])).written (gap ++ [.content first' rest'])) =
      max (gap.count .linefeed) (largestRequest (depthAfter (before ++ [.content first rest])) gap)
  /-- A new prefix, and the next content, first completes the run to what was requested since the last content. -/
  completed : ∀ before first rest gap e after, events = before ++ .content first rest :: (gap ++ e :: after) →
    (∀ d ∈ gap, d.isContent = false) → e.isContent = true ∨ e.isPush = true →
    linefeeds ((Writer.after (before ++ [.content first rest])).written (gap ++ [e])) =
      max (linefeeds ((Writer.after (before ++ [.content first rest])).written gap))
        (largestRequest (depthAfter (before ++ [.content first rest])) gap)

theorem laidOut (events : List Event) : LaidOut events where
  requested before e after _ he := by
    have hindent := Writer.indent_after before
    cases e with
    | content first rest => exact ⟨_, by rw [Writer.emitted, Writer.missing, hindent]; rfl, nofun⟩
    | push indent =>
      exact ⟨_, by rw [Writer.emitted, Writer.missing, hindent]; exact (List.append_nil _).symm, fun _ => nofun⟩
    | linefeed => exact absurd rfl he
    | _ => exact ⟨0, rfl, fun _ _ => rfl⟩
  linefeed before after _ := by rw [Writer.emitted, Writer.verbatim_after, Writer.indent_after]
  start before e after _ hbefore indent := by
    have hrun : (Writer.after before).run = .unbounded := Writer.run_of_no_content before rfl hbefore
    have hmissing : (Writer.after before).missing = [] := by rw [Writer.missing, hrun]; rfl
    cases e <;> simp [Writer.emitted, hmissing]
  between before first rest gap first' rest' after _ hgap := by
    rw [Writer.linefeeds_completed before first rest (fun d hd => (hgap d hd).1) (.inl rfl),
      Writer.linefeeds_written hgap]
  completed before first rest gap e after _ hgap he := Writer.linefeeds_completed before first rest hgap he

/-- **Every sequence of calls on a new writer**: the output is made of pieces, whose contents are what was written in
order, and the pieces are laid out by the calls before them. -/
theorem layout_of_calls (calls : List WriterCall) :
    (calls.foldl WriterCall.run Writer.empty).out.toList =
        (Writer.empty.written (calls.flatMap WriterCall.events)).flatMap Piece.bytes ∧
      (Writer.empty.written (calls.flatMap WriterCall.events)).filterMap Piece.content? =
        (calls.flatMap WriterCall.events).filterMap Event.content? ∧
      ((Writer.empty.written (calls.flatMap WriterCall.events)).filterMap Piece.content?).flatten =
        (calls.flatMap WriterCall.bytes).filter (· ≠ linefeed) ∧
      LaidOut (calls.flatMap WriterCall.events) := by
  have hcontents := Writer.contents_written (calls.flatMap WriterCall.events) Writer.empty
  refine ⟨?_, hcontents, ?_, laidOut _⟩
  · rw [WriterCall.foldl_run_eq, Writer.toList_out_foldl]
    rfl
  · rw [hcontents, WriterCall.contents_flatMap]

/-- Two requests between two contents, one of them in verbatim mode, where it counts for nothing. -/
example : ([.writeBytes [97, 10], .ensureLinefeeds 2, .enterVerbatim, .ensureLinefeeds 5, .writeBytes [98]].foldl
    WriterCall.run Writer.empty).out = #[97, 10, 10, 98] := by decide

end BlogMarkdown.Markdown
