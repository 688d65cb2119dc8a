import BlogMarkdown.Proofs.Markdown.Passthrough
/-!
# Bytes in chunks

Bytes may be written in any chunks and through any of the calls that take bytes: the writer ends in the same state.  So
what becomes of bytes in verbatim mode can be told from their whole.  Bytes that begin with content come out untouched
behind the linefeeds that are due.  Linefeeds at the front of the bytes come out at once, and each of them counts as one
that is due; so what is then still due stands behind them, among the bytes.
-/
namespace BlogMarkdown.Markdown

/-- Some bytes, and the call that writes them. -/
inductive Chunk where
  | raw (bytes : List UInt8)
  | text (s : List Char)
  | byte (b : UInt8)
  | stream (bytes : List UInt8)

namespace Chunk

def content : Chunk → List UInt8
  | .raw bytes => bytes
  | .text s => Text.Utf8.encode s
  | .byte b => [b]
  | .stream bytes => bytes

def write (w : Writer) : Chunk → Writer
  | .raw bytes => w.writeBytes bytes
  | .text s => w.write s
  | .byte b => w.writeByte b
  | .stream bytes => (w.accept bytes).2

/-- Whatever call writes it, a chunk is written as its bytes are. -/
theorem write_eq : write = fun w chunk => w.writeBytes chunk.content := by
  funext w chunk
  cases chunk with
  | byte b =>
    rw [content, Writer.writeBytes_cons]
    rfl
  | raw bytes => rfl
  | text s => rfl
  | stream bytes => rfl

end Chunk

/-- **Writing does not depend on chunks.**  Chunks that are written one after the other leave every writer in the state
in which their bytes written at once leave it. -/
theorem state_of_chunks (w : Writer) (chunks : List Chunk) :
    chunks.foldl Chunk.write w = w.writeBytes (chunks.flatMap Chunk.content) := by
  rw [Chunk.write_eq, List.flatMap_def, ← Writer.foldl_writeBytes, List.foldl_map]

namespace Writer

/-! ## Linefeeds in verbatim mode -/

/-- What is due behind some linefeeds more. -/
def dueBehind (linefeeds : Nat) (w : Writer) : List UInt8 :=
  (List.replicate (w.run.missing w.requested - linefeeds) (linefeed :: w.indent)).flatten

theorem length_dueBehind (linefeeds : Nat) (w : Writer) :
    (w.dueBehind linefeeds).length = (w.run.missing w.requested - linefeeds) * (w.indent.length + 1) := by
  rw [dueBehind, List.length_flatten, List.map_replicate, List.sum_replicate_nat, List.length_cons]

theorem missing_repeat_succ (requested : Nat) (run : LinefeedRun) (n : Nat) :
    (Nat.repeat LinefeedRun.succ n run).missing requested = run.missing requested - n := by
  cases run with
  | unbounded =>
    rw [repeat_succ_unbounded]
    exact (Nat.zero_sub n).symm
  | count k =>
    rw [repeat_succ_count]
    exact Nat.sub_add_eq requested k n

/-- In verbatim mode linefeeds go out at once; what is requested stays requested. -/
theorem writeBytes_linefeeds : ∀ (n : Nat) {w : Writer}, w.verbatim ≠ 0 →
    w.writeBytes (List.replicate n linefeed) =
      { w with out := w.out ++ List.replicate n linefeed, run := Nat.repeat LinefeedRun.succ n w.run }
  | 0, w, _ => by
    have hout : w.out ++ ([] : List UInt8) = w.out := by simp
    rw [List.replicate_zero, hout]
    rfl
  | n + 1, w, h => by
    have hout : w.out ++ List.replicate n linefeed ++ [linefeed] = w.out ++ List.replicate (n + 1) linefeed :=
      Array.ext' (by simp [List.replicate_succ'])
    rw [List.replicate_succ', writeBytes_append, writeBytes_linefeeds n h, ← List.replicate_succ', ← hout,
      writeBytes_cons, writeByte, if_pos rfl, decide_eq_false h]
    rfl

/-- **What verbatim bytes add to the output**: their first linefeeds, what is still due behind these, and the rest. -/
theorem out_enterVerbatim (w : Writer) (n : Nat) {rest : List UInt8} (hrest : rest.head? ≠ some linefeed) :
    (w.enterVerbatim.writeBytes (List.replicate n linefeed ++ rest)).out.toList =
      w.out.toList ++ List.replicate n linefeed ++ (if rest = [] then [] else w.dueBehind n ++ rest) := by
  have hlead := writeBytes_linefeeds n (w := w.enterVerbatim) (Nat.succ_ne_zero w.verbatim)
  rw [writeBytes_append, hlead]
  cases rest with
  | nil => simp [writeBytes, writeLines, writeContent, enterVerbatim]
  | cons first rest =>
    have hfirst : first ≠ linefeed := by simpa using hrest
    have hpass := writeBytes_enterVerbatim
      { w with out := w.out ++ List.replicate n linefeed, run := Nat.repeat LinefeedRun.succ n w.run } hfirst rest
    refine (congrArg (fun w => w.out.toList) hpass).trans ?_
    rw [if_neg (List.cons_ne_nil _ _)]
    simp [passThrough, due, dueBehind, missing_repeat_succ, indent]

theorem dueBehind_eq_nil_iff {w : Writer} {n : Nat} : w.dueBehind n = [] ↔ w.run.missing w.requested ≤ n := by
  rw [← List.length_eq_zero_iff, length_dueBehind, Nat.mul_eq_zero, Nat.sub_eq_zero_iff_le]
  exact or_iff_left (Nat.succ_ne_zero _)

/-- A linefeed at the front of the bytes leaves less to come behind it, unless nothing is due. -/
theorem dueBehind_succ_eq_iff {w : Writer} {n : Nat} :
    (w.dueBehind (n + 1)).length = w.due.length ↔ w.due = [] := by
  have hdue : w.due = w.dueBehind 0 := rfl
  rw [hdue, dueBehind_eq_nil_iff, length_dueBehind, length_dueBehind, Nat.mul_left_inj (Nat.succ_ne_zero _)]
  omega

/-- What comes out is what is due and the bytes exactly if nothing is due or the bytes begin with content. -/
theorem untouched_iff (w : Writer) (n : Nat) {rest : List UInt8} (hrest : rest.head? ≠ some linefeed) :
    List.replicate n linefeed ++ (if rest = [] then [] else w.dueBehind n ++ rest) =
        w.due ++ (List.replicate n linefeed ++ rest) ↔
      w.due = [] ∨ ∃ first more, List.replicate n linefeed ++ rest = first :: more ∧ first ≠ linefeed := by
  have hdue : w.due = w.dueBehind 0 := rfl
  cases n with
  | zero =>
    cases rest with
    | nil =>
      refine ⟨fun h => .inl (by simpa using h.symm), fun h => ?_⟩
      have hnone : w.due = [] := by simpa using h
      rw [hnone]
      rfl
    | cons first rest =>
      have hfirst : first ≠ linefeed := by simpa using hrest
      exact iff_of_true rfl (.inr ⟨first, rest, rfl, hfirst⟩)
  | succ n =>
    have hlead : ¬ ∃ first more, List.replicate (n + 1) linefeed ++ rest = first :: more ∧ first ≠ linefeed := by
      rintro ⟨first, more, heq, hfirst⟩
      exact hfirst (List.cons.inj heq).1.symm
    rw [or_iff_left hlead]
    constructor
    · intro h
      have hlength := congrArg List.length h
      split at hlength
      · refine List.length_eq_zero_iff.1 ?_
        simp only [List.length_append, List.length_nil] at hlength
        omega
      · refine (dueBehind_succ_eq_iff (n := n)).1 ?_
        simp only [List.length_append] at hlength
        omega
    · intro h
      have hbehind : w.dueBehind (n + 1) = [] := by
        rw [hdue, dueBehind_eq_nil_iff] at h
        exact dueBehind_eq_nil_iff.2 (by omega)
      rw [h, hbehind]
      split
      · rename_i hnil
        rw [hnil]
        rfl
      · rfl

end Writer

/-- **Verbatim bytes come out untouched if they begin with content, or if nothing is due**, for every writer and every
way to write the bytes.  The linefeeds that they begin with come out first, then as many linefeeds with the line prefix
as are still missing to what was requested, then the rest; what is requested comes out with content only. -/
theorem verbatim_of_chunks (w : Writer) (chunks : List Chunk) :
    (chunks.foldl Chunk.write w.enterVerbatim).out.toList =
        w.out.toList ++ (chunks.flatMap Chunk.content).takeWhile (· = linefeed) ++
          (if (chunks.flatMap Chunk.content).dropWhile (· = linefeed) = [] then []
            else w.dueBehind ((chunks.flatMap Chunk.content).takeWhile (· = linefeed)).length ++
              (chunks.flatMap Chunk.content).dropWhile (· = linefeed)) ∧
      ((chunks.foldl Chunk.write w.enterVerbatim).out.toList = w.out.toList ++ w.due ++ chunks.flatMap Chunk.content ↔
        w.due = [] ∨ ∃ first rest, chunks.flatMap Chunk.content = first :: rest ∧ first ≠ linefeed) := by
  rw [Chunk.write_eq, ← List.foldl_map (g := fun w bytes => Writer.writeBytes bytes w), Writer.foldl_writeBytes,
    ← List.flatMap_def]
  generalize chunks.flatMap Chunk.content = bytes
  have hbytes := List.takeWhile_append_dropWhile (p := fun b => decide (b = linefeed)) (l := bytes)
  have hlead : ∃ n, bytes.takeWhile (· = linefeed) = List.replicate n linefeed :=
    ⟨_, List.eq_replicate_iff.2 ⟨rfl, fun b hb => by simpa using List.mem_takeWhile_imp hb⟩⟩
  have hrest : (bytes.dropWhile (· = linefeed)).head? ≠ some linefeed := fun h => by
    have hstop := List.head?_dropWhile_not (fun b => decide (b = linefeed)) bytes
    rw [h] at hstop
    simp at hstop
  generalize bytes.takeWhile (· = linefeed) = lead at hbytes hlead ⊢
  generalize bytes.dropWhile (· = linefeed) = rest at hbytes hrest ⊢
  obtain ⟨n, rfl⟩ := hlead
  subst hbytes
  rw [List.length_replicate, w.out_enterVerbatim n hrest]
  refine ⟨rfl, ?_⟩
  rw [List.append_assoc, List.append_assoc, List.append_cancel_left_eq]
  exact w.untouched_iff n hrest

/-- A letter, a line prefix, and two linefeeds that are due. -/
def duePage : Writer := ((Writer.empty.write ['a']).pushIndent ['>']).ensureLinefeeds 2

/-- Of a linefeed and a letter the linefeed comes out first, then one that is due, with its prefix, then the letter. -/
theorem linefeed_among_verbatim_bytes :
    ([.raw [10], .text ['x']].foldl Chunk.write duePage.enterVerbatim).out.toList = [97, 10, 10, 62, 120] ∧
      ([.raw [10], .text ['x']].foldl Chunk.write duePage.enterVerbatim).out.toList ≠
        duePage.out.toList ++ duePage.due ++ [10, 120] := by decide

end BlogMarkdown.Markdown
