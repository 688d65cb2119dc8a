import BlogMarkdown.Proofs.Shortcode.AttributeOffsets
import BlogMarkdown.Proofs.Shortcode.MathRewriting
import BlogMarkdown.Proofs.Shortcode.TagOffsets
/-!
# Offsets of tags and spans in a text

A text is scanned while it is edited: an offset goes from bracket to bracket, an escape is replaced by what it stands
for, and the search goes on behind that, in the text that is there then.  The two offsets at which a tag or a span is
cut out of the text node are those of the edited text.  Whatever the text, each cut is between characters and each loop
ends, and the store is that of rewriting by characters.
-/
namespace BlogMarkdown.Shortcode

open Dom
open Text (Stuck Guarded Rest slice sliceFrom truncate replaceRange bytesFrom findByte)
open Text.Utf8 (encode byteLength byteLength_append byteLength_cons)

variable {registry : Registry}

/-! ## Scanning -/

/-- A tag found in a text, by the offsets of its two ends. -/
structure Found where
  start : Nat
  stop : Nat
  name : List Char
  opens : Bool
  closes : Bool
  attributes : List (List Char × List Char)
  deriving Repr, DecidableEq

/-- What is done at a bracket; `go` scans on from an offset. -/
def scanBracketAt (registry : Registry) (limit : Nat) (go : List Char → Nat → Guarded (List Char × Option Found))
    (text : List Char) (start : Nat) : Guarded (List Char × Option Found) := do
  let behind ← sliceFrom text (start + 1)
  match ← lexAt registry behind with
  | none => go text (start + 1)
  | some (.escape length literal) =>
    let text ← replaceRange text start (start + 1 + length) literal
    go text (start + byteLength literal)
  | some (.tag length name opens closes attributes) =>
    let attributes ← Attributes.parseAt limit attributes
    pure (text, some ⟨start, start + 1 + length, name, opens, closes, attributes⟩)

/-- Scans a text from an offset on, and resolves the escapes before the first tag in place. -/
def scanAt (registry : Registry) (limit : Nat) : Nat → List Char → Nat → Guarded (List Char × Option Found)
  | 0, _, _ => .error .steps
  | steps + 1, text, offset => do
    let bytes ← bytesFrom (encode text) offset
    match findByte '['.toUInt8 bytes with
    | none => pure (text, none)
    | some distance => scanBracketAt registry limit (scanAt registry limit steps) text (offset + distance)

def Tag.found (tag : Tag) (start : Nat) : Found :=
  ⟨start, start + 1 + byteLength tag.source, tag.name, tag.opens, tag.closes, Attributes.parse tag.attributes⟩

/-- What a scan finds: the text with its escapes resolved, and the place of its first tag. -/
def Scan.found : Scan → List Char × Option Found
  | .plain text => (text, none)
  | .tagged before tag after => (before ++ '[' :: tag.source ++ after, some (tag.found (byteLength before)))

theorem scanFrom_free (registry : Registry) : ∀ {skipped : List Char}, '[' ∉ skipped → ∀ before rest : List Char,
    scanFrom registry before 0 (skipped ++ rest) = scanFrom registry (skipped.reverse ++ before) 0 rest
  | [], _, _, _ => rfl
  | c :: skipped, h, before, rest => by
    rw [List.mem_cons, not_or] at h
    rw [List.cons_append, scanFrom, if_pos (Ne.symm h.1), scanFrom_free registry h.2, List.reverse_cons,
      List.append_assoc, List.singleton_append]

theorem scanFrom_skip : ∀ (skipped before rest : List Char),
    scanFrom registry before skipped.length (skipped ++ rest) = scanFrom registry before 0 rest
  | [], _, _ => rfl
  | _ :: skipped, before, rest => scanFrom_skip skipped before rest

theorem length_attributes_le {text : List Char} {tag : Tag} (h : lex registry text = some (.tag tag)) :
    tag.attributes.length ≤ text.length := by
  have hmem := List.getLast_mem (l := (Lexeme.tag tag).slices) (List.cons_ne_nil _ _)
  obtain ⟨before, after, htext, -⟩ := isSlice_of_lex h _ hmem
  rw [htext, List.length_append, List.length_append]
  exact Nat.le_trans (Nat.le_add_left ..) (Nat.le_add_right ..)

theorem scanBracketAt_eq (registry : Registry) {limit : Nat} {behind : List Char} (hlimit : behind.length < limit)
    {go : List Char → Nat → Guarded (List Char × Option Found)}
    (hgo : ∀ before rest, rest.length ≤ behind.length →
      go (before ++ rest) (byteLength before) = .ok (scanFrom registry before.reverse 0 rest).found)
    (before : List Char) :
    scanBracketAt registry limit go (before ++ '[' :: behind) (byteLength before) =
      .ok (scanFrom registry before.reverse 0 ('[' :: behind)).found := by
  have hstart : Rest (before ++ '[' :: behind) (byteLength before) ('[' :: behind) := Text.rest_append ..
  rw [scanBracketAt, (hstart.cons (by decide)).sliceFrom, scanFrom, if_neg (not_not_intro rfl)]
  dsimp only [bind, Except.bind]
  rw [lexAt_eq]
  cases hlex : lex registry behind with
  | none =>
    have hnext := hgo (before ++ ['[']) behind (Nat.le_refl _)
    rw [← List.append_cons, byteLength_concat (by decide), List.reverse_append] at hnext
    exact hnext
  | some l =>
    cases l with
    | escape source literal =>
      obtain ⟨-, -, after, rfl⟩ := lex_escape_eq hlex
      have hreplace := Text.replaceRange_append before ('[' :: source) literal after
      have hnext := hgo (before ++ literal) after (by rw [List.length_append]; omega)
      rw [byteLength_append, List.reverse_append] at hnext
      rw [byteLength_cons, Text.byteLength_ascii (by decide), ← Nat.add_assoc, List.cons_append] at hreplace
      dsimp only [Option.map_some, Lexeme.extent]
      rw [hreplace, scanFrom_skip, ← hnext]
    | tag tag =>
      have hattributes := length_attributes_le hlex
      obtain ⟨-, after, rfl⟩ := lex_tag_eq hlex
      have hparse : Attributes.parseAt limit tag.attributes = .ok (Attributes.parse tag.attributes) :=
        Attributes.entriesAt_eq _ (Text.rest_zero _) (Nat.lt_of_le_of_lt hattributes hlimit) (Nat.lt_succ_self _)
      dsimp only [Option.map_some, Lexeme.extent]
      rw [hparse, List.drop_left, List.reverse_reverse]
      show Except.ok (_, _) = Except.ok (before ++ '[' :: tag.source ++ after, _)
      rw [List.append_assoc, List.cons_append]
      rfl

/-- **Scanning by offsets finds what scanning by characters finds**, also behind escapes that made the text shorter. -/
theorem scanAt_eq (registry : Registry) {limit : Nat} : ∀ {steps : Nat} (before : List Char) {rest : List Char},
    rest.length < steps → rest.length < limit →
    scanAt registry limit steps (before ++ rest) (byteLength before) =
      .ok (scanFrom registry before.reverse 0 rest).found
  | 0, _, _, hsteps, _ => absurd hsteps (Nat.not_lt_zero _)
  | steps + 1, before, rest, hsteps, hlimit => by
    have hrest : Rest (before ++ rest) (byteLength before) rest := Text.rest_append ..
    rw [scanAt, hrest.bytesFrom]
    dsimp only [bind, Except.bind]
    by_cases hmem : '[' ∈ rest
    · obtain ⟨skipped, behind, rfl, hfree⟩ := List.eq_append_cons_of_mem hmem
      rw [List.length_append, List.length_cons] at hsteps hlimit
      have hgo : ∀ before' rest' : List Char, rest'.length ≤ behind.length →
          scanAt registry limit steps (before' ++ rest') (byteLength before') =
            .ok (scanFrom registry before'.reverse 0 rest').found := fun before' rest' hle =>
        scanAt_eq registry before' (by omega) (by omega)
      have hbracket := scanBracketAt_eq registry (show behind.length < limit by omega) hgo (before ++ skipped)
      rw [byteLength_append, List.reverse_append, List.append_assoc] at hbracket
      rw [Text.findByte_append (by decide) hfree, scanFrom_free registry hfree]
      exact hbracket
    · have hplain := scanFrom_free registry hmem before.reverse []
      rw [List.append_nil, scanFrom, List.reverse_append, List.reverse_reverse, List.reverse_reverse] at hplain
      rw [Text.findByte_none (by decide) hmem, hplain]
      rfl

/-! ## Cutting a text node -/

/-- Cuts a text node: it keeps the text before `stop`, and the text from `start` on becomes a new node behind it. -/
def splitTextAt (s : Store) (id : NodeId) (stop start : Nat) : Guarded (Store × NodeId) := do
  let (s, behind) ← match s.text? id with
    | some content => do
      let behind ← sliceFrom content start
      let kept ← truncate content stop
      pure (s.setText id kept, behind)
    | none => pure (s, [])
  let (s, tail) := s.create (.text behind)
  pure (s.insertAfter (some id) (some tail), tail)

/-- **A text node is cut at the two ends of a slice**, as by characters. -/
theorem splitTextAt_eq {s : Store} {id : NodeId} {before between after : List Char}
    (h : s.text? id = some (before ++ between ++ after)) :
    splitTextAt s id (byteLength before) (byteLength (before ++ between)) =
      .ok (s.splitText id (byteLength before) (byteLength (before ++ between))) := by
  have hbehind : sliceFrom (before ++ between ++ after) (byteLength (before ++ between)) = .ok after :=
    (Text.rest_append ..).sliceFrom
  have hkept : truncate (before ++ between ++ after) (byteLength before) = .ok before := by
    rw [List.append_assoc]
    exact Text.truncate_append ..
  rw [splitTextAt, h, Store.splitText, h, Option.getD_some, Text.Utf8.dropBytes_byteLength_append]
  dsimp only [bind, Except.bind]
  rw [hbehind, hkept, List.append_assoc, Text.Utf8.takeBytes_byteLength_append]
  rfl

end BlogMarkdown.Shortcode
