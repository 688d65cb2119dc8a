import BlogMarkdown.Proofs.Shortcode.Covering
import BlogMarkdown.Proofs.Text.Offsets
/-!
# Offsets of attributes

The entries of an attribute text are read from its bytes: an offset goes over blanks, keys and values, and each key and
each value is cut out where their runs end or a quote is found.  Whatever the text, each cut is between characters, the
reading ends, and what is read is what reading by characters gives.
-/
namespace BlogMarkdown.Shortcode.Attributes

open Text (Guarded Rest Coarse slice bytesFrom findByte runEnd span_eq_iff)
open Text.Utf8 (encode byteLength byteLength_append byteLength_cons)

/-! ## Reading by bytes -/

/-- A value between two quotes, and the offset behind the second one. -/
def quotedAt (quote : UInt8) (text : List Char) (offset : Nat) : Guarded (Option (List Char × Nat)) := do
  if (encode text)[offset]? = some quote then
    let behind ← bytesFrom (encode text) (offset + 1)
    match findByte quote behind with
    | none => pure none
    | some length =>
      let value ← slice text (offset + 1) (offset + 1 + length)
      pure (some (value, offset + 1 + length + 1))
  else pure none

/-- A value in quotes of either kind, if a quote stands at the offset. -/
def enclosedAt (text : List Char) (offset : Nat) : Guarded (Option (List Char × Nat)) :=
  match (encode text)[offset]? with
  | some quote => if isQuote (.ofUInt8 quote) then quotedAt quote text offset else pure none
  | none => pure none

/-- A value behind `key=`, and the offset behind it. -/
def valueAt (text : List Char) (offset : Nat) : Guarded (Option (List Char × Nat)) := do
  match ← enclosedAt text offset with
  | some found => pure (some found)
  | none =>
    let stop := runEnd (fun c => !isSpace c && !isQuote c) (encode text) offset
    if stop = offset then pure none
    else
      let value ← slice text offset stop
      pure (some (value, stop))

/-- An entry `key=value`, and the offset behind it. -/
def pairAt (text : List Char) (offset : Nat) : Guarded (Option ((List Char × List Char) × Nat)) := do
  let keyEnd := runEnd isWord (encode text) offset
  if keyEnd ≠ offset ∧ (encode text)[keyEnd]? = some '='.toUInt8 then
    match ← valueAt text (keyEnd + 1) with
    | none => pure none
    | some (value, next) =>
      let key ← slice text offset keyEnd
      pure (some ((key, value), next))
  else pure none

/-- A value without a key, and the offset behind it. -/
def positionalAt (text : List Char) (offset : Nat) : Guarded (List Char × Nat) := do
  match ← quotedAt '"'.toUInt8 text offset with
  | some found => pure found
  | none =>
    let stop := runEnd (fun c => !isSpace c) (encode text) offset
    let value ← slice text offset stop
    pure (value, stop)

/-- The entries from an offset on; `n` counts the values without a key so far. -/
def entriesAt (text : List Char) : Nat → Nat → Nat → Guarded (List (List Char × List Char))
  | 0, _, _ => .error .steps
  | steps + 1, n, offset => do
    let start := runEnd isSpace (encode text) offset
    if (encode text).length ≤ start then pure []
    else match ← pairAt text start with
      | some (pair, next) =>
        let entries ← entriesAt text steps n next
        pure (pair :: entries)
      | none =>
        let (value, next) ← positionalAt text start
        let entries ← entriesAt text steps (n + 1) next
        pure ((positionalKey n, value) :: entries)

/-- The entries of a text, in at most `limit` steps. -/
def parseAt (limit : Nat) (text : List Char) : Guarded (List (List Char × List Char)) := entriesAt text limit 0 0

/-! ## Kinds of characters -/

theorem coarse_isSpace : Coarse isSpace := Text.coarse_of_ascii fun c hc => by
  simp only [isSpace, Bool.or_eq_true, decide_eq_true_eq] at hc
  rcases hc with (((rfl | rfl) | rfl) | rfl) | rfl <;> decide

theorem isQuote_iff {c : Char} : isQuote c = true ↔ c = '"' ∨ c = '\'' := by
  simp only [isQuote, Bool.or_eq_true, decide_eq_true_eq]

theorem ascii_of_isQuote {c : Char} (hc : isQuote c = true) : c.toNat < 0x80 := by
  rcases isQuote_iff.1 hc with rfl | rfl <;> decide

theorem coarse_isQuote : Coarse isQuote := Text.coarse_of_ascii fun _ => ascii_of_isQuote

theorem coarse_isWord : Coarse isWord := Text.coarse_of_ascii fun c hc => by
  simp only [isWord, Bool.or_eq_true, decide_eq_true_eq] at hc
  rcases hc with hc | rfl
  · exact Text.ascii_of_isAlphanum hc
  · decide

theorem coarse_bare : Coarse fun c => !isSpace c && !isQuote c := coarse_isSpace.map₂ coarse_isQuote fun a b => !a && !b

theorem coarse_not_isSpace : Coarse fun c => !isSpace c := coarse_isSpace.map not

/-! ## One entry -/

/-- **Reading by bytes gives what reading by characters gives**, and goes on where the latter goes on. -/
def Reads {α : Type} (text : List Char) (found : Option (α × List Char)) (r : Guarded (Option (α × Nat))) : Prop :=
  match found with
  | none => r = .ok none
  | some (a, rest) => ∃ next, r = .ok (some (a, next)) ∧ Rest text next rest

variable {text rest : List Char} {offset : Nat}

theorem reads_quotedAt {c : Char} (h : Rest text offset rest) (hc : c.toNat < 0x80) :
    Reads text (quotedValue? c rest) (quotedAt c.toUInt8 text offset) := by
  unfold quotedAt
  rw [h.getElem?]
  by_cases hhead : rest.head? = some c
  · obtain ⟨behind, rfl⟩ := List.head?_eq_some_iff.1 hhead
    have hbehind := h.cons hc
    rw [if_pos ((Text.head?_encode hc _).2 rfl), hbehind.bytesFrom]
    by_cases hmem : c ∈ behind
    · obtain ⟨value, after, rfl, hvalue⟩ := List.eq_append_cons_of_mem hmem
      rw [quotedValue?_eq_some_iff.2 ⟨rfl, hvalue⟩]
      refine ⟨_, ?_, hbehind.append.cons hc⟩
      dsimp only [bind, Except.bind]
      rw [Text.findByte_append hc hvalue]
      dsimp only
      rw [hbehind.slice]
      rfl
    · have hnone : quotedValue? c (c :: behind) = none := by
        by_contra hne
        obtain ⟨⟨value, after⟩, hfound⟩ := Option.ne_none_iff_exists'.1 hne
        obtain ⟨htext, -⟩ := quotedValue?_eq_some_iff.1 hfound
        rw [(List.cons.inj htext).2] at hmem
        exact hmem (List.mem_append_right _ List.mem_cons_self)
      rw [hnone]
      dsimp only [bind, Except.bind]
      rw [Text.findByte_none hc hmem]
      rfl
  · rw [if_neg (mt (Text.head?_encode hc rest).1 hhead), quotedValue?_of_ne hhead]
    rfl

/-- A run of bytes is cut out as the run of characters. -/
theorem slice_run {p : Char → Bool} (h : Rest text offset rest) (hp : Coarse p) :
    slice text offset (runEnd p (encode text) offset) = .ok (rest.takeWhile p) ∧
      Rest text (runEnd p (encode text) offset) (rest.dropWhile p) := by
  have hrun : Rest text offset (rest.takeWhile p ++ rest.dropWhile p) := by rwa [List.takeWhile_append_dropWhile]
  rw [h.runEnd hp]
  exact ⟨hrun.slice, hrun.append⟩

theorem runEnd_eq_iff {p : Char → Bool} (h : Rest text offset rest) (hp : Coarse p) :
    runEnd p (encode text) offset = offset ↔ rest.takeWhile p = [] := by
  rw [h.runEnd hp, Nat.add_eq_left, Text.byteLength_eq_zero_iff]

theorem reads_enclosedAt {c : Char} (h : Rest text offset (c :: rest)) :
    Reads text (if isQuote c then quotedValue? c (c :: rest) else none) (enclosedAt text offset) := by
  unfold enclosedAt
  rw [h.getElem?]
  cases hquote : isQuote c with
  | true =>
    have hc := ascii_of_isQuote hquote
    rw [Text.encode_ascii_cons hc, List.head?_cons]
    dsimp only
    rw [Text.ofUInt8_toUInt8 hc, hquote]
    exact reads_quotedAt h hc
  | false =>
    obtain ⟨b, bytes, hc, -⟩ := Text.Utf8.front_utf8EncodeChar c
    have hb : isQuote (.ofUInt8 b) = false := (coarse_isQuote.apply_byte (hc ▸ List.mem_cons_self)).trans hquote
    rw [Text.Utf8.encode_cons, hc, List.cons_append, List.head?_cons]
    dsimp only
    rw [hb]
    rfl

theorem reads_bare (h : Rest text offset rest) :
    Reads text (if (rest.span fun c => !isSpace c && !isQuote c).1.isEmpty then none
        else some (rest.span fun c => !isSpace c && !isQuote c))
      (let stop := runEnd (fun c => !isSpace c && !isQuote c) (encode text) offset
      if stop = offset then pure none
      else do
        let value ← slice text offset stop
        pure (some (value, stop))) := by
  obtain ⟨hcut, hnext⟩ := slice_run h coarse_bare
  rw [List.span_eq_takeWhile_dropWhile]
  dsimp only
  by_cases hempty : rest.takeWhile (fun c => !isSpace c && !isQuote c) = []
  · rw [if_pos (by rw [hempty]; rfl), if_pos ((runEnd_eq_iff h coarse_bare).2 hempty)]
    rfl
  · rw [if_neg (by simpa using hempty), if_neg (mt (runEnd_eq_iff h coarse_bare).1 hempty), hcut]
    exact ⟨_, rfl, hnext⟩

theorem reads_valueAt (h : Rest text offset rest) : Reads text (value? rest) (valueAt text offset) := by
  unfold valueAt
  cases rest with
  | nil =>
    have hnone : enclosedAt text offset = .ok none := by
      unfold enclosedAt
      rw [h.getElem?]
      rfl
    rw [hnone]
    exact reads_bare h
  | cons c rest =>
    have hquoted := reads_enclosedAt h
    unfold value?
    dsimp only
    cases hfound : (if isQuote c then quotedValue? c (c :: rest) else none) with
    | none =>
      rw [hfound] at hquoted
      rw [show enclosedAt text offset = .ok none from hquoted]
      exact reads_bare h
    | some found =>
      rw [hfound] at hquoted
      obtain ⟨next, hr, hnext⟩ := hquoted
      rw [hr]
      exact ⟨next, rfl, hnext⟩

theorem reads_pairAt (h : Rest text offset rest) :
    Reads text ((pair? rest).map fun p => ((p.1, p.2.1), p.2.2)) (pairAt text offset) := by
  obtain ⟨hcut, hbehind⟩ := slice_run h coarse_isWord
  have hempty := runEnd_eq_iff h coarse_isWord
  unfold pairAt
  dsimp only
  rw [hbehind.getElem?]
  by_cases hhead : (rest.dropWhile isWord).head? = some '='
  · obtain ⟨behind, hdrop⟩ := List.head?_eq_some_iff.1 hhead
    have hrest : rest = rest.takeWhile isWord ++ '=' :: behind := by rw [← hdrop, List.takeWhile_append_dropWhile]
    have hvalue := reads_valueAt (Rest.cons (c := '=') (hdrop ▸ hbehind) (by decide))
    by_cases hkey : rest.takeWhile isWord = []
    · rw [if_neg fun hne => hne.1 (hempty.2 hkey), hrest, hkey]
      rfl
    · have hpair := pair?_key ⟨hkey, fun c => List.mem_takeWhile_imp⟩ behind
      rw [← hrest] at hpair
      rw [if_pos ⟨mt hempty.1 hkey, (Text.head?_encode (by decide) _).2 hhead⟩, hpair]
      cases hfound : value? behind with
      | none =>
        rw [hfound] at hvalue
        rw [show valueAt text _ = .ok none from hvalue]
        rfl
      | some found =>
        rw [hfound] at hvalue
        obtain ⟨next, hr, hnext⟩ := hvalue
        rw [hr]
        dsimp only [bind, Except.bind]
        rw [hcut]
        exact ⟨next, rfl, hnext⟩
  · rw [if_neg fun hfound => hhead ((Text.head?_encode (by decide) _).1 hfound.2), pair?_of_stop hhead]
    rfl

theorem positionalAt_eq (h : Rest text offset rest) :
    ∃ next, positionalAt text offset = .ok ((positional rest).1, next) ∧ Rest text next (positional rest).2 := by
  have hquoted := reads_quotedAt (c := '"') h (by decide)
  unfold positionalAt positional
  cases hfound : quotedValue? '"' rest with
  | none =>
    obtain ⟨hcut, hnext⟩ := slice_run h coarse_not_isSpace
    rw [hfound] at hquoted
    rw [show quotedAt _ text offset = .ok none from hquoted, Option.getD_none, List.span_eq_takeWhile_dropWhile]
    dsimp only [bind, Except.bind]
    rw [hcut]
    exact ⟨_, rfl, hnext⟩
  | some found =>
    rw [hfound] at hquoted
    obtain ⟨next, hr, hnext⟩ := hquoted
    rw [hr]
    exact ⟨next, rfl, hnext⟩

/-! ## All entries -/

/-- Nothing stands at an offset exactly if it is that of the end. -/
theorem end_le_iff (h : Rest text offset rest) : (encode text).length ≤ offset ↔ rest = [] := by
  obtain ⟨before, rfl, rfl⟩ := h
  rw [Text.Utf8.length_encode, byteLength_append, ← Text.byteLength_eq_zero_iff]
  omega

theorem length_of_pair? {key value after : List Char} (h : pair? rest = some (key, value, after)) :
    after.length < rest.length := by
  obtain ⟨e, -, -, rfl, he⟩ := pair?_eq_some h
  obtain ⟨c, s, hbegin, -⟩ := exists_text_eq he.fits
  rw [hbegin, List.length_append, List.length_cons]
  omega

theorem length_of_positional {c : Char} (hc : isSpace c = false) (s : List Char) :
    (positional (c :: s)).2.length < (c :: s).length := by
  unfold positional
  cases hquoted : quotedValue? '"' (c :: s) with
  | some found =>
    obtain ⟨value, after⟩ := found
    obtain ⟨htext, -⟩ := quotedValue?_eq_some_iff.1 hquoted
    rw [Option.getD_some, htext, List.length_cons, List.length_append, List.length_cons]
    exact Nat.lt_of_le_of_lt (Nat.le_succ_of_le (Nat.le_add_left ..)) (Nat.lt_succ_self _)
  | none =>
    rw [Option.getD_none, List.span_eq_takeWhile_dropWhile, List.dropWhile_cons_of_pos (by rw [hc]; rfl)]
    exact Nat.lt_succ_of_le (List.length_dropWhile_le ..)

/-- **The entries read from the bytes are those read from the characters**, in every number of steps above the length
of the text. -/
theorem entriesAt_eq (text : List Char) : ∀ {steps fuel n offset : Nat} {rest : List Char}, Rest text offset rest →
    rest.length < steps → rest.length < fuel → entriesAt text steps n offset = .ok (entries fuel n rest)
  | 0, _, _, _, _, _, hsteps, _ => absurd hsteps (Nat.not_lt_zero _)
  | _ + 1, 0, _, _, _, _, _, hfuel => absurd hfuel (Nat.not_lt_zero _)
  | steps + 1, fuel + 1, n, offset, rest, h, hsteps, hfuel => by
    obtain ⟨-, hstart⟩ := slice_run h coarse_isSpace
    have hle : (rest.dropWhile isSpace).length ≤ rest.length := List.length_dropWhile_le ..
    rw [entriesAt, entries]
    dsimp only
    cases hdrop : rest.dropWhile isSpace with
    | nil => rw [if_pos ((end_le_iff hstart).2 hdrop)]; rfl
    | cons c s =>
      rw [hdrop] at hstart hle
      rw [if_neg (mt (end_le_iff hstart).1 (List.cons_ne_nil c s))]
      have hpair := reads_pairAt hstart
      dsimp only
      cases hfound : pair? (c :: s) with
      | some found =>
        obtain ⟨key, value, after⟩ := found
        have hlen := length_of_pair? hfound
        rw [hfound] at hpair
        obtain ⟨next, hr, hnext⟩ := hpair
        have hgo : entriesAt text steps n next = .ok (entries fuel n after) :=
          entriesAt_eq text hnext (Nat.lt_of_lt_of_le hlen (by omega)) (Nat.lt_of_lt_of_le hlen (by omega))
        rw [hr]
        dsimp only [bind, Except.bind]
        rw [hgo]
        rfl
      | none =>
        have hc : isSpace c = false := by
          have hhead := List.head?_dropWhile_not isSpace rest
          rw [hdrop] at hhead
          simpa using hhead
        have hlen := length_of_positional hc s
        rw [hfound] at hpair
        obtain ⟨next, hr, hnext⟩ := positionalAt_eq hstart
        have hgo : entriesAt text steps (n + 1) next = .ok (entries fuel (n + 1) (positional (c :: s)).2) :=
          entriesAt_eq text hnext (by omega) (by omega)
        rw [show pairAt text _ = .ok none from hpair]
        dsimp only [bind, Except.bind]
        rw [hr]
        dsimp only
        rw [hgo]
        rfl

end BlogMarkdown.Shortcode.Attributes
