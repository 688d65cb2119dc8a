import BlogMarkdown.Proofs.Shortcode.Lexing
import BlogMarkdown.Proofs.Text.Offsets
/-!
# Offsets of tags

A tag is lexed from the bytes behind its bracket: the name ends where its run of bytes does, the first byte of a closing
bracket ends the tag, and name, attributes and escaped text are cut out of the text at these offsets.  Whatever the
text, each cut is between characters, and what is read is what lexing by characters gives.
-/
namespace BlogMarkdown.Shortcode

open Text (Guarded Rest Coarse slice sliceFrom byteAt findByte runEnd)
open Text.Utf8 (encode byteLength byteLength_append byteLength_cons)

/-! ## Lexing by bytes -/

/-- What begins at a bracket, with the number of bytes behind the bracket that belong to it. -/
inductive Extent where
  | escape (length : Nat) (literal : List Char)
  | tag (length : Nat) (name : List Char) (opens closes : Bool) (attributes : List Char)
  deriving Repr, DecidableEq

/-- An escape has nothing between the name and the bracket, and another bracket behind it. -/
def escapeAt (text : List Char) (nameEnd stop : Nat) : Guarded (Option Extent) := do
  if stop = nameEnd ∧ (encode text)[stop + 1]? = some ']'.toUInt8 then
    let literal ← slice text 0 (stop + 1)
    pure (some (.escape (stop + 2) literal))
  else pure none

/-- Whether a slash stands before the bracket, behind the name. -/
def slashAt (text : List Char) (nameEnd stop : Nat) : Guarded Bool := do
  if nameEnd < stop then
    let last ← byteAt (encode text) (stop - 1)
    pure (last == '/'.toUInt8)
  else pure false

/-- A tag up to the bracket at `stop`; a slash before the bracket is not one of its attributes. -/
def tagAt (text name : List Char) (closing opens closes : Bool) (nameEnd stop : Nat) : Guarded (Option Extent) := do
  let slash ← slashAt text nameEnd stop
  if slash then
    let attributes ← slice text nameEnd (stop - 1)
    pure (some (.tag (stop + 1) name opens true attributes))
  else if closing ∧ stop ≠ nameEnd then pure none
  else
    let attributes ← slice text nameEnd stop
    pure (some (.tag (stop + 1) name opens closes attributes))

/-- What the first bracket ends, if a name ends before it. -/
def bracketAt (text name : List Char) (escaped closing block : Bool) (nameEnd : Nat) : Guarded (Option Extent) :=
  match findByte ']'.toUInt8 (encode text) with
  | none => pure none
  | some stop =>
    if stop < nameEnd then pure none
    else if escaped then escapeAt text nameEnd stop
    else tagAt text name closing (!closing || !block) (closing || !block) nameEnd stop

/-- Lexes from the offset where a name begins.  There is no closing form of a standalone tag. -/
def lexNameAt (registry : Registry) (text : List Char) (escaped closing : Bool) (nameStart : Nat) :
    Guarded (Option Extent) := do
  let behind ← sliceFrom text nameStart
  match behind with
  | [] => pure none
  | first :: _ =>
    let nameEnd := runEnd isNameChar (encode text) (nameStart + first.utf8Size)
    let name ← slice text nameStart nameEnd
    match registry.isBlock? (String.ofList name) with
    | none => pure none
    | some block =>
      if closing ∧ !block then pure none
      else bracketAt text name escaped closing block nameEnd

/-- What begins at a bracket, given the text behind it. -/
def lexAt (registry : Registry) (text : List Char) : Guarded (Option Extent) :=
  let escaped : Bool := (encode text).head? = some '['.toUInt8
  let start := if escaped then 1 else 0
  let closing : Bool := (encode text)[start]? = some '/'.toUInt8
  lexNameAt registry text escaped closing (if closing then start + 1 else start)

/-- How many bytes a lexeme takes. -/
def Lexeme.extent : Lexeme → Extent
  | .escape source literal => .escape (byteLength source) literal
  | .tag t => .tag (byteLength t.source) t.name t.opens t.closes t.attributes

/-! ## What is found -/

variable {registry : Registry}

theorem coarse_isNameChar : Coarse isNameChar := Text.coarse_of_ascii fun c hc => by
  simp only [isNameChar, Bool.or_eq_true, decide_eq_true_eq] at hc
  rcases hc with (hc | rfl) | rfl
  · exact Text.ascii_of_isAlphanum hc
  · decide
  · decide

theorem byteLength_concat {c : Char} (hc : c.toNat < 0x80) (u : List Char) :
    byteLength (u ++ [c]) = byteLength u + 1 := by
  rw [byteLength_append, byteLength_cons, Text.byteLength_ascii hc]
  rfl

section

variable (before between rest : List Char)

theorem byteLength_append_eq_iff : byteLength (before ++ between) = byteLength before ↔ between = [] := by
  rw [byteLength_append, Nat.add_eq_left, Text.byteLength_eq_zero_iff]

theorem escapeAt_eq :
    escapeAt (before ++ (between ++ ']' :: rest)) (byteLength before) (byteLength (before ++ between)) =
      .ok (if between = [] ∧ rest.head? = some ']' then
        some (.escape (byteLength before + 2) (before ++ [']'])) else none) := by
  have hbracket : Rest (before ++ (between ++ ']' :: rest)) (byteLength (before ++ between)) (']' :: rest) :=
    ⟨before ++ between, (List.append_assoc ..).symm, rfl⟩
  have hnext : (encode (before ++ (between ++ ']' :: rest)))[byteLength (before ++ between) + 1]? = some ']'.toUInt8 ↔
      rest.head? = some ']' := by
    rw [(Rest.cons (c := ']') hbracket (by decide)).getElem?]
    exact Text.head?_encode (by decide) rest
  unfold escapeAt
  simp only [byteLength_append_eq_iff, hnext]
  by_cases h : between = [] ∧ rest.head? = some ']'
  · have hcut : slice (before ++ ']' :: rest) 0 (byteLength before + 1) = .ok (before ++ [']']) := by
      rw [List.append_cons, ← byteLength_concat (c := ']') (by decide)]
      exact Text.slice_zero ..
    rw [if_pos h, if_pos h, h.1, List.append_nil, List.nil_append, hcut]
    rfl
  · rw [if_neg h, if_neg h]
    rfl

theorem slashAt_eq :
    slashAt (before ++ (between ++ rest)) (byteLength before) (byteLength (before ++ between)) =
      .ok (decide (between.getLast? = some '/')) := by
  unfold slashAt
  by_cases h : between = []
  · rw [h, List.append_nil, if_neg (Nat.lt_irrefl _)]
    rfl
  · have hlt : byteLength before < byteLength (before ++ between) := by
      have hne := mt (byteLength_append_eq_iff before between).1 h
      rw [byteLength_append] at hne ⊢
      omega
    have hlast : (before ++ between).getLast? = between.getLast? := List.getLast?_append_of_ne_nil _ h
    obtain ⟨b, hb, hslash⟩ := Text.byteAt_last (c := '/') (by decide) (List.append_ne_nil_of_right_ne_nil before h) rest
    rw [hlast] at hslash
    rw [if_pos hlt, ← List.append_assoc, hb]
    exact congrArg Except.ok (Bool.eq_iff_iff.2 (by rw [beq_iff_eq, decide_eq_true_eq, hslash]))

theorem tagAt_eq (name : List Char) (closing opens closes : Bool) :
    tagAt (before ++ (between ++ rest)) name closing opens closes (byteLength before) (byteLength (before ++ between)) =
      .ok (if between.getLast? = some '/' then
          some (.tag (byteLength (before ++ between) + 1) name opens true between.dropLast)
        else if closing ∧ between ≠ [] then none
        else some (.tag (byteLength (before ++ between) + 1) name opens closes between)) := by
  have hstart : Rest (before ++ (between ++ rest)) (byteLength before) (between ++ rest) := Text.rest_append ..
  unfold tagAt
  rw [slashAt_eq]
  by_cases hslash : between.getLast? = some '/'
  · obtain ⟨attributes, rfl⟩ := List.getLast?_eq_some_iff.1 hslash
    have hstop : byteLength (before ++ (attributes ++ ['/'])) - 1 = byteLength before + byteLength attributes := by
      rw [← List.append_assoc, byteLength_concat (by decide), byteLength_append, Nat.add_sub_cancel]
    have hstart : Rest (before ++ (attributes ++ '/' :: rest)) (byteLength before) (attributes ++ '/' :: rest) :=
      Text.rest_append ..
    have hcut := hstart.slice
    simp only [hstop, hslash, decide_true, if_true, List.dropLast_concat, List.append_assoc, List.singleton_append]
    show (slice _ _ _ >>= _) = _
    rw [hcut]
    rfl
  · have hcut := hstart.slice
    rw [← byteLength_append] at hcut
    rw [if_neg hslash, decide_eq_false hslash]
    show (if closing = true ∧ byteLength (before ++ between) ≠ byteLength before then pure none
      else slice (before ++ (between ++ rest)) (byteLength before) (byteLength (before ++ between)) >>= _) = _
    simp only [ne_eq, byteLength_append_eq_iff, hcut]
    by_cases h : closing = true ∧ ¬ between = []
    · rw [if_pos h, if_pos h]
      rfl
    · rw [if_neg h, if_neg h]
      rfl

end

theorem not_mem_of_splitBracket {text : List Char} (h : splitBracket text = none) : ']' ∉ text := fun hmem => by
  obtain ⟨before, after, htext, hfree⟩ := List.eq_append_cons_of_mem hmem
  rw [splitBracket_eq_some_iff.2 ⟨htext, hfree⟩] at h
  cases h

/-- The bytes of a name end where the name does. -/
theorem nameEnd_eq {name after : List Char} (h : NameBefore name after) (front : List Char) : ∃ c run,
    name = c :: run ∧ runEnd isNameChar (encode (front ++ (name ++ after))) (byteLength front + c.utf8Size) =
      byteLength (front ++ name) := by
  obtain ⟨c, run, rfl, hrun⟩ := h.chars
  have hstart : Rest (front ++ (c :: run ++ after)) (byteLength front) ([c] ++ (run ++ after)) := Text.rest_append ..
  have hbehind : Rest (front ++ (c :: run ++ after)) (byteLength front + c.utf8Size) (run ++ after) := hstart.append
  have hspan := Text.span_eq_iff.2 ⟨rfl, hrun, h.stop⟩
  rw [List.span_eq_takeWhile_dropWhile, Prod.mk.injEq] at hspan
  refine ⟨c, run, rfl, ?_⟩
  rw [hbehind.runEnd coarse_isNameChar, hspan.1, byteLength_append, byteLength_cons, Nat.add_assoc]

/-- **The first bracket ends a tag** unless it belongs to the name. -/
theorem bracketAt_eq {front : List Char} (hfront : ']' ∉ front) (name after : List Char)
    (escaped closing block : Bool) :
    bracketAt (front ++ (name ++ after)) name escaped closing block (byteLength (front ++ name)) =
      if ']' ∈ name then .ok none
      else match splitBracket after with
        | none => .ok none
        | some (between, rest) =>
          if escaped then
            escapeAt (front ++ name ++ (between ++ ']' :: rest)) (byteLength (front ++ name))
              (byteLength (front ++ name ++ between))
          else
            tagAt (front ++ name ++ (between ++ ']' :: rest)) name closing (!closing || !block) (closing || !block)
              (byteLength (front ++ name)) (byteLength (front ++ name ++ between)) := by
  have hfind {u v : List Char} (htext : front ++ (name ++ after) = u ++ ']' :: v) (hu : ']' ∉ u) :
      findByte ']'.toUInt8 (encode (front ++ (name ++ after))) = some (byteLength u) :=
    htext ▸ Text.findByte_append (by decide) hu
  unfold bracketAt
  by_cases hname : ']' ∈ name
  · obtain ⟨u, v, rfl, hu⟩ := List.eq_append_cons_of_mem hname
    have hlt : byteLength (front ++ u) < byteLength (front ++ (u ++ ']' :: v)) := by
      have hc := Char.utf8Size_pos ']'
      rw [byteLength_append, byteLength_append, byteLength_append, byteLength_cons]
      omega
    rw [hfind (u := front ++ u) (v := v ++ after) (by simp) (by simp [hfront, hu]), if_pos hname]
    exact if_pos hlt
  · rw [if_neg hname]
    cases hsplit : splitBracket after with
    | none =>
      have hfree : ']' ∉ front ++ (name ++ after) := by simp [hfront, hname, not_mem_of_splitBracket hsplit]
      rw [Text.findByte_none (by decide) hfree]
      rfl
    | some found =>
      obtain ⟨between, rest⟩ := found
      obtain ⟨rfl, hbetween⟩ := splitBracket_eq_some_iff.1 hsplit
      have hle : ¬ byteLength (front ++ name ++ between) < byteLength (front ++ name) := by
        rw [byteLength_append (front ++ name)]
        omega
      rw [hfind (u := front ++ name ++ between) (v := rest) (by simp) (by simp [hfront, hname, hbetween])]
      dsimp only
      rw [if_neg hle, List.append_assoc front name (between ++ ']' :: rest)]

/-- **A name is found by its bytes as by its characters.** -/
theorem lexNameAt_eq (front body : List Char) (escaped closing : Bool) :
    lexNameAt registry (front ++ body) escaped closing (byteLength front) =
      match splitName body with
      | none => .ok none
      | some (name, after) =>
        match registry.isBlock? (String.ofList name) with
        | none => .ok none
        | some block =>
          if closing ∧ !block then .ok none
          else bracketAt (front ++ (name ++ after)) name escaped closing block (byteLength (front ++ name)) := by
  have hbody : Rest (front ++ body) (byteLength front) body := Text.rest_append ..
  unfold lexNameAt
  rw [hbody.sliceFrom]
  cases hsplit : splitName body with
  | none =>
    cases body with
    | nil => rfl
    | cons c body => cases hsplit
  | some found =>
    obtain ⟨name, after⟩ := found
    obtain ⟨rfl, hbefore⟩ := splitName_eq_some_iff.1 hsplit
    obtain ⟨c, run, hname, hend⟩ := nameEnd_eq hbefore front
    have hcut : slice (front ++ (name ++ after)) (byteLength front) (byteLength (front ++ name)) = .ok name := by
      rw [byteLength_append]
      exact hbody.slice
    subst hname
    show (slice _ _ (runEnd isNameChar _ _) >>= _) = _
    rw [hend, hcut]
    rfl

/-! ## The signs before a name -/

/-- What stands before a name: a second bracket, and the slash of a closing form. -/
def signs (escaped closing : Bool) : List Char := (if escaped then ['['] else []) ++ if closing then ['/'] else []

/-- **What a name is preceded by** is all that can precede it: there are no more signs. -/
structure SignsBefore (escaped closing : Bool) (body : List Char) : Prop where
  slash : closing = false → body.head? ≠ some '/'
  bracket : escaped = false → closing = false → body.head? ≠ some '['

theorem exists_signs (text : List Char) : ∃ escaped closing body, text = signs escaped closing ++ body ∧
    SignsBefore escaped closing body := by
  obtain ⟨escaped, rest, rfl, hrest⟩ : ∃ (escaped : Bool) (rest : List Char), text = signs escaped false ++ rest ∧
      (escaped = false → rest.head? ≠ some '[') := by
    by_cases h : text.head? = some '['
    · obtain ⟨rest, rfl⟩ := List.head?_eq_some_iff.1 h
      exact ⟨true, rest, rfl, nofun⟩
    · exact ⟨false, text, rfl, fun _ => h⟩
  rcases cases_slash rest with ⟨body, rfl, -⟩ | ⟨hslash, -⟩
  · exact ⟨escaped, true, body, by cases escaped <;> rfl, nofun, fun _ => nofun⟩
  · exact ⟨escaped, false, rest, rfl, fun _ => hslash, fun he _ => hrest he⟩

section

variable {escaped closing : Bool} {body : List Char}

theorem lexAt_signs (h : SignsBefore escaped closing body) :
    lexAt registry (signs escaped closing ++ body) =
      lexNameAt registry (signs escaped closing ++ body) escaped closing (byteLength (signs escaped closing)) := by
  have hescaped : ((encode (signs escaped closing ++ body)).head? = some '['.toUInt8) ↔ escaped = true := by
    rw [Text.head?_encode (by decide)]
    cases escaped with
    | true => exact iff_of_true rfl rfl
    | false =>
      cases closing with
      | true => exact iff_of_false (nofun : some '/' ≠ some '[') nofun
      | false => exact iff_of_false (h.bracket rfl rfl) nofun
  have hstart : Rest (signs escaped closing ++ body) (if escaped then 1 else 0) (signs false closing ++ body) := by
    cases escaped with
    | true => exact Rest.cons (c := '[') (Text.rest_zero _) (by decide)
    | false => exact Text.rest_zero _
  have hclosing : ((encode (signs false closing ++ body)).head? = some '/'.toUInt8) ↔ closing = true := by
    rw [Text.head?_encode (by decide)]
    cases closing with
    | true => exact iff_of_true rfl rfl
    | false => exact iff_of_false (h.slash rfl) nofun
  have hlength : byteLength (signs escaped closing) =
      if closing then (if escaped then 1 else 0) + 1 else if escaped then 1 else 0 := by
    cases escaped <;> cases closing <;> rfl
  unfold lexAt
  simp only [hescaped, Bool.decide_eq_true, hstart.getElem?, hclosing, hlength]

/-- What a name and its first bracket make, with `between` between the two and `rest` behind the bracket. -/
def lexemeOf (escaped closing block : Bool) (name between rest : List Char) : Option Lexeme :=
  if escaped then
    if between = [] ∧ rest.head? = some ']' then
      some (.escape (signs true closing ++ name ++ [']', ']']) (signs true closing ++ name ++ [']']))
    else none
  else if between.getLast? = some '/' then
    some (.tag ⟨signs false closing ++ name ++ between ++ [']'], name, !closing || !block, true, between.dropLast⟩)
  else if closing ∧ between ≠ [] then none
  else
    some (.tag ⟨signs false closing ++ name ++ between ++ [']'], name, !closing || !block, closing || !block, between⟩)

/-- The rule by which a body is lexed behind its signs. -/
def lexBody (registry : Registry) (escaped closing : Bool) (body : List Char) : Option Lexeme :=
  match splitName body with
  | none => none
  | some (name, after) =>
    match registry.isBlock? (String.ofList name) with
    | none => none
    | some block =>
      if closing ∧ !block then none
      else if ']' ∈ name then none
      else match splitBracket after with
        | none => none
        | some (between, rest) => lexemeOf escaped closing block name between rest

theorem lexemeOf_of_not_doubled {after name between rest : List Char} {block : Bool}
    (hno : ∀ tail, after ≠ ']' :: ']' :: tail) (hsplit : splitBracket after = some (between, rest)) :
    lexemeOf true closing block name between rest = none := by
  obtain ⟨rfl, -⟩ := splitBracket_eq_some_iff.1 hsplit
  rw [lexemeOf, if_pos rfl]
  refine if_neg fun hfound => ?_
  obtain ⟨rfl, hrest⟩ := hfound
  obtain ⟨tail, rfl⟩ := List.head?_eq_some_iff.1 hrest
  exact hno tail rfl

theorem lexEscape_eq_lexBody {text : List Char} (h : splitSlash text = (closing, body)) :
    lexEscape registry text = lexBody registry true closing body := by
  unfold lexEscape lexBody
  rw [h]
  dsimp only
  cases splitName body with
  | none => rfl
  | some found =>
    obtain ⟨name, after⟩ := found
    dsimp only
    cases registry.isBlock? (String.ofList name) with
    | none => rfl
    | some block =>
      split
      · rename_i hblock
        cases hblock
      · rename_i after hblock
        cases hblock
        have hsplit : splitBracket (']' :: ']' :: after) = some ([], ']' :: after) := rfl
        cases closing <;> cases block <;> simp [hsplit, lexemeOf, signs]
      · rename_i after _ _ _ hno
        have hno : ∀ tail, after ≠ ']' :: ']' :: tail := fun tail => hno block tail rfl
        cases hsplit : splitBracket after with
        | none => simp
        | some found => simp [lexemeOf_of_not_doubled hno hsplit]

theorem lexClosing_eq_lexBody : lexClosing registry body = lexBody registry false true body := by
  unfold lexClosing lexBody
  cases splitName body with
  | none => rfl
  | some found =>
    obtain ⟨name, after⟩ := found
    dsimp only
    cases registry.isBlock? (String.ofList name) with
    | none => rfl
    | some block =>
      cases block with
      | false => rfl
      | true =>
        cases splitBracket after with
        | none => simp
        | some found =>
          obtain ⟨between, rest⟩ := found
          rcases List.eq_nil_or_concat' between with rfl | ⟨between, d, rfl⟩
          · simp [lexemeOf, signs]
          · simp [lexemeOf, signs]

theorem lexOpening_eq_lexBody : lexOpening registry body = lexBody registry false false body := by
  unfold lexOpening lexBody
  cases splitName body with
  | none => rfl
  | some found =>
    obtain ⟨name, after⟩ := found
    dsimp only
    cases registry.isBlock? (String.ofList name) with
    | none => rfl
    | some block =>
      cases splitBracket after with
      | none => simp
      | some found =>
        obtain ⟨between, rest⟩ := found
        simp [lexemeOf, signs]

/-- **One rule for escapes, opening and closing tags.** -/
theorem lex_signs (h : SignsBefore escaped closing body) :
    lex registry (signs escaped closing ++ body) = lexBody registry escaped closing body := by
  cases escaped with
  | true =>
    have hsplit : splitSlash (signs false closing ++ body) = (closing, body) := by
      cases closing with
      | true => rfl
      | false =>
        rcases cases_slash body with ⟨rest, rfl, -⟩ | ⟨-, hsplit⟩
        · exact absurd rfl (h.slash rfl)
        · exact hsplit
    exact lexEscape_eq_lexBody hsplit
  | false =>
    cases closing with
    | true => exact lexClosing_eq_lexBody
    | false => exact (lex_of_head (h.bracket rfl rfl) (h.slash rfl)).trans lexOpening_eq_lexBody

theorem endAt_eq (escaped closing block : Bool) (name between rest : List Char) :
    (if escaped then
      escapeAt (signs escaped closing ++ name ++ (between ++ ']' :: rest)) (byteLength (signs escaped closing ++ name))
        (byteLength (signs escaped closing ++ name ++ between))
    else
      tagAt (signs escaped closing ++ name ++ (between ++ ']' :: rest)) name closing (!closing || !block)
        (closing || !block) (byteLength (signs escaped closing ++ name))
        (byteLength (signs escaped closing ++ name ++ between))) =
      .ok ((lexemeOf escaped closing block name between rest).map Lexeme.extent) := by
  cases escaped with
  | true =>
    have hsource :
        byteLength (signs true closing ++ name ++ [']', ']']) = byteLength (signs true closing ++ name) + 2 :=
      byteLength_append ..
    rw [if_pos rfl, escapeAt_eq, lexemeOf, if_pos rfl]
    split_ifs
    · rw [Option.map_some, Lexeme.extent, hsource]
    · rfl
  | false =>
    have hsource : byteLength (signs false closing ++ name ++ between ++ [']']) =
        byteLength (signs false closing ++ name ++ between) + 1 := byteLength_append ..
    rw [if_neg Bool.false_ne_true, tagAt_eq, lexemeOf, if_neg Bool.false_ne_true]
    split_ifs
    · rw [Option.map_some, Lexeme.extent, hsource]
    · rfl
    · rw [Option.map_some, Lexeme.extent, hsource]

end

/-- **What is lexed from the bytes is what is lexed from the characters**, and no cut fails. -/
theorem lexAt_eq (registry : Registry) (text : List Char) :
    lexAt registry text = .ok ((lex registry text).map Lexeme.extent) := by
  obtain ⟨escaped, closing, body, rfl, h⟩ := exists_signs text
  have hfree : ']' ∉ signs escaped closing := by cases escaped <;> cases closing <;> decide
  rw [lexAt_signs h, lexNameAt_eq, lex_signs h, lexBody]
  cases hsplit : splitName body with
  | none => rfl
  | some found =>
    obtain ⟨name, after⟩ := found
    dsimp only
    cases registry.isBlock? (String.ofList name) with
    | none => rfl
    | some block =>
      dsimp only
      rw [bracketAt_eq hfree]
      by_cases hclosing : closing = true ∧ (!block) = true
      · rw [if_pos hclosing, if_pos hclosing]
        rfl
      · rw [if_neg hclosing, if_neg hclosing]
        by_cases hname : ']' ∈ name
        · rw [if_pos hname, if_pos hname]
          rfl
        · rw [if_neg hname, if_neg hname]
          cases splitBracket after with
          | none => rfl
          | some found => exact endAt_eq ..

end BlogMarkdown.Shortcode
