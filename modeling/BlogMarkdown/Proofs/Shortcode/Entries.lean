import BlogMarkdown.Proofs.Text.Words
import BlogMarkdown.Shortcode.Attributes
/-!
# Written attribute lists

The entries of an attribute list and how they are spelled.  An entry is read up to the end of its own text, whatever it
holds, as soon as a blank or nothing stands behind it; so a list of entries with blanks between them is read entry by
entry, and none of them reaches into the next.
-/
namespace BlogMarkdown.Shortcode.Attributes

open Text (span_append_of_stop span_append_cons)

/-! ## Entries -/

/-- An entry of an attribute list. -/
inductive Entry where
  /-- A key and a value between quotes. -/
  | enclosed (key value : List Char) (quote : Char)
  /-- A key and a value without quotes. -/
  | plain (key value : List Char)
  /-- A value in double quotes. -/
  | quoted (value : List Char)
  /-- A bare word. -/
  | word (value : List Char)

namespace Entry

def key? : Entry → Option (List Char)
  | enclosed key _ _ => some key
  | plain key _ => some key
  | quoted _ => none
  | word _ => none

def value : Entry → List Char
  | enclosed _ value _ => value
  | plain _ value => value
  | quoted value => value
  | word value => value

/-- An entry as it is written. -/
def text : Entry → List Char
  | enclosed key value quote => key ++ '=' :: quote :: (value ++ [quote])
  | plain key value => key ++ '=' :: value
  | quoted value => '"' :: (value ++ ['"'])
  | word value => value

/-- A key is a run of word characters. -/
def IsKey (key : List Char) : Prop := key ≠ [] ∧ ∀ c ∈ key, isWord c = true

/-- What stands without quotes is not empty and holds neither blanks nor quotes. -/
def IsBare (value : List Char) : Prop := value ≠ [] ∧ ∀ c ∈ value, isSpace c = false ∧ isQuote c = false

/-- The entry can be written: a value in quotes does not hold its quote, and one without quotes holds no blank and no
quote, and without a key no equals sign either. -/
def Fits : Entry → Prop
  | enclosed key value quote => IsKey key ∧ isQuote quote = true ∧ quote ∉ value
  | plain key value => IsKey key ∧ IsBare value
  | quoted value => '"' ∉ value
  | word value => IsBare value ∧ '=' ∉ value

/-- An entry with a key or in double quotes stands in front of `rest`.  A value without quotes goes on up to the next
blank or quote. -/
def Heads : Entry → List Char → Prop
  | enclosed key value quote, _ => IsKey key ∧ isQuote quote = true ∧ quote ∉ value
  | plain key value, rest => IsKey key ∧ IsBare value ∧ ∀ c ∈ rest.head?, isSpace c = true ∨ isQuote c = true
  | quoted value, _ => '"' ∉ value
  | word _, _ => False

-- the characters of the list are tried one by one, and not all that there are
instance (key : List Char) : Decidable (IsKey key) :=
  have := List.decidableBAll (isWord · = true) key
  inferInstanceAs (Decidable (_ ∧ _))

instance (value : List Char) : Decidable (IsBare value) :=
  have := List.decidableBAll (fun c => isSpace c = false ∧ isQuote c = false) value
  inferInstanceAs (Decidable (_ ∧ _))

instance : (e : Entry) → Decidable e.Fits
  | enclosed _ _ _ => inferInstanceAs (Decidable (_ ∧ _ ∧ _))
  | plain _ _ => inferInstanceAs (Decidable (_ ∧ _))
  | quoted _ => inferInstanceAs (Decidable (_ ∉ _))
  | word _ => inferInstanceAs (Decidable (_ ∧ _))

end Entry

def AllBlank (s : List Char) : Prop := ∀ c ∈ s, isSpace c = true

instance (s : List Char) : Decidable (AllBlank s) := List.decidableBAll (isSpace · = true) s

/-- An entry may end here. -/
def Stops (s : List Char) : Prop := ∀ c ∈ s.head?, isSpace c = true

/-- The pairs that entries behind `n` values without a key stand for. -/
def pairsFrom (n : Nat) (es : List Entry) : List (List Char × List Char) :=
  es.mapIdx fun i e => (e.key?.getD (positionalKey (n + (es.take i).countP (·.key?.isNone))), e.value)

theorem pairsFrom_cons (n : Nat) (e : Entry) (es : List Entry) : pairsFrom n (e :: es) =
    (e.key?.getD (positionalKey n), e.value) :: pairsFrom (n + if e.key?.isNone then 1 else 0) es := by
  rw [pairsFrom, List.mapIdx_cons, pairsFrom]
  refine congrArg₂ _ rfl (congrArg (es.mapIdx ·) (funext fun i => funext fun e' => ?_))
  rw [List.take_succ_cons, List.countP_cons, Nat.add_comm (List.countP _ _), Nat.add_assoc]

/-! ## Where the parts of an entry end -/

theorem quotedValue?_append {quote : Char} {value : List Char} (h : quote ∉ value) (rest : List Char) :
    quotedValue? quote (quote :: (value ++ quote :: rest)) = some (value, rest) := by
  have hspan : (value ++ quote :: rest).span (· ≠ quote) = (value, quote :: rest) :=
    span_append_cons (fun c hc => decide_eq_true (ne_of_mem_of_not_mem hc h)) (by simp)
  rw [quotedValue?, if_neg (not_not.2 rfl), hspan]

theorem quotedValue?_of_ne {quote : Char} {text : List Char} (h : text.head? ≠ some quote) :
    quotedValue? quote text = none := by
  cases text with
  | nil => rfl
  | cons c text => rw [quotedValue?, if_pos (by simpa using h)]

/-- A value in quotes ends at its second quote. -/
theorem value?_enclosed {quote : Char} {value : List Char} (hquote : isQuote quote = true) (h : quote ∉ value)
    (rest : List Char) : value? (quote :: (value ++ quote :: rest)) = some (value, rest) := by
  rw [value?, if_pos hquote, quotedValue?_append h]

/-- A value without quotes ends at the next blank or quote. -/
theorem value?_bare {value rest : List Char} (h : Entry.IsBare value)
    (hrest : ∀ c ∈ rest.head?, isSpace c = true ∨ isQuote c = true) : value? (value ++ rest) = some (value, rest) := by
  obtain ⟨hne, hvalue⟩ := h
  have hspan : (value ++ rest).span (fun c => !isSpace c && !isQuote c) = (value, rest) := by
    refine span_append_of_stop (fun c hc => ?_) fun c hc => ?_
    · rw [(hvalue c hc).1, (hvalue c hc).2]
      rfl
    · rcases hrest c hc with hspace | hquote
      · rw [hspace]
        rfl
      · rw [hquote, Bool.not_true, Bool.and_false]
  cases value with
  | nil => exact absurd rfl hne
  | cons c value =>
    unfold value?
    rw [hspan]
    simp [(hvalue c List.mem_cons_self).2]

/-- Behind a key and an equals sign stands the value. -/
theorem pair?_key {key : List Char} (h : Entry.IsKey key) (text : List Char) :
    pair? (key ++ '=' :: text) = (value? text).map fun (value, rest) => (key, value, rest) := by
  rw [pair?, span_append_cons h.2 (by decide)]
  simp [h.1]

/-- Nothing but an equals sign ends a key. -/
theorem pair?_of_stop {text : List Char} (h : (text.dropWhile isWord).head? ≠ some '=') : pair? text = none := by
  rw [pair?, List.span_eq_takeWhile_dropWhile]
  split
  · rename_i key rest heq
    rw [(Prod.mk.inj heq).2] at h
    exact absurd rfl h
  · rfl

theorem not_isWord_of_isSpace {c : Char} (h : isSpace c = true) : isWord c = false ∧ c ≠ '=' := by
  simp only [isSpace, Bool.or_eq_true, decide_eq_true_eq] at h
  rcases h with (((rfl | rfl) | rfl) | rfl) | rfl <;> decide

/-- A word without an equals sign is no key. -/
theorem pair?_word {value rest : List Char} (h : '=' ∉ value) (hrest : Stops rest) : pair? (value ++ rest) = none := by
  refine pair?_of_stop ?_
  induction value with
  | nil =>
    cases rest with
    | nil => exact nofun
    | cons c rest =>
      obtain ⟨hword, hne⟩ := not_isWord_of_isSpace (hrest c rfl)
      simpa [hword] using hne
  | cons c value ih =>
    rw [List.mem_cons, not_or] at h
    rw [List.cons_append, List.dropWhile_cons]
    split
    · exact ih h.2
    · simpa using Ne.symm h.1

/-! ## One entry -/

theorem Entry.Heads.pair {e : Entry} {rest : List Char} (h : e.Heads rest) :
    pair? (e.text ++ rest) = e.key?.map fun key => (key, e.value, rest) := by
  cases e with
  | enclosed key value quote =>
    obtain ⟨hkey, hquote, hvalue⟩ := h
    rw [Entry.text, List.append_assoc, List.cons_append, pair?_key hkey, List.cons_append, List.append_assoc,
      List.singleton_append, value?_enclosed hquote hvalue]
    rfl
  | plain key value =>
    obtain ⟨hkey, hvalue, hstop⟩ := h
    rw [Entry.text, List.append_assoc, List.cons_append, pair?_key hkey, value?_bare hvalue hstop]
    rfl
  | quoted value => exact pair?_of_stop (by simp [Entry.text, isWord])
  | word value => exact h.elim

/-- What an entry with a key is read as. -/
theorem pair?_text {e : Entry} (he : e.Fits) {rest : List Char} (hrest : Stops rest) :
    pair? (e.text ++ rest) = e.key?.map fun key => (key, e.value, rest) := by
  cases e with
  | enclosed key value quote => exact Entry.Heads.pair (e := .enclosed key value quote) he
  | plain key value => exact Entry.Heads.pair (e := .plain key value) ⟨he.1, he.2, fun c hc => .inl (hrest c hc)⟩
  | quoted value => exact Entry.Heads.pair (e := .quoted value) he
  | word value => exact pair?_word he.2 hrest

/-- What an entry without a key is read as. -/
theorem positional_text {e : Entry} (he : e.Fits) (hkey : e.key? = none) {rest : List Char} (hrest : Stops rest) :
    positional (e.text ++ rest) = (e.value, rest) := by
  cases e with
  | enclosed key value quote => cases hkey
  | plain key value => cases hkey
  | quoted value =>
    rw [Entry.text, List.cons_append, List.append_assoc, List.singleton_append, positional, quotedValue?_append he]
    rfl
  | word value =>
    obtain ⟨⟨hne, hvalue⟩, -⟩ := he
    have hquote : (value ++ rest).head? ≠ some '"' := by
      cases value with
      | nil => exact absurd rfl hne
      | cons c value =>
        rintro hc
        obtain rfl := Option.some.inj hc
        exact absurd (hvalue '"' List.mem_cons_self).2 (by decide)
    have hspan : (value ++ rest).span (fun c => !isSpace c) = (value, rest) :=
      span_append_of_stop (fun c hc => by rw [(hvalue c hc).1]; rfl) fun c hc => by rw [hrest c hc]; rfl
    rw [Entry.text, positional, quotedValue?_of_ne hquote, hspan]
    rfl

/-- An entry does not begin with a blank. -/
theorem exists_text_eq {e : Entry} (he : e.Fits) : ∃ c s, e.text = c :: s ∧ isSpace c = false := by
  have hkeyed {key : List Char} (hkey : Entry.IsKey key) (s : List Char) :
      ∃ c s', key ++ s = c :: s' ∧ isSpace c = false := by
    obtain ⟨c, key, rfl⟩ := List.exists_cons_of_ne_nil hkey.1
    refine ⟨c, key ++ s, rfl, Bool.eq_false_iff.2 fun hspace => ?_⟩
    have hword := hkey.2 c List.mem_cons_self
    rw [(not_isWord_of_isSpace hspace).1] at hword
    cases hword
  cases e with
  | enclosed key value quote => exact hkeyed he.1 _
  | plain key value => exact hkeyed he.1 _
  | quoted value => exact ⟨'"', _, rfl, by decide⟩
  | word value =>
    obtain ⟨c, value, rfl⟩ := List.exists_cons_of_ne_nil he.1.1
    exact ⟨c, value, rfl, (he.1.2 c List.mem_cons_self).1⟩

/-- **The entry is what is read** in front of `rest`. -/
structure Entry.IsRead (e : Entry) (rest : List Char) : Prop where
  begins : ∃ c s, e.text = c :: s ∧ isSpace c = false
  pair : pair? (e.text ++ rest) = e.key?.map fun key => (key, e.value, rest)
  positional : e.key? = none → Attributes.positional (e.text ++ rest) = (e.value, rest)

/-- **An entry is read exactly**, whatever stands behind it. -/
theorem Entry.Fits.isRead {e : Entry} (he : e.Fits) {rest : List Char} (hrest : Stops rest) : e.IsRead rest :=
  ⟨exists_text_eq he, pair?_text he hrest, fun hkey => positional_text he hkey hrest⟩

/-- The blanks before an entry are passed over, and the reading goes on behind it. -/
theorem entries_text {e : Entry} {lead rest : List Char} (he : e.IsRead rest) (hlead : AllBlank lead) (fuel n : Nat) :
    entries (fuel + 1) n (lead ++ (e.text ++ rest)) =
      (e.key?.getD (positionalKey n), e.value) :: entries fuel (n + if e.key?.isNone then 1 else 0) rest := by
  obtain ⟨⟨c, s, htext, hc⟩, hpair, hpositional⟩ := he
  rw [htext, List.cons_append] at hpair hpositional
  rw [entries, List.dropWhile_append_of_pos hlead, htext, List.cons_append, List.dropWhile_cons_of_neg (by simp [hc])]
  dsimp only
  rw [hpair]
  cases hkey : e.key? with
  | some key => rfl
  | none =>
    rw [Option.map_none, hpositional hkey]
    rfl

/-! ## Lists of entries -/

/-- Entries as they are written, each with the blanks behind it. -/
def written (list : List (Entry × List Char)) : List Char := list.flatMap fun e => e.1.text ++ e.2

/-- Each entry stands in a relation to all that follows it, and only blanks are between them. -/
def EachBefore (R : Entry → List Char → Prop) : List (Entry × List Char) → Prop
  | [] => True
  | e :: list => R e.1 (e.2 ++ written list) ∧ AllBlank e.2 ∧ EachBefore R list

theorem EachBefore.imp {R R' : Entry → List Char → Prop} (h : ∀ e rest, R e rest → R' e rest) :
    ∀ {list : List (Entry × List Char)}, EachBefore R list → EachBefore R' list
  | [], _ => trivial
  | _ :: _, ⟨he, hblank, hlist⟩ => ⟨h _ _ he, hblank, hlist.imp h⟩

theorem written_cons (e : Entry × List Char) (list : List (Entry × List Char)) :
    written (e :: list) = e.1.text ++ (e.2 ++ written list) := by
  rw [written, List.flatMap_cons, List.append_assoc, written]

theorem entries_blank {lead : List Char} (h : AllBlank lead) : ∀ fuel n, entries fuel n lead = []
  | 0, _ => rfl
  | fuel + 1, n => by rw [entries, List.dropWhile_eq_nil_iff.2 h]

/-- **A list of entries is read entry by entry**, if each is what is read in front of the rest. -/
theorem entries_each : ∀ {list : List (Entry × List Char)}, EachBefore Entry.IsRead list →
    ∀ {lead : List Char}, AllBlank lead → ∀ {fuel : Nat}, list.length ≤ fuel → ∀ n,
      entries fuel n (lead ++ written list) = pairsFrom n (list.map Prod.fst)
  | [], _, lead, hlead, fuel, _, n => by
    rw [written, List.flatMap_nil, List.append_nil]
    exact entries_blank hlead fuel n
  | _ :: _, _, _, _, 0, hfuel, _ => absurd hfuel (Nat.not_succ_le_zero _)
  | e :: list, ⟨he, hblank, hlist⟩, lead, hlead, fuel + 1, hfuel, n => by
    have hrest := entries_each hlist hblank (Nat.le_of_succ_le_succ hfuel)
    rw [written_cons, entries_text he hlead, hrest, List.map_cons, pairsFrom_cons]

/-- There are no more entries than characters. -/
theorem length_le_of_ne_nil : ∀ {list : List (Entry × List Char)}, (∀ e ∈ list, e.1.text ≠ []) →
    list.length ≤ (written list).length
  | [], _ => Nat.zero_le _
  | e :: list, h => by
    have hpos := List.length_pos_iff.2 (h e List.mem_cons_self)
    have hrest := length_le_of_ne_nil fun e' he' => h e' (List.mem_cons_of_mem e he')
    rw [written_cons, List.length_append, List.length_append, List.length_cons]
    omega

/-- Entries that can be read apart: blanks are behind each of them, and only the last one may do without. -/
structure Parted (list : List (Entry × List Char)) : Prop where
  fits : ∀ e ∈ list, e.1.Fits
  blank : ∀ e ∈ list, AllBlank e.2
  parted : ∀ e ∈ list.dropLast, e.2 ≠ []

theorem Parted.tail {e : Entry × List Char} {list : List (Entry × List Char)} (h : Parted (e :: list)) : Parted list where
  fits e' he' := h.fits e' (List.mem_cons_of_mem e he')
  blank e' he' := h.blank e' (List.mem_cons_of_mem e he')
  parted e' he' := h.parted e' (by
    cases list with
    | nil => cases he'
    | cons e'' list => exact List.mem_cons_of_mem e he')

theorem Parted.stops {e : Entry × List Char} {list : List (Entry × List Char)} (h : Parted (e :: list)) :
    Stops (e.2 ++ written list) := by
  have hblank := h.blank e List.mem_cons_self
  intro c hc
  cases hblanks : e.2 with
  | nil =>
    cases list with
    | nil =>
      rw [hblanks] at hc
      cases hc
    | cons e' list => exact absurd hblanks (h.parted e List.mem_cons_self)
  | cons d blanks =>
    rw [hblanks] at hc
    obtain rfl := Option.some.inj hc
    exact hblank d (by rw [hblanks]; exact List.mem_cons_self)

/-- Each entry of a parted list is read exactly. -/
theorem Parted.each : ∀ {list : List (Entry × List Char)}, Parted list → EachBefore Entry.IsRead list
  | [], _ => trivial
  | e :: _, h => ⟨(h.fits e List.mem_cons_self).isRead h.stops, h.blank e List.mem_cons_self, h.tail.each⟩

theorem entries_written (list : List (Entry × List Char)) (h : Parted list) {lead : List Char} (hlead : AllBlank lead)
    {fuel : Nat} (hfuel : list.length ≤ fuel) (n : Nat) :
    entries fuel n (lead ++ written list) = pairsFrom n (list.map Prod.fst) := entries_each h.each hlead hfuel n

theorem length_le_written (list : List (Entry × List Char)) (h : ∀ e ∈ list, e.1.Fits) :
    list.length ≤ (written list).length := by
  refine length_le_of_ne_nil fun e he => ?_
  obtain ⟨c, s, htext, -⟩ := exists_text_eq (h e he)
  rw [htext]
  exact List.cons_ne_nil c s

/-- **Attribute lists are read back**: one pair for each entry, in order, with its value and its key; a value without a
key has for its key the number of such values before it.  So repeated keys are kept, and no entry changes another. -/
theorem parse_written {lead : List Char} (hlead : AllBlank lead) {list : List (Entry × List Char)}
    (hfits : ∀ e ∈ list, e.1.Fits) (hblank : ∀ e ∈ list, AllBlank e.2) (hparted : ∀ e ∈ list.dropLast, e.2 ≠ []) :
    parse (lead ++ list.flatMap fun e => e.1.text ++ e.2) =
      (list.map Prod.fst).mapIdx fun i e =>
        (e.key?.getD (positionalKey (((list.map Prod.fst).take i).countP (·.key?.isNone))), e.value) := by
  have hfuel : list.length ≤ (lead ++ written list).length + 1 := by
    have hle := length_le_written list hfits
    rw [List.length_append]
    omega
  have hread := entries_written list ⟨hfits, hblank, hparted⟩ hlead hfuel 0
  simp only [pairsFrom, Nat.zero_add] at hread
  exact hread

/-- Values hold quotes, brackets, blanks and equals signs; a key is repeated, and a value is empty. -/
def mixedList : List (Entry × List Char) :=
  [(.enclosed "a".toList "x='1' [é]".toList '"', ['\n']), (.word "b[\\".toList, ['\t', ' ']),
    (.plain "a".toList "=c".toList, [' ']), (.quoted [], ['\x0c', '\r']), (.enclosed "_9".toList ['"'] '\'', [])]

theorem parse_mixedList :
    AllBlank [' '] ∧ (∀ e ∈ mixedList, e.1.Fits) ∧ (∀ e ∈ mixedList, AllBlank e.2) ∧
      (∀ e ∈ mixedList.dropLast, e.2 ≠ []) ∧
      parse " a=\"x='1' [é]\"\nb[\\\t a==c \"\"\x0c\r_9='\"'".toList =
        [("a".toList, "x='1' [é]".toList), ("@0".toList, "b[\\".toList), ("a".toList, "=c".toList), ("@1".toList, []),
          ("_9".toList, ['"'])] :=
  have hlead : AllBlank [' '] := by decide
  have hfits : ∀ e ∈ mixedList, e.1.Fits := by decide
  have hblank : ∀ e ∈ mixedList, AllBlank e.2 := by decide
  have hparted : ∀ e ∈ mixedList.dropLast, e.2 ≠ [] := by decide
  ⟨hlead, hfits, hblank, hparted, parse_written hlead hfits hblank hparted⟩

end BlogMarkdown.Shortcode.Attributes
