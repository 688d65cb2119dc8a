import BlogMarkdown.Proofs.Export.Fields
import Mathlib.Data.List.TakeDrop
import Mathlib.Data.List.TakeWhile
/-!
# Elements written as one tag

An element without content can be written as one tag or as a start and an end.  A reading passes over the one tag, but
uses what the pair holds: it completes a record, sets a field to the empty text, and ends the text that came before it.
The two spellings are read alike exactly where none of these can be seen.
-/
namespace BlogMarkdown.Export

open Text Xml

/-! ## Values and what they begin with -/

theorem trimBlank_append {text : List Char} (h : isBlankText text = true) (value : List Char) :
    trimBlank (text ++ value) = trimBlank value := by
  rw [trimBlank, List.dropWhile_append_of_pos (List.all_eq_true.1 h)]
  rfl

theorem trimBlank_concat {text : List Char} (h : isBlankText text = false) {c : Char} (hc : isBlank c = false) :
    trimBlank (text ++ [c]) = text.dropWhile isBlank ++ [c] := by
  have hdrop : text.dropWhile isBlank ≠ [] := fun hnil =>
    Bool.eq_false_iff.1 h (List.all_eq_true.2 (List.dropWhile_eq_nil_iff.1 hnil))
  rw [trimBlank, List.dropWhile_append, if_neg (by simpa using hdrop), dropEndWhile, List.reverse_append,
    List.reverse_singleton, List.singleton_append, List.dropWhile_cons_of_neg (by simp [hc])]
  simp

theorem numeral?_concat (limit : Nat) (text : List Char) {c : Char} (hc : digitIn? 10 c = none) (hplus : c ≠ '+') :
    numeral? 10 limit (text ++ [c]) = none := by
  have hdigits (digits : List Char) : digits? 10 (digits ++ [c]) = none := by
    rw [digits?, List.foldlM_append]
    refine Option.bind_eq_none_iff.2 fun n _ => ?_
    simp [hc]
  unfold numeral?
  cases text with
  | nil =>
    have := hdigits []
    simp_all
  | cons first text =>
    by_cases hfirst : first = '+'
    · simp [hfirst, hdigits]
    · have := hdigits (first :: text)
      simp_all

/-- Whether the beginning of a value is part of what the field becomes: blanks are no part of a number. -/
def Tells (field : String) (value : List Char) : Prop :=
  if field ∈ numberFields then isBlankText value = false else value ≠ []

theorem setField_append (item : Item) {field : String} {text : List Char} (h : ¬ Tells field text)
    (value : List Char) : item.setField field (text ++ value) = item.setField field value := by
  unfold Tells at h
  split at h
  · rename_i hfield
    have hblank : isBlankText text = true := by simpa using h
    have hnumber (name : String) : number name (text ++ value) = number name value := by
      rw [number, number, trimBlank_append hblank]
    rcases List.mem_pair.1 hfield with rfl | rfl
    · exact congrArg (Except.map _) (hnumber _)
    · exact congrArg (Except.map _) (hnumber _)
  · rw [Classical.not_not.1 h, List.nil_append]

theorem setField_item_ne (item : Item) {field : String} (hfield : field ∈ Collector.items.fields)
    (hnumber : field ∉ numberFields) {value : List Char} (hvalue : value ≠ []) :
    ∃ a b, item.setField field value = .ok a ∧ item.setField field [] = .ok b ∧ a ≠ b := by
  have htext : String.ofList value ≠ String.ofList [] := fun h => hvalue (String.ofList_injective h)
  simp only [Collector.items, List.mem_cons, List.not_mem_nil, or_false] at hfield
  rcases hfield with rfl | rfl | rfl | rfl | rfl | rfl | rfl | rfl | rfl | rfl | rfl | rfl
  case inr.inr.inr.inl => exact absurd (by decide) hnumber
  case inr.inr.inr.inr.inr.inr.inr.inl => exact absurd (by decide) hnumber
  all_goals exact ⟨_, _, rfl, rfl, by simpa using htext⟩

theorem setField_author_ne (author : Author) {field : String} (hfield : field ∈ Collector.authors.fields)
    {value : List Char} (hvalue : value ≠ []) : author.setField field value ≠ author.setField field [] := by
  have htext : String.ofList value ≠ String.ofList [] := fun h => hvalue (String.ofList_injective h)
  simp only [Collector.authors, List.mem_cons, List.not_mem_nil, or_false] at hfield
  rcases hfield with rfl | rfl | rfl | rfl | rfl <;> simpa [Author.setField] using htext

/-- The names of the fields of the blog itself. -/
def channelFields : List String := ["title", "link", "wp:base_blog_url"]

theorem not_mem_numberFields {field : String} (h : field ∈ Collector.authors.fields ∨ field ∈ channelFields) :
    field ∉ numberFields := by
  intro hnumber
  rcases List.mem_pair.1 hnumber with rfl | rfl <;> exact absurd h (by decide)

theorem setField_channel_ne (channel : Channel) {field : String} (hfield : field ∈ channelFields)
    {value : List Char} (hvalue : value ≠ []) : channel.setField field value ≠ channel.setField field [] := by
  have htext : String.ofList value ≠ String.ofList [] := fun h => hvalue (String.ofList_injective h)
  simp only [channelFields, List.mem_cons, List.not_mem_nil, or_false] at hfield
  rcases hfield with rfl | rfl | rfl <;> simpa [Channel.setField] using htext

theorem setField_channel_of_not_mem (channel : Channel) {field : String} (h : field ∉ channelFields)
    (value : List Char) : channel.setField field value = channel := by
  unfold Channel.setField
  split <;> first | rfl | simp [channelFields] at h

namespace Reading

variable {r r' : Reading} {name parent : String} {outer : List String}

/-! ## Using a value -/

/-- The names of the fields that the elements right in an open element stand for. -/
def fieldsIn (r : Reading) (parent : String) : List String :=
  if parent = "item" then if r.item.isSome then Collector.items.fields else []
  else if parent = "wp:author" then if r.author.isSome then Collector.authors.fields else []
  else if parent = "channel" then channelFields
  else []

/-- The end of an element sets a field of the open record that its parent stands for, if there is one. -/
theorem close_cases (r : Reading) (parent : String) (hitem : name ≠ "item") (hauthor : name ≠ "wp:author") :
    (parent = "item" ∧ r.fieldsIn parent = Collector.items.fields ∧ ∃ item, r.item = some item ∧
      ∀ value, r.close parent name value = (item.setField name value).map fun item => { r with item := some item }) ∨
    (parent = "wp:author" ∧ r.fieldsIn parent = Collector.authors.fields ∧ ∃ author, r.author = some author ∧
      ∀ value, r.close parent name value = .ok { r with author := some (author.setField name value) }) ∨
    (parent = "channel" ∧ r.fieldsIn parent = channelFields ∧
      ∀ value, r.close parent name value = .ok { r with channel := r.channel.setField name value }) ∨
    (r.fieldsIn parent = [] ∧ ∀ value, r.close parent name value = .ok r) := by
  unfold close fieldsIn
  simp only [if_neg hitem, if_neg hauthor]
  by_cases hparent : parent = "item"
  · cases hopen : r.item with
    | none => simp [hparent]
    | some item => simp [hparent]
  by_cases hparent' : parent = "wp:author"
  · cases hopen : r.author with
    | none =>
      have hsame : { r with author := none } = r := by rw [← hopen]
      simp [hparent', hsame]
    | some author => simp [hparent']
  by_cases hparent'' : parent = "channel"
  · simp [hparent'']
  · simp [hparent, hparent', hparent'']

theorem close_append {text : List Char} (h : ¬ (name ∈ r.fieldsIn parent ∧ Tells name text)) (value : List Char) :
    r.close parent name (text ++ value) = r.close parent name value := by
  by_cases hitem : name = "item"
  · simp [close, hitem]
  by_cases hauthor : name = "wp:author"
  · simp [close, hauthor]
  have hempty (hname : name ∈ r.fieldsIn parent) (hnumber : name ∉ numberFields) : text = [] := by
    simpa [Tells, hnumber] using fun htells => h ⟨hname, htells⟩
  rcases r.close_cases parent hitem hauthor with
    ⟨-, hfields, item, -, hclose⟩ | ⟨-, hfields, author, -, hclose⟩ | ⟨-, hfields, hclose⟩ | ⟨-, hclose⟩
  · rw [hclose, hclose]
    by_cases hname : name ∈ Collector.items.fields
    · rw [setField_append item fun htells => h ⟨hfields ▸ hname, htells⟩]
    · have hsame (value : List Char) : item.setField name value = .ok item :=
        Collector.items.setField_of_not_mem item value hname
      rw [hsame, hsame]
  · rw [hclose, hclose]
    by_cases hname : name ∈ Collector.authors.fields
    · rw [hempty (hfields ▸ hname) (not_mem_numberFields (.inl hname)), List.nil_append]
    · have hsame (value : List Char) : author.setField name value = author :=
        Except.ok.inj (Collector.authors.setField_of_not_mem author value hname)
      rw [hsame, hsame]
  · rw [hclose, hclose]
    by_cases hname : name ∈ channelFields
    · rw [hempty (hfields ▸ hname) (not_mem_numberFields (.inr hname)), List.nil_append]
    · rw [setField_channel_of_not_mem _ hname, setField_channel_of_not_mem _ hname]
  · rw [hclose, hclose]

/-! ## Text that is seen later -/

/-- The channel that a reading ends with, given the events to come. -/
def finish (r : Reading) (after : List Event) : Except Error Channel := (after.foldlM step r).map (·.channel)

theorem finish_cons (r : Reading) (e : Event) (after : List Event) :
    r.finish (e :: after) = r.step e >>= (·.finish after) := by
  rw [finish, List.foldlM_cons]
  cases r.step e <;> rfl

/-- Whether the text since the last tag belongs to the value of a field. -/
def TextCounts (r : Reading) : Prop :=
  ∃ field outer, r.path = field :: outer ∧ field ∈ r.fieldsIn (outer.head?.getD "") ∧ Tells field r.text.reverse

/-- Text that belongs to no field is never seen. -/
theorem finish_of_not_textCounts {channel : Channel} {item : Option Item} {author : Option Author} {path : List String}
    {text : List Char} (h : ¬ TextCounts ⟨channel, item, author, path, text⟩) : ∀ (after : List Event) (more : List Char),
    finish ⟨channel, item, author, path, more ++ text⟩ after = finish ⟨channel, item, author, path, more⟩ after
  | [], _ => rfl
  | .start _ :: _, _ => rfl
  | .text content :: after, more => by
    have ih := finish_of_not_textCounts h after (content.reverseAux more)
    rw [List.reverseAux_eq, List.append_assoc, ← List.reverseAux_eq, ← List.reverseAux_eq] at ih
    exact ih
  | .reference name :: after, more => by
    have ih := finish_of_not_textCounts h after ((referenceText name).reverseAux more)
    rw [List.reverseAux_eq, List.append_assoc, ← List.reverseAux_eq, ← List.reverseAux_eq] at ih
    exact ih
  | .empty _ :: after, more | .other :: after, more => finish_of_not_textCounts h after more
  | .fault :: _, _ => rfl
  | .stop :: after, more => by
    rw [finish_cons, finish_cons, step, step, leave, leave]
    cases path with
    | nil => exact finish_of_not_textCounts h after more
    | cons field outer =>
      have hquiet : ¬ (field ∈ (⟨channel, item, author, outer, []⟩ : Reading).fieldsIn (outer.head?.getD "") ∧
          Tells field text.reverse) := fun hcounts => h ⟨field, outer, rfl, hcounts⟩
      have hclose := close_append hquiet more.reverse
      rw [← List.reverse_append] at hclose
      exact congrArg (· >>= (finish · after)) hclose

theorem finish_item (hpath : r.path = "item" :: outer) {item : Item} (hitem : r.item = some item) :
    r.finish [.stop] = .ok { r.channel with items := r.channel.items ++ [item] } := by
  simp [finish, step, leave, close, hpath, hitem, Except.map]

theorem finish_author (hpath : r.path = "wp:author" :: outer) {author : Author} (hauthor : r.author = some author) :
    r.finish [.stop] = .ok { r.channel with authors := r.channel.authors ++ [author] } := by
  simp [finish, step, leave, close, hpath, hauthor, Except.map]

theorem eq_cons_of_head?_getD (h : outer.head?.getD "" = parent) (hparent : parent ≠ "") :
    ∃ more, outer = parent :: more := by
  cases outer with
  | nil => exact absurd h.symm hparent
  | cons first more => exact ⟨more, congrArg (· :: more) h⟩

theorem ne_of_mem_fieldsIn (h : name ∈ r.fieldsIn parent) : name ≠ "item" ∧ name ≠ "wp:author" := by
  unfold fieldsIn at h
  refine ⟨?_, ?_⟩
  all_goals
    rintro rfl
    revert h
    split_ifs <;> decide

/-- Behind another character, a value that is no number is reported in full. -/
theorem setField_error_ne (item : Item) {field : String} (hfield : field ∈ numberFields) {text : List Char}
    (htext : isBlankText text = false) :
    ∃ e e', item.setField field (text ++ ['x']) = .error e ∧ item.setField field ['x'] = .error e' ∧ e ≠ e' := by
  have htrim : trimBlank (text ++ ['x']) = text.dropWhile isBlank ++ ['x'] := trimBlank_concat htext rfl
  have hnumber : holdsNumber (text ++ ['x']) = false := by
    rw [holdsNumber, htrim, numeral?_concat _ _ (by decide) (by decide)]
    simp
  refine ⟨_, _, setField_eq_error item hfield hnumber, setField_eq_error item hfield (by decide), ?_⟩
  intro heq
  have hsame : trimBlank (text ++ ['x']) = trimBlank ['x'] := String.ofList_injective (by simpa using heq)
  have hdrop : text.dropWhile isBlank = [] := List.append_cancel_right (htrim.symm.trans hsame)
  exact Bool.eq_false_iff.1 htext (List.all_eq_true.2 (List.dropWhile_eq_nil_iff.1 hdrop))

theorem finish_item_ne (hpath : r.path = "item" :: outer) (hpath' : r'.path = "item" :: outer) {item item' : Item}
    (hitem : r.item = some item) (hitem' : r'.item = some item') (hne : item ≠ item')
    (hchannel : r.channel = r'.channel) : r.finish [.stop] ≠ r'.finish [.stop] := by
  rw [finish_item hpath hitem, finish_item hpath' hitem', hchannel]
  simpa using hne

theorem finish_author_ne (hpath : r.path = "wp:author" :: outer) (hpath' : r'.path = "wp:author" :: outer)
    {author author' : Author} (hauthor : r.author = some author) (hauthor' : r'.author = some author')
    (hne : author ≠ author') (hchannel : r.channel = r'.channel) : r.finish [.stop] ≠ r'.finish [.stop] := by
  rw [finish_author hpath hauthor, finish_author hpath' hauthor', hchannel]
  simpa using hne

theorem finish_channel_ne (hne : r.channel ≠ r'.channel) : r.finish [] ≠ r'.finish [] := fun heq =>
  hne (Except.ok.inj heq)

section

variable {channel : Channel} {item? : Option Item} {author? : Option Author} {field : String} {text : List Char}

theorem finish_stop (after : List Event) : finish ⟨channel, item?, author?, field :: outer, text⟩ (.stop :: after) =
    close ⟨channel, item?, author?, outer, []⟩ (outer.head?.getD "") field text.reverse >>= (finish · after) :=
  finish_cons _ _ _

/-- Text in a number field is seen if another character follows it. -/
theorem finish_number_ne {item : Item} (hnumber : field ∈ numberFields) (htext : isBlankText text.reverse = false)
    (hclose : ∀ value, close ⟨channel, item?, author?, outer, []⟩ (outer.head?.getD "") field value =
      (item.setField field value).map fun item => ⟨channel, some item, author?, outer, []⟩) :
    finish ⟨channel, item?, author?, field :: outer, []⟩ [.text ['x'], .stop] ≠
      finish ⟨channel, item?, author?, field :: outer, text⟩ [.text ['x'], .stop] := by
  obtain ⟨e, e', he, he', hne⟩ := setField_error_ne item hnumber htext
  have hlong : finish ⟨channel, item?, author?, field :: outer, 'x' :: text⟩ [.stop] = .error e := by
    rw [finish_stop, hclose, List.reverse_cons, he]
    rfl
  have hshort : finish ⟨channel, item?, author?, field :: outer, ['x']⟩ [.stop] = .error e' := by
    rw [finish_stop, hclose, List.reverse_singleton, he']
    rfl
  exact fun heq => hne (Except.error.inj (hlong.symm.trans (heq.symm.trans hshort)))

end

/-- Text in a field is seen where the field and its record end. -/
theorem exists_of_textCounts (h : r.TextCounts) : ∃ after, { r with text := [] }.finish after ≠ r.finish after := by
  obtain ⟨field, outer, hpath, hfield, htells⟩ := h
  obtain ⟨channel, item?, author?, path, text⟩ := r
  obtain rfl : path = field :: outer := hpath
  obtain ⟨hitem, hauthor⟩ := ne_of_mem_fieldsIn hfield
  have htext (hnumber : field ∉ numberFields) : text.reverse ≠ [] := by simpa [Tells, hnumber] using htells
  rcases close_cases ⟨channel, item?, author?, outer, []⟩ (outer.head?.getD "") hitem hauthor with
    ⟨hparent, hfields, item, -, hclose⟩ | ⟨hparent, hfields, author, -, hclose⟩ | ⟨-, hfields, hclose⟩ | ⟨hnone, -⟩
  · obtain ⟨more, rfl⟩ := eq_cons_of_head?_getD hparent (by decide)
    by_cases hnumber : field ∈ numberFields
    · have hblank : isBlankText text.reverse = false := by simpa [Tells, hnumber] using htells
      exact ⟨[.text ['x'], .stop], finish_number_ne hnumber hblank hclose⟩
    · obtain ⟨a, b, ha, hb, hne⟩ := setField_item_ne item (hfields ▸ hfield) hnumber (htext hnumber)
      refine ⟨[.stop, .stop], ?_⟩
      rw [finish_stop, finish_stop, hclose, hclose, ha, List.reverse_nil, hb]
      change finish ⟨channel, some b, author?, "item" :: more, []⟩ [.stop] ≠
        finish ⟨channel, some a, author?, "item" :: more, []⟩ [.stop]
      exact finish_item_ne rfl rfl rfl rfl hne.symm rfl
  · obtain ⟨more, rfl⟩ := eq_cons_of_head?_getD hparent (by decide)
    have hmem : field ∈ Collector.authors.fields := hfields ▸ hfield
    have hne := setField_author_ne author hmem (htext (not_mem_numberFields (.inl hmem)))
    refine ⟨[.stop, .stop], ?_⟩
    rw [finish_stop, finish_stop, hclose, hclose, List.reverse_nil]
    change finish ⟨channel, item?, some (author.setField field []), "wp:author" :: more, []⟩ [.stop] ≠
      finish ⟨channel, item?, some (author.setField field text.reverse), "wp:author" :: more, []⟩ [.stop]
    exact finish_author_ne rfl rfl rfl rfl hne.symm rfl
  · have hmem : field ∈ channelFields := hfields ▸ hfield
    have hne := setField_channel_ne channel hmem (htext (not_mem_numberFields (.inr hmem)))
    refine ⟨[.stop], ?_⟩
    rw [finish_stop, finish_stop, hclose, hclose, List.reverse_nil]
    exact finish_channel_ne hne.symm
  · exact absurd (hnone ▸ hfield : field ∈ []) List.not_mem_nil

/-! ## Elements without content -/

theorem close_text (r : Reading) (parent name : String) (value text : List Char) :
    { r with text := text }.close parent name value = (r.close parent name value).map ({ · with text := text }) := by
  obtain ⟨channel, item?, author?, path, before⟩ := r
  unfold close
  split_ifs
  · cases item? <;> rfl
  · cases author? <;> rfl
  · cases item? with
    | none => rfl
    | some item =>
      dsimp only
      cases item.setField name value <;> rfl
  · rfl
  · rfl
  · rfl

/-- An element without content ends the text before it and closes with the empty value. -/
theorem finish_start_stop (r : Reading) (hitem : name ≠ "item") (hauthor : name ≠ "wp:author") (after : List Event) :
    r.finish (.start name :: .stop :: after) =
      (r.close (r.path.head?.getD "") name []).map ({ · with text := [] }) >>= (finish · after) := by
  rw [finish_cons, step, enter, if_neg hitem, if_neg hauthor, ← close_text]
  exact finish_cons _ _ _

theorem finish_start_stop_item (r : Reading) :
    r.finish [.start "item", .stop] = .ok { r.channel with items := r.channel.items ++ [{}] } := by
  rw [finish_cons, step]
  exact finish_item (r := r.enter "item") rfl rfl

theorem finish_start_stop_author (r : Reading) :
    r.finish [.start "wp:author", .stop] = .ok { r.channel with authors := r.channel.authors ++ [{}] } := by
  rw [finish_cons, step]
  exact finish_author (r := r.enter "wp:author") rfl rfl

theorem exists_setField_nil (item : Item) (field : String) : ∃ item', item.setField field [] = .ok item' := by
  unfold Item.setField
  split <;> exact ⟨_, rfl⟩

/-- A field that is set to the empty text shows where its record ends. -/
theorem exists_of_close_nil (hitem : name ≠ "item") (hauthor : name ≠ "wp:author")
    (h : r.close (r.path.head?.getD "") name [] ≠ .ok r) :
    ∃ after, r.finish after ≠ r.finish (.start name :: .stop :: after) := by
  have hpair := finish_start_stop r hitem hauthor
  rcases r.close_cases (r.path.head?.getD "") hitem hauthor with
    ⟨hparent, -, item, hopen, hclose⟩ | ⟨hparent, -, author, hopen, hclose⟩ | ⟨-, -, hclose⟩ | ⟨-, hclose⟩
  · obtain ⟨outer, hpath⟩ := eq_cons_of_head?_getD hparent (by decide)
    obtain ⟨item', hset⟩ := exists_setField_nil item name
    rw [hclose, hset] at h hpair
    have hne : item ≠ item' := by
      intro heq
      rw [← heq] at h
      exact h (by simp [Except.map, ← hopen])
    refine ⟨[.stop], ?_⟩
    rw [hpair]
    have hpath' : { r with item := some item', text := [] }.path = "item" :: outer := hpath
    exact finish_item_ne hpath hpath' hopen rfl hne rfl
  · obtain ⟨outer, hpath⟩ := eq_cons_of_head?_getD hparent (by decide)
    rw [hclose] at h hpair
    have hne : author ≠ author.setField name [] := by
      intro heq
      exact h (by rw [← heq, ← hopen])
    refine ⟨[.stop], ?_⟩
    rw [hpair]
    have hpath' : { r with author := some (author.setField name []), text := [] }.path = "wp:author" :: outer := hpath
    exact finish_author_ne hpath hpath' hopen rfl hne rfl
  · rw [hclose] at h hpair
    have hne : r.channel ≠ r.channel.setField name [] := by
      intro heq
      exact h (by rw [← heq])
    have hne' : r.channel ≠ { r with channel := r.channel.setField name [], text := [] }.channel := hne
    refine ⟨[], ?_⟩
    rw [hpair]
    exact finish_channel_ne hne'
  · exact absurd (hclose []) h

/-- An element without content changes nothing here: it is no record, the field it stands for is empty or there is none,
and the text before it is no part of a field. -/
def Idle (r : Reading) (name : String) : Prop :=
  name ≠ "item" ∧ name ≠ "wp:author" ∧ r.close (r.path.head?.getD "") name [] = .ok r ∧ ¬ r.TextCounts

theorem finish_of_idle (h : r.Idle name) (after : List Event) :
    r.finish (.start name :: .stop :: after) = r.finish after := by
  obtain ⟨hitem, hauthor, hclose, htext⟩ := h
  rw [finish_start_stop r hitem hauthor, hclose]
  exact (finish_of_not_textCounts htext after []).symm

theorem idle_of_finish (h : ∀ after, r.finish after = r.finish (.start name :: .stop :: after)) : r.Idle name := by
  have hitem : name ≠ "item" := by
    rintro rfl
    have hsame := (h []).trans r.finish_start_stop_item
    simpa using congrArg (·.items.length) (Except.ok.inj hsame)
  have hauthor : name ≠ "wp:author" := by
    rintro rfl
    have hsame := (h []).trans r.finish_start_stop_author
    simpa using congrArg (·.authors.length) (Except.ok.inj hsame)
  have hclose : r.close (r.path.head?.getD "") name [] = .ok r := by
    by_contra hclose
    obtain ⟨after, hafter⟩ := exists_of_close_nil hitem hauthor hclose
    exact hafter (h after)
  refine ⟨hitem, hauthor, hclose, fun htext => ?_⟩
  obtain ⟨after, hafter⟩ := exists_of_textCounts htext
  apply hafter
  rw [h after, finish_start_stop r hitem hauthor, hclose]
  rfl

end Reading

/-! ## The two spellings -/

theorem closingName_splitName (content : List Char) : closingName (splitName content).1 = (splitName content).1 := by
  have hname : dropEndWhile isSpace (splitName content).1 = (splitName content).1 := by
    rw [splitName, List.span_eq_takeWhile_dropWhile]
    refine List.reverse_eq_iff.2 (List.dropWhile_eq_self_iff.2 fun hpos => ?_)
    have hmem := List.mem_takeWhile_imp (List.mem_reverse.1 (List.getElem_mem hpos))
    simpa using hmem
  unfold closingName
  rw [hname]
  split <;> simp_all

/-- In a document, too, the two spellings make the same events but for the element itself. -/
theorem eventsFrom_empty {path : List OpenElement} {scope inner : Scope} {content : List Char} (rest : List Piece)
    (h : scope.enter (splitName content).2 = some inner) :
    eventsFrom path scope (.empty content :: rest) =
        .empty (String.ofList (inner.resolve (splitName content).1)) :: eventsFrom path scope rest ∧
      eventsFrom path scope (.start content :: .stop (splitName content).1 :: rest) =
        .start (String.ofList (inner.resolve (splitName content).1)) :: .stop :: eventsFrom path scope rest := by
  rw [eventsFrom, eventsFrom]
  simp only [h]
  rw [eventsFrom, if_pos (closingName_splitName content)]
  trivial

theorem ofEvents_append (before after : List Event) :
    ofEvents (before ++ after) = before.foldlM Reading.step {} >>= (·.finish after) := by
  rw [ofEvents, List.foldlM_append]
  cases before.foldlM Reading.step {} <;> rfl

/-- **Where an element can be written either way.**  One tag is passed over, wherever it is and whatever its name.  A
start and an end in its place are read alike, whatever follows, exactly if the export is at fault before them or they
change nothing: the element is no item and no author, it is no field that holds a value or a category, and the text
before it belongs to no field. -/
theorem ofEvents_empty_iff (before : List Event) (name : String) :
    (∀ after, ofEvents (before ++ .empty name :: after) = ofEvents (before ++ after)) ∧
      ((∀ after, ofEvents (before ++ .empty name :: after) = ofEvents (before ++ .start name :: .stop :: after)) ↔
        ∀ r, before.foldlM Reading.step {} = .ok r → r.Idle name) := by
  have hempty (r : Reading) (after : List Event) : r.finish (.empty name :: after) = r.finish after :=
    r.finish_cons _ _
  simp only [ofEvents_append]
  cases before.foldlM Reading.step {} with
  | error e => exact ⟨fun _ => rfl, fun _ _ hr => (nomatch hr), fun _ _ => rfl⟩
  | ok r =>
    have hbind (f : Reading → Except Error Channel) : (Except.ok r >>= f : Except Error Channel) = f r := rfl
    simp only [hbind, hempty]
    refine ⟨fun _ => trivial, fun h => ?_, fun h after => ?_⟩
    · intro r' hr
      obtain rfl := Except.ok.inj hr
      exact Reading.idle_of_finish h
    · exact (Reading.finish_of_idle (h r rfl) after).symm

/-- A category without a name is a category if it is written with two tags. -/
theorem category_of_one_tag :
    parse "<rss><channel><item><category/></item></channel></rss>".toList = .ok { items := [{}] } ∧
      parse "<rss><channel><item><category></category></item></channel></rss>".toList =
        .ok { items := [{ categories := [""] }] } ∧
      events "<rss><channel><item><category/></item></channel></rss>".toList =
        [.start "rss", .start "channel", .start "item"] ++ .empty "category" :: [.stop, .stop, .stop] ∧
      events "<rss><channel><item><category></category></item></channel></rss>".toList =
        [.start "rss", .start "channel", .start "item"] ++ .start "category" :: .stop :: [.stop, .stop, .stop] := by
  decide +kernel

end BlogMarkdown.Export
