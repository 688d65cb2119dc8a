import BlogMarkdown.Proofs.Export.Elements
/-!
# Fields

Of several fields with one name the last is the value of the record, except that all categories count.  An export is
invalid if and only if one of the fields that are numbers holds something else.
-/
namespace BlogMarkdown.Export

open Text Xml

/-! ## Values -/

/-- The values of the fields of a name, in order. -/
def values (field : String) (fields : List (String × List Char)) : List (List Char) :=
  (fields.filter (·.1 = field)).map (·.2)

/-- The value of the last field of a name. -/
def lastValue (field : String) (fields : List (String × List Char)) : List Char :=
  (values field fields).getLast?.getD []

theorem values_concat (field : String) (fields : List (String × List Char)) (name : String) (value : List Char) :
    values field (fields ++ [(name, value)]) =
      if name = field then values field fields ++ [value] else values field fields := by
  rw [values, List.filter_append, List.map_append, List.filter_singleton, ← values]
  by_cases h : name = field <;> simp [h]

theorem lastValue_concat (field : String) (fields : List (String × List Char)) (name : String) (value : List Char) :
    lastValue field (fields ++ [(name, value)]) = if name = field then value else lastValue field fields := by
  rw [lastValue, values_concat]
  split
  · rw [List.getLast?_append]
    rfl
  · rfl

/-! ## Numbers -/

/-- Whether a value is blank or a number of 64 bits. -/
def holdsNumber (value : List Char) : Bool :=
  (trimBlank value).isEmpty || (numeral? 10 idLimit (trimBlank value)).isSome

/-- The number in a value; 0 if it is blank. -/
def numberIn (value : List Char) : Nat := (numeral? 10 idLimit (trimBlank value)).getD 0

theorem number_eq_ok (field : String) {value : List Char} (h : holdsNumber value = true) :
    number field value = .ok (numberIn value) := by
  unfold number numberIn
  dsimp only
  rw [holdsNumber, Bool.or_eq_true] at h
  split
  · rename_i hblank
    rw [List.isEmpty_iff.1 hblank]
    rfl
  · rename_i hblank
    obtain ⟨n, hn⟩ := Option.isSome_iff_exists.1 (h.resolve_left hblank)
    rw [hn]
    rfl

theorem number_eq_error (field : String) {value : List Char} (h : holdsNumber value = false) :
    number field value = .error (.invalidExport (.notANumber field (String.ofList (trimBlank value)))) := by
  rw [holdsNumber, Bool.or_eq_false_iff] at h
  unfold number
  dsimp only
  rw [if_neg (by rw [h.1]; decide), Option.isSome_eq_false_iff.1 h.2 |> Option.isNone_iff_eq_none.1]

/-- The names of the fields that hold numbers. -/
def numberFields : List String := ["wp:post_id", "wp:post_parent"]

/-! ## Records -/

/-- The item with some fields. -/
def itemOf (fields : List (String × List Char)) : Item :=
  let last (field : String) := String.ofList (lastValue field fields)
  { title := last "title"
    link := last "link"
    content := last "content:encoded"
    postId := numberIn (lastValue "wp:post_id" fields)
    postDateGmt := last "wp:post_date_gmt"
    postName := last "wp:post_name"
    postType := last "wp:post_type"
    postParent := numberIn (lastValue "wp:post_parent" fields)
    commentStatus := last "wp:comment_status"
    status := last "wp:status"
    attachmentUrl := last "wp:attachment_url"
    categories := (values "category" fields).map String.ofList }

/-- The author with some fields. -/
def authorOf (fields : List (String × List Char)) : Author :=
  let last (field : String) := String.ofList (lastValue field fields)
  { login := last "wp:author_login"
    email := last "wp:author_email"
    displayName := last "wp:author_display_name"
    firstName := last "wp:author_first_name"
    lastName := last "wp:author_last_name" }

theorem setField_itemOf (fields : List (String × List Char)) {name : String} {value : List Char}
    (h : name ∈ numberFields → holdsNumber value = true) :
    (itemOf fields).setField name value = .ok (itemOf (fields ++ [(name, value)])) := by
  unfold Item.setField
  split
  case h_4 | h_8 =>
    rw [number_eq_ok _ (h (by decide))]
    simp [itemOf, lastValue_concat, values_concat, Except.map]
  case h_13 => simp_all [itemOf, lastValue_concat, values_concat]
  all_goals simp [itemOf, lastValue_concat, values_concat]

theorem setField_authorOf (fields : List (String × List Char)) (name : String) (value : List Char) :
    (authorOf fields).setField name value = authorOf (fields ++ [(name, value)]) := by
  unfold Author.setField
  split
  case h_6 => simp_all [authorOf, lastValue_concat]
  all_goals simp [authorOf, lastValue_concat]

/-- Another value in a field that holds a number makes the export invalid. -/
theorem setField_eq_error (item : Item) {name : String} {value : List Char} (hname : name ∈ numberFields)
    (h : holdsNumber value = false) :
    item.setField name value = .error (.invalidExport (.notANumber name (String.ofList (trimBlank value)))) := by
  rcases List.mem_pair.1 hname with rfl | rfl
  · show (number "wp:post_id" value).map _ = _
    rw [number_eq_error _ h]
    rfl
  · show (number "wp:post_parent" value).map _ = _
    rw [number_eq_error _ h]
    rfl

/-- Every field that should be a number is one. -/
def NumbersHold (fields : List (String × List Char)) : Prop :=
  ∀ field ∈ fields, field.1 ∈ numberFields → holdsNumber field.2 = true

instance (fields : List (String × List Char)) : Decidable (NumbersHold fields) :=
  inferInstanceAs (Decidable (∀ field ∈ fields, field.1 ∈ numberFields → holdsNumber field.2 = true))

theorem not_numbersHold {fields : List (String × List Char)} :
    ¬ NumbersHold fields ↔ ∃ field ∈ fields, field.1 ∈ numberFields ∧ holdsNumber field.2 = false := by
  simp only [NumbersHold, not_forall, exists_prop, Bool.not_eq_true]

theorem setFields_items : ∀ {fields : List (String × List Char)} (before : List (String × List Char)),
    NumbersHold fields → Collector.items.setFields (itemOf before) fields = .ok (itemOf (before ++ fields))
  | [], before, _ => by
    rw [List.append_nil]
    rfl
  | (name, value) :: fields, before, h => by
    obtain ⟨hfield, hfields⟩ := List.forall_mem_cons.1 h
    have ih := setFields_items (before ++ [(name, value)]) hfields
    rw [List.append_assoc, List.singleton_append] at ih
    refine Eq.trans ?_ ih
    exact congrArg (· >>= (Collector.items.setFields · fields)) (setField_itemOf before hfield)

theorem setFields_authors : ∀ (fields before : List (String × List Char)),
    Collector.authors.setFields (authorOf before) fields = .ok (authorOf (before ++ fields))
  | [], before => by
    rw [List.append_nil]
    rfl
  | (name, value) :: fields, before => by
    have ih := setFields_authors fields (before ++ [(name, value)])
    rw [List.append_assoc, List.singleton_append] at ih
    refine Eq.trans ?_ ih
    exact congrArg (fun author => Collector.authors.setFields author fields) (setField_authorOf before name value)

theorem setFields_items_error : ∀ {fields : List (String × List Char)} (before : List (String × List Char)),
    ¬ NumbersHold fields → ∃ fault, Collector.items.setFields (itemOf before) fields = .error (.invalidExport fault)
  | [], _, h => absurd (fun _ hfield => nomatch hfield) h
  | (name, value) :: fields, before, h => by
    by_cases hfield : name ∈ numberFields → holdsNumber value = true
    · obtain ⟨fault, ih⟩ := setFields_items_error (before ++ [(name, value)]) fun hfields =>
        h (List.forall_mem_cons.2 ⟨hfield, hfields⟩)
      refine ⟨fault, Eq.trans ?_ ih⟩
      exact congrArg (· >>= (Collector.items.setFields · fields)) (setField_itemOf before hfield)
    · obtain ⟨hname, hvalue⟩ := Classical.not_imp.1 hfield
      refine ⟨.notANumber name (String.ofList (trimBlank value)), ?_⟩
      exact congrArg (· >>= (Collector.items.setFields · fields))
        (setField_eq_error (itemOf before) hname (Bool.eq_false_iff.2 hvalue))

theorem record_items {content : List Node} (h : NumbersHold (fieldsOf content)) :
    Collector.items.record content = .ok (itemOf (fieldsOf content)) := setFields_items [] h

theorem record_authors (content : List Node) : Collector.authors.record content = .ok (authorOf (fieldsOf content)) :=
  setFields_authors (fieldsOf content) []

theorem record_items_error {content : List Node} (h : ¬ NumbersHold (fieldsOf content)) :
    ∃ fault, Collector.items.record content = .error (.invalidExport fault) := setFields_items_error [] h

/-! ## Exports -/

theorem ofEvents_of_numbersHold {forest : List Node} (hitems : Collector.items.Fits forest)
    (hauthors : Collector.authors.Fits forest)
    (h : ∀ content ∈ contentsOf "item" forest, NumbersHold (fieldsOf content)) :
    ∃ channel, ofEvents (eventsOf forest) = .ok channel ∧
      channel.items = (contentsOf "item" forest).map (itemOf <| fieldsOf ·) ∧
      channel.authors = (contentsOf "wp:author" forest).map (authorOf <| fieldsOf ·) := by
  have hcollect := (Collector.collect_eventsOf hitems).trans
    (mapM_eq_ok fun content hmem => record_items (h content hmem))
  rw [collect_items] at hcollect
  obtain ⟨channel, hchannel, hchannelItems⟩ := exists_of_map hcollect
  have hcollect' := (Collector.collect_eventsOf hauthors).trans (mapM_eq_ok fun content _ => record_authors content)
  exact ⟨channel, hchannel, hchannelItems, Except.ok.inj ((collect_authors hchannel).symm.trans hcollect')⟩

theorem ofEvents_of_not_numbersHold {forest : List Node} (hitems : Collector.items.Fits forest)
    (h : ∃ content ∈ contentsOf "item" forest, ¬ NumbersHold (fieldsOf content)) :
    ∃ fault, ofEvents (eventsOf forest) = .error (.invalidExport fault) := by
  have hcollect := Collector.collect_eventsOf hitems
  rw [collect_items] at hcollect
  cases hrecords : (contentsOf "item" forest).mapM Collector.items.record with
  | ok items =>
    -- the record of the item at hand would be complete
    obtain ⟨content, hmem, hnumbers⟩ := h
    obtain ⟨fault, hfault⟩ := record_items_error hnumbers
    obtain ⟨item, hitem⟩ := exists_of_mapM hrecords hmem
    cases hfault.symm.trans hitem
  | error e =>
    obtain ⟨content, -, hcontent⟩ := exists_of_mapM_error hrecords
    have hnumbers : ¬ NumbersHold (fieldsOf content) := fun hnumbers => by
      cases hcontent.symm.trans (record_items hnumbers)
    obtain ⟨fault, hfault⟩ := record_items_error hnumbers
    obtain rfl := Except.error.inj (hcontent.symm.trans hfault)
    refine ⟨fault, ?_⟩
    rw [show Collector.items.name = "item" from rfl, hrecords] at hcollect
    cases hevents : ofEvents (eventsOf forest) with
    | ok channel =>
      rw [hevents] at hcollect
      cases hcollect
    | error e =>
      rw [hevents] at hcollect
      exact congrArg Except.error (Except.error.inj hcollect)

/-- **The reader extracts exactly the fields of each item and each author.**  If no item is in another one, no author in
another one, and fields hold no elements, then the events of a forest are an invalid export if and only if a field of an
item that should be a number is not; else they make an item of each item with a start and an end, and an author of each
author, in the order of the document, and nothing deeper in an item or an author comes into their fields. -/
theorem ofEvents_eventsOf {forest : List Node} (hitems : Collector.items.Fits forest)
    (hauthors : Collector.authors.Fits forest) :
    ((∃ fault, ofEvents (eventsOf forest) = .error (.invalidExport fault)) ↔
      ∃ content ∈ contentsOf "item" forest, ∃ field ∈ fieldsOf content,
        field.1 ∈ numberFields ∧ holdsNumber field.2 = false) ∧
    ((∀ content ∈ contentsOf "item" forest, NumbersHold (fieldsOf content)) →
      ∃ channel, ofEvents (eventsOf forest) = .ok channel ∧
        channel.items = (contentsOf "item" forest).map (itemOf <| fieldsOf ·) ∧
        channel.authors = (contentsOf "wp:author" forest).map (authorOf <| fieldsOf ·)) := by
  refine ⟨⟨fun ⟨fault, hfault⟩ => ?_, fun ⟨content, hmem, hnumbers⟩ => ?_⟩, ofEvents_of_numbersHold hitems hauthors⟩
  · by_contra hnone
    obtain ⟨channel, hchannel, -⟩ := ofEvents_of_numbersHold hitems hauthors fun content hmem =>
      Classical.not_not.1 fun hnumbers => hnone ⟨content, hmem, not_numbersHold.1 hnumbers⟩
    cases hfault.symm.trans hchannel
  · exact ofEvents_of_not_numbersHold hitems ⟨content, hmem, not_numbersHold.2 hnumbers⟩

/-- Two items and an author: repeated fields, references, elements deeper down, numbers, and an item as one tag. -/
def itemsForest : List Node :=
  let field (name value : String) : Node := .element name [.text value.toList]
  [.other, .element "rss" [.element "channel" [
    .element "wp:author" [field "wp:author_login" "admin", field "title" "no field"],
    .element "item" [.text ['\n'], field "title" "a", .element "wp:postmeta" [field "title" "b", field "category" "c"],
      .element "title" [.text "x ".toList, .other, .reference "amp".toList, .reference "nbsp".toList],
      field "category" "d", field "wp:post_id" " 12 ", field "category" "e", field "wp:post_parent" " "],
    .empty "item", .element "wp:meta" [.element "item" [field "wp:post_id" "+7"]]]]]

theorem ofEvents_itemsForest :
    Collector.items.Fits itemsForest ∧ Collector.authors.Fits itemsForest ∧
      ∃ channel, ofEvents (eventsOf itemsForest) = .ok channel ∧
        channel.items = [{ title := "x &&nbsp;", postId := 12, categories := ["d", "e"] }, { postId := 7 }] ∧
        channel.authors = [{ login := "admin" }] := by
  have hitems : Collector.items.Fits itemsForest := by decide +kernel
  have hauthors : Collector.authors.Fits itemsForest := by decide +kernel
  have hnumbers : ∀ content ∈ contentsOf "item" itemsForest, NumbersHold (fieldsOf content) := by decide +kernel
  obtain ⟨channel, hchannel, hchannelItems, hchannelAuthors⟩ := (ofEvents_eventsOf hitems hauthors).2 hnumbers
  refine ⟨hitems, hauthors, channel, hchannel, hchannelItems.trans ?_, hchannelAuthors.trans ?_⟩ <;> decide +kernel

/-- An item that is written as one tag is no item. -/
theorem item_of_one_tag :
    let forest := [Node.element "rss" [.element "channel" [.empty "item"]]]
    events "<rss><channel><item/></channel></rss>".toList = eventsOf forest ∧
      Collector.items.Fits forest ∧ Collector.authors.Fits forest ∧ ofEvents (eventsOf forest) = .ok {} := by
  decide +kernel

end BlogMarkdown.Export
