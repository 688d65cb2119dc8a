import BlogMarkdown.Html.Formatting
/-!
# Building a tree from tokens

What each token does to the tree, by the mode that the construction is in. A rule either finishes
with a token or changes the mode and hands the token on to it.
-/
namespace BlogMarkdown.Html

open Dom

/-- What a rule leaves: the new state, and the token if it is still to be processed. -/
abbrev Step := Builder × Option Token

namespace Builder

/-- The rule is finished. -/
def done (b : Builder) : Step := (b, none)

/-- The token goes on to another mode. -/
def handOn (b : Builder) (mode : Mode) (token : Token) : Step := ({ b with mode := mode }, some token)

/-- Whether a tag is for an input field that is not shown. -/
def isHiddenInput (tag : Tag) : Bool :=
  (tag.attributes.find? (·.key = "type")).any fun a =>
    a.value.toList.map Char.toLower = "hidden".toList

/-! ## Metadata, also inside the body -/

/-- Start tags of elements that may stand in the head of a document. -/
def metadataTags : List String :=
  ["base", "basefont", "bgsound", "link", "meta", "noframes", "script", "style", "template",
    "title"]

/-- The start tag of such an element. -/
def startMetadata (b : Builder) (tag : Tag) : Builder :=
  match tag.name with
  | "title" => b.insertWithText tag (.escapable tag.name)
  | "noframes" | "style" => b.insertWithText tag (.raw tag.name)
  | "script" => b.insertWithText tag .script
  | "template" =>
    let b := b.pushMarker
    { b with mode := .inTemplate, templateModes := .inTemplate :: b.templateModes }.insert tag
  | _ => b.insertVoid tag

/-- The end tag of a template. -/
def endTemplate (b : Builder) : Builder :=
  if b.inTemplate then
    let b := (b.generateImpliedEndTags thoroughlyImpliedEndTags).popThroughTag "template"
    let b := b.clearToMarker
    { b with templateModes := b.templateModes.tail }.resetMode
  else b

/-! ## In the body -/

/-- A list item or an entry of a definition list ends the one that is open before it. -/
def startListEntry (b : Builder) (tag : Tag) (closed : List String) : Builder :=
  let stops := specialTags.filter fun t => t ≠ "address" ∧ t ≠ "div" ∧ t ≠ "p"
  let found := b.openElements.find? fun id => b.isOneOf closed id || b.isOneOf stops id
  let b := match found with
    | some id =>
      if b.isOneOf closed id then
        let closedTag := (b.name id).tag
        (b.generateImpliedEndTagsExcept closedTag).popThroughTag closedTag
      else b
    | none => b
  b.closeParagraphInScope.insert tag

/-- Elements that take the text that follows them and nothing else. -/
def startRawText (b : Builder) (tag : Tag) : Builder := b.insertWithText tag (.raw tag.name)

/-- A link ends the one that is in effect before it. -/
def startLink (b : Builder) (tag : Tag) : Builder :=
  let present := b.activeFormatting.find? fun f =>
    match f with
    | .element id _ => b.isOneOf ["a"] id
    | .marker => false
  let b := match present with
    | some (.element id _) => ((b.closeFormatting "a").unformat id).forget id
    | _ => b
  b.reconstructFormatting.insertFormatting tag

/-- The start tag of an element in another vocabulary. -/
def startForeign (b : Builder) (vocabulary : Vocabulary) (tag : Tag) : Builder :=
  let name := if vocabulary = .svg then respell svgTags tag.name else tag.name
  let attributes := foreignAttributes vocabulary tag.attributes
  if tag.selfClosing then (b.insertClosed ⟨vocabulary, name⟩ attributes).1
  else (b.insertOpen ⟨vocabulary, name⟩ attributes).1

/-- The number of the outermost open element. -/
def rootElement (b : Builder) : NodeId := b.openElements.getLastD Store.document

/-- The number of the body: the element that is open right inside the outermost one. -/
def bodyElement? (b : Builder) : Option NodeId := b.openElements.reverse[1]?

/-- A start tag in the body. -/
def startInBody (b : Builder) (tag : Tag) : Builder :=
  let name := tag.name
  if name = "html" then
    if b.inTemplate then b else b.addMissingAttributes b.rootElement tag.attributes
  else if metadataTags.contains name then b.startMetadata tag
  else if name = "body" then
    match b.bodyElement? with
    | some id => if b.inTemplate then b else b.addMissingAttributes id tag.attributes
    | none => b
  else if name = "frameset" then b
  else if blockStartTags.contains name then b.closeParagraphInScope.insert tag
  else if headingTags.contains name then
    let b := b.closeParagraphInScope
    (if b.currentIsOneOf headingTags then b.pop else b).insert tag
  else if name = "pre" ∨ name = "listing" then
    { b.closeParagraphInScope.insert tag with skipNewline := true }
  else if name = "form" then
    if b.form.isSome ∧ ¬ b.inTemplate then b
    else
      let b := b.closeParagraphInScope.insert tag
      if b.inTemplate then b else { b with form := some b.current }
  else if name = "li" then b.startListEntry tag ["li"]
  else if name = "dd" ∨ name = "dt" then b.startListEntry tag ["dd", "dt"]
  else if name = "plaintext" then { b.closeParagraphInScope.insert tag with textMode := .plain }
  else if name = "button" then
    let b := if b.hasTagInScope endsScope "button" then
        (b.generateImpliedEndTags impliedEndTags).popThroughTag "button" else b
    b.reconstructFormatting.insert tag
  else if name = "a" then b.startLink tag
  else if formattingTags.contains name then b.reconstructFormatting.insertFormatting tag
  else if name = "nobr" then
    let b := b.reconstructFormatting
    let b := if b.hasTagInScope endsScope "nobr" then
        (b.closeFormatting "nobr").reconstructFormatting else b
    b.insertFormatting tag
  else if ["applet", "marquee", "object"].contains name then
    (b.reconstructFormatting.insert tag).pushMarker
  else if name = "table" then { b.closeParagraphInScope.insert tag with mode := .inTable }
  else if ["area", "br", "embed", "img", "keygen", "wbr"].contains name then
    b.reconstructFormatting.insertVoid tag
  else if name = "input" then
    let b := if b.hasTagInScope endsScope "select" then b.popThroughTag "select" else b
    b.reconstructFormatting.insertVoid tag
  else if ["param", "source", "track"].contains name then b.insertVoid tag
  else if name = "hr" then
    let b := b.closeParagraphInScope
    let b := if b.hasTagInScope endsScope "select" then
        b.generateImpliedEndTags impliedEndTags else b
    b.insertVoid tag
  else if name = "image" then b.reconstructFormatting.insertVoid { tag with name := "img" }
  else if name = "textarea" then
    { b.insertWithText tag (.escapable name) with skipNewline := true }
  else if name = "xmp" then b.closeParagraphInScope.reconstructFormatting.startRawText tag
  else if ["iframe", "noembed", "noscript"].contains name then b.startRawText tag
  else if name = "select" then
    if b.hasTagInScope endsScope "select" then b.popThroughTag "select"
    else b.reconstructFormatting.insert tag
  else if name = "option" then
    let b := if b.hasTagInScope endsScope "select" then b.generateImpliedEndTagsExcept "optgroup"
      else if b.currentIsOneOf ["option"] then b.pop else b
    b.reconstructFormatting.insert tag
  else if name = "optgroup" then
    let b := if b.hasTagInScope endsScope "select" then b.generateImpliedEndTags impliedEndTags
      else if b.currentIsOneOf ["option"] then b.pop else b
    b.reconstructFormatting.insert tag
  else if name = "rb" ∨ name = "rtc" then
    (if b.hasTagInScope endsScope "ruby" then b.generateImpliedEndTags impliedEndTags else b).insert
      tag
  else if name = "rp" ∨ name = "rt" then
    (if b.hasTagInScope endsScope "ruby" then b.generateImpliedEndTagsExcept "rtc" else b).insert
      tag
  else if name = "math" then b.reconstructFormatting.startForeign .mathml tag
  else if name = "svg" then b.reconstructFormatting.startForeign .svg tag
  else if ["caption", "col", "colgroup", "frame", "head", "tbody", "td", "tfoot", "th", "thead",
      "tr"].contains name then b
  else b.reconstructFormatting.insert tag

/-- The end tag of a form. -/
def endForm (b : Builder) : Builder :=
  if b.inTemplate then
    if b.hasTagInScope endsScope "form" then
      (b.generateImpliedEndTags impliedEndTags).popThroughTag "form"
    else b
  else match b.form with
    | none => b
    | some id =>
      let b := { b with form := none }
      if b.hasInScope endsScope (· = id) then
        (b.generateImpliedEndTags impliedEndTags).forget id
      else b

/-- An end tag in the body, except those of the body and the document. -/
def endInBody (b : Builder) (tag : Tag) : Builder :=
  let name := tag.name
  if name = "template" then b.endTemplate
  else if blockEndTags.contains name then
    if b.hasTagInScope endsScope name then
      (b.generateImpliedEndTags impliedEndTags).popThroughTag name
    else b
  else if name = "form" then b.endForm
  else if name = "p" then
    (if b.hasTagInScope endsButtonScope "p" then b else b.insertImplied "p").closeParagraph
  else if name = "li" ∨ name = "dd" ∨ name = "dt" then
    let stop := if name = "li" then endsListItemScope else endsScope
    if b.hasTagInScope stop name then (b.generateImpliedEndTagsExcept name).popThroughTag name
    else b
  else if headingTags.contains name then
    if b.hasInScope endsScope (b.isOneOf headingTags) then
      (b.generateImpliedEndTags impliedEndTags).popThrough (Html.isOneOf headingTags)
    else b
  else if name = "a" ∨ name = "nobr" ∨ formattingTags.contains name then b.closeFormatting name
  else if ["applet", "marquee", "object"].contains name then
    if b.hasTagInScope endsScope name then
      ((b.generateImpliedEndTags impliedEndTags).popThroughTag name).clearToMarker
    else b
  else if name = "br" then b.startInBody ⟨"br", [], false⟩
  else b.closeOrdinary name

/-- The rules of the body. -/
def inBodyStep (b : Builder) (token : Token) : Step :=
  match token with
  | .nullCharacter | .fault => b.done
  | .characters text => (b.reconstructFormatting.insertText text).done
  | .comment text => (b.insertComment text).done
  | .startTag tag => (b.startInBody tag).done
  | .endTag tag =>
    if tag.name = "body" ∨ tag.name = "html" then
      if b.hasTagInScope endsScope "body" then
        if tag.name = "body" then { b with mode := .afterBody }.done else b.handOn .afterBody token
      else b.done
    else (b.endInBody tag).done

/-- The rules inside an element of which only the text counts. -/
def inTextStep (b : Builder) (token : Token) : Step :=
  match token with
  | .characters text => (b.insertText text).done
  | .endTag _ => { b.pop with mode := b.returnMode, textMode := .ordinary }.done
  | _ => b.done

/-! ## In tables -/

/-- A token that has no place in a table goes by the rules of the body, next to the table. -/
def fosterStep (b : Builder) (token : Token) : Step :=
  let (b, rest) := { b with fostering := true }.inBodyStep token
  ({ b with fostering := false }, rest)

/-- End tags that no rule of a table takes. -/
def strayTableEndTags : List String :=
  ["body", "caption", "col", "colgroup", "html", "tbody", "td", "tfoot", "th", "thead", "tr"]

/-- Closes open elements up to a table. -/
def clearToTable (b : Builder) : Builder := b.popUntilCurrent endsTableScope

/-- Closes open elements up to a section of a table. -/
def clearToTableBody (b : Builder) : Builder :=
  b.popUntilCurrent (Html.isOneOf ["tbody", "tfoot", "thead", "template", "html"])

/-- Closes open elements up to a row. -/
def clearToRow (b : Builder) : Builder :=
  b.popUntilCurrent (Html.isOneOf ["tr", "template", "html"])

/-- A start tag in a table. -/
def startInTable (b : Builder) (tag : Tag) : Step :=
  let token := Token.startTag tag
  match tag.name with
  | "caption" => { b.clearToTable.pushMarker.insert tag with mode := .inCaption }.done
  | "colgroup" => { b.clearToTable.insert tag with mode := .inColumnGroup }.done
  | "col" => (b.clearToTable.insertImplied "colgroup").handOn .inColumnGroup token
  | "tbody" | "tfoot" | "thead" => { b.clearToTable.insert tag with mode := .inTableBody }.done
  | "td" | "th" | "tr" => (b.clearToTable.insertImplied "tbody").handOn .inTableBody token
  | "table" =>
    if b.hasTagInScope endsTableScope "table" then
      ((b.popThroughTag "table").resetMode, some token)
    else b.done
  | "style" | "script" | "template" => (b.startMetadata tag).done
  | "input" => if isHiddenInput tag then (b.insertVoid tag).done else b.fosterStep token
  | "form" =>
    if b.inTemplate ∨ b.form.isSome then b.done
    else
      let (b, id) := b.insertClosed (.html tag.name) tag.attributes
      { b with form := some id }.done
  | _ => b.fosterStep token

/-- The rules of a table. -/
def inTableStep (b : Builder) (token : Token) : Step :=
  match token with
  | .characters _ | .nullCharacter =>
    if b.currentIsOneOf ["table", "tbody", "tfoot", "thead", "tr"] then
      { b with returnMode := b.mode }.handOn .inTableText token
    else b.fosterStep token
  | .comment text => (b.insertComment text).done
  | .fault => b.done
  | .startTag tag => b.startInTable tag
  | .endTag tag =>
    if tag.name = "table" then
      if b.hasTagInScope endsTableScope "table" then (b.popThroughTag "table").resetMode.done
      else b.done
    else if strayTableEndTags.contains tag.name then b.done
    else if tag.name = "template" then b.endTemplate.done
    else b.fosterStep token

/-- The blanks of HTML text. -/
def isTextBlank (c : Char) : Bool := isMarkupBlank c || c = '\x0d'

/-- Places the characters that were read in a table: blanks go into the table, a text with anything
else next to it. -/
def placeTableText (b : Builder) : Builder :=
  let text := b.tableText
  let b := { b with tableText := [] }
  if text.isEmpty then b
  else if text.all isTextBlank then b.insertText text
  else (b.fosterStep (.characters text)).1

/-- The rules between the characters of a table and what follows them. -/
def inTableTextStep (b : Builder) (token : Token) : Step :=
  match token with
  | .nullCharacter => b.done
  | .characters text => { b with tableText := b.tableText ++ text }.done
  | _ => b.placeTableText.handOn b.returnMode token

/-- The rules of a table's caption. -/
def inCaptionStep (b : Builder) (token : Token) : Step :=
  let close (token : Option Token) : Step :=
    if b.hasTagInScope endsTableScope "caption" then
      let b := (b.generateImpliedEndTags impliedEndTags).popThroughTag "caption"
      ({ b.clearToMarker with mode := .inTable }, token)
    else b.done
  match token with
  | .startTag tag =>
    if ["caption", "col", "colgroup", "tbody", "td", "tfoot", "th", "thead", "tr"].contains
        tag.name then close token
    else b.inBodyStep token
  | .endTag tag =>
    if tag.name = "caption" then close none
    else if tag.name = "table" then close token
    else if strayTableEndTags.contains tag.name then b.done
    else b.inBodyStep token
  | _ => b.inBodyStep token

/-- The rules of a column group. -/
def inColumnGroupStep (b : Builder) (token : Token) : Step :=
  let leave : Step :=
    if b.currentIsOneOf ["colgroup"] then b.pop.handOn .inTable token else b.done
  match token with
  | .characters text => if text.all isTextBlank then (b.insertText text).done else leave
  | .comment text => (b.insertComment text).done
  | .startTag tag =>
    match tag.name with
    | "html" => b.inBodyStep token
    | "col" => (b.insertVoid tag).done
    | "template" => (b.startMetadata tag).done
    | _ => leave
  | .endTag tag =>
    match tag.name with
    | "colgroup" =>
      if b.currentIsOneOf ["colgroup"] then { b.pop with mode := .inTable }.done else b.done
    | "col" => b.done
    | "template" => b.endTemplate.done
    | _ => leave
  | .fault => b.done
  | .nullCharacter => leave

/-- The rules of a section of a table. -/
def inTableBodyStep (b : Builder) (token : Token) : Step :=
  let leave : Step :=
    if b.hasInScope endsTableScope (b.isOneOf ["table", "tbody", "tfoot"]) then
      b.clearToTableBody.pop.handOn .inTable token
    else b.done
  match token with
  | .startTag tag =>
    if tag.name = "tr" then { b.clearToTableBody.insert tag with mode := .inRow }.done
    else if tag.name = "th" ∨ tag.name = "td" then
      (b.clearToTableBody.insertImplied "tr").handOn .inRow token
    else if ["caption", "col", "colgroup", "tbody", "tfoot", "thead"].contains tag.name then leave
    else b.inTableStep token
  | .endTag tag =>
    if ["tbody", "tfoot", "thead"].contains tag.name then
      if b.hasTagInScope endsTableScope tag.name then
        { b.clearToTableBody.pop with mode := .inTable }.done
      else b.done
    else if tag.name = "table" then leave
    else if strayTableEndTags.contains tag.name then b.done
    else b.inTableStep token
  | _ => b.inTableStep token

/-- The rules of a row. -/
def inRowStep (b : Builder) (token : Token) : Step :=
  let closeRow (b : Builder) : Builder := { b.clearToRow.pop with mode := .inTableBody }
  let leave : Step :=
    if b.hasTagInScope endsTableScope "tr" then (closeRow b, some token) else b.done
  match token with
  | .startTag tag =>
    if tag.name = "th" ∨ tag.name = "td" then
      { b.clearToRow.insert tag with mode := .inCell }.pushMarker.done
    else if ["caption", "col", "colgroup", "tbody", "tfoot", "thead", "tr"].contains tag.name then
      leave
    else b.inTableStep token
  | .endTag tag =>
    if tag.name = "tr" then
      if b.hasTagInScope endsTableScope "tr" then (closeRow b).done else b.done
    else if tag.name = "table" then leave
    else if ["tbody", "tfoot", "thead"].contains tag.name then
      if b.hasTagInScope endsTableScope tag.name then leave else b.done
    else if strayTableEndTags.contains tag.name then b.done
    else b.inTableStep token
  | _ => b.inTableStep token

/-- The rules of a cell. -/
def inCellStep (b : Builder) (token : Token) : Step :=
  let leave : Step :=
    let b := (b.generateImpliedEndTags impliedEndTags).popThrough (Html.isOneOf ["td", "th"])
    b.clearToMarker.handOn .inRow token
  match token with
  | .startTag tag =>
    if ["caption", "col", "colgroup", "tbody", "td", "tfoot", "th", "thead", "tr"].contains
        tag.name then
      if b.hasInScope endsTableScope (b.isOneOf ["td", "th"]) then leave else b.done
    else b.inBodyStep token
  | .endTag tag =>
    if tag.name = "td" ∨ tag.name = "th" then
      if b.hasTagInScope endsTableScope tag.name then
        let b := (b.generateImpliedEndTags impliedEndTags).popThroughTag tag.name
        { b.clearToMarker with mode := .inRow }.done
      else b.done
    else if ["body", "caption", "col", "colgroup", "html"].contains tag.name then b.done
    else if ["table", "tbody", "tfoot", "thead", "tr"].contains tag.name then
      if b.hasTagInScope endsTableScope tag.name then leave else b.done
    else b.inBodyStep token
  | _ => b.inBodyStep token

/-! ## In templates and behind the body -/

/-- The rules of a template: its first tag says what the template holds. -/
def inTemplateStep (b : Builder) (token : Token) : Step :=
  let become (mode : Mode) : Step :=
    { b with templateModes := mode :: b.templateModes.tail }.handOn mode token
  match token with
  | .characters _ | .comment _ => b.inBodyStep token
  | .startTag tag =>
    if metadataTags.contains tag.name then (b.startMetadata tag).done
    else match tag.name with
      | "caption" | "colgroup" | "tbody" | "tfoot" | "thead" => become .inTable
      | "col" => become .inColumnGroup
      | "tr" => become .inTableBody
      | "td" | "th" => become .inRow
      | _ => become .inBody
  | .endTag tag => if tag.name = "template" then b.endTemplate.done else b.done
  | .nullCharacter | .fault => b.done

/-- The rules behind the body. -/
def afterBodyStep (b : Builder) (token : Token) : Step :=
  match token with
  | .characters text => if text.all isTextBlank then b.inBodyStep token else b.handOn .inBody token
  | .comment text => (b.insertCommentInto b.rootElement text).done
  | .startTag tag => if tag.name = "html" then b.inBodyStep token else b.handOn .inBody token
  | .endTag tag =>
    if tag.name = "html" then { b with mode := .afterDocument }.done else b.handOn .inBody token
  | .nullCharacter => b.handOn .inBody token
  | .fault => b.done

/-- The rules behind the document. -/
def afterDocumentStep (b : Builder) (token : Token) : Step :=
  match token with
  | .characters text => if text.all isTextBlank then b.inBodyStep token else b.handOn .inBody token
  | .comment text => (b.insertCommentInto Store.document text).done
  | .startTag tag => if tag.name = "html" then b.inBodyStep token else b.handOn .inBody token
  | .endTag _ | .nullCharacter => b.handOn .inBody token
  | .fault => b.done

/-- The rules of the present mode. -/
def modeStep (b : Builder) (token : Token) : Step :=
  match b.mode with
  | .inBody => b.inBodyStep token
  | .inText => b.inTextStep token
  | .inTable => b.inTableStep token
  | .inTableText => b.inTableTextStep token
  | .inCaption => b.inCaptionStep token
  | .inColumnGroup => b.inColumnGroupStep token
  | .inTableBody => b.inTableBodyStep token
  | .inRow => b.inRowStep token
  | .inCell => b.inCellStep token
  | .inTemplate => b.inTemplateStep token
  | .afterBody => b.afterBodyStep token
  | .afterDocument => b.afterDocumentStep token

/-! ## In other vocabularies -/

/-- Whether the innermost open element is not of HTML. -/
def currentIsForeign (b : Builder) : Bool := (b.name b.current).vocabulary ≠ .html

/-- Whether a token goes by the rules of other vocabularies. -/
def isForeign (b : Builder) (token : Token) : Bool :=
  let name := b.name b.current
  if b.openElements.isEmpty || !b.currentIsForeign then false
  else match token with
    | .characters _ | .nullCharacter => !isFormulaText name && !isDrawingText name
    | .startTag tag =>
      if isFormulaText name then tag.name = "mglyph" || tag.name = "malignmark"
      else if isDrawingText name then false
      else !(name = ⟨.mathml, "annotation-xml"⟩ && tag.name = "svg")
    | _ => true

/-- Whether a start tag ends the other vocabulary. -/
def breaksForeign (tag : Tag) : Bool :=
  foreignBreakers.contains tag.name ||
    (tag.name = "font" &&
      tag.attributes.any fun a => a.key = "color" || a.key = "face" || a.key = "size")

/-- A tag that cannot stand in another vocabulary: its elements are closed. -/
def leaveForeign (b : Builder) (token : Token) : Step :=
  (b.popUntilCurrent fun name =>
    name.vocabulary = .html || isFormulaText name || isDrawingText name).modeStep token

/-- An end tag in another vocabulary, looked for among the open elements from the innermost one. -/
def endForeign (b : Builder) (tag : Tag) (first : Bool) : List NodeId → Step
  | [] | [_] => b.done
  | id :: outer =>
    let name := b.name id
    if !first && name.vocabulary = .html then b.modeStep (.endTag tag)
    else if name.tag.toList.map Char.toLower = tag.name.toList then
      { b with openElements := outer }.done
    else b.endForeign tag false outer

/-- The rules of other vocabularies. -/
def foreignStep (b : Builder) (token : Token) : Step :=
  match token with
  | .nullCharacter => (b.insertText ['\ufffd']).done
  | .characters text => (b.insertText text).done
  | .comment text => (b.insertComment text).done
  | .fault => b.done
  | .startTag tag =>
    if breaksForeign tag then b.leaveForeign token
    else (b.startForeign (b.name b.current).vocabulary tag).done
  | .endTag tag =>
    if tag.name = "br" ∨ tag.name = "p" then b.leaveForeign token
    else b.endForeign tag true b.openElements

/-! ## Whole tokens -/

/-- Whether blanks and other characters are told apart in a mode. -/
def Mode.tellsBlanks : Mode → Bool
  | .inColumnGroup | .afterBody | .afterDocument => true
  | _ => false

/-- The characters of a text up to the first change between blanks and others. -/
def firstRun : List Char → List Char × List Char
  | [] => ([], [])
  | c :: rest =>
    let (run, rest) := rest.span fun d => isTextBlank d = isTextBlank c
    (c :: run, rest)

/-- Processes some tokens in order, each as often as it is handed on. `fuel` bounds the steps. -/
def processAll : Nat → Builder → List Token → Builder
  | 0, b, _ => b
  | _, b, [] => b
  | fuel + 1, b, token :: rest =>
    let foreign := b.isForeign token
    let (token, rest) := match token with
      | .characters text =>
        if !foreign && Mode.tellsBlanks b.mode then
          match firstRun text with
          | (run, []) => (Token.characters run, rest)
          | (run, more) => (Token.characters run, .characters more :: rest)
        else (token, rest)
      | _ => (token, rest)
    match if foreign then b.foreignStep token else b.modeStep token with
    | (b, none) => processAll fuel b rest
    | (b, some token) => processAll fuel b (token :: rest)

/-- A token without the newline that the element before it drops. -/
def dropSkippedNewline (skip : Bool) : Token → List Token
  | .characters ('\n' :: rest) =>
    if skip then charactersToken rest else [.characters ('\n' :: rest)]
  | token => [token]

/-- More steps than a token takes: it is handed on at most a few times for each open element. -/
def stepsFor (b : Builder) (token : Token) : Nat :=
  let length := match token with
    | .characters text => text.length
    | _ => 1
  4 * (length + b.openElements.length + b.templateModes.length) + 16

/-- Processes a token. A fault reaches no rule, but the newline that follows it does not follow the
tag before it at once. -/
def process (b : Builder) (token : Token) : Builder :=
  let started := { b with skipNewline := false }
  match token with
  | .fault => started
  | token => processAll (b.stepsFor token) started (dropSkippedNewline b.skipNewline token)

/-- Places what is not yet placed when the text ends. -/
def finish (b : Builder) : Builder :=
  if b.mode = .inTableText then b.placeTableText else b

end Builder

end BlogMarkdown.Html
