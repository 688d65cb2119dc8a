import BlogMarkdown.Html.Token
/-!
# Kinds of elements

The sets of elements that the construction of a tree goes by, and the spelling that names get in
SVG and MathML.
-/
namespace BlogMarkdown.Html

open Dom

/-- Whether a name is that of one of some HTML elements. -/
def isOneOf (tags : List String) (name : ElementName) : Bool :=
  name.vocabulary = .html && tags.contains name.tag

def headingTags : List String := ["h1", "h2", "h3", "h4", "h5", "h6"]

/-- Elements that matter to the structure of a document: no end tag of another element is looked
for beyond them. -/
def specialTags : List String :=
  ["address", "applet", "area", "article", "aside", "base", "basefont", "bgsound", "blockquote",
    "body", "br", "button", "caption", "center", "col", "colgroup", "dd", "details", "dir", "div",
    "dl", "dt", "embed", "fieldset", "figcaption", "figure", "footer", "form", "frame", "frameset",
    "h1", "h2", "h3", "h4", "h5", "h6", "head", "header", "hgroup", "hr", "html", "iframe", "img",
    "input", "isindex", "li", "link", "listing", "main", "marquee", "menu", "meta", "nav",
    "noembed", "noframes", "noscript", "object", "ol", "p", "param", "plaintext", "pre", "script",
    "section", "select", "source", "style", "summary", "table", "tbody", "td", "template",
    "textarea", "tfoot", "th", "thead", "title", "tr", "track", "ul", "wbr", "xmp"]

/-- Elements whose end tag is implied where the structure needs it. -/
def impliedEndTags : List String :=
  ["dd", "dt", "li", "option", "optgroup", "p", "rb", "rp", "rt", "rtc"]

/-- Elements that also end where a template does. -/
def thoroughlyImpliedEndTags : List String :=
  impliedEndTags ++ ["caption", "colgroup", "tbody", "td", "tfoot", "th", "thead", "tr"]

/-- The elements of formulas whose text may hold HTML. -/
def isFormulaText (name : ElementName) : Bool :=
  name.vocabulary = .mathml && ["mi", "mo", "mn", "ms", "mtext"].contains name.tag

/-- The elements of drawings that may hold HTML. -/
def isDrawingText (name : ElementName) : Bool :=
  name.vocabulary = .svg && ["foreignObject", "desc", "title"].contains name.tag

/-- Elements beyond which an open element is out of scope. -/
def endsScope (name : ElementName) : Bool :=
  isOneOf ["applet", "caption", "html", "table", "td", "th", "marquee", "object", "select",
    "template"] name || isFormulaText name || isDrawingText name

def endsListItemScope (name : ElementName) : Bool := endsScope name || isOneOf ["ol", "ul"] name

def endsButtonScope (name : ElementName) : Bool := endsScope name || isOneOf ["button"] name

def endsTableScope (name : ElementName) : Bool := isOneOf ["html", "table", "template"] name

/-- Elements that stand by themselves: they close a paragraph that is open before them. -/
def blockStartTags : List String :=
  ["address", "article", "aside", "blockquote", "center", "details", "dialog", "dir", "div", "dl",
    "fieldset", "figcaption", "figure", "footer", "header", "hgroup", "main", "menu", "nav", "ol",
    "p", "search", "section", "summary", "ul"]

/-- Elements whose end tag closes what is open inside them. -/
def blockEndTags : List String :=
  ["address", "article", "aside", "blockquote", "button", "center", "details", "dialog", "dir",
    "div", "dl", "fieldset", "figcaption", "figure", "footer", "header", "hgroup", "listing",
    "main", "menu", "nav", "ol", "pre", "search", "section", "select", "summary", "ul"]

/-- Elements of which each start tag is to take effect until its end tag, wherever that stands. -/
def formattingTags : List String :=
  ["b", "big", "code", "em", "font", "i", "s", "small", "strike", "strong", "tt", "u"]

/-- Start tags that cannot stand in SVG or MathML: they end it. -/
def foreignBreakers : List String :=
  ["b", "big", "blockquote", "body", "br", "center", "code", "dd", "div", "dl", "dt", "em", "embed",
    "h1", "h2", "h3", "h4", "h5", "h6", "head", "hr", "i", "img", "li", "listing", "menu", "meta",
    "nobr", "ol", "p", "pre", "ruby", "s", "small", "span", "strong", "strike", "sub", "sup",
    "table", "tt", "u", "ul", "var"]

/-! ## Names of other vocabularies -/

/-- The elements of SVG whose names have capitals. -/
def svgTags : List String :=
  ["altGlyph", "altGlyphDef", "altGlyphItem", "animateColor", "animateMotion", "animateTransform",
    "clipPath", "feBlend", "feColorMatrix", "feComponentTransfer", "feComposite",
    "feConvolveMatrix", "feDiffuseLighting", "feDisplacementMap", "feDistantLight", "feDropShadow",
    "feFlood", "feFuncA", "feFuncB", "feFuncG", "feFuncR", "feGaussianBlur", "feImage", "feMerge",
    "feMergeNode", "feMorphology", "feOffset", "fePointLight", "feSpecularLighting", "feSpotLight",
    "feTile", "feTurbulence", "foreignObject", "glyphRef", "linearGradient", "radialGradient",
    "textPath"]

/-- The attributes of SVG whose names have capitals. -/
def svgKeys : List String :=
  ["attributeName", "attributeType", "baseFrequency", "baseProfile", "calcMode", "clipPathUnits",
    "diffuseConstant", "edgeMode", "filterUnits", "glyphRef", "gradientTransform", "gradientUnits",
    "kernelMatrix", "kernelUnitLength", "keyPoints", "keySplines", "keyTimes", "lengthAdjust",
    "limitingConeAngle", "markerHeight", "markerUnits", "markerWidth", "maskContentUnits",
    "maskUnits", "numOctaves", "pathLength", "patternContentUnits", "patternTransform",
    "patternUnits", "pointsAtX", "pointsAtY", "pointsAtZ", "preserveAlpha", "preserveAspectRatio",
    "primitiveUnits", "refX", "refY", "repeatCount", "repeatDur", "requiredExtensions",
    "requiredFeatures", "specularConstant", "specularExponent", "spreadMethod", "startOffset",
    "stdDeviation", "stitchTiles", "surfaceScale", "systemLanguage", "tableValues", "targetX",
    "targetY", "textLength", "viewBox", "viewTarget", "xChannelSelector", "yChannelSelector",
    "zoomAndPan"]

/-- The spelling of a name among some with capitals. -/
def respell (spellings : List String) (name : String) : String :=
  (spellings.find? fun s => s.toList.map Char.toLower = name.toList).getD name

/-- The attributes of links, known with a scope. -/
def xlinkKeys : List String := ["actuate", "arcrole", "href", "role", "show", "title", "type"]

/-- An attribute of an element in another vocabulary, whose name in the markup may hold a scope. -/
def scopedAttribute (a : Attribute) : Attribute :=
  match xlinkKeys.find? fun key => a.key = "xlink:" ++ key with
  | some key => ⟨.xlink, key, a.value⟩
  | none =>
    if a.key = "xml:lang" then ⟨.xml, "lang", a.value⟩
    else if a.key = "xml:space" then ⟨.xml, "space", a.value⟩
    else if a.key = "xmlns" then ⟨.xmlns, "xmlns", a.value⟩
    else if a.key = "xmlns:xlink" then ⟨.xmlns, "xlink", a.value⟩
    else a

/-- The attributes of a tag as they are in a vocabulary. -/
def foreignAttributes (vocabulary : Vocabulary) (attributes : List Attribute) : List Attribute :=
  attributes.map fun a =>
    let key := match vocabulary with
      | .svg => respell svgKeys a.key
      | .mathml => if a.key = "definitionurl" then "definitionURL" else a.key
      | _ => a.key
    scopedAttribute { a with key := key }

end BlogMarkdown.Html
