import BlogMarkdown.Xml.Markup
/-!
# Namespaces

The attributes `xmlns` and `xmlns:p` of an element bind prefixes to namespaces for the element and
all below it. A name is resolved by the nearest binding of its prefix, and is then shown with the
prefix that an export uses by custom: `wp:` for any version of the export namespace, `content:` for
that of post bodies, none where no namespace is bound.
-/
namespace BlogMarkdown.Xml

open Text

/-- The namespaces of the export format begin this way, whatever the version. -/
def exportNamespace : List Char := "http://wordpress.org/export/".toList

/-- The namespace of post bodies. -/
def contentNamespace : List Char := "http://purl.org/rss/1.0/modules/content/".toList

/-- The host under which XML reserves names for itself. -/
def reservedHost : List String := ["http:", "", "www.w3.org"]

/-- The namespace that the prefix `xml` always stands for. -/
def xmlNamespace : List Char := ("/".intercalate (reservedHost ++ ["XML", "1998", "namespace"])).toList

/-- The namespace that the prefix `xmlns` always stands for. -/
def xmlnsNamespace : List Char := ("/".intercalate (reservedHost ++ ["2000", "xmlns", ""])).toList

/-- What prefixes stand for, the nearest binding first. The empty prefix is that of names without
one, and an empty namespace undoes a binding. -/
abbrev Scope := List (List Char × List Char)

/-- The two bindings that every document has. -/
def Scope.initial : Scope :=
  [("xml".toList, xmlNamespace), ("xmlns".toList, xmlnsNamespace)]

/-- The value between two quotes behind the `=` of an attribute, and what follows it. -/
def quotedValue? (text : List Char) : Option (List Char × List Char) :=
  match text.dropWhile isSpace with
  | [] => none
  | quote :: rest =>
    if quote = '"' ∨ quote = '\'' then
      match rest.span (· ≠ quote) with
      | (value, _ :: rest) => some (value, rest)
      | (_, []) => none
    else none

/-- The attribute at the front of a text that begins with the key character `c`: key, value and
rest. -/
def attribute? (c : Char) (text : List Char) : Option (List Char × List Char × List Char) :=
  let (key, rest) := text.span (fun c => c ≠ '=' && !isSpace c)
  match rest.dropWhile isSpace with
  | '=' :: rest => (quotedValue? rest).map fun (value, rest) => (c :: key, value, rest)
  | _ => none

/-- The attributes in the text of a tag, up to the first that is malformed; `fuel` bounds their
number. -/
def attributesFrom : Nat → List Char → List (List Char × List Char)
  | 0, _ => []
  | fuel + 1, text =>
    match text.dropWhile isSpace with
    | [] => []
    | c :: rest =>
      match attribute? c rest with
      | some (key, value, rest) => (key, value) :: attributesFrom fuel rest
      | none => []

/-- The attributes in the text of a tag behind its name, up to the first that is malformed. -/
def attributes (text : List Char) : List (List Char × List Char) :=
  attributesFrom (text.length + 1) text

/-- The prefix that an attribute of this key binds; the empty one for `xmlns`. -/
def boundPrefix? (key : List Char) : Option (List Char) :=
  match "xmlns".toList.isPrefixOf? key with
  | some [] => some []
  | some (':' :: bound) => some bound
  | _ => none

/-- Adds the binding of one attribute. The two reserved prefixes cannot be bound anew, nor other
prefixes to the reserved namespaces; `none` if the attribute tries. -/
def Scope.bind (scope : Scope) (key namespaceName : List Char) : Option Scope :=
  match boundPrefix? key with
  | none => some scope
  | some [] =>
    if key = "xmlns:".toList ∧ (namespaceName = xmlNamespace ∨ namespaceName = xmlnsNamespace) then
      none
    else some (([], namespaceName) :: scope)
  | some bound =>
    if bound = "xml".toList then if namespaceName = xmlNamespace then some scope else none
    else if bound = "xmlns".toList ∨ namespaceName = xmlNamespace ∨ namespaceName = xmlnsNamespace then
      none
    else some ((bound, namespaceName) :: scope)

/-- The scope inside an element, given the text of its tag behind the name. -/
def Scope.enter (scope : Scope) (attributeText : List Char) : Option Scope :=
  (attributes attributeText).foldlM (fun scope (key, value) => scope.bind key value) scope

/-- A name in a namespace, with the prefix that exports use by custom. -/
def label (space own : List Char) : List Char :=
  if exportNamespace.isPrefixOf space then "wp:".toList ++ own
  else if space = contentNamespace then "content:".toList ++ own
  else '\x7b' :: space ++ '\x7d' :: own

/-- The name of an element as exports write it by custom. A prefix that stands for nothing is kept. -/
def Scope.resolve (scope : Scope) (name : List Char) : List Char :=
  match name.span (· ≠ ':') with
  | (own, []) =>
    match scope.lookup [] with
    | none | some [] => own
    | some space => label space own
  | (before, _ :: own) =>
    match if before.isEmpty then none else scope.lookup before with
    | none | some [] => before ++ ':' :: own
    | some space => label space own

end BlogMarkdown.Xml
