import BlogMarkdown.Text.Utf8
import BlogMarkdown.Url.Domain.Basic
import BlogMarkdown.Url.Ipv4
import BlogMarkdown.Url.Ipv6
import BlogMarkdown.Url.Percent
/-!
# Hosts

The host of a URL in its one written form. On the web a host is a domain name or an address: names are
compared without regard to case, and in ASCII. Elsewhere a host is a text that only some characters
are barred from.
-/
namespace BlogMarkdown.Url

open Text

/-- The characters that no host holds. -/
def isBarredInHost (c : Char) : Bool :=
  ['\x00', '\t', '\n', '\r', ' ', '#', '/', ':', '<', '>', '?', '@', '[', '\\', ']', '^',
    '|'].contains c

/-- The characters that no domain name holds. -/
def isBarredInDomain (c : Char) : Bool := isBarredInHost c || c < ' ' || c = '%' || c = '\x7f'

/-- A domain name in its written form; `none` if it is empty or holds a character that none does. -/
def domain? (name : List Char) : Option (List Char) :=
  (Domain.written? name).filter fun written => !(written.isEmpty || written.any isBarredInDomain)

/-- An address in brackets, given the text behind the first one. -/
def bracketed? (text : List Char) : Option (List Char) :=
  if text.getLast? = some ']' then
    (Ipv6.address? text.dropLast).map fun numbers => '[' :: Ipv6.text numbers ++ [']']
  else none

/-- The host of a URL on the web. -/
def webHost? (text : List Char) : Option (List Char) :=
  match text with
  | '[' :: rest => bracketed? rest
  | text =>
    match Utf8.decode (Percent.decode (Utf8.encode text)) with
    | .error _ => none
    | .ok name =>
      match domain? name with
      | none => none
      | some domain =>
        if Ipv4.endsInNumber domain then (Ipv4.address? domain).map Ipv4.text else some domain

/-- The host of any other URL. -/
def opaqueHost? (text : List Char) : Option (List Char) :=
  match text with
  | '[' :: rest => bracketed? rest
  | text => if text.any isBarredInHost then none else some (Percent.encode Percent.isControl text)

end BlogMarkdown.Url
