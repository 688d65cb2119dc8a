import BlogMarkdown.Url.Host
import BlogMarkdown.Url.Path
/-!
# URLs

The parts of a URL that say where it leads, in their one written form: two texts that mean the same
place have the same `address`. A URL names a scheme. Schemes of the web always have a host and a path,
take backslashes for slashes and have a port of their own; `file` has a host or none; any other scheme
may have a text of its own where a path would stand.
-/
namespace BlogMarkdown

/-- A URL without its user and its query. -/
structure Url where
  scheme : List Char
  host : Option (List Char)
  /-- The port, unless it is the scheme's own. -/
  port : Option Nat
  path : List Char
  fragment : Option (List Char)
  deriving Repr, DecidableEq

namespace Url

/-- Where a URL leads: scheme, host, port and path. -/
def address (url : Url) : List Char :=
  match url.host with
  | none => url.scheme ++ ':' :: url.path
  | some host =>
    let port := match url.port with
      | some port => ':' :: (toString port).toList
      | none => []
    url.scheme ++ ':' :: '/' :: '/' :: host ++ port ++ url.path

/-- The schemes of the web and the port of each. -/
def webSchemes : List (List Char × Nat) :=
  [("http".toList, 80), ("https".toList, 443), ("ws".toList, 80), ("wss".toList, 443),
    ("ftp".toList, 21)]

/-- The port of a scheme. -/
def defaultPort? (scheme : List Char) : Option Nat := webSchemes.lookup scheme

/-- What divides the segments of a path. -/
def isSlash (web : Bool) (c : Char) : Bool := c = '/' || (web && c = '\\')

/-- The characters of a scheme behind its first letter. -/
def isSchemeChar (c : Char) : Bool := c.isAlphanum || c = '+' || c = '-' || c = '.'

/-- The scheme of a text in lower case, and what follows the colon behind it. -/
def splitScheme (text : List Char) : Option (List Char × List Char) :=
  match text.span isSchemeChar with
  | (c :: name, ':' :: rest) => if c.isAlpha then some ((c :: name).map Char.toLower, rest) else none
  | _ => none

/-- The text of a URL without blanks and controls at its ends. -/
def trimmed (text : List Char) : List Char :=
  ((text.dropWhile (· ≤ ' ')).reverse.dropWhile (· ≤ ' ')).reverse

/-- A text up to the first character of a class, and from there on. -/
def cut (p : Char → Bool) (text : List Char) : List Char × List Char := text.span (fun c => !p c)

/-- A text without its first slash. -/
def dropSlash (web : Bool) : List Char → List Char
  | [] => []
  | c :: rest => if isSlash web c then rest else c :: rest

/-- The path of a text whose first slash was passed. -/
def pathOf (web : Bool) (text : List Char) : List Char := Path.ofSegments (text.splitOnP (isSlash web))

/-- The user at the front of an authority, and what follows the last `@`. -/
def splitUser (authority : List Char) : Option (List Char) × List Char :=
  match authority.reverse.span (· ≠ '@') with
  | (after, _ :: before) => (some before.reverse, after.reverse)
  | (_, []) => (none, authority)

/-- The host at the front of a text, which ends at the first colon outside brackets, and the rest. -/
def splitHost (inBrackets : Bool) : List Char → List Char × List Char
  | [] => ([], [])
  | c :: rest =>
    if c = ':' ∧ ¬ inBrackets then ([], c :: rest)
    else
      let (host, rest) := splitHost (if c = '[' then true else if c = ']' then false else inBrackets) rest
      (c :: host, rest)

/-- The port in a text behind a host, and what follows it. -/
def splitPort (text : List Char) : Option (Option Nat × List Char) :=
  match text with
  | ':' :: rest =>
    let (digits, rest) := rest.span Char.isDigit
    match rest with
    | [] | '\\' :: _ =>
      if digits.isEmpty then some (none, rest)
      else ((Text.digits? 10 digits).filter (· < 0x10000)).map fun port => (some port, rest)
    | _ => none
  | rest => some (none, rest)

/-- Reads a URL behind the two slashes in front of its host. `ends` says that nothing follows the text,
neither query nor fragment. -/
def ofAuthority? (scheme text : List Char) (ends : Bool) (fragment : Option (List Char)) : Option Url :=
  let web := (defaultPort? scheme).isSome
  let (authority, path) := cut (isSlash web) text
  let (user, place) := splitUser authority
  let (hostText, portText) := splitHost false place
  match if web then webHost? hostText else opaqueHost? hostText, splitPort portText with
  | some host, some (port, rest) =>
    let portless := host.isEmpty && !portText.isEmpty
    let userless := host.isEmpty && user.any (fun user => !user.isEmpty && user ≠ [':'])
    let bare := place.isEmpty && user = some [] && !(path.isEmpty && ends)
    if portless || userless || bare then none
    else
      let path := rest ++ path
      some {
        scheme := scheme
        host := if host.isEmpty then none else some host
        port := port.filter fun port => defaultPort? scheme ≠ some port
        path := if path.isEmpty && !web then [] else pathOf web (dropSlash web path)
        fragment := fragment }
  | _, _ => none

/-- A URL of the scheme `file`, given its host and the segments of its path. The path has one slash in
front, and a drive letter is on no host. -/
def ofDrivePath (scheme : List Char) (host : Option (List Char)) (segments : List (List Char))
    (fragment : Option (List Char)) : Url :=
  let (drive, segments) := Path.takeFile false [] segments
  { scheme := scheme
    host := if drive then none else host
    port := none
    path := '/' :: (Path.joined segments).dropWhile (· = '/')
    fragment := fragment }

/-- Reads a URL of the scheme `file` behind the colon. The text still holds the characters that are
passed over. Behind no host, or the machine's own name, the slash is a part of the path. -/
def ofFile? (scheme text : List Char) (fragment : Option (List Char)) : Option Url :=
  let segments (path : List Char) := path.splitOnP (isSlash true)
  match text.dropWhile Path.isPassedOver with
  | [] => some (ofDrivePath scheme none (segments text) fragment)
  | a :: rest =>
    if !isSlash true a then some (ofDrivePath scheme none (segments text) fragment)
    else
      match rest.dropWhile Path.isPassedOver with
      | [] => some (ofDrivePath scheme none (segments rest) fragment)
      | b :: behind =>
        if !isSlash true b then some (ofDrivePath scheme none (segments rest) fragment)
        else
          let (name, path) := cut (isSlash true) behind
          let name := Path.visible name
          if name.isEmpty then some (ofDrivePath scheme none (segments path) fragment)
          else if Path.isDriveLetter name then
            some (ofDrivePath scheme none (segments behind) fragment)
          else (webHost? name).map fun host =>
            if host = "localhost".toList then ofDrivePath scheme none (segments path) fragment
            else ofDrivePath scheme (some host) (segments (dropSlash true path)) fragment

/-- Reads a URL of a scheme that has no authority: a path, or a text of its own. -/
def ofOpaque (scheme text : List Char) (fragment : Option (List Char)) : Url :=
  let path := match text with
    | '/' :: rest => pathOf false rest
    | text => Percent.encode Percent.isControl text
  { scheme := scheme, host := none, port := none, path := path, fragment := fragment }

/-- The URL that a text stands for, if it names a scheme and its host is in order. -/
def ofText? (text : List Char) : Option Url :=
  let text := trimmed text
  match splitScheme (Path.visible text) with
  | none => none
  | some (scheme, rest) =>
    let (rest, hash) := cut (· = '#') rest
    let (rest, query) := cut (· = '?') rest
    let fragment := match hash with
      | _ :: fragment => some (Percent.encode Percent.isBarredInFragment fragment)
      | [] => none
    if scheme = "file".toList then
      let (path, _) := cut (fun c => c = '?' || c = '#') ((text.dropWhile (· ≠ ':')).drop 1)
      ofFile? scheme path fragment
    else if (defaultPort? scheme).isSome then
      ofAuthority? scheme (rest.dropWhile (isSlash true)) (query.isEmpty && hash.isEmpty) fragment
    else
      match rest with
      | '/' :: '/' :: rest => ofAuthority? scheme rest (query.isEmpty && hash.isEmpty) fragment
      | rest => some (ofOpaque scheme rest fragment)

end Url

end BlogMarkdown
