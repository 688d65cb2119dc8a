import BlogMarkdown.Proofs.Text.Words
import BlogMarkdown.Proofs.Url.Host
import BlogMarkdown.Url.Basic
/-!
# Addresses tell URLs apart

The address of a URL holds its scheme, host, port and path one behind the other.  Each part ends where a character
stands that is not in it, so two URLs with one address have the same parts.  A path that begins with two slashes behind
no host looks like a host, and is left out.
-/
namespace BlogMarkdown.Url

/-! ## Where one part ends -/

/-- Two texts are equal only if they go on in the same way from the first of a character on. -/
theorem append_inj_of_stop {stop : Char} {front back front' back' : List Char} (hfront : stop ∉ front)
    (hback : ∀ c ∈ back.head?, c = stop) (hfront' : stop ∉ front') (hback' : ∀ c ∈ back'.head?, c = stop)
    (h : front ++ back = front' ++ back') : front = front' ∧ back = back' := by
  have hcut {s t : List Char} (hs : stop ∉ s) (ht : ∀ c ∈ t.head?, c = stop) : (s ++ t).span (· ≠ stop) = (s, t) :=
    Text.span_append_of_stop (fun c hc => decide_eq_true (ne_of_mem_of_not_mem hc hs)) fun c hc => by simp [ht c hc]
  have heq : (front, back) = (front', back') := by rw [← hcut hfront hback, h, hcut hfront' hback']
  exact Prod.mk.inj heq

/-! ## Host and port -/

/-- A port as it stands behind a host. -/
def portText : Option Nat → List Char
  | some port => ':' :: (toString port).toList
  | none => []

theorem portText_inj {port port' : Option Nat} (h : portText port = portText port') : port = port' := by
  match port, port', h with
  | none, none, _ => rfl
  | some n, some n', h =>
    have hdigits : (toString n).toList = (toString n').toList := (List.cons.inj h).2
    simp only [Nat.toString_eq_ofList_toDigits, String.toList_ofList] at hdigits
    rw [← Nat.ofDigitChars_ten_toDigits (n := n), hdigits, Nat.ofDigitChars_ten_toDigits]

theorem head_portText (port : Option Nat) : ∀ c ∈ (portText port).head?, c = ':' := by
  cases port with
  | none => rintro c ⟨⟩
  | some n => rintro c ⟨⟩; rfl

theorem slash_not_mem_portText (port : Option Nat) : '/' ∉ portText port := by
  cases port with
  | none => exact List.not_mem_nil
  | some n =>
    rintro (_ | ⟨_, h⟩)
    exact absurd (isDigit_of_mem_toString h) (by decide)

theorem host_port_inj {host host' : List Char} {port port' : Option Nat} (hhost : IsHost host) (hhost' : IsHost host')
    (h : host ++ portText port = host' ++ portText port') : host = host' ∧ port = port' := by
  -- a name does not begin with the bracket of an address
  have hmixed : ∀ {name text : List Char} {port port' : Option Nat}, (∀ c ∈ nameEnds, c ∉ name) →
      name ++ portText port ≠ '[' :: text ++ [']'] ++ portText port' := by
    intro name text port port' hname heq
    cases name with
    | nil =>
      have hcolon := head_portText port '[' (by rw [show portText port = _ from heq]; rfl)
      exact absurd hcolon (by decide)
    | cons c name => exact hname '[' (by decide) ((List.cons.inj heq).1 ▸ List.mem_cons_self)
  cases hhost with
  | name hname =>
    cases hhost' with
    | name hname' =>
      have hcolon : ':' ∈ nameEnds := by decide
      have hparts := append_inj_of_stop (hname _ hcolon) (head_portText port) (hname' _ hcolon) (head_portText port') h
      exact hparts.imp_right portText_inj
    | address => exact absurd h (hmixed hname)
  | @address text hslash hbracket =>
    cases hhost' with
    | name hname' => exact absurd h.symm (hmixed hname')
    | @address text' hslash' hbracket' =>
      have hbehind : text ++ (']' :: portText port) = text' ++ (']' :: portText port') := by simpa using h
      obtain ⟨htext, hport⟩ := append_inj_of_stop hbracket (by simp) hbracket' (by simp) hbehind
      exact ⟨htext ▸ rfl, portText_inj (List.cons.inj hport).2⟩

/-! ## Addresses -/

/-- What holds of the parts of a URL that was read. -/
structure IsWritten (url : Url) : Prop where
  scheme : ':' ∉ url.scheme
  host : ∀ host ∈ url.host, IsHost host
  port : url.host = none → url.port = none
  path : url.host ≠ none → ∀ c ∈ url.path.head?, c = '/'

/-- The parts of a URL that say where it leads. -/
def place (url : Url) : List Char × Option (List Char) × Option Nat × List Char :=
  (url.scheme, url.host, url.port, url.path)

/-- A path behind no host that does not look like a host. -/
def HasPlainPath (url : Url) : Prop := url.host = none → ¬ ['/', '/'] <+: url.path

instance (url : Url) : Decidable url.HasPlainPath := inferInstanceAs (Decidable (_ → _))

theorem address_of_none {url : Url} (h : url.host = none) : url.address = url.scheme ++ ':' :: url.path := by
  rw [address, h]

theorem address_of_some {url : Url} {host : List Char} (h : url.host = some host) :
    url.address = url.scheme ++ ':' :: '/' :: '/' :: (host ++ portText url.port ++ url.path) := by
  rw [address, h]
  cases url.port <;> simp [portText]

/-- **No two places have one address.** -/
theorem place_eq_of_address {url other : Url} (hurl : url.IsWritten) (hother : other.IsWritten)
    (hplain : url.HasPlainPath) (hplain' : other.HasPlainPath) (h : url.address = other.address) :
    url.place = other.place := by
  -- the two slashes of a host against a path without one
  have hmixed : ∀ {url other : Url} {host : List Char}, url.IsWritten → other.IsWritten → other.HasPlainPath →
      url.host = some host → other.host = none → url.address ≠ other.address := by
    intro url other host hurl hother hplain hsome hnone heq
    rw [address_of_some hsome, address_of_none hnone] at heq
    have hbehind := (append_inj_of_stop hurl.scheme (by simp) hother.scheme (by simp) heq).2
    exact hplain hnone ⟨_, (List.cons.inj hbehind).2⟩
  cases hhost : url.host with
  | none =>
    cases hhost' : other.host with
    | none =>
      rw [address_of_none hhost, address_of_none hhost'] at h
      obtain ⟨hscheme, hpath⟩ := append_inj_of_stop hurl.scheme (by simp) hother.scheme (by simp) h
      rw [place, place, hscheme, hhost, hhost', hurl.port hhost, hother.port hhost', (List.cons.inj hpath).2]
    | some host' => exact absurd h.symm (hmixed hother hurl hplain hhost' hhost)
  | some host =>
    cases hhost' : other.host with
    | none => exact absurd h (hmixed hurl hother hplain' hhost hhost')
    | some host' =>
      rw [address_of_some hhost, address_of_some hhost'] at h
      obtain ⟨hscheme, hbehind⟩ := append_inj_of_stop hurl.scheme (by simp) hother.scheme (by simp) h
      simp only [List.cons.injEq, true_and] at hbehind
      have hnoslash : ∀ {url : Url} {host : List Char}, url.IsWritten → url.host = some host →
          '/' ∉ host ++ portText url.port := by
        intro url host hurl hhost hmem
        exact (List.mem_append.1 hmem).elim (hurl.host host hhost).slash_not_mem (slash_not_mem_portText url.port)
      obtain ⟨hauthority, hpath⟩ := append_inj_of_stop (hnoslash hurl hhost) (hurl.path (by simp [hhost]))
        (hnoslash hother hhost') (hother.path (by simp [hhost'])) hbehind
      obtain ⟨hhosts, hports⟩ := host_port_inj (hurl.host host hhost) (hother.host host' hhost') hauthority
      rw [place, place, hscheme, hhost, hhost', hhosts, hports, hpath]

end BlogMarkdown.Url
