import BlogMarkdown.Url.Host
import Mathlib.Data.List.TakeDrop
/-!
# The form of a written host

A host is a name in which no slash, colon or opening bracket stands, or an address in brackets.  So a text that goes on
behind a host with a colon or a slash tells where the host ends.
-/
namespace BlogMarkdown.Url

/-! ## What texts are made of -/

theorem of_mem_intercalate {separator : List Char} {c : Char} : ∀ {parts : List (List Char)},
    c ∈ separator.intercalate parts → c ∈ separator ∨ ∃ part ∈ parts, c ∈ part
  | [part], h => by
    rw [List.intercalate_singleton] at h
    exact .inr ⟨part, List.mem_singleton_self part, h⟩
  | part :: next :: rest, h => by
    rw [List.intercalate_cons_cons, List.mem_append, List.mem_append] at h
    rcases h with (hpart | hseparator) | hrest
    · exact .inr ⟨part, List.mem_cons_self, hpart⟩
    · exact .inl hseparator
    · exact (of_mem_intercalate hrest).imp_right fun ⟨part', hmem, hc⟩ => ⟨part', List.mem_cons_of_mem part hmem, hc⟩

theorem isDigit_of_mem_toString {c : Char} {n : Nat} (h : c ∈ (toString n).toList) : c.isDigit = true := by
  rw [Nat.toString_eq_repr, Nat.repr_eq_ofList_toDigits, String.toList_ofList] at h
  exact Nat.isDigit_of_mem_toDigits (by decide) (by decide) h

theorem exists_digitChar_of_mem_hex {c : Char} (n : Nat) (h : c ∈ Text.hex n) : ∃ d, c = Nat.digitChar d := by
  induction n using Nat.strongRecOn with
  | ind n ih =>
    rw [Text.hex, Nat.toDigits_eq_if (by decide)] at h
    split at h
    · exact ⟨n, List.mem_singleton.1 h⟩
    · rcases List.mem_append.1 h with hfront | hlast
      · exact ih (n / 16) (by omega) hfront
      · exact ⟨n % 16, List.mem_singleton.1 hlast⟩

/-- What ends a name. -/
def nameEnds : List Char := ['/', ':', '[']

theorem forall_nameEnds {p : Char → Prop} : (∀ c ∈ nameEnds, p c) ↔ p '/' ∧ p ':' ∧ p '[' := by
  simp [nameEnds]

theorem not_mem_encodeByte {c : Char} (hc : c ∈ nameEnds) (b : UInt8) : c ∉ Percent.encodeByte b := by
  have hdigit : ∀ c ∈ nameEnds, ∀ n < 16, c ≠ Char.ofNat (if n < 10 then '0'.toNat + n else 'A'.toNat + (n - 10)) :=
    forall_nameEnds.2 (by decide)
  have hb : b.toNat < 256 := UInt8.toNat_lt b
  rw [Percent.encodeByte, List.mem_cons, List.mem_cons, List.mem_singleton]
  rintro (rfl | h | h)
  · exact absurd hc (by decide)
  · exact hdigit c hc _ (by omega) h
  · exact hdigit c hc _ (by omega) h

/-- Encoding brings no end of a name into a text. -/
theorem mem_of_mem_encode {isBarred : Char → Bool} {c : Char} (hc : c ∈ nameEnds) {text : List Char}
    (h : c ∈ Percent.encode isBarred text) : c ∈ text := by
  obtain ⟨c', hc', h⟩ := List.mem_flatMap.1 h
  split at h
  · obtain ⟨b, -, h⟩ := List.mem_flatMap.1 h
    exact absurd h (not_mem_encodeByte hc b)
  · exact List.mem_singleton.1 h ▸ hc'

theorem not_mem_ipv4_text {c : Char} (hc : c ∈ nameEnds) (address : Nat) : c ∉ Ipv4.text address := by
  intro h
  rw [Ipv4.text, String.toList_intercalate] at h
  have hmarks : ∀ c ∈ nameEnds, c ∉ ".".toList ∧ c.isDigit = false := forall_nameEnds.2 (by decide)
  rcases of_mem_intercalate h with hdot | ⟨part, hpart, h⟩
  · exact (hmarks c hc).1 hdot
  · obtain ⟨byte, hbyte, rfl⟩ := List.mem_map.1 hpart
    have hdigit : c.isDigit = true := by
      simp only [List.mem_cons, List.not_mem_nil, or_false] at hbyte
      rcases hbyte with rfl | rfl | rfl | rfl <;> exact isDigit_of_mem_toString h
    rw [(hmarks c hc).2] at hdigit
    cases hdigit

/-- The characters of an IPv6 address. -/
theorem of_mem_ipv6_text {c : Char} {numbers : List Nat} (h : c ∈ Ipv6.text numbers) :
    c = ':' ∨ ∃ d, c = Nat.digitChar d := by
  have hjoined : ∀ numbers, c ∈ Ipv6.joined numbers → c = ':' ∨ ∃ d, c = Nat.digitChar d := by
    intro numbers h
    rcases of_mem_intercalate h with hcolon | ⟨part, hpart, h⟩
    · exact .inl (List.mem_singleton.1 hcolon)
    · obtain ⟨n, -, rfl⟩ := List.mem_map.1 hpart
      exact .inr (exists_digitChar_of_mem_hex n h)
  unfold Ipv6.text at h
  dsimp only at h
  split at h
  · exact hjoined _ h
  · rcases List.mem_append.1 h with h | h
    · rcases List.mem_append.1 h with h | h
      · exact hjoined _ h
      · exact .inl (by simpa using h)
    · exact hjoined _ h

/-! ## Hosts -/

/-- The form of a host. -/
inductive IsHost : List Char → Prop
  /-- A name. -/
  | name {text : List Char} (h : ∀ c ∈ nameEnds, c ∉ text) : IsHost text
  /-- An address in brackets. -/
  | address {text : List Char} (hslash : '/' ∉ text) (hbracket : ']' ∉ text) : IsHost ('[' :: text ++ [']'])

/-- No slash stands in a host. -/
theorem IsHost.slash_not_mem {host : List Char} (h : IsHost host) : '/' ∉ host := by
  cases h with
  | name h => exact h '/' (by decide)
  | address hslash => simpa using hslash

theorem isHost_of_bracketed {text host : List Char} (h : bracketed? text = some host) : IsHost host := by
  unfold bracketed? at h
  split at h
  · obtain ⟨numbers, -, rfl⟩ := Option.map_eq_some_iff.1 h
    have hnot : ∀ c, c ≠ ':' → (∀ d, c ≠ Nat.digitChar d) → c ∉ Ipv6.text numbers := by
      intro c hcolon hdigit hc
      exact (of_mem_ipv6_text hc).elim hcolon fun ⟨d, heq⟩ => hdigit d heq
    exact .address (hnot '/' (by decide) fun d heq => Nat.digitChar_ne '/' (by decide) heq.symm)
      (hnot ']' (by decide) fun d heq => Nat.digitChar_ne ']' (by decide) heq.symm)
  · cases h

theorem isHost_of_domain {name host : List Char} (h : domain? name = some host) : IsHost host := by
  obtain ⟨-, hbarred⟩ := Option.filter_eq_some_iff.1 h
  simp only [Bool.not_or, Bool.and_eq_true, Bool.not_eq_true', List.any_eq_false] at hbarred
  have hends : ∀ c ∈ nameEnds, isBarredInDomain c = true := forall_nameEnds.2 (by decide)
  exact .name fun c hc hmem => hbarred.2 c hmem (hends c hc)

theorem isHost_of_webHost {text host : List Char} (h : webHost? text = some host) : IsHost host := by
  unfold webHost? at h
  split at h
  · exact isHost_of_bracketed h
  · split at h
    · cases h
    · split at h
      · cases h
      · rename_i domain hdomain
        split at h
        · obtain ⟨address, -, rfl⟩ := Option.map_eq_some_iff.1 h
          exact .name fun c hc => not_mem_ipv4_text hc address
        · exact Option.some.inj h ▸ isHost_of_domain hdomain

theorem isHost_of_opaqueHost {text host : List Char} (h : opaqueHost? text = some host) : IsHost host := by
  unfold opaqueHost? at h
  split at h
  · exact isHost_of_bracketed h
  · rename_i text _
    split at h
    · cases h
    · rename_i hbarred
      rw [Bool.not_eq_true, List.any_eq_false] at hbarred
      have hends : ∀ c ∈ nameEnds, isBarredInHost c = true := forall_nameEnds.2 (by decide)
      exact Option.some.inj h ▸ .name fun c hc hmem => hbarred c (mem_of_mem_encode hc hmem) (hends c hc)

end BlogMarkdown.Url
