import BlogMarkdown.Proofs.Url.Escapes
import BlogMarkdown.Proofs.Url.Fragment
/-!
# The segments of a path

A path is made of segments that hold no slash and are no steps, so no path ends in a step.  There are two exceptions.  The
text of a URL without an authority is no path, and is left as it is; and where a tab or a line break parts a drive
letter from what follows, that is taken whatever it is.
-/
namespace BlogMarkdown.Url

namespace Path

/-- What stands behind the last slash, of those that a path does not end in. -/
def lastSegment (path : List Char) : List Char :=
  ((path.reverse.dropWhile (· = '/')).takeWhile (· ≠ '/')).reverse

/-- A segment that stands for no step, or for one back. -/
def IsStep (segment : List Char) : Prop := isDot segment = true ∨ isDoubleDot segment = true

/-- A segment as a path holds it. -/
structure IsKept (segment : List Char) : Prop where
  slash_not_mem : '/' ∉ segment
  not_step : ¬ IsStep segment

/-! ## The end of a path -/

theorem slash_not_mem_lastSegment (path : List Char) : '/' ∉ lastSegment path := by
  intro h
  simpa using List.mem_takeWhile_imp (List.mem_reverse.1 h)

theorem lastSegment_slash_append {segment : List Char} (h : '/' ∉ segment) (path : List Char) :
    lastSegment (path ++ '/' :: segment) = if segment = [] then lastSegment path else segment := by
  rw [lastSegment, List.reverse_append, List.reverse_cons, List.append_assoc, List.singleton_append]
  split
  · rename_i hempty
    rw [hempty, List.reverse_nil, List.nil_append, List.dropWhile_cons_of_pos (by simp), lastSegment]
  · rename_i hne
    have hall : ∀ c ∈ segment.reverse, decide (c ≠ '/') = true := fun c hc =>
      decide_eq_true fun heq => h (heq ▸ List.mem_reverse.1 hc)
    obtain ⟨c, rest, hsegment⟩ := List.exists_cons_of_ne_nil (mt List.reverse_eq_nil_iff.1 hne)
    have hc : c ≠ '/' := of_decide_eq_true (hall c (hsegment ▸ List.mem_cons_self))
    rw [hsegment, List.cons_append, List.dropWhile_cons_of_neg (by simpa using hc), ← List.cons_append, ← hsegment,
      List.takeWhile_append_of_pos hall, List.takeWhile_cons_of_neg (by simp), List.append_nil, List.reverse_reverse]

/-- Slashes in front make no segment. -/
theorem lastSegment_slash_cons (path : List Char) : lastSegment ('/' :: path) = lastSegment path := by
  rw [lastSegment, lastSegment, List.reverse_cons, List.dropWhile_append]
  split
  · rename_i hempty
    rw [List.isEmpty_iff.1 hempty, List.dropWhile_cons_of_pos (by simp), List.dropWhile_nil]
  · rw [List.takeWhile_append]
    split
    · rename_i hall
      rw [List.takeWhile_cons_of_neg (by simp), List.append_nil, (List.takeWhile_prefix _).eq_of_length hall]
    · rfl

theorem lastSegment_dropWhile : ∀ path : List Char, lastSegment (path.dropWhile (· = '/')) = lastSegment path
  | [] => rfl
  | c :: path => by
    by_cases hc : c = '/'
    · rw [hc, List.dropWhile_cons_of_pos (by simp), lastSegment_dropWhile path, lastSegment_slash_cons]
    · rw [List.dropWhile_cons_of_neg (by simpa using hc)]

theorem slash_intercalate : ∀ {segments : List (List Char)}, segments ≠ [] →
    '/' :: ['/'].intercalate segments = segments.flatMap ('/' :: ·)
  | [segment], _ => by simp
  | segment :: next :: rest, _ => by
    rw [List.intercalate_cons_cons, List.flatMap_cons, ← slash_intercalate (List.cons_ne_nil next rest)]
    simp

theorem lastSegment_joined {segments : List (List Char)} (h : ∀ segment ∈ segments, '/' ∉ segment) :
    lastSegment (joined segments) = [] ∨ lastSegment (joined segments) ∈ segments := by
  by_cases hempty : segments = []
  · exact .inl (by rw [hempty]; rfl)
  · rw [joined, slash_intercalate (mt List.reverse_eq_nil_iff.1 hempty)]
    clear hempty
    induction segments with
    | nil => exact .inl rfl
    | cons segment segments ih =>
      rw [List.forall_mem_cons] at h
      rw [List.reverse_cons, List.flatMap_append, List.flatMap_singleton, lastSegment_slash_append h.1]
      split
      · exact (ih h.2).imp_right (List.mem_cons_of_mem _)
      · exact .inr List.mem_cons_self

/-! ## Segments that are kept -/

theorem isKept_nil : IsKept [] := ⟨List.not_mem_nil, not_or.2 ⟨by decide, by decide⟩⟩

theorem IsKept.encode {segment : List Char} (h : IsKept segment) :
    IsKept (Percent.encode Percent.isBarredInPath segment) where
  slash_not_mem hmem := h.slash_not_mem (mem_of_mem_encode (by decide) hmem)
  not_step hstep := h.not_step <| by
    rw [IsStep, Percent.isDot_iff, Percent.isDoubleDot_iff] at hstep ⊢
    rwa [Percent.decode_encode] at hstep

theorem isKept_drive {segment : List Char} (h : isDriveLetter segment = true) : IsKept (segment.take 1 ++ [':']) := by
  unfold isDriveLetter at h
  split at h
  · rename_i letter mark
    have hletter : '/' ≠ letter := by
      rintro rfl
      simp at h
    exact ⟨by simpa using hletter, by simp [IsStep, isDot, isDoubleDot, dot]⟩
  · cases h

theorem forall_shorten {p : List Char → Prop} {segments : List (List Char)} (h : ∀ segment ∈ segments, p segment) :
    ∀ segment ∈ shorten segments, p segment := by
  cases segments with
  | nil => exact h
  | cons last before =>
    rw [shorten]
    split
    · exact h
    · exact (List.forall_mem_cons.1 h).2

/-- A path that ends in a step ends in a slash. -/
theorem isKept_closed (rest : List (List Char)) {taken : List (List Char)} (h : ∀ segment ∈ taken, IsKept segment) :
    ∀ segment ∈ (if rest.isEmpty then [] :: taken else taken), IsKept segment := by
  split
  · exact List.forall_mem_cons.2 ⟨isKept_nil, h⟩
  · exact h

/-- **What is taken of a path is kept**, if slashes parted it. -/
theorem isKept_take : ∀ {segments before : List (List Char)}, (∀ segment ∈ before, IsKept segment) →
    (∀ segment ∈ segments, '/' ∉ segment) → ∀ segment ∈ take before segments, IsKept segment
  | [], _, hbefore, _ => hbefore
  | segment :: rest, before, hbefore, hsegments => by
    rw [List.forall_mem_cons] at hsegments
    rw [take]
    split
    · exact isKept_take (isKept_closed rest (forall_shorten hbefore)) hsegments.2
    · rename_i hdouble
      split
      · exact isKept_take (isKept_closed rest hbefore) hsegments.2
      · rename_i hdot
        have hkept : IsKept segment := ⟨hsegments.1, not_or.2 ⟨hdot, hdouble⟩⟩
        exact isKept_take (List.forall_mem_cons.2 ⟨hkept.encode, hbefore⟩) hsegments.2

theorem visible_eq_self {segment : List Char} (h : ∀ c ∈ segment, isPassedOver c = false) : visible segment = segment :=
  List.filter_eq_self.2 fun c hc => by rw [h c hc]; rfl

/-- Only what is passed over parts a drive letter. -/
theorem partedDrive?_eq_none {segment : List Char} (h : ∀ c ∈ segment, isPassedOver c = false) :
    partedDrive? segment = none := by
  rw [partedDrive?]
  split
  · rename_i letter rest hsegment
    split
    · rename_i mark behind hrest
      have hmark : isPassedOver mark = false := by
        refine h mark ((List.dropWhile_sublist _).mem (hsegment ▸ List.mem_cons_of_mem _ ?_))
        exact (List.dropWhile_sublist _).mem (hrest ▸ List.mem_cons_of_mem _ List.mem_cons_self)
      simp [hmark]
    · rfl
  · rfl

@[inherit_doc isKept_take]
theorem isKept_takeFile : ∀ {segments : List (List Char)} {drive : Bool} {before : List (List Char)},
    (∀ segment ∈ before, IsKept segment) →
    (∀ segment ∈ segments, '/' ∉ segment ∧ ∀ c ∈ segment, isPassedOver c = false) →
    ∀ segment ∈ (takeFile drive before segments).2, IsKept segment
  | [], _, _, hbefore, _ => hbefore
  | segment :: rest, drive, before, hbefore, hsegments => by
    obtain ⟨⟨hslash, hvisible⟩, hsegments⟩ := List.forall_mem_cons.1 hsegments
    rw [takeFile, visible_eq_self hvisible, partedDrive?_eq_none hvisible, ite_self]
    split
    · exact isKept_takeFile (isKept_closed rest (forall_shorten hbefore)) hsegments
    · rename_i hdouble
      split
      · exact isKept_takeFile (isKept_closed rest hbefore) hsegments
      · rename_i hdot
        have hkept : IsKept segment := ⟨hslash, not_or.2 ⟨hdot, hdouble⟩⟩
        split
        · rename_i hdrive
          have hletter := isKept_drive (Bool.and_eq_true_iff.1 hdrive).2
          exact isKept_takeFile (List.forall_mem_singleton.2 hletter) hsegments
        · exact isKept_takeFile (List.forall_mem_cons.2 ⟨hkept.encode, hbefore⟩) hsegments

end Path

/-! ## Paths of URLs -/

theorem of_mem_splitOnP {p : Char → Bool} {piece : List Char} : ∀ {text : List Char}, piece ∈ text.splitOnP p →
    ∀ c ∈ piece, p c = false ∧ c ∈ text
  | [], h => by
    rw [List.splitOnP_nil, List.mem_singleton] at h
    subst h
    exact nofun
  | d :: text, h => by
    rw [List.splitOnP_cons_eq_if_modifyHead] at h
    split at h
    · rcases List.mem_cons.1 h with rfl | h
      · exact nofun
      · exact fun c hc => (of_mem_splitOnP h c hc).imp_right (List.mem_cons_of_mem d)
    · rename_i hd
      obtain ⟨first, rest, hsplit⟩ := List.exists_cons_of_ne_nil (List.splitOnP_ne_nil p text)
      rw [hsplit, List.modifyHead_cons] at h
      rcases List.mem_cons.1 h with rfl | h
      · refine List.forall_mem_cons.2 ⟨⟨Bool.eq_false_iff.2 hd, List.mem_cons_self⟩, fun c hc => ?_⟩
        exact (of_mem_splitOnP (hsplit ▸ List.mem_cons_self) c hc).imp_right (List.mem_cons_of_mem d)
      · have hmem := hsplit ▸ List.mem_cons_of_mem first h
        exact fun c hc => (of_mem_splitOnP hmem c hc).imp_right (List.mem_cons_of_mem d)

theorem slash_not_mem_piece {web : Bool} {text piece : List Char} (h : piece ∈ text.splitOnP (isSlash web)) :
    '/' ∉ piece := fun hmem => by
  have hslash := (of_mem_splitOnP h _ hmem).1
  simp [isSlash] at hslash

theorem not_step_of_kept {segments : List (List Char)} (h : ∀ segment ∈ segments, Path.IsKept segment) :
    ¬ Path.IsStep (Path.lastSegment (Path.joined segments)) := by
  rcases Path.lastSegment_joined fun segment hmem => (h segment hmem).slash_not_mem with hempty | hmem
  · rw [hempty]
    exact Path.isKept_nil.not_step
  · exact (h _ hmem).not_step

theorem not_step_pathOf (web : Bool) (text : List Char) : ¬ Path.IsStep (Path.lastSegment (pathOf web text)) :=
  not_step_of_kept (Path.isKept_take (List.forall_mem_nil _) fun _ => slash_not_mem_piece)

theorem not_step_of_ofAuthority {scheme text : List Char} {ends : Bool} {fragment : Option (List Char)} {url : Url}
    (h : ofAuthority? scheme text ends fragment = some url) : ¬ Path.IsStep (Path.lastSegment url.path) := by
  simp only [ofAuthority?] at h
  split at h
  · split at h
    · cases h
    · obtain rfl := Option.some.inj h
      dsimp only
      split
      · exact Path.isKept_nil.not_step
      · exact not_step_pathOf _ _
  · cases h

theorem not_step_of_ofFile {scheme text : List Char} {fragment : Option (List Char)} {url : Url}
    (h : ofFile? scheme text fragment = some url) (hvisible : ∀ c ∈ text, Path.isPassedOver c = false) :
    ¬ Path.IsStep (Path.lastSegment url.path) := by
  obtain ⟨host, path, -, hpath, rfl⟩ := exists_of_ofFile h
  simp only [ofDrivePath]
  rw [Path.lastSegment_slash_cons, Path.lastSegment_dropWhile]
  refine not_step_of_kept (Path.isKept_takeFile (List.forall_mem_nil _) fun piece hpiece => ?_)
  exact ⟨slash_not_mem_piece hpiece, fun c hc => hvisible c (hpath.mem (of_mem_splitOnP hpiece c hc).2)⟩

/-- Without an authority a text that begins with a slash is a path. -/
theorem not_step_ofOpaque {scheme text : List Char} {fragment : Option (List Char)}
    (h : (ofOpaque scheme text fragment).path.head? = some '/') :
    ¬ Path.IsStep (Path.lastSegment (ofOpaque scheme text fragment).path) := by
  unfold ofOpaque at h ⊢
  dsimp only at h ⊢
  split
  · exact not_step_pathOf _ _
  · rename_i hslash
    split at h
    · exact absurd rfl (hslash _)
    · obtain ⟨rest, hrest⟩ := List.head?_eq_some_iff.1 h
      obtain ⟨rest, rfl, -⟩ := Percent.exists_of_encode_cons (by decide) hrest
      exact absurd rfl (hslash rest)

theorem rawBehind_sublist (text : List Char) : (rawBehind text).Sublist text := by
  have hcut : rawBehind text <+: (text.dropWhile (· ≠ ':')).drop 1 := ⟨_, cut_append_snd _ _⟩
  exact hcut.sublist.trans ((List.drop_sublist _ _).trans (List.dropWhile_sublist _))

/-- **The path of a URL does not end in a step**, unless it is the text of a URL without an authority, or of a file in
whose URL something is passed over. -/
theorem step_of_ofText {text : List Char} {url : Url} (h : ofText? text = some url)
    (hstep : Path.IsStep (Path.lastSegment url.path)) :
    url.path.head? ≠ some '/' ∨ url.scheme = "file".toList ∧ ∃ c ∈ text, Path.isPassedOver c = true := by
  obtain ⟨scheme, rest, hsplit⟩ := exists_scheme_of_ofText h
  rw [ofText_eq hsplit rfl] at h
  unfold ofBehind? at h
  split at h
  · rename_i hscheme
    refine .inr ⟨?_, ?_⟩
    · obtain ⟨host, path, -, -, rfl⟩ := exists_of_ofFile h
      exact hscheme
    · by_contra hnone
      refine not_step_of_ofFile h (fun c hc => ?_) hstep
      have hmem : c ∈ text := (trimmed_sublist text).mem ((rawBehind_sublist _).mem hc)
      exact Bool.eq_false_iff.2 fun hpassed => hnone ⟨c, hmem, hpassed⟩
  · split at h
    · exact absurd hstep (not_step_of_ofAuthority h)
    · split at h
      · exact absurd hstep (not_step_of_ofAuthority h)
      · obtain rfl := Option.some.inj h
        exact .inl fun hhead => not_step_ofOpaque hhead hstep

end BlogMarkdown.Url
