import BlogMarkdown.Dom.Store
import Mathlib.Data.List.Nodup
/-!
# Neighbours in a list

What stands right behind and right before a number in a list that holds no number twice, and how that changes
when a number is taken out, added at the end or put in before another.  The sibling links of a node store are these
neighbours (`Proofs.Dom.Links`).
-/
namespace BlogMarkdown.Dom

/-- What stands right behind `c`. -/
def successor (c : NodeId) : List NodeId → Option NodeId
  | [] => none
  | a :: rest => if a = c then rest.head? else successor c rest

/-- What stands right before `c`. -/
def predecessor (c : NodeId) (l : List NodeId) : Option NodeId := successor c l.reverse

/-- The list with `put c` in the place of `c`. -/
def putIn (c : NodeId) (put : NodeId → List NodeId) (l : List NodeId) : List NodeId :=
  l.flatMap fun x => if x = c then put x else [x]

/-- The list with `new` put in right before `c`. -/
def insertBeforeIn (c new : NodeId) (l : List NodeId) : List NodeId := putIn c (fun x => [new, x]) l

/-- The list with `new` put in right behind `c`. -/
def insertAfterIn (c new : NodeId) (l : List NodeId) : List NodeId := putIn c (fun x => [x, new]) l

/-! ## Behind -/

theorem mem_of_successor {a b : NodeId} : ∀ {l : List NodeId}, successor a l = some b → b ∈ l
  | x :: rest, h => by
    rw [successor] at h
    split at h
    · exact List.mem_cons_of_mem _ (List.mem_of_head? h)
    · exact List.mem_cons_of_mem _ (mem_of_successor h)

theorem successor_of_not_mem {c : NodeId} : ∀ {l : List NodeId}, c ∉ l → successor c l = none
  | [], _ => rfl
  | a :: rest, h => by
    rw [List.mem_cons, not_or] at h
    rw [successor, if_neg (Ne.symm h.1), successor_of_not_mem h.2]

theorem successor_append_cons {c : NodeId} {r : List NodeId} : ∀ {l : List NodeId}, c ∉ l →
    successor c (l ++ c :: r) = r.head?
  | [], _ => by rw [List.nil_append, successor, if_pos rfl]
  | a :: l, h => by
    rw [List.mem_cons, not_or] at h
    rw [List.cons_append, successor, if_neg (Ne.symm h.1), successor_append_cons h.2]

/-- A member of a list that holds no number twice has its neighbours on its two sides. -/
theorem neighbours_of_split {c : NodeId} {l r : List NodeId} (h : (l ++ c :: r).Nodup) :
    successor c (l ++ c :: r) = r.head? ∧ predecessor c (l ++ c :: r) = l.getLast? := by
  obtain ⟨-, hr, hd⟩ := List.nodup_append.1 h
  have hl : c ∉ l := fun hc => hd c hc c List.mem_cons_self rfl
  have hr : c ∉ r.reverse := fun hc => (List.nodup_cons.1 hr).1 (List.mem_reverse.1 hc)
  refine ⟨successor_append_cons hl, ?_⟩
  rw [predecessor, List.reverse_append, List.reverse_cons, List.append_assoc, List.singleton_append,
    successor_append_cons hr, List.head?_reverse]

theorem successor_eq_some_iff {a b : NodeId} {l : List NodeId} (h : l.Nodup) :
    successor a l = some b ↔ ∃ u v, l = u ++ a :: b :: v := by
  constructor
  · intro hs
    have ha : a ∈ l := Decidable.byContradiction fun hn => by rw [successor_of_not_mem hn] at hs; cases hs
    obtain ⟨u, v, rfl⟩ := List.append_of_mem ha
    rw [(neighbours_of_split h).1] at hs
    obtain ⟨w, rfl⟩ := List.head?_eq_some_iff.1 hs
    exact ⟨u, w, rfl⟩
  · rintro ⟨u, v, rfl⟩
    rw [(neighbours_of_split h).1, List.head?_cons]

theorem predecessor_eq_some_iff {a b : NodeId} {l : List NodeId} (h : l.Nodup) :
    predecessor b l = some a ↔ successor a l = some b := by
  rw [predecessor, successor_eq_some_iff (List.nodup_reverse.2 h), successor_eq_some_iff h]
  constructor
  · rintro ⟨u, v, hl⟩
    refine ⟨v.reverse, u.reverse, ?_⟩
    rw [← List.reverse_reverse l, hl]
    simp
  · rintro ⟨u, v, rfl⟩
    exact ⟨v.reverse, u.reverse, by simp⟩

theorem mem_of_predecessor {a b : NodeId} {l : List NodeId} (h : predecessor b l = some a) : a ∈ l :=
  List.mem_reverse.1 (mem_of_successor h)

/-- The first of a list is what has nothing before it. -/
theorem predecessor_eq_none_iff {c : NodeId} {l : List NodeId} (h : l.Nodup) (hc : c ∈ l) :
    predecessor c l = none ↔ l.head? = some c := by
  obtain ⟨u, v, rfl⟩ := List.append_of_mem hc
  rw [(neighbours_of_split h).2, List.getLast?_eq_none_iff]
  constructor
  · rintro rfl
    rfl
  · intro hh
    cases u with
    | nil => rfl
    | cons x u =>
      rw [List.cons_append, List.head?_cons, Option.some.injEq] at hh
      subst hh
      rw [List.cons_append, List.nodup_cons] at h
      exact absurd (List.mem_append_right _ List.mem_cons_self) h.1

theorem successor_eq_none_iff {c : NodeId} {l : List NodeId} (h : l.Nodup) (hc : c ∈ l) :
    successor c l = none ↔ l.getLast? = some c := by
  have := predecessor_eq_none_iff (List.nodup_reverse.2 h) (List.mem_reverse.2 hc)
  rwa [predecessor, List.reverse_reverse, List.head?_reverse] at this

/-! ## Taking a number out -/

theorem filter_ne_of_not_mem {t : NodeId} {l : List NodeId} (h : t ∉ l) : l.filter (· ≠ t) = l :=
  List.filter_eq_self.2 fun x hx => by simpa using fun he : x = t => h (he ▸ hx)

theorem head?_filter_ne {t : NodeId} {l : List NodeId} (h : l.Nodup) :
    (l.filter (· ≠ t)).head? = if l.head? = some t then successor t l else l.head? := by
  cases l with
  | nil => rfl
  | cons a l =>
    rw [List.nodup_cons] at h
    by_cases ha : a = t
    · subst ha
      rw [List.filter_cons_of_neg (by simp), filter_ne_of_not_mem h.1, List.head?_cons, if_pos rfl, successor,
        if_pos rfl]
    · rw [List.filter_cons_of_pos (by simpa using ha), List.head?_cons, List.head?_cons,
        if_neg (fun he => ha (Option.some.inj he))]

theorem getLast?_filter_ne {t : NodeId} {l : List NodeId} (h : l.Nodup) :
    (l.filter (· ≠ t)).getLast? = if l.getLast? = some t then predecessor t l else l.getLast? := by
  have := head?_filter_ne (t := t) (List.nodup_reverse.2 h)
  rwa [List.filter_reverse, List.head?_reverse, List.head?_reverse] at this

theorem successor_filter_ne {x t : NodeId} (hxt : x ≠ t) : ∀ {l : List NodeId}, l.Nodup →
    successor x (l.filter (· ≠ t)) = if successor x l = some t then successor t l else successor x l
  | [], _ => rfl
  | a :: l, h => by
    have hl := (List.nodup_cons.1 h).2
    by_cases ha : a = t
    · subst ha
      have hn : ¬ successor x (a :: l) = some a := by
        rw [successor, if_neg (Ne.symm hxt)]
        exact fun hs => (List.nodup_cons.1 h).1 (mem_of_successor hs)
      rw [if_neg hn, List.filter_cons_of_neg (by simp), filter_ne_of_not_mem (List.nodup_cons.1 h).1, successor,
        if_neg (Ne.symm hxt)]
    · rw [List.filter_cons_of_pos (by simpa using ha)]
      by_cases hax : a = x
      · simp only [successor, if_pos hax, if_neg ha, head?_filter_ne hl]
      · simp only [successor, if_neg hax, if_neg ha, successor_filter_ne hxt hl]

theorem predecessor_filter_ne {x t : NodeId} (hxt : x ≠ t) {l : List NodeId} (h : l.Nodup) :
    predecessor x (l.filter (· ≠ t)) =
      if predecessor x l = some t then predecessor t l else predecessor x l := by
  have := successor_filter_ne hxt (List.nodup_reverse.2 h)
  rwa [List.filter_reverse] at this

/-! ## Putting a number in -/

theorem successor_concat {x c : NodeId} : ∀ {l : List NodeId}, x ∈ l → l.Nodup →
    successor x (l ++ [c]) = if l.getLast? = some x then some c else successor x l
  | a :: l, hx, h => by
    rw [List.nodup_cons] at h
    by_cases ha : a = x
    · subst ha
      rw [List.cons_append, successor, if_pos rfl, successor, if_pos rfl]
      cases l with
      | nil => simp
      | cons b l =>
        have hne : ¬ (a :: b :: l).getLast? = some a := by
          rw [List.getLast?_cons_cons]
          exact fun hl => h.1 (List.mem_of_getLast? hl)
        rw [if_neg hne, List.cons_append, List.head?_cons, List.head?_cons]
    · have hxl : x ∈ l := (List.mem_cons.1 hx).resolve_left (Ne.symm ha)
      have hl : (a :: l).getLast? = l.getLast? := by
        obtain ⟨b, m, rfl⟩ := List.exists_cons_of_ne_nil (List.ne_nil_of_mem hxl)
        exact List.getLast?_cons_cons
      rw [List.cons_append, successor, if_neg ha, successor, if_neg ha, successor_concat hxl h.2, hl]

theorem predecessor_concat {x c : NodeId} {l : List NodeId} (hxc : x ≠ c) :
    predecessor x (l ++ [c]) = predecessor x l := by
  rw [predecessor, List.reverse_append, List.reverse_singleton, List.singleton_append, successor,
    if_neg (Ne.symm hxc), predecessor]

theorem putIn_of_not_mem {c : NodeId} {put : NodeId → List NodeId} {l : List NodeId} (h : c ∉ l) :
    putIn c put l = l := by
  have hid : ∀ x ∈ l, (if x = c then put x else [x]) = [x] := fun x hx => if_neg fun he : x = c => h (he ▸ hx)
  rw [putIn, List.flatMap_congr hid, List.flatMap_singleton']

theorem putIn_cons_self {c : NodeId} {put : NodeId → List NodeId} {l : List NodeId} (h : c ∉ l) :
    putIn c put (c :: l) = put c ++ l := by
  have htail : putIn c put l = l := putIn_of_not_mem h
  rw [putIn] at htail ⊢
  rw [List.flatMap_cons, if_pos rfl, htail]

theorem putIn_cons_ne {a c : NodeId} {put : NodeId → List NodeId} (h : a ≠ c) (l : List NodeId) :
    putIn c put (a :: l) = a :: putIn c put l := by
  rw [putIn, List.flatMap_cons, if_neg h]
  rfl

theorem putIn_split {c : NodeId} {put : NodeId → List NodeId} {r : List NodeId} : ∀ {l : List NodeId},
    (l ++ c :: r).Nodup → putIn c put (l ++ c :: r) = l ++ (put c ++ r)
  | [], h => putIn_cons_self (List.nodup_cons.1 h).1
  | a :: l, h => by
    rw [List.cons_append, List.nodup_cons] at h
    have ha : a ≠ c := fun he => h.1 (he ▸ List.mem_append_right _ List.mem_cons_self)
    rw [List.cons_append, putIn_cons_ne ha, putIn_split h.2, List.cons_append]

theorem insertBeforeIn_of_not_mem {c new : NodeId} {l : List NodeId} (h : c ∉ l) : insertBeforeIn c new l = l :=
  putIn_of_not_mem h

theorem insertAfterIn_of_not_mem {c new : NodeId} {l : List NodeId} (h : c ∉ l) : insertAfterIn c new l = l :=
  putIn_of_not_mem h

theorem insertBeforeIn_cons_self {c new : NodeId} {l : List NodeId} (h : c ∉ l) :
    insertBeforeIn c new (c :: l) = new :: c :: l := putIn_cons_self h

theorem insertAfterIn_cons_self {c new : NodeId} {l : List NodeId} (h : c ∉ l) :
    insertAfterIn c new (c :: l) = c :: new :: l := putIn_cons_self h

theorem insertBeforeIn_cons_ne {a c new : NodeId} (h : a ≠ c) (l : List NodeId) :
    insertBeforeIn c new (a :: l) = a :: insertBeforeIn c new l := putIn_cons_ne h l

theorem insertAfterIn_cons_ne {a c new : NodeId} (h : a ≠ c) (l : List NodeId) :
    insertAfterIn c new (a :: l) = a :: insertAfterIn c new l := putIn_cons_ne h l

theorem insertBeforeIn_split {c new : NodeId} {l r : List NodeId} (h : (l ++ c :: r).Nodup) :
    insertBeforeIn c new (l ++ c :: r) = l ++ new :: c :: r := putIn_split h

theorem insertAfterIn_split {c new : NodeId} {l r : List NodeId} (h : (l ++ c :: r).Nodup) :
    insertAfterIn c new (l ++ c :: r) = l ++ c :: new :: r := putIn_split h

theorem reverse_insertBeforeIn {c new : NodeId} : ∀ l : List NodeId,
    (insertBeforeIn c new l).reverse = insertAfterIn c new l.reverse
  | [] => rfl
  | a :: l => by
    have ih : (insertBeforeIn c new l).reverse = insertAfterIn c new l.reverse := reverse_insertBeforeIn l
    simp only [insertBeforeIn, insertAfterIn, putIn] at ih ⊢
    rw [List.flatMap_cons, List.reverse_append, List.reverse_cons, List.flatMap_append, ih]
    congr 1
    by_cases ha : a = c <;> simp [ha]

theorem mem_insertBeforeIn {x c new : NodeId} {l : List NodeId} :
    x ∈ insertBeforeIn c new l ↔ x ∈ l ∨ (x = new ∧ c ∈ l) := by
  rw [insertBeforeIn, putIn, List.mem_flatMap]
  constructor
  · rintro ⟨a, ha, hx⟩
    split at hx
    · next hac =>
      rcases List.mem_pair.1 hx with h | h
      · exact .inr ⟨h, hac ▸ ha⟩
      · exact .inl (h ▸ ha)
    · exact .inl (List.mem_singleton.1 hx ▸ ha)
  · rintro (hx | ⟨rfl, hc⟩)
    · refine ⟨x, hx, ?_⟩
      split <;> simp
    · exact ⟨c, hc, by simp⟩

theorem head?_insertBeforeIn {c new : NodeId} : ∀ {l : List NodeId}, l.Nodup →
    (insertBeforeIn c new l).head? = if l.head? = some c then some new else l.head?
  | [], _ => rfl
  | a :: l, h => by
    by_cases ha : a = c
    · subst ha
      rw [insertBeforeIn_cons_self (List.nodup_cons.1 h).1, List.head?_cons, List.head?_cons, if_pos rfl]
    · rw [insertBeforeIn_cons_ne ha, List.head?_cons, List.head?_cons,
        if_neg (fun he => ha (Option.some.inj he))]

theorem head?_insertAfterIn {c new : NodeId} : ∀ {l : List NodeId}, l.Nodup →
    (insertAfterIn c new l).head? = l.head?
  | [], _ => rfl
  | a :: l, h => by
    by_cases ha : a = c
    · subst ha
      rw [insertAfterIn_cons_self (List.nodup_cons.1 h).1, List.head?_cons, List.head?_cons]
    · rw [insertAfterIn_cons_ne ha, List.head?_cons, List.head?_cons]

theorem getLast?_insertBeforeIn {c new : NodeId} {l : List NodeId} (h : l.Nodup) :
    (insertBeforeIn c new l).getLast? = l.getLast? := by
  have : (insertAfterIn c new l.reverse).head? = l.reverse.head? := head?_insertAfterIn (List.nodup_reverse.2 h)
  rwa [← reverse_insertBeforeIn, List.head?_reverse, List.head?_reverse] at this

theorem nodup_insertBeforeIn {c new : NodeId} : ∀ {l : List NodeId}, l.Nodup → new ∉ l →
    (insertBeforeIn c new l).Nodup
  | [], _, _ => List.nodup_nil
  | a :: l, h, hn => by
    rw [List.nodup_cons] at h
    rw [List.mem_cons, not_or] at hn
    by_cases ha : a = c
    · subst ha
      rw [insertBeforeIn_cons_self h.1, List.nodup_cons, List.nodup_cons, List.mem_cons, not_or]
      exact ⟨hn, h⟩
    · rw [insertBeforeIn_cons_ne ha, List.nodup_cons, mem_insertBeforeIn, not_or]
      exact ⟨⟨h.1, fun he => hn.1 he.1.symm⟩, nodup_insertBeforeIn h.2 hn.2⟩

theorem successor_insertBeforeIn {x c new : NodeId} (hx : x ≠ new) : ∀ {l : List NodeId}, l.Nodup →
    successor x (insertBeforeIn c new l) = if successor x l = some c then some new else successor x l
  | [], _ => rfl
  | a :: l, h => by
    have hl := (List.nodup_cons.1 h).2
    by_cases ha : a = c
    · subst ha
      have hn : ¬ successor x (a :: l) = some a := by
        rw [successor]
        split
        · exact fun hs => (List.nodup_cons.1 h).1 (List.mem_of_head? hs)
        · exact fun hs => (List.nodup_cons.1 h).1 (mem_of_successor hs)
      rw [if_neg hn, insertBeforeIn_cons_self (List.nodup_cons.1 h).1, successor, if_neg (Ne.symm hx)]
    · rw [insertBeforeIn_cons_ne ha]
      by_cases hax : a = x
      · simp only [successor, if_pos hax, head?_insertBeforeIn hl]
      · simp only [successor, if_neg hax, successor_insertBeforeIn hx hl]

theorem successor_new_insertBeforeIn {c new : NodeId} : ∀ {l : List NodeId}, l.Nodup → new ∉ l → c ∈ l →
    successor new (insertBeforeIn c new l) = some c
  | a :: l, h, hn, hc => by
    rw [List.nodup_cons] at h
    rw [List.mem_cons, not_or] at hn
    by_cases ha : a = c
    · subst ha
      rw [insertBeforeIn_cons_self h.1, successor, if_pos rfl, List.head?_cons]
    · rw [insertBeforeIn_cons_ne ha, successor, if_neg (Ne.symm hn.1)]
      exact successor_new_insertBeforeIn h.2 hn.2 ((List.mem_cons.1 hc).resolve_left (Ne.symm ha))

theorem successor_insertAfterIn {x c new : NodeId} (hx : x ≠ new) : ∀ {l : List NodeId}, l.Nodup → x ∈ l →
    successor x (insertAfterIn c new l) = if x = c then some new else successor x l
  | a :: l, h, hm => by
    have hl := List.nodup_cons.1 h
    by_cases ha : a = c
    · subst ha
      rw [insertAfterIn_cons_self hl.1]
      by_cases hax : a = x
      · rw [successor, if_pos hax, if_pos hax.symm, List.head?_cons]
      · rw [successor, if_neg hax, successor, if_neg (Ne.symm hx), if_neg (Ne.symm hax), successor, if_neg hax]
    · rw [insertAfterIn_cons_ne ha]
      by_cases hax : a = x
      · subst hax
        rw [successor, if_pos rfl, if_neg ha, successor, if_pos rfl, head?_insertAfterIn hl.2]
      · rw [successor, if_neg hax, successor_insertAfterIn hx hl.2 ((List.mem_cons.1 hm).resolve_left (Ne.symm hax)),
          successor, if_neg hax]

theorem successor_new_insertAfterIn {c new : NodeId} : ∀ {l : List NodeId}, l.Nodup → new ∉ l → c ∈ l →
    successor new (insertAfterIn c new l) = successor c l
  | a :: l, h, hn, hc => by
    rw [List.nodup_cons] at h
    rw [List.mem_cons, not_or] at hn
    by_cases ha : a = c
    · subst ha
      rw [insertAfterIn_cons_self h.1, successor, if_neg (Ne.symm hn.1), successor, if_pos rfl, successor,
        if_pos rfl]
    · rw [insertAfterIn_cons_ne ha, successor, if_neg (Ne.symm hn.1), successor, if_neg ha]
      exact successor_new_insertAfterIn h.2 hn.2 ((List.mem_cons.1 hc).resolve_left (Ne.symm ha))

theorem predecessor_insertBeforeIn {x c new : NodeId} (hx : x ≠ new) {l : List NodeId} (h : l.Nodup)
    (hm : x ∈ l) :
    predecessor x (insertBeforeIn c new l) = if x = c then some new else predecessor x l := by
  rw [predecessor, reverse_insertBeforeIn]
  exact successor_insertAfterIn hx (List.nodup_reverse.2 h) (List.mem_reverse.2 hm)

theorem predecessor_new_insertBeforeIn {c new : NodeId} {l : List NodeId} (h : l.Nodup) (hn : new ∉ l)
    (hc : c ∈ l) : predecessor new (insertBeforeIn c new l) = predecessor c l := by
  rw [predecessor, reverse_insertBeforeIn]
  exact successor_new_insertAfterIn (List.nodup_reverse.2 h) (fun hm => hn (List.mem_reverse.1 hm))
    (List.mem_reverse.2 hc)

end BlogMarkdown.Dom
