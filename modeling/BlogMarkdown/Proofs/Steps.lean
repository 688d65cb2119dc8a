import Mathlib.Data.List.Forall2
/-!
# Steps that may be refused

What an accepted run of steps says of each step: both halves of a sequence were accepted, a fold keeps what each of its
steps keeps, and a walk over a list accepts every element.
-/
namespace BlogMarkdown

variable {ε α β : Type}

theorem exists_of_bind {x : Except ε α} {f : α → Except ε β} {b : β} (h : (x >>= f) = .ok b) :
    ∃ a, x = .ok a ∧ f a = .ok b := by
  cases x with
  | error e => cases h
  | ok a => exact ⟨a, rfl, h⟩

theorem exists_of_map {x : Except ε α} {f : α → β} {b : β} (h : x.map f = .ok b) : ∃ a, x = .ok a ∧ f a = b := by
  cases x with
  | error e => cases h
  | ok a => exact ⟨a, rfl, Except.ok.inj h⟩

theorem eq_ok_of_toOption {x : Except ε α} {a : α} (h : x.toOption = some a) : x = .ok a := by
  cases x with
  | error e => cases h
  | ok b => exact congrArg Except.ok (Option.some.inj h)

/-- What each step preserves, steps one after the other preserve. -/
theorem foldlM_preserves {P : β → Prop} {step : β → α → Except ε β} : ∀ {l : List α} {b b' : β},
    (∀ a ∈ l, ∀ b b', P b → step b a = .ok b' → P b') → P b → l.foldlM step b = .ok b' → P b'
  | [], _, _, _, h, hfold => by
    cases hfold
    exact h
  | a :: l, b, b', hstep, h, hfold => by
    rw [List.foldlM_cons] at hfold
    obtain ⟨after, ha, hfold⟩ := exists_of_bind hfold
    exact foldlM_preserves (fun a ha => hstep a (List.mem_cons_of_mem _ ha)) (hstep a List.mem_cons_self b after h ha)
      hfold

/-- Folds agree on what a map keeps of their states if each step does. -/
theorem map_foldlM {γ : Type} {f : β → α → Except ε β} {g : γ → α → Except ε γ} {p : β → γ}
    (h : ∀ b a, (f b a).map p = g (p b) a) : ∀ (l : List α) (b : β), (l.foldlM f b).map p = l.foldlM g (p b)
  | [], _ => rfl
  | a :: l, b => by
    rw [List.foldlM_cons, List.foldlM_cons, ← h b a]
    cases f b a with
    | error e => rfl
    | ok b' => exact map_foldlM h l b'

/-- The same of steps that are accepted. -/
theorem foldlM_map_ok {γ : Type} {f : β → α → Except ε β} {g : γ → α → Except ε γ} {p : β → γ}
    (h : ∀ b a b', f b a = .ok b' → g (p b) a = .ok (p b')) : ∀ {l : List α} {b b' : β}, l.foldlM f b = .ok b' →
    l.foldlM g (p b) = .ok (p b')
  | [], _, _, hfold => by
    cases hfold
    rfl
  | a :: l, b, b', hfold => by
    rw [List.foldlM_cons] at hfold
    obtain ⟨after, ha, hfold⟩ := exists_of_bind hfold
    rw [List.foldlM_cons, h b a after ha]
    exact foldlM_map_ok h hfold

theorem mapM_eq_ok {f : α → Except ε β} {g : α → β} : ∀ {l : List α}, (∀ a ∈ l, f a = .ok (g a)) →
    l.mapM f = .ok (l.map g)
  | [], _ => rfl
  | a :: l, h => by
    obtain ⟨ha, hl⟩ := List.forall_mem_cons.1 h
    rw [List.mapM_cons, ha, mapM_eq_ok hl]
    rfl

/-- A walk that is refused is refused at an element. -/
theorem exists_of_mapM_error {f : α → Except ε β} {e : ε} : ∀ {l : List α}, l.mapM f = .error e →
    ∃ a ∈ l, f a = .error e
  | [], h => by cases h
  | a :: l, h => by
    rw [List.mapM_cons] at h
    cases ha : f a with
    | error e' =>
      rw [ha] at h
      cases h
      exact ⟨a, List.mem_cons_self, ha⟩
    | ok b =>
      rw [ha] at h
      cases hl : l.mapM f with
      | error e' =>
        rw [hl] at h
        cases h
        obtain ⟨a', ha', h⟩ := exists_of_mapM_error hl
        exact ⟨a', List.mem_cons_of_mem a ha', h⟩
      | ok bs =>
        rw [hl] at h
        cases h

theorem forall₂_of_mapM {f : α → Except ε β} : ∀ {l : List α} {l' : List β}, l.mapM f = .ok l' →
    List.Forall₂ (fun a b => f a = .ok b) l l'
  | [], _, h => by
    cases h
    exact .nil
  | a :: l, _, h => by
    rw [List.mapM_cons] at h
    obtain ⟨b, hb, h⟩ := exists_of_bind h
    obtain ⟨bs, hbs, h⟩ := exists_of_bind h
    cases h
    exact .cons hb (forall₂_of_mapM hbs)

theorem exists_of_mapM {f : α → Except ε β} {l : List α} {bs : List β} (h : l.mapM f = .ok bs) {a : α} (ha : a ∈ l) :
    ∃ b, f a = .ok b := by
  have hall := forall₂_of_mapM h
  clear h
  induction hall with
  | nil => cases ha
  | cons hab _ ih =>
    rcases List.mem_cons.1 ha with rfl | ha
    · exact ⟨_, hab⟩
    · exact ih ha

end BlogMarkdown
