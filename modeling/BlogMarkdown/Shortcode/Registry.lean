/-!
# Known shortcodes

A registry says which names are shortcodes. A block tag has an opening and a closing form and
collects what stands between them; a standalone tag is complete by itself. A name that is not
registered is never markup.
-/
namespace BlogMarkdown.Shortcode

/-- The known names, each with whether it is a block tag. A name occurs once. -/
structure Registry where
  tags : List (String × Bool)
  deriving Repr, DecidableEq

namespace Registry

/-- No name is known. -/
def empty : Registry := ⟨[]⟩

/-- Registers a name, in place of what was known of it. -/
def insert (r : Registry) (name : String) (block : Bool) : Registry :=
  ⟨(name, block) :: r.tags.filter (·.1 ≠ name)⟩

/-- Whether a known name is a block tag. -/
def isBlock? (r : Registry) (name : String) : Option Bool := r.tags.lookup name

/-- The known names in ascending order. -/
def names (r : Registry) : List String := (r.tags.map (·.1)).mergeSort (fun a b => decide (a ≤ b))

/-- The shortcodes that have a Markdown form. -/
def standard : Registry :=
  ((empty.insert "caption" true).insert "wp_caption" true).insert "latex" true

theorem isBlock?_insert (r : Registry) (name other : String) (block : Bool) :
    (r.insert name block).isBlock? other = if other = name then some block else r.isBlock? other := by
  by_cases h : other = name
  · simp [isBlock?, insert, h]
  · have hne : (other == name) = false := by simpa using h
    simp only [isBlock?, insert, List.lookup_cons, hne, if_neg h]
    generalize r.tags = l
    induction l with
    | nil => rfl
    | cons x l ih =>
      obtain ⟨k, b⟩ := x
      by_cases hk : k = name
      · subst hk
        simpa [List.lookup_cons, hne] using ih
      · by_cases hok : other = k
        · subst hok; simp [hk]
        · have : (other == k) = false := by simpa using hok
          simpa [hk, List.lookup_cons, this] using ih

end Registry

end BlogMarkdown.Shortcode
