import Mathlib.Data.List.Nodup

/-!
# Lists

Facts about lists that several packages use.
-/

namespace Ostiole.Logic

/-- The element behind a list of some length is the one that changes there. -/
theorem modify_at_length {α : Type} (before : List α) (here : α) (after : List α) (change : α → α) :
    (before ++ here :: after).modify before.length change = before ++ change here :: after := by
  induction before with
  | nil => rfl
  | cons first rest ih => simp [ih]

/-- Changing the image of one element. -/
theorem modify_map_idxOf {α β : Type} [DecidableEq α] {elements : List α}
    (distinct : elements.Nodup) {element : α}
    (member : element ∈ elements) (value : α → β) (change : β → β) :
    (elements.map value).modify (elements.idxOf element) change =
      elements.map fun other => if other = element then change (value other) else value other := by
  apply List.ext_getElem?
  intro i
  rw [List.getElem?_modify, List.getElem?_map, List.getElem?_map]
  rcases found : elements[i]? with _ | other
  · rfl
  · obtain ⟨inside, rfl⟩ := List.getElem?_eq_some_iff.mp found
    have same : elements.idxOf element = i ↔ elements[i] = element := by
      constructor
      · rintro rfl
        exact List.getElem_idxOf _
      · rintro rfl
        exact distinct.idxOf_getElem i inside
    simp [same]

end Ostiole.Logic
