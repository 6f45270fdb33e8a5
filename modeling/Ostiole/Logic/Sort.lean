import Mathlib.Data.List.Sort
import Mathlib.Order.Defs.Unbundled

/-!
# Sorting by contract

A sorting procedure of which only the contract is known: it permutes its input, and
orders it by any comparison that is a strict weak order. Elements the comparison does
not separate may come out in any order. Where it separates all of them, the result
depends on nothing but the set sorted.
-/

namespace Ostiole.Logic

/-- A sorting procedure. -/
structure Sorter where
  sort : {α : Type} → (α → α → Ordering) → List α → List α
  perm : ∀ {α : Type} (cmp : α → α → Ordering) (list : List α), (sort cmp list).Perm list
  ordered : ∀ {α : Type} (cmp : α → α → Ordering) [Std.TransCmp cmp] (list : List α),
    (sort cmp list).Pairwise fun a b => (cmp a b).isLE = true

/-- A comparison tells any two elements of a list apart. -/
def Separates {α : Type} (cmp : α → α → Ordering) (list : List α) : Prop :=
  ∀ a ∈ list, ∀ b ∈ list, cmp a b = .eq → a = b

namespace Sorter

variable {α : Type} {cmp : α → α → Ordering} {first second : List α}

@[simp] theorem mem_sort (sorter : Sorter) {a : α} : a ∈ sorter.sort cmp first ↔ a ∈ first :=
  (sorter.perm cmp first).mem_iff

@[simp] theorem nodup_sort (sorter : Sorter) : (sorter.sort cmp first).Nodup ↔ first.Nodup :=
  (sorter.perm cmp first).nodup_iff

/-- Two procedures agree on two lists of the same elements. -/
theorem sort_eq [Std.TransCmp cmp] (one other : Sorter) (distinct : first.Nodup)
    (distinct' : second.Nodup) (same : ∀ a, a ∈ first ↔ a ∈ second)
    (separates : Separates cmp first) : one.sort cmp first = other.sort cmp second := by
  have perm : first.Perm second := (List.perm_ext_iff_of_nodup distinct distinct').2 same
  refine List.Perm.eq_of_pairwise (fun a b left right below above => ?_) (one.ordered cmp first)
    (other.ordered cmp second) (((one.perm cmp first).trans perm).trans
      (other.perm cmp second).symm)
  exact separates a (one.mem_sort.1 left) b ((same b).2 (other.mem_sort.1 right))
    (Std.OrientedCmp.isLE_antisymm below above)

/-- What is separated comes out in strict order. -/
theorem sort_strict [Std.TransCmp cmp] (sorter : Sorter) (distinct : first.Nodup)
    (separates : Separates cmp first) :
    (sorter.sort cmp first).Pairwise fun a b => cmp a b = .lt := by
  have ordered := (sorter.ordered cmp first).and ((sorter.perm cmp first).nodup_iff.2 distinct)
  refine ordered.imp_of_mem fun {a b} left right ⟨below, different⟩ => ?_
  rcases Ordering.isLE_iff_eq_lt_or_eq_eq.1 below with less | equal
  · exact less
  · exact absurd (separates a (sorter.mem_sort.1 left) b (sorter.mem_sort.1 right) equal) different

end Sorter

/-- Insertion sort meets the contract. -/
def Sorter.insertion : Sorter where
  sort cmp list := list.insertionSort fun a b => (cmp a b).isLE = true
  perm _ list := list.perm_insertionSort _
  ordered cmp _ list := by
    have total : Std.Total fun a b => (cmp a b).isLE = true := ⟨fun a b => by
      have swap : cmp b a = (cmp a b).swap := Std.OrientedCmp.eq_swap
      rw [swap]
      cases cmp a b <;> simp⟩
    have trans : IsTrans _ fun a b => (cmp a b).isLE = true :=
      ⟨fun _ _ _ => Std.TransCmp.isLE_trans⟩
    exact list.pairwise_insertionSort _

end Ostiole.Logic
