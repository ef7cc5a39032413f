import TableDraw.Shuffle

set_option autoImplicit false

/-!
A shuffle rearranges a list without looking at its elements.
-/

namespace TableDraw

namespace Shuffle

variable {α β : Type}

theorem swapDown_perm (choices : List Nat) (last : Nat) (xs : Array α) :
    (swapDown choices last xs).Perm xs := by
  induction choices generalizing last xs with
  | nil => exact Array.Perm.refl xs
  | cons choice rest ih =>
      cases last with
      | zero => exact Array.Perm.refl xs
      | succ last =>
          refine (ih last _).trans ?_
          rw [Array.swapIfInBounds_def]
          split
          · split
            · exact Array.swap_perm _ _
            · exact Array.Perm.refl xs
          · exact Array.Perm.refl xs

private theorem map_swapIfInBounds (f : α → β) (xs : Array α) (i j : Nat) :
    (xs.map f).swapIfInBounds i j = (xs.swapIfInBounds i j).map f := by
  apply Array.ext
  · simp only [Array.size_swapIfInBounds, Array.size_map]
  · intro k inside _
    simp only [Array.getElem_swapIfInBounds, Array.getElem_map, Array.size_map]
    split
    · rfl
    · split <;> rfl

theorem swapDown_map (f : α → β) (choices : List Nat) (last : Nat) (xs : Array α) :
    swapDown choices last (xs.map f) = (swapDown choices last xs).map f := by
  induction choices generalizing last xs with
  | nil => rfl
  | cons choice rest ih =>
      cases last with
      | zero => rfl
      | succ last => rw [swapDown, swapDown, map_swapIfInBounds, ih]

end Shuffle

variable {α β : Type}

/-- A shuffle loses nobody, and repeated elements stay as many as they were. -/
theorem shuffle_perm (xs : List α) (seed : Int64) : (shuffle xs seed).Perm xs :=
  Array.perm_iff_toList_perm.mp (Shuffle.swapDown_perm _ _ xs.toArray)

/-- The order that a seed gives depends on the number of elements only. -/
theorem shuffle_map (f : α → β) (xs : List α) (seed : Int64) :
    shuffle (xs.map f) seed = (shuffle xs seed).map f := by
  simp only [shuffle, List.length_map, ← List.map_toArray, Shuffle.swapDown_map,
    Array.toList_map]

end TableDraw
