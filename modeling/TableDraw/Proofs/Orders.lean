import Mathlib.Data.List.Permutation
import Mathlib.Data.Set.Card
import TableDraw.Player
import TableDraw.Proofs.Choices
import TableDraw.Proofs.Shuffle

set_option autoImplicit false

/-!
The orders that shuffles give. A seed stands for one permutation of the places of a list, whatever
the list holds. Of different elements each order comes from one sequence of choices and no other:
the first choice decides which element ends up last, and what is before it is a smaller shuffle.
-/

namespace TableDraw

open scoped Nat

namespace Shuffle

variable {α : Type}

/-- The list after the swaps that were chosen, from its last slot down to the second. -/
def arrange (choices : List Nat) (xs : List α) : List α :=
  (swapDown choices (xs.length - 1) xs.toArray).toList

/-- Swaps like `swapDown`, but gives up at a slot or a choice that lies outside the array. -/
def swapDown? : (choices : List Nat) → (last : Nat) → Array α → Option (Array α)
  | choice :: rest, last + 1, xs =>
      if inside : last + 1 < xs.size ∧ choice < xs.size then
        swapDown? rest last (xs.swap (last + 1) choice inside.1 inside.2)
      else none
  | _, _, xs => some xs

theorem shuffle_eq_arrange (xs : List α) (seed : Int64) :
    shuffle xs seed =
      arrange (choices (ChaCha.draw (ChaCha.key seed)) (xs.length - 1) 0) xs := by
  rw [shuffle, ChaCha.lookup_table]
  rfl

section Swaps

variable {last choice : Nat} {choices rest : List Nat} {xs : Array α}

theorem swapDown_cons (slot : last + 1 < xs.size) (within : choice ≤ last + 1) :
    swapDown (choice :: rest) (last + 1) xs = swapDown rest last
      (xs.swap (last + 1) choice slot (Nat.lt_of_le_of_lt within slot)) := by
  rw [swapDown, Array.swapIfInBounds_def, dif_pos slot, dif_pos (Nat.lt_of_le_of_lt within slot)]

theorem le_size_swap (slot : last + 1 < xs.size) (inside : choice < xs.size) :
    last ≤ (xs.swap (last + 1) choice slot inside).size - 1 := by
  rw [Array.size_swap]
  omega

/-- No swap that can be chosen lies outside the array. -/
theorem swapDown?_eq_some (choosable : Choosable last choices) (inside : last ≤ xs.size - 1) :
    swapDown? choices last xs = some (swapDown choices last xs) := by
  induction last generalizing choices xs with
  | zero =>
      rw [(choosable_zero_iff _).mp choosable]
      rfl
  | succ last ih =>
      obtain ⟨choice, rest, rfl, within, others⟩ := choosable.exists_cons
      have slot : last + 1 < xs.size := by omega
      rw [swapDown?, dif_pos ⟨slot, Nat.lt_of_le_of_lt within slot⟩, swapDown_cons slot within]
      exact ih others (le_size_swap slot _)

/-- Slots above those that are swapped stay as they are. -/
theorem getElem?_swapDown_of_lt (choosable : Choosable last choices) (inside : last ≤ xs.size - 1)
    {k : Nat} (above : last < k) : (swapDown choices last xs)[k]? = xs[k]? := by
  induction last generalizing choices xs with
  | zero =>
      rw [(choosable_zero_iff _).mp choosable]
      rfl
  | succ last ih =>
      obtain ⟨choice, rest, rfl, within, others⟩ := choosable.exists_cons
      have slot : last + 1 < xs.size := by omega
      rw [swapDown_cons slot within, ih others (le_size_swap slot _) (Nat.lt_of_succ_lt above),
        Array.getElem?_swap, if_neg (by omega), if_neg (by omega)]

/-- The last slot gets the element that stood where was chosen, for good. -/
theorem getElem?_swapDown_last (choosable : Choosable (last + 1) (choice :: rest))
    (slot : last + 1 < xs.size) :
    (swapDown (choice :: rest) (last + 1) xs)[last + 1]? = xs[choice]? := by
  obtain ⟨within, others⟩ := (choosable_cons_iff _ _ _).mp choosable
  have inside : choice < xs.size := Nat.lt_of_le_of_lt within slot
  rw [swapDown_cons slot within,
    getElem?_swapDown_of_lt others (le_size_swap slot inside) (Nat.lt_succ_self last),
    Array.getElem?_swap, Array.getElem?_eq_getElem inside]
  split
  · rename_i same
    simp only [same]
  · rw [if_pos rfl]

end Swaps

/-- Different choices give different orders of different elements. -/
theorem swapDown_injective {last : Nat} {xs : Array α} (distinct : xs.toList.Nodup)
    (inside : last ≤ xs.size - 1) {choices choices' : List Nat} (choosable : Choosable last choices)
    (choosable' : Choosable last choices')
    (same : swapDown choices last xs = swapDown choices' last xs) : choices = choices' := by
  induction last generalizing xs choices choices' with
  | zero => rw [(choosable_zero_iff _).mp choosable, (choosable_zero_iff _).mp choosable']
  | succ last ih =>
      obtain ⟨choice, rest, rfl, within, others⟩ := choosable.exists_cons
      obtain ⟨choice', rest', rfl, within', others'⟩ := choosable'.exists_cons
      have slot : last + 1 < xs.size := by omega
      -- The element that ends up in the last slot tells which choice was made for it.
      have taken : xs[choice]? = xs[choice']? := by
        rw [← getElem?_swapDown_last choosable slot, same, getElem?_swapDown_last choosable' slot]
      have first : choice = choice' := by
        rw [← Array.getElem?_toList, ← Array.getElem?_toList] at taken
        exact (List.getElem?_inj (Nat.lt_of_le_of_lt within slot) distinct).mp taken
      subst first
      rw [swapDown_cons slot within, swapDown_cons slot within'] at same
      have swapped := (Array.perm_iff_toList_perm.mp
        (Array.swap_perm slot (Nat.lt_of_le_of_lt within slot))).nodup_iff.mpr distinct
      rw [ih swapped (le_size_swap slot _) others others' same]

theorem choosable_succ_eq_image (last : Nat) :
    {choices | Choosable (last + 1) choices} =
      (fun made : Nat × List Nat => made.1 :: made.2) ''
        ((Finset.range (last + 2) : Set Nat) ×ˢ {choices | Choosable last choices}) := by
  ext choices
  simp only [Set.mem_ofPred_eq, Set.mem_image, Set.mem_prod, Finset.coe_range, Set.mem_Iio,
    Prod.exists]
  constructor
  · intro choosable
    obtain ⟨choice, rest, rfl, within, others⟩ := choosable.exists_cons
    exact ⟨choice, rest, ⟨Nat.lt_succ_of_le within, others⟩, rfl⟩
  · rintro ⟨choice, rest, ⟨within, others⟩, rfl⟩
    exact (choosable_cons_iff _ _ _).mpr ⟨Nat.le_of_lt_succ within, others⟩

/-- Slot `i` has `i + 1` choices. -/
theorem ncard_choosable (last : Nat) : {choices | Choosable last choices}.ncard = (last + 1)! := by
  induction last with
  | zero =>
      have single : {choices | Choosable 0 choices} = {[]} := by
        ext choices
        exact choosable_zero_iff choices
      rw [single, Set.ncard_singleton]
      rfl
  | succ last ih =>
      have injective : Function.Injective (fun made : Nat × List Nat => made.1 :: made.2) := by
        intro made made' same
        obtain ⟨first, others⟩ := List.cons.inj same
        exact Prod.ext first others
      rw [choosable_succ_eq_image, Set.ncard_image_of_injective _ injective, Set.ncard_prod,
        Set.ncard_coe_finset, Finset.card_range, ih, ← Nat.factorial_succ]

theorem ncard_choosable_pred (n : Nat) :
    {choices | Choosable (n - 1) choices}.ncard = n ! := by
  cases n with
  | zero => exact ncard_choosable 0
  | succ n => exact ncard_choosable n

theorem orders_eq_coe [DecidableEq α] (xs : List α) :
    {ys : List α | ys.Perm xs} = (xs.permutations.toFinset : Set (List α)) := by
  ext ys
  rw [List.coe_toFinset]
  exact List.mem_permutations.symm

theorem ncard_orders {xs : List α} (distinct : xs.Nodup) :
    {ys : List α | ys.Perm xs}.ncard = xs.length ! := by
  classical
  rw [orders_eq_coe, Set.ncard_coe_finset,
    List.toFinset_card_of_nodup (List.nodup_permutations xs distinct), List.length_permutations]

theorem arrange_perm (choices : List Nat) (xs : List α) : (arrange choices xs).Perm xs :=
  Array.perm_iff_toList_perm.mp (swapDown_perm choices _ xs.toArray)

/-- There are as many choices as orders of different elements, and no two choices give the same
order. -/
theorem arrange_bijOn {xs : List α} (distinct : xs.Nodup) :
    Set.BijOn (fun choices => arrange choices xs)
      {choices | Choosable (xs.length - 1) choices} {ys : List α | ys.Perm xs} := by
  classical
  have maps : Set.MapsTo (fun choices => arrange choices xs)
      {choices | Choosable (xs.length - 1) choices} {ys : List α | ys.Perm xs} :=
    fun choices _ => arrange_perm choices xs
  have injective : Set.InjOn (fun choices => arrange choices xs)
      {choices | Choosable (xs.length - 1) choices} := by
    intro choices choosable choices' choosable' same
    exact swapDown_injective distinct (Nat.le_refl _) choosable choosable'
      (Array.toList_inj.mp same)
  have finite : {ys : List α | ys.Perm xs}.Finite := by
    rw [orders_eq_coe]
    exact Finset.finite_toSet _
  -- An injective map into a set that is no larger reaches all of it.
  have onto : (fun choices => arrange choices xs) '' {choices | Choosable (xs.length - 1) choices} =
      {ys : List α | ys.Perm xs} := by
    refine Set.eq_of_subset_of_ncard_le maps.image_subset ?_ finite
    rw [injective.ncard_image, ncard_choosable_pred, ncard_orders distinct]
  exact ⟨maps, injective, onto.ge⟩

theorem toList_eq_map_get {n : Nat} (xs : Vector α n) :
    xs.toList = (List.finRange n).map xs.get := by
  apply List.ext_getElem
  · rw [Vector.length_toList, List.length_map, List.length_finRange]
  · intro k _ _
    rw [Vector.getElem_toList, List.getElem_map, List.getElem_finRange]
    rfl

/-- The places of a list are shuffled by a permutation. -/
theorem exists_permutation (n : Nat) (seed : Int64) :
    ∃ order : Equiv.Perm (Fin n), shuffle (List.finRange n) seed = (List.finRange n).map order := by
  have perm := shuffle_perm (List.finRange n) seed
  have length : (shuffle (List.finRange n) seed).length = n := by
    rw [perm.length_eq, List.length_finRange]
  let place : Fin n → Fin n := fun i => (shuffle (List.finRange n) seed)[i.val]
  have injective : Function.Injective place := by
    intro i j same
    exact Fin.ext ((perm.nodup_iff.mpr (List.nodup_finRange n)).getElem_inj_iff.mp same)
  refine ⟨Equiv.ofBijective place (Finite.injective_iff_bijective.mp injective), ?_⟩
  apply List.ext_getElem
  · rw [length, List.length_map, List.length_finRange]
  · intro k _ _
    simp only [List.getElem_map, List.getElem_finRange, Equiv.ofBijective_apply]
    rfl

end Shuffle

/-- A seed stands for one permutation of so many places. Whatever list is shuffled with it, place
`i` gets the element that stood at the place the permutation names. The choices behind it are one
for each slot from the last down to the second and never past the slot, so that every swap is made
inside the list; and each element is there afterwards as often as before. -/
theorem shuffle_applies_permutation (n : Nat) (seed : Int64) :
    let choices := Shuffle.choices (ChaCha.draw (ChaCha.key seed)) (n - 1) 0
    Shuffle.Choosable (n - 1) choices ∧
    ∃ order : Equiv.Perm (Fin n), ∀ (α : Type) (xs : Vector α n),
      Shuffle.swapDown? choices (n - 1) xs.toArray = some (shuffle xs.toList seed).toArray ∧
      (∀ i : Fin n, (shuffle xs.toList seed)[i.val]? = some xs[order i]) ∧
      (shuffle xs.toList seed).Perm xs.toList := by
  intro choices
  have choosable : Shuffle.Choosable (n - 1) choices := Shuffle.choices_choosable _ _ _
  obtain ⟨order, places⟩ := Shuffle.exists_permutation n seed
  refine ⟨choosable, order, ?_⟩
  intro α xs
  have shuffled : shuffle xs.toList seed = (List.finRange n).map (fun i => xs[order i]) := by
    rw [Shuffle.toList_eq_map_get, shuffle_map, places, List.map_map]
    rfl
  refine ⟨?_, ?_, shuffle_perm _ _⟩
  · have swapped : (shuffle xs.toList seed).toArray =
        Shuffle.swapDown choices (n - 1) xs.toArray := by
      rw [Shuffle.shuffle_eq_arrange, Shuffle.arrange, Vector.length_toList]
      rfl
    rw [swapped, Shuffle.swapDown?_eq_some choosable (by rw [xs.size_toArray])]
  · intro i
    have inside : i.val < (List.finRange n).length := (List.length_finRange (n := n)).symm ▸ i.isLt
    rw [shuffled, List.getElem?_map, List.getElem?_eq_getElem inside, List.getElem_finRange]
    rfl

/-- Swaps from the last slot down, each with a slot chosen at or before it, give every order of
different elements, and each from one sequence of choices alone. A shuffle makes those swaps. Its
choices are the remainders of the draws that are accepted, in their order; they come to an end where
the stream holds a draw to accept for every slot. The length of a list is a 64-bit word. -/
theorem every_order_chosen_once {α : Type} (xs : List α) :
    (xs.Nodup →
      Set.BijOn (fun choices => Shuffle.arrange choices xs)
        {choices | Shuffle.Choosable (xs.length - 1) choices} {ys : List α | ys.Perm xs} ∧
      {choices | Shuffle.Choosable (xs.length - 1) choices}.ncard = xs.length ! ∧
      {ys : List α | ys.Perm xs}.ncard = xs.length !) ∧
    (xs.length < 2 ^ 64 → ∀ seed : Int64,
      let draw := ChaCha.draw (ChaCha.key seed)
      ((∀ i, 1 ≤ i → i < xs.length → ∃ k, 2 ^ 64 % (i + 1) ≤ (draw k).toNat) →
        ∃ choices, Shuffle.Drawn draw (xs.length - 1) 0 choices) ∧
      ∀ choices, Shuffle.Drawn draw (xs.length - 1) 0 choices →
        Shuffle.Choosable (xs.length - 1) choices ∧
        shuffle xs seed = Shuffle.arrange choices xs) := by
  refine ⟨?_, ?_⟩
  · intro distinct
    exact ⟨Shuffle.arrange_bijOn distinct, Shuffle.ncard_choosable_pred xs.length,
      Shuffle.ncard_orders distinct⟩
  · intro bound seed draw
    have periodic : ∀ k, draw (k + ChaCha.period) = draw k := ChaCha.draw_add_period _
    refine ⟨?_, ?_⟩
    · intro accepting
      exact Shuffle.exists_drawn periodic
        (fun i some within => accepting i some (by omega)) 0
    · intro choices drawn
      refine ⟨drawn.choosable, ?_⟩
      rw [Shuffle.shuffle_eq_arrange]
      cases xs with
      | nil => rw [(Shuffle.choosable_zero_iff _).mp drawn.choosable]; rfl
      | cons x rest => rw [drawn.eq_choices periodic bound]

/-- Ten players, each from a team of their own. -/
def tenPlayers : List Player :=
  (List.range 10).map (fun k => ⟨Int64.ofNat (k + 1), Int64.ofNat (k + 1)⟩)

/-- Ten players have 3628800 sequences of choices. Their order under the seed 1 comes from the one that
the stream of that seed makes. -/
theorem every_order_chosen_once_ten :
    tenPlayers.Nodup ∧ tenPlayers.length < 2 ^ 64 ∧
    {choices | Shuffle.Choosable 9 choices}.ncard = 3628800 ∧
    ∃ choices, Shuffle.Drawn (ChaCha.draw (ChaCha.key 1)) 9 0 choices ∧
      (Shuffle.arrange choices tenPlayers).map Player.id = [3, 8, 7, 4, 5, 10, 1, 6, 9, 2] := by
  have distinct : tenPlayers.Nodup := by decide +kernel
  have bound : tenPlayers.length < 2 ^ 64 := by decide
  have great : 10 ≤ (ChaCha.draw (ChaCha.key 1) 0).toNat := by decide +kernel
  have order : (shuffle tenPlayers 1).map Player.id = [3, 8, 7, 4, 5, 10, 1, 6, 9, 2] := by
    decide +kernel
  obtain ⟨orders, seeds⟩ := every_order_chosen_once tenPlayers
  obtain ⟨ends, made⟩ := seeds bound 1
  obtain ⟨choices, drawn⟩ := ends (fun i _ within =>
    ⟨0, Nat.le_trans (Nat.le_of_lt (Nat.mod_lt _ (Nat.succ_pos i))) (Nat.le_trans within great)⟩)
  refine ⟨distinct, bound, (orders distinct).2.1, choices, drawn, ?_⟩
  rw [← (made choices drawn).2, order]

end TableDraw
