import Mathlib.Data.List.Induction
import Mathlib.Data.List.Nodup
import Mathlib.Data.List.Sort
import TableDraw.SortedMap

set_option autoImplicit false

/-!
Sorted maps as functions from keys to values: what a map holds after an entry was put in, and that
maps which hold the same are equal. Hence a map does not depend on the order of its entries, and of
several entries at one key only the last one counts.
-/

namespace TableDraw.SortedMap

variable {κ ν : Type} [LT κ]

theorem length_keys (m : SortedMap κ ν) : m.keys.length = m.size := List.length_map _

theorem keys_nodup [Std.Irrefl (α := κ) (· < ·)] (m : SortedMap κ ν) : m.keys.Nodup := by
  refine List.pairwise_map.mpr (m.ascending.imp ?_)
  intro a b below same
  rw [same] at below
  exact Std.lt_irrefl below

theorem keys_ascending (m : SortedMap κ ν) : m.keys.Pairwise (· < ·) :=
  List.pairwise_map.mpr m.ascending

/-- The map of those entries whose values pass a test. -/
def filter (m : SortedMap κ ν) (p : ν → Bool) : SortedMap κ ν :=
  ⟨m.entries.filter (fun e => p e.2), m.ascending.filter _⟩

section Lookup

variable [BEq κ] [LawfulBEq κ]

omit [LT κ] in
theorem isSome_lookup_iff {entries : List (κ × ν)} {k : κ} :
    (entries.lookup k).isSome ↔ k ∈ entries.map Prod.fst := by
  rw [List.lookup_isSome_iff, List.mem_map]
  refine exists_congr (fun e => and_congr_right (fun _ => ?_))
  rw [beq_iff_eq, eq_comm]

theorem mem_keys_iff (m : SortedMap κ ν) {k : κ} : k ∈ m.keys ↔ (m.get? k).isSome := by
  rw [keys, get?, isSome_lookup_iff]

theorem mem_entries_of_get? (m : SortedMap κ ν) {k : κ} {v : ν} (found : m.get? k = some v) :
    (k, v) ∈ m.entries := by
  obtain ⟨before, after, split, _⟩ := List.lookup_eq_some_iff.mp found
  rw [split]
  exact List.mem_append_right _ List.mem_cons_self

/-- A key is looked up to the value of one of its entries. -/
theorem exists_get?_of_mem_keys (m : SortedMap κ ν) {k : κ} (listed : k ∈ m.keys) :
    ∃ e ∈ m.entries, e.1 = k ∧ m.get? k = some e.2 := by
  obtain ⟨v, found⟩ := Option.isSome_iff_exists.mp (m.mem_keys_iff.mp listed)
  exact ⟨(k, v), m.mem_entries_of_get? found, rfl, found⟩

variable [Std.Irrefl (α := κ) (· < ·)]

/-- No two entries share a key, so each of them is found. -/
theorem get?_of_mem_entries (m : SortedMap κ ν) {e : κ × ν} (member : e ∈ m.entries) :
    m.get? e.1 = some e.2 := by
  obtain ⟨other, listed, key, found⟩ :=
    m.exists_get?_of_mem_keys (List.mem_map_of_mem (f := Prod.fst) member)
  have same : other = e := List.inj_on_of_nodup_map m.keys_nodup listed member key
  rw [found, same]

theorem get?_eq_some_iff (m : SortedMap κ ν) {k : κ} {v : ν} :
    m.get? k = some v ↔ (k, v) ∈ m.entries :=
  ⟨m.mem_entries_of_get?, fun member => m.get?_of_mem_entries member⟩

theorem get?_filter (m : SortedMap κ ν) (p : ν → Bool) (k : κ) :
    (m.filter p).get? k = (m.get? k).filter p := by
  apply Option.ext
  intro v
  rw [get?_eq_some_iff, Option.filter_eq_some_iff, get?_eq_some_iff]
  exact List.mem_filter

end Lookup

section Listing

variable [LE κ] [DecidableLT κ] [Std.IsLinearOrder κ] [Std.LawfulOrderLT κ]

theorem ofList_concat (entries : List (κ × ν)) (e : κ × ν) :
    ofList (entries ++ [e]) = (ofList entries).insert e.1 e.2 := by
  simp only [ofList, List.foldl_append, List.foldl_cons, List.foldl_nil]

omit [LE κ] [Std.IsLinearOrder κ] [Std.LawfulOrderLT κ] in
/-- A key above all others goes to the end. -/
theorem insertEntry_of_above [Std.Asymm (α := κ) (· < ·)] {k : κ} (v : ν) {entries : List (κ × ν)}
    (above : ∀ e ∈ entries, e.1 < k) : insertEntry k v entries = entries ++ [(k, v)] := by
  induction entries with
  | nil => rfl
  | cons e rest ih =>
      have first : e.1 < k := above e List.mem_cons_self
      have others := ih (fun e member => above e (List.mem_cons_of_mem _ member))
      rw [insertEntry, if_neg (Std.Asymm.asymm _ _ first), if_pos first, others, List.cons_append]

/-- A map is the map of its own entries. -/
@[simp] theorem ofList_entries (m : SortedMap κ ν) : ofList m.entries = m := by
  obtain ⟨entries, ascending⟩ := m
  induction entries using List.reverseRecOn with
  | nil => rfl
  | append_singleton entries e ih =>
      obtain ⟨others, _, above⟩ := List.pairwise_append.mp ascending
      have last : ∀ other ∈ entries, other.1 < e.1 :=
        fun other member => above other member e List.mem_cons_self
      apply SortedMap.ext
      rw [ofList_concat, ih others]
      exact insertEntry_of_above e.2 last

end Listing

section Order

variable [LE κ] [Std.IsLinearOrder κ] [Std.LawfulOrderLT κ]

/-- Entries are in order if their keys are. -/
instance : Std.Asymm (fun a b : κ × ν => a.1 < b.1) where
  asymm _ _ below := Std.not_lt.mpr (Std.le_of_lt below)

/-- Searching a list with strictly ascending keys finds the member with the least key. -/
theorem find?_eq_some_iff_least {α : Type} (key : α → κ) {l : List α}
    (ascending : l.Pairwise (fun a b => key a < key b)) (p : α → Bool) (a : α) :
    l.find? p = some a ↔ a ∈ l ∧ p a = true ∧ ∀ b ∈ l, p b = true → key a ≤ key b := by
  rw [List.find?_eq_some_iff_append]
  constructor
  · rintro ⟨passes, before, after, rfl, failed⟩
    refine ⟨List.mem_append_right _ List.mem_cons_self, passes, ?_⟩
    intro b member passes'
    rcases List.mem_append.mp member with earlier | later
    · have fails := failed b earlier
      rw [passes'] at fails
      cases fails
    · rcases List.mem_cons.mp later with rfl | later
      · exact Std.le_refl _
      · have above := (List.pairwise_append.mp ascending).2.1
        exact Std.le_of_lt ((List.pairwise_cons.mp above).1 b later)
  · rintro ⟨member, passes, least⟩
    obtain ⟨before, after, rfl⟩ := List.append_of_mem member
    refine ⟨passes, before, after, rfl, ?_⟩
    intro b earlier
    rw [Bool.not_eq_true', ← Bool.not_eq_true]
    intro passes'
    have below := (List.pairwise_append.mp ascending).2.2 b earlier a List.mem_cons_self
    exact Std.not_lt.mpr (least b (List.mem_append_left _ earlier) passes') below

variable [BEq κ] [LawfulBEq κ]

/-- Maps that hold the same values at the same keys are equal. -/
theorem ext_get? {m m' : SortedMap κ ν} (same : ∀ k, m.get? k = m'.get? k) : m = m' := by
  apply SortedMap.ext
  apply m.ascending.eq_of_mem_iff m'.ascending
  intro e
  rw [← m.get?_eq_some_iff, ← m'.get?_eq_some_iff, same]

variable [DecidableLT κ]

theorem lookup_insertEntry (k : κ) (v : ν) (entries : List (κ × ν)) (j : κ) :
    (insertEntry k v entries).lookup j = if j == k then some v else entries.lookup j := by
  induction entries with
  | nil =>
      rw [insertEntry, List.lookup_cons]
      cases j == k <;> rfl
  | cons e rest ih =>
      obtain ⟨own, value⟩ := e
      rw [insertEntry]
      split
      · rw [List.lookup_cons]
        cases j == k <;> rfl
      · rename_i notBelow
        split
        · rename_i above
          rw [List.lookup_cons, List.lookup_cons, ih]
          cases found : j == own with
          | false => rfl
          | true =>
              have apart : (j == k) = false := by
                rw [beq_eq_false_iff_ne, eq_of_beq found]
                rintro rfl
                exact Std.lt_irrefl above
              rw [apart]
              rfl
        · rename_i notAbove
          have same : own = k := Std.le_antisymm (Std.not_lt.mp notBelow) (Std.not_lt.mp notAbove)
          rw [List.lookup_cons, List.lookup_cons, same]
          cases j == k <;> rfl

@[simp] theorem get?_insert (m : SortedMap κ ν) (k : κ) (v : ν) (j : κ) :
    (m.insert k v).get? j = if j == k then some v else m.get? j :=
  lookup_insertEntry k v m.entries j

/-- Of several entries at one key the last one is found. -/
theorem get?_ofList (entries : List (κ × ν)) (k : κ) :
    (ofList entries).get? k = entries.reverse.lookup k := by
  induction entries using List.reverseRecOn with
  | nil => rfl
  | append_singleton entries e ih =>
      rw [ofList_concat, get?_insert, ih, List.reverse_append, List.reverse_singleton,
        List.singleton_append, List.lookup_cons]
      cases k == e.1 <;> rfl

end Order

end TableDraw.SortedMap
