import Mathlib.Data.List.FinRange
import Mathlib.Data.List.Nodup
import TableDraw.Proofs.Turns

set_option autoImplicit false

/-!
Matchings of the positions in a pool with the slots of tables. A matching spells tables and the
players it leaves over; a turn of a table gives its next slot to one more position, or changes
nothing.
-/

namespace TableDraw.Fill

/-- A seat of a table. -/
structure Slot where
  seat : Nat
  table : Nat
  deriving DecidableEq, Repr

/-- Slots are ordered by seat and then by table. -/
def Slot.Before (a b : Slot) : Prop := a.seat < b.seat ∨ a.seat = b.seat ∧ a.table < b.table

namespace Slot

theorem before_next_iff (a : Slot) (s t : Nat) :
    a.Before ⟨s, t + 1⟩ ↔ a.Before ⟨s, t⟩ ∨ a = ⟨s, t⟩ := by
  obtain ⟨seat, table⟩ := a
  simp only [Before, mk.injEq]
  omega

/-- Behind the last table the next round begins. -/
theorem before_round_iff {a : Slot} {tableCount : Nat} (inside : a.table < tableCount) (s : Nat) :
    a.Before ⟨s + 1, 0⟩ ↔ a.Before ⟨s, tableCount⟩ := by
  simp only [Before]
  omega

end Slot

/-- For each table, the positions in a pool of the players who sit there, seat by seat. -/
abbrev Matching (pool : List Player) := List (List (Fin pool.length))

/-- The players at two positions of a pool are of one team. -/
def Teammates (pool : List Player) (q r : Fin pool.length) : Prop :=
  (pool.get q).team = (pool.get r).team

namespace Matching

variable {pool : List Player}

/-- The player at a position sits in a slot. -/
def Holds (m : Matching pool) (slot : Slot) (q : Fin pool.length) : Prop :=
  ∃ seats, m[slot.table]? = some seats ∧ seats[slot.seat]? = some q

/-- The positions without a slot, in the order of the pool. -/
def rest (m : Matching pool) : List (Fin pool.length) :=
  (List.finRange pool.length).filter (fun q => decide (q ∉ m.flatten))

/-- The tables that a matching spells, and the players it leaves over. -/
def outcome (m : Matching pool) : Outcome := ⟨m.map (List.map pool.get), m.rest.map pool.get⟩

/-- The matching in which nobody has a seat. -/
def vacant (pool : List Player) (tableCount : Nat) : Matching pool := List.replicate tableCount []

theorem flatten_vacant (tableCount : Nat) : (vacant pool tableCount).flatten = [] :=
  List.flatten_replicate_nil

theorem mem_flatten_iff (m : Matching pool) (q : Fin pool.length) :
    q ∈ m.flatten ↔ ∃ slot, m.Holds slot q := by
  constructor
  · intro member
    obtain ⟨seats, listed, seated⟩ := List.mem_flatten.mp member
    obtain ⟨table, found⟩ := List.mem_iff_getElem?.mp listed
    obtain ⟨seat, taken⟩ := List.mem_iff_getElem?.mp seated
    exact ⟨⟨seat, table⟩, seats, found, taken⟩
  · rintro ⟨slot, seats, found, taken⟩
    exact List.mem_flatten.mpr ⟨seats, List.mem_of_getElem? found, List.mem_of_getElem? taken⟩

theorem not_holds_vacant (tableCount : Nat) (slot : Slot) (q : Fin pool.length) :
    ¬ (vacant pool tableCount).Holds slot q := by
  intro held
  have member := (mem_flatten_iff _ q).mpr ⟨slot, held⟩
  rw [flatten_vacant] at member
  cases member

theorem outcome_vacant (pool : List Player) (tableCount : Nat) :
    (vacant pool tableCount).outcome = ⟨List.replicate tableCount [], pool⟩ := by
  have all : (vacant pool tableCount).rest = List.finRange pool.length := by
    rw [rest, flatten_vacant]
    exact List.filter_eq_self.mpr (fun q _ => decide_eq_true List.not_mem_nil)
  rw [outcome, all, vacant, List.map_replicate, List.map_nil, List.map_get_finRange]

theorem mem_rest_iff (m : Matching pool) (q : Fin pool.length) :
    q ∈ m.rest ↔ ∀ slot, ¬ m.Holds slot q := by
  rw [rest, List.mem_filter, decide_eq_true_eq, mem_flatten_iff, not_exists]
  exact and_iff_right (List.mem_finRange q)

theorem rest_ascending (m : Matching pool) : m.rest.Pairwise (· < ·) :=
  (List.pairwise_lt_finRange pool.length).filter _

theorem mem_front_iff {m : Matching pool} {front back : List (Fin pool.length)}
    {q : Fin pool.length} (split : m.rest = front ++ q :: back) (p : Fin pool.length) :
    p ∈ front ↔ p ∈ m.rest ∧ p < q := by
  have ascending := m.rest_ascending
  rw [split, List.pairwise_append, List.pairwise_cons] at ascending
  obtain ⟨_, ⟨above, _⟩, below⟩ := ascending
  rw [split, List.mem_append, List.mem_cons]
  constructor
  · exact fun member => ⟨Or.inl member, below p member q List.mem_cons_self⟩
  · rintro ⟨member | rfl | member, less⟩
    · exact member
    · exact absurd less (lt_irrefl p)
    · exact absurd less (lt_asymm (above p member))

/-- A position holds one slot at most. -/
theorem eq_of_holds {m : Matching pool} (once : m.flatten.Nodup) {a b : Slot}
    {q : Fin pool.length} (first : m.Holds a q) (second : m.Holds b q) : a = b := by
  obtain ⟨aSeats, aTable, aSeat⟩ := first
  obtain ⟨bSeats, bTable, bSeat⟩ := second
  obtain ⟨within, apart⟩ := List.nodup_flatten.mp once
  have tables : a.table = b.table := by
    by_contra differ
    obtain ⟨aBound, aGet⟩ := List.getElem?_eq_some_iff.mp aTable
    obtain ⟨bBound, bGet⟩ := List.getElem?_eq_some_iff.mp bTable
    have aMem : q ∈ m[a.table] := aGet ▸ List.mem_of_getElem? aSeat
    have bMem : q ∈ m[b.table] := bGet ▸ List.mem_of_getElem? bSeat
    rw [List.pairwise_iff_getElem] at apart
    rcases Nat.lt_or_gt_of_ne differ with below | above
    · exact apart _ _ aBound bBound below aMem bMem
    · exact apart _ _ bBound aBound above bMem aMem
  rw [tables, bTable, Option.some.injEq] at aTable
  subst aTable
  have distinct := within bSeats (List.mem_of_getElem? bTable)
  have seats : a.seat = b.seat := by
    obtain ⟨bound, _⟩ := List.getElem?_eq_some_iff.mp aSeat
    exact (List.getElem?_inj bound distinct).mp (aSeat.trans bSeat.symm)
  cases a
  cases b
  cases tables
  cases seats
  rfl

/-- A table is stuck if everybody in the pool has a teammate there. -/
theorem stuck_map_iff (seats positions : List (Fin pool.length)) :
    Stuck (seats.map pool.get) (positions.map pool.get) ↔
      ∀ q ∈ positions, ∃ r ∈ seats, Teammates pool r q := by
  simp only [Stuck, mayJoin_eq_false_iff, List.map_map, List.mem_map, Function.comp_apply,
    forall_exists_index, and_imp, forall_apply_eq_imp_iff₂, Teammates]

theorem mayJoin_map_iff (seats : List (Fin pool.length)) (q : Fin pool.length) :
    mayJoin (seats.map pool.get) (pool.get q) = true ↔ ∀ r ∈ seats, ¬ Teammates pool r q := by
  simp only [mayJoin_iff, List.map_map, List.mem_map, Function.comp_apply, Teammates, not_exists,
    not_and]

section Seat

variable {m : Matching pool} {table : Nat} {seats : List (Fin pool.length)} {q : Fin pool.length}

/-- The matching in which a position takes the next seat of a table. -/
def seat (m : Matching pool) (table : Nat) (seats : List (Fin pool.length))
    (q : Fin pool.length) : Matching pool := m.set table (seats ++ [q])

theorem holds_seat_iff (listed : m[table]? = some seats) (slot : Slot) (p : Fin pool.length) :
    (m.seat table seats q).Holds slot p ↔
      m.Holds slot p ∨ slot = ⟨seats.length, table⟩ ∧ p = q := by
  obtain ⟨number, other⟩ := slot
  obtain ⟨bound, _⟩ := List.getElem?_eq_some_iff.mp listed
  unfold Holds seat
  by_cases same : other = table
  · subst same
    simp only [List.getElem?_set_self bound, listed, Option.some.injEq, exists_eq_left',
      Slot.mk.injEq, and_true]
    rcases Nat.lt_trichotomy number seats.length with below | rfl | above
    · rw [List.getElem?_append_left below]
      have apart : number ≠ seats.length := by omega
      simp only [apart, false_and, or_false]
    · simp [eq_comm]
    · have behind : (seats ++ [q])[number]? = none := by
        simp
        omega
      have behind' : seats[number]? = none := List.getElem?_eq_none (Nat.le_of_lt above)
      have apart : number ≠ seats.length := by omega
      simp [behind, behind', apart]
  · have apart : ¬ (number = seats.length ∧ other = table) := fun both => same both.2
    simp only [List.getElem?_set_ne (Ne.symm same), Slot.mk.injEq, apart, false_and, or_false]

theorem flatten_seat_perm (listed : m[table]? = some seats) :
    (m.seat table seats q).flatten.Perm (q :: m.flatten) := by
  obtain ⟨bound, found⟩ := List.getElem?_eq_some_iff.mp listed
  have before : m = m.take table ++ seats :: m.drop (table + 1) := by
    rw [← found, ← List.drop_eq_getElem_cons bound, List.take_append_drop]
  have after : m.seat table seats q =
      m.take table ++ (seats ++ [q]) :: m.drop (table + 1) := by
    rw [seat, List.set_eq_take_append_cons_drop, if_pos bound]
  have moved : ((m.take table).flatten ++ seats ++ q :: (m.drop (table + 1)).flatten).Perm
      (q :: ((m.take table).flatten ++ seats ++ (m.drop (table + 1)).flatten)) :=
    List.perm_middle
  rw [after]
  conv_rhs => rw [before]
  simpa only [List.flatten_append, List.flatten_cons, List.append_assoc, List.singleton_append]
    using moved

/-- Whoever takes a seat leaves the rest, and nobody else does. -/
theorem rest_seat (listed : m[table]? = some seats) {front back : List (Fin pool.length)}
    (split : m.rest = front ++ q :: back) : (m.seat table seats q).rest = front ++ back := by
  have others : (m.seat table seats q).rest = m.rest.filter (fun p => decide (p ≠ q)) := by
    rw [rest, rest, List.filter_filter]
    apply List.filter_congr
    intro p _
    rw [← Bool.decide_and, decide_eq_decide, (flatten_seat_perm listed).mem_iff, List.mem_cons,
      not_or]
  have ascending := m.rest_ascending
  rw [split, List.pairwise_append, List.pairwise_cons] at ascending
  obtain ⟨_, ⟨above, _⟩, below⟩ := ascending
  have first : ∀ p ∈ front, p ≠ q :=
    fun p member => Fin.ne_of_lt (below p member q List.mem_cons_self)
  have last : ∀ p ∈ back, p ≠ q := fun p member => Fin.ne_of_gt (above p member)
  rw [others, split, List.filter_append, List.filter_cons_of_neg (by simp)]
  congr 1
  · exact List.filter_eq_self.mpr (fun p member => decide_eq_true (first p member))
  · exact List.filter_eq_self.mpr (fun p member => decide_eq_true (last p member))

theorem outcome_seat (listed : m[table]? = some seats) {front back : List (Fin pool.length)}
    (split : m.rest = front ++ q :: back) :
    (m.seat table seats q).outcome =
      ⟨m.outcome.tables.set table (seats.map pool.get ++ [pool.get q]),
        (front ++ back).map pool.get⟩ := by
  rw [outcome, rest_seat listed split, seat, List.map_set, List.map_append, List.map_singleton]
  rfl

/-- The turn of a table that takes the first position left which it welcomes. -/
theorem turn_outcome_of_seat (listed : m[table]? = some seats)
    {front back : List (Fin pool.length)} (split : m.rest = front ++ q :: back)
    (refused : ∀ p ∈ front, ∃ r ∈ seats, Teammates pool r p)
    (welcome : ∀ r ∈ seats, ¬ Teammates pool r q) :
    m.outcome.turn table = (m.seat table seats q).outcome := by
  have seated : m.outcome.tables[table]? = some (seats.map pool.get) := by
    rw [outcome, List.getElem?_map, listed, Option.map_some]
  have turn : Turn (seats.map pool.get) m.outcome.leftover
      (seats.map pool.get ++ [pool.get q], front.map pool.get ++ back.map pool.get) := by
    refine .seat ?_ ((stuck_map_iff seats front).mpr refused) ((mayJoin_map_iff seats q).mpr welcome)
    rw [outcome, split, List.map_append, List.map_cons]
  rw [turn_of_turn seated turn, outcome_seat listed split, List.map_append]

/-- The turn of a table that welcomes nobody left. -/
theorem turn_outcome_of_skip (listed : m[table]? = some seats)
    (stuck : ∀ p ∈ m.rest, ∃ r ∈ seats, Teammates pool r p) : m.outcome.turn table = m.outcome := by
  have seated : m.outcome.tables[table]? = some (seats.map pool.get) := by
    rw [outcome, List.getElem?_map, listed, Option.map_some]
  rw [turn_of_turn seated (.skip ((stuck_map_iff seats m.rest).mpr stuck))]
  obtain ⟨bound, found⟩ := List.getElem?_eq_some_iff.mp seated
  rw [← found, List.set_getElem_self]

end Seat

end Matching

end TableDraw.Fill
