import TableDraw.Proofs.Fill

set_option autoImplicit false

/-!
A fill as a sequence of turns: the tables are visited one after the other, round after round. A
table that is passed over in one round is passed over in every later one, so the seats of a table
are taken in successive rounds, and a fill that is cut off after some rounds has the same tables,
cut to as many seats.
-/

namespace TableDraw.Fill

/-- The turn of one table. There is none for a number that no table has. -/
def Outcome.turn (o : Outcome) (t : Nat) : Outcome :=
  match o.tables[t]? with
  | none => o
  | some table => ⟨o.tables.set t (visit table o.leftover).1, (visit table o.leftover).2⟩

/-- The turns of the first `t` tables, in order. -/
def turns : (t : Nat) → Outcome → Outcome
  | 0, o => o
  | t + 1, o => (turns t o).turn t

theorem turn_of_turn {o : Outcome} {t : Nat} {table : List Player}
    {next : List Player × List Player} (seated : o.tables[t]? = some table)
    (turn : Turn table o.leftover next) : o.turn t = ⟨o.tables.set t next.1, next.2⟩ := by
  rw [Outcome.turn, seated, turn.eq_visit]

/-- The turns of the tables behind `done` are those of a round. -/
theorem turns_append (done tables : List (List Player)) (pool : List Player) (o : Outcome)
    (start : turns done.length o = ⟨done ++ tables, pool⟩) :
    turns (done.length + tables.length) o =
      ⟨done ++ (round tables pool).tables, (round tables pool).leftover⟩ := by
  induction tables generalizing done pool with
  | nil => exact start
  | cons table rest ih =>
      have seated : (turns done.length o).tables[done.length]? = some table := by
        simp [start]
      have advanced : turns (done ++ [(visit table pool).1]).length o =
          ⟨(done ++ [(visit table pool).1]) ++ rest, (visit table pool).2⟩ := by
        rw [List.length_append, List.length_singleton, turns, Outcome.turn, seated, start]
        simp
      have later := ih (done ++ [(visit table pool).1]) (visit table pool).2 advanced
      simp only [List.length_append, List.length_singleton, List.append_assoc,
        List.singleton_append] at later
      rw [List.length_cons, Nat.add_comm rest.length 1, ← Nat.add_assoc]
      exact later

/-- A round is one turn for each table. -/
theorem round_eq_turns (o : Outcome) :
    round o.tables o.leftover = turns o.tables.length o := by
  have all := turns_append [] o.tables o.leftover o rfl
  simpa using all.symm

/-- The state of a fill when table `t` is due in round `s`. -/
def stateAt (pool : List Player) (tableCount s t : Nat) : Outcome :=
  turns t (fill pool s tableCount)

theorem rounds_add_one (n : Nat) (tables : List (List Player)) (pool : List Player) :
    rounds (n + 1) tables pool =
      round (rounds n tables pool).tables (rounds n tables pool).leftover := by
  induction n generalizing tables pool with
  | zero => rw [rounds_succ]; rfl
  | succ n ih => rw [rounds_succ, ih, ← rounds_succ]

theorem fill_succ (pool : List Player) (n tableCount : Nat) :
    fill pool (n + 1) tableCount =
      round (fill pool n tableCount).tables (fill pool n tableCount).leftover :=
  rounds_add_one n _ pool

theorem length_fill (pool : List Player) (n tableCount : Nat) :
    (fill pool n tableCount).tables.length = tableCount :=
  (fill_filled pool n tableCount).length

/-- When all tables had their turn, the next round begins. -/
theorem stateAt_last (pool : List Player) (tableCount s : Nat) :
    stateAt pool tableCount s tableCount = stateAt pool tableCount (s + 1) 0 := by
  have turned := round_eq_turns (fill pool s tableCount)
  rw [length_fill] at turned
  rw [stateAt, stateAt, turns, fill_succ, turned]

/-- What holds of the empty tables, and is kept by every turn and from one round to the next, holds
at any time of a fill. -/
theorem stateAt_induction {pool : List Player} {tableCount : Nat}
    {P : (s t : Nat) → Outcome → Prop}
    (start : P 0 0 ⟨List.replicate tableCount [], pool⟩)
    (turn : ∀ s t o, t < tableCount → P s t o → P s (t + 1) (o.turn t))
    (next : ∀ s o, P s tableCount o → P (s + 1) 0 o)
    (s t : Nat) (within : t ≤ tableCount) : P s t (stateAt pool tableCount s t) := by
  have round : ∀ s, P s 0 (stateAt pool tableCount s 0) →
      ∀ t, t ≤ tableCount → P s t (stateAt pool tableCount s t) := by
    intro s first t
    induction t with
    | zero => exact fun _ => first
    | succ t ih => exact fun within => turn s t _ within (ih (Nat.le_of_succ_le within))
  have rounds : ∀ s, P s 0 (stateAt pool tableCount s 0) := by
    intro s
    induction s with
    | zero => exact start
    | succ s ih =>
        rw [← stateAt_last]
        exact next s _ (round s ih tableCount (Nat.le_refl _))
  exact round s (rounds s) t within

/-- A table that took a seat in a round had taken one in every round before. -/
theorem Served.take {first last table after : List Player} {n : Nat}
    (served : Served first last table after) (fair : Fair n first table) :
    after.take n = table := by
  cases served with
  | seated member may => rw [← fair.length_eq member may, List.take_left]
  | passed stuck => exact List.take_of_length_le fair.capacity

theorem map_take_of_served {first last : List Player} {n : Nat} {tables final : List (List Player)}
    (served : List.Forall₂ (Served first last) tables final)
    (fair : ∀ table ∈ tables, Fair n first table) : final.map (List.take n) = tables := by
  induction served with
  | nil => rfl
  | cons head tail ih =>
      rw [List.map_cons, head.take (fair _ List.mem_cons_self),
        ih (fun table member => fair table (List.mem_cons_of_mem _ member))]

theorem fill_succ_take (pool : List Player) (n tableCount : Nat) :
    (fill pool (n + 1) tableCount).tables.map (List.take n) = (fill pool n tableCount).tables := by
  rw [fill_succ]
  exact map_take_of_served (round_served _ _) (fill_filled pool n tableCount).fair

/-- A fill that is cut off after `n` rounds has the tables of the whole fill, cut to `n` seats. -/
theorem fill_take (pool : List Player) {n k : Nat} (shorter : n ≤ k) (tableCount : Nat) :
    (fill pool k tableCount).tables.map (List.take n) = (fill pool n tableCount).tables := by
  induction shorter with
  | refl =>
      have short : ∀ table ∈ (fill pool n tableCount).tables, table.take n = id table :=
        fun table member =>
          List.take_of_length_le ((fill_filled pool n tableCount).fair table member).capacity
      rw [List.map_congr_left short, List.map_id]
  | @step k longer ih =>
      rw [← ih, ← fill_succ_take pool k, List.map_map]
      apply List.map_congr_left
      intro table _
      rw [Function.comp_apply, List.take_take, Nat.min_eq_left longer]

/-- A table that is passed over in one round is passed over in all later ones. -/
theorem fill_passed (pool : List Player) (tableCount n t : Nat)
    (passed : (fill pool (n + 1) tableCount).tables[t]? = (fill pool n tableCount).tables[t]?)
    {k : Nat} (later : n ≤ k) :
    (fill pool k tableCount).tables[t]? = (fill pool n tableCount).tables[t]? := by
  have cut : ∀ m, m ≤ k → (fill pool m tableCount).tables[t]? =
      (fill pool k tableCount).tables[t]?.map (List.take m) := by
    intro m shorter
    rw [← fill_take pool shorter, List.getElem?_map]
  rcases Nat.eq_or_lt_of_le later with rfl | longer
  · rfl
  · rw [cut (n + 1) longer, cut n later] at passed
    rw [cut n later]
    cases found : (fill pool k tableCount).tables[t]? with
    | none => rfl
    | some table =>
        rw [found, Option.map_some, Option.map_some, Option.some.injEq] at passed
        have lengths := congrArg List.length passed
        rw [List.length_take, List.length_take] at lengths
        have short : table.length ≤ n := by omega
        rw [Option.map_some, List.take_of_length_le short]

end TableDraw.Fill
