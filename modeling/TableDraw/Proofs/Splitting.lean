import TableDraw.Proofs.Seating
import TableDraw.Proofs.Turns

set_option autoImplicit false

/-!
A fill splits its pool without loss, and does so after every turn of a table: what is proved here
holds of any pool, any number of tables and any number of rounds, whether or not they belong to a
roster that passes its check.
-/

namespace TableDraw.Fill

/-- A fill in round `s` when table `t` is due. The tables below it have been served in this round,
the others only in those before. -/
structure Underway (start : List Player) (count s t : Nat) (o : Outcome) : Prop where
  length : o.tables.length = count
  perm : (o.tables.flatten ++ o.leftover).Perm start
  sublist : o.leftover.Sublist start
  fair : ∀ i table, o.tables[i]? = some table →
    Fair (if i < t then s + 1 else s) o.leftover table

theorem underway_start (pool : List Player) (count : Nat) :
    Underway pool count 0 0 ⟨List.replicate count [], pool⟩ := by
  have filled := filled_start pool count
  refine ⟨filled.length, filled.perm, filled.sublist, ?_⟩
  intro i table listed
  rw [if_neg (Nat.not_lt_zero i)]
  exact filled.fair table (List.mem_of_getElem? listed)

section Step

variable {start : List Player} {count s t : Nat} {o : Outcome}

/-- The table that is due exists. -/
theorem Underway.due (underway : Underway start count s t o) (inside : t < count) :
    ∃ table, o.tables[t]? = some table := by
  have bound : t < o.tables.length := by
    rw [underway.length]
    exact inside
  exact ⟨o.tables[t], List.getElem?_eq_getElem bound⟩

/-- A turn serves one table more. -/
theorem Underway.turn (underway : Underway start count s t o) (inside : t < count) :
    Underway start count s (t + 1) (o.turn t) := by
  obtain ⟨table, listed⟩ := underway.due inside
  have served := underway.fair t table listed
  rw [if_neg (Nat.lt_irrefl t)] at served
  have turn := visit_turn table o.leftover
  rw [turn_of_turn listed turn]
  generalize visit table o.leftover = next at turn ⊢
  obtain ⟨bound, found⟩ := List.getElem?_eq_some_iff.mp listed
  refine ⟨?_, ?_, turn.sublist.trans underway.sublist, ?_⟩
  · rw [List.length_set]
    exact underway.length
  · obtain ⟨front, back, before, -, after⟩ : ∃ front back,
        o.tables = front ++ o.tables[t] :: back ∧ front.length = t ∧
          o.tables.set t next.1 = front ++ next.1 :: back := List.exists_of_set bound
    rw [found] at before
    have whole := underway.perm
    rw [before] at whole
    rw [after]
    simp only [List.flatten_append, List.flatten_cons, List.append_assoc] at whole ⊢
    exact ((turn.perm_between back.flatten).append_left front.flatten).trans whole
  · intro i other seated
    by_cases same : i = t
    · subst same
      rw [List.getElem?_set_self bound, Option.some.injEq] at seated
      subst seated
      rw [if_pos (Nat.lt_succ_self i)]
      exact turn.fair served
    · rw [List.getElem?_set_ne (Ne.symm same)] at seated
      have sides : i < t + 1 ↔ i < t := by omega
      simp only [sides]
      exact (underway.fair i other seated).sublist turn.sublist

/-- When every table was served the next round begins. -/
theorem Underway.next (underway : Underway start count s count o) :
    Underway start count (s + 1) 0 o := by
  refine ⟨underway.length, underway.perm, underway.sublist, ?_⟩
  intro i table listed
  have inside : i < count := by
    rw [← underway.length]
    exact (List.getElem?_eq_some_iff.mp listed).1
  have served := underway.fair i table listed
  rw [if_pos inside] at served
  rw [if_neg (Nat.not_lt_zero i)]
  exact served

end Step

theorem underway_stateAt (pool : List Player) (tableCount s t : Nat) (within : t ≤ tableCount) :
    Underway pool tableCount s t (stateAt pool tableCount s t) :=
  stateAt_induction (underway_start pool tableCount) (fun _ _ _ inside underway =>
    underway.turn inside) (fun _ _ underway => underway.next) s t within

/-- The rounds that have begun when table `t` is due in round `s`. -/
def roundsBegun (s t : Nat) : Nat := if t = 0 then s else s + 1

/-- An outcome that splits the players in `start` over tables numbered from zero: nobody is lost or
seated twice, nobody meets a teammate, no table takes more than `capacity` players, and those
without a seat wait in their old order. -/
structure Splits (start : List Player) (count capacity : Nat) (o : Outcome) : Prop where
  numbers : o.seating.tables.keys = List.range count
  diverse : ∀ table ∈ o.seating.tables.values, (table.map Player.team).Nodup
  capacity : ∀ table ∈ o.seating.tables.values, table.length ≤ capacity
  perm : (o.seating.tables.values.flatten ++ o.leftover).Perm start
  sublist : o.leftover.Sublist start

theorem Underway.splits {start : List Player} {count s t : Nat} {o : Outcome}
    (underway : Underway start count s t o) : Splits start count (roundsBegun s t) o := by
  have fair : ∀ table ∈ o.tables, ∃ i, Fair (if i < t then s + 1 else s) o.leftover table := by
    intro table member
    obtain ⟨i, listed⟩ := List.mem_iff_getElem?.mp member
    exact ⟨i, underway.fair i table listed⟩
  have begun : ∀ i, (if i < t then s + 1 else s) ≤ roundsBegun s t := by
    intro i
    unfold roundsBegun
    split <;> split <;> omega
  refine ⟨?_, ?_, ?_, ?_, underway.sublist⟩
  · rw [Outcome.seating, Seating.keys_ofTables, underway.length]
  · rw [Outcome.seating, Seating.values_ofTables]
    intro table member
    obtain ⟨_, served⟩ := fair table member
    exact served.diverse
  · rw [Outcome.seating, Seating.values_ofTables]
    intro table member
    obtain ⟨i, served⟩ := fair table member
    exact Nat.le_trans served.capacity (begun i)
  · rw [Outcome.seating, Seating.values_ofTables]
    exact underway.perm

/-- A fill starts with empty tables and the whole pool and takes one turn after the other, each of
them at a table that exists; after every turn it splits the pool over its numbered tables, with no
more players at a table than rounds have begun. So it does when all rounds are over. -/
theorem every_turn_splits (pool : List Player) (tableCount : Nat) :
    stateAt pool tableCount 0 0 = ⟨List.replicate tableCount [], pool⟩ ∧
    (∀ s t, t < tableCount → ∃ table,
      (stateAt pool tableCount s t).seating.table? t = some table ∧
      stateAt pool tableCount s (t + 1) =
        ⟨(stateAt pool tableCount s t).tables.set t
            (visit table (stateAt pool tableCount s t).leftover).1,
          (visit table (stateAt pool tableCount s t).leftover).2⟩) ∧
    (∀ s, stateAt pool tableCount s tableCount = stateAt pool tableCount (s + 1) 0) ∧
    (∀ s t, t ≤ tableCount →
      Splits pool tableCount (roundsBegun s t) (stateAt pool tableCount s t)) ∧
    (∀ tableSize, fill pool tableSize tableCount = stateAt pool tableCount tableSize 0 ∧
      Splits pool tableCount tableSize (fill pool tableSize tableCount)) := by
  have splits := fun s t within => (underway_stateAt pool tableCount s t within).splits
  refine ⟨rfl, ?_, stateAt_last pool tableCount, splits, ?_⟩
  · intro s t inside
    obtain ⟨table, listed⟩ := (underway_stateAt pool tableCount s t (Nat.le_of_lt inside)).due inside
    refine ⟨table, ?_, turn_of_turn listed (visit_turn table _)⟩
    rw [Outcome.seating, Seating.table?_ofTables]
    exact listed
  · exact fun tableSize => ⟨rfl, splits tableSize 0 (Nat.zero_le tableCount)⟩

/-- Three players, two of them with the same number and team, at two tables: in the second round
the first table takes the last of them, and for the other one nobody is left. -/
theorem every_turn_splits_repeated :
    let pool : List Player := [⟨5, 1⟩, ⟨5, 1⟩, ⟨-8, 2⟩]
    0 < 2 ∧ 1 ≤ 2 ∧ (stateAt pool 2 1 0).seating.table? 0 = some [⟨5, 1⟩] ∧
    stateAt pool 2 1 1 = ⟨[[⟨5, 1⟩, ⟨-8, 2⟩], [⟨5, 1⟩]], []⟩ ∧
    Splits pool 2 2 ⟨[[⟨5, 1⟩, ⟨-8, 2⟩], [⟨5, 1⟩]], []⟩ := by
  intro pool
  obtain ⟨-, turns, -, splits, -⟩ := every_turn_splits pool 2
  obtain ⟨table, found, next⟩ := turns 1 0 (by decide)
  have seated : (stateAt pool 2 1 0).seating.table? 0 = some [⟨5, 1⟩] := by decide
  rw [seated, Option.some.injEq] at found
  subst found
  have reached : stateAt pool 2 1 1 = ⟨[[⟨5, 1⟩, ⟨-8, 2⟩], [⟨5, 1⟩]], []⟩ := by
    rw [next]
    decide
  refine ⟨by decide, by decide, seated, reached, ?_⟩
  rw [← reached]
  exact splits 1 1 (by decide)

end TableDraw.Fill
