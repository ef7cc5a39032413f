import TableDraw.Proofs.FewTeams
import TableDraw.Proofs.Turns

set_option autoImplicit false

/-!
Fills of one pool that make more or fewer rounds. Further rounds only add to what a fill has done,
and once as many rounds were made as there are teams they add nothing.
-/

namespace TableDraw.Fill

/-- A round that finds every table stuck changes nothing. -/
theorem round_of_stuck {tables : List (List Player)} {pool : List Player}
    (stuck : ∀ table ∈ tables, Stuck table pool) : round tables pool = ⟨tables, pool⟩ := by
  induction tables with
  | nil => rfl
  | cons table rest ih =>
      have passed : visit table pool = (table, pool) :=
        (Turn.skip (stuck table List.mem_cons_self)).eq_visit.symm
      have others := ih (fun other member => stuck other (List.mem_cons_of_mem _ member))
      simp only [round, passed, others]

section Rounds

variable (pool : List Player) (tableCount : Nat) {n k : Nat}

/-- Whoever a longer fill leaves over, a shorter one leaves over as well. -/
theorem leftover_fill_sublist (shorter : n ≤ k) :
    (fill pool k tableCount).leftover.Sublist (fill pool n tableCount).leftover := by
  induction shorter with
  | refl => exact List.Sublist.refl _
  | @step k longer ih =>
      rw [fill_succ]
      exact (round_sublist _ _).trans ih

/-- As many rounds as there are teams leave nothing to do for one more. -/
theorem fill_succ_of_few (few : (teams pool).card ≤ n) :
    fill pool (n + 1) tableCount = fill pool n tableCount := by
  rw [fill_succ]
  exact round_of_stuck ((fill_filled pool n tableCount).stuck_of_few few)

theorem fill_of_few (few : (teams pool).card ≤ n) (later : n ≤ k) :
    fill pool k tableCount = fill pool n tableCount := by
  induction later with
  | refl => rfl
  | @step k later ih => rw [fill_succ_of_few pool tableCount (few.trans later), ih]

end Rounds

/-- More seats at a table only extend a fill. Cut to `n` seats, the tables of a fill with more are
those of the fill with `n` seats, and whoever it leaves over is left over there too, in the same
order. With at least as many seats as the pool has teams further seats change nothing; so rounds
beyond the number of teams need not be made. -/
theorem fill_extends (pool : List Player) (tableCount : Nat) :
    (∀ n k, n ≤ k →
      (∀ t, (fill pool n tableCount).seating.table? t =
        ((fill pool k tableCount).seating.table? t).map (List.take n)) ∧
      (fill pool k tableCount).leftover.Sublist (fill pool n tableCount).leftover ∧
      ((teams pool).card ≤ n → fill pool n tableCount = fill pool k tableCount)) ∧
    (∀ n, fill pool n tableCount = fill pool (min n (teams pool).card) tableCount) := by
  constructor
  · intro n k shorter
    refine ⟨?_, leftover_fill_sublist pool tableCount shorter, ?_⟩
    · intro t
      rw [Outcome.seating, Outcome.seating, Seating.table?_ofTables, Seating.table?_ofTables,
        ← fill_take pool shorter, List.getElem?_map]
    · exact fun few => (fill_of_few pool tableCount few shorter).symm
  · intro n
    rcases Nat.le_total n (teams pool).card with short | long
    · rw [Nat.min_eq_left short]
    · rw [Nat.min_eq_right long]
      exact fill_of_few pool tableCount (Nat.le_refl _) long

/-- Two teams at three tables: the second round seats two of the three who are left over by the
first, and no further round seats the last one. -/
theorem fill_extends_two_teams :
    let pool : List Player := [⟨1, 7⟩, ⟨2, 7⟩, ⟨3, 40⟩, ⟨3, 40⟩, ⟨4, 7⟩, ⟨5, 7⟩]
    1 ≤ 4 ∧ (fill pool 1 3).seating.table? 0 = some [⟨1, 7⟩] ∧
    (fill pool 4 3).seating.table? 0 = some [⟨1, 7⟩, ⟨3, 40⟩] ∧
    (fill pool 4 3).leftover.Sublist [⟨3, 40⟩, ⟨4, 7⟩, ⟨5, 7⟩] ∧
    (teams pool).card ≤ 2 ∧ 2 ≤ 2 ^ 64 ∧ fill pool 2 3 = fill pool (2 ^ 64) 3 := by
  intro pool
  have more := (fill_extends pool 3).1
  obtain ⟨cut, left, -⟩ := more 1 4 (by decide)
  have few : (teams pool).card ≤ 2 := by decide
  have second : (fill pool 4 3).seating.table? 0 = some [⟨1, 7⟩, ⟨3, 40⟩] := by decide
  refine ⟨by decide, ?_, second, left, few, by decide, (more 2 (2 ^ 64) (by decide)).2.2 few⟩
  rw [cut 0, second]
  rfl

end TableDraw.Fill
