import Mathlib.Algebra.Ring.Nat
import TableDraw.Proofs.Fill
import TableDraw.Proofs.Roster
import TableDraw.Proofs.Search
import TableDraw.Proofs.Seating
import TableDraw.Proofs.Shuffle

set_option autoImplicit false

/-!
A successful draw splits the roster over full tables at which no team meets itself: there are as many
seats as players, so a fill leaves as many seats empty as it leaves players over.
-/

namespace TableDraw

/-- A seating that splits a roster over as many full tables as its players fill. Player numbers may
repeat, so players are counted: each sits somewhere as often as their team lists them. -/
structure Partition (r : Roster) (s : Seating) : Prop where
  numbers : s.tables.keys = List.range r.numberOfTables
  capacity : r.numberOfTables * r.tableSize.toNat = r.teamSize.toNat * r.teamCount
  full : ∀ table ∈ s.tables.values, table.length = r.tableSize.toNat
  diverse : ∀ table ∈ s.tables.values, (table.map Player.team).Nodup
  complete : ∀ p : Player,
    s.tables.values.flatten.count p = ((r.teams.get? p.team).getD []).count p.id

namespace Fill

/-- The seats that nobody took at tables of `n` seats each. -/
def emptySeats (tables : List (List Player)) (n : Nat) : Nat :=
  (tables.map (fun table => n - table.length)).sum

theorem emptySeats_eq_zero_iff (tables : List (List Player)) (n : Nat) :
    emptySeats tables n = 0 ↔ ∀ table ∈ tables, n ≤ table.length := by
  simp only [emptySeats, List.sum_eq_zero_iff_forall_eq_nat, List.mem_map, forall_exists_index,
    and_imp, forall_apply_eq_imp_iff₂, Nat.sub_eq_zero_iff_le]

/-- Every seat is taken or empty. -/
theorem length_flatten_add_emptySeats {tables : List (List Player)} {n : Nat}
    (capacity : ∀ table ∈ tables, table.length ≤ n) :
    tables.flatten.length + emptySeats tables n = tables.length * n := by
  induction tables with
  | nil => simp [emptySeats]
  | cons table rest ih =>
      have head := capacity table List.mem_cons_self
      have tail := ih (fun other member => capacity other (List.mem_cons_of_mem _ member))
      simp only [emptySeats, List.map_cons, List.sum_cons, List.flatten_cons, List.length_append,
        List.length_cons, Nat.succ_mul] at tail ⊢
      omega

/-- With as many seats as players, as many seats stay empty as players are left over. -/
theorem Filled.length_leftover {start : List Player} {n count : Nat} {o : Outcome}
    (filled : Filled start n count o) (seats : start.length = count * n) :
    o.leftover.length = emptySeats o.tables n := by
  have all := length_flatten_add_emptySeats (fun table member => (filled.fair table member).capacity)
  have split := filled.perm.length_eq
  rw [List.length_append, seats, ← filled.length] at split
  omega

end Fill

namespace Draw

theorem attempt_filled (r : Roster) (seed : Int64) :
    Fill.Filled (shuffle r.pool seed) r.tableSize.toNat r.numberOfTables (attempt r seed) :=
  Fill.fill_filled _ _ _

/-- Every attempt distributes the pool over its tables and the players left over. -/
theorem attempt_perm (r : Roster) (seed : Int64) :
    ((attempt r seed).tables.flatten ++ (attempt r seed).leftover).Perm r.pool :=
  (attempt_filled r seed).perm.trans (shuffle_perm r.pool seed)

theorem length_leftover_eq_emptySeats {r : Roster} (valid : r.Valid) (seed : Int64) :
    (attempt r seed).leftover.length = Fill.emptySeats (attempt r seed).tables r.tableSize.toNat :=
  (attempt_filled r seed).length_leftover (valid.length_order (shuffle_perm r.pool seed))

/-- An attempt that leaves nobody over fills every seat: there are as many seats as players. -/
theorem attempt_partition {r : Roster} (valid : r.Valid) (seed : Int64)
    (complete : (attempt r seed).leftover = []) : Partition r (attempt r seed).seating := by
  have filled := attempt_filled r seed
  have seated := attempt_perm r seed
  rw [complete, List.append_nil] at seated
  have taken := length_leftover_eq_emptySeats valid seed
  rw [complete, List.length_nil, eq_comm, Fill.emptySeats_eq_zero_iff] at taken
  refine ⟨?_, valid.capacity, ?_, ?_, ?_⟩
  · rw [Fill.Outcome.seating, Seating.keys_ofTables, filled.length]
  · rw [Fill.Outcome.seating, Seating.values_ofTables]
    exact fun table member =>
      Nat.le_antisymm (filled.fair table member).capacity (taken table member)
  · rw [Fill.Outcome.seating, Seating.values_ofTables]
    exact fun table member => (filled.fair table member).diverse
  · intro p
    rw [Fill.Outcome.seating, Seating.values_ofTables, seated.count_eq, Roster.count_pool]

end Draw

theorem Partition.nonempty {r : Roster} {s : Seating} (partition : Partition r s) (valid : r.Valid) :
    ∀ table ∈ s.tables.values, table ≠ [] := by
  rintro _ member rfl
  have seats := partition.full [] member
  have seated := valid.tableSize_pos
  rw [List.length_nil] at seats
  omega

/-- A draw that succeeds has a roster that keeps the rules, and seats it. -/
theorem Draw.sound_of_success {r : Roster} {limits : Draw.Limits} {seed : Int64}
    {clock : Nat → Duration} {report : Draw.Report}
    (success : (draw r limits seed clock).outcome = .ok report) :
    r.Valid ∧ Partition r report.seating := by
  have valid := (Roster.check_eq_ok_iff r).mp (Draw.check_eq_ok_of_success success)
  obtain ⟨m, _, _, complete, rfl⟩ := Draw.report_of_success success
  exact ⟨valid, Draw.attempt_partition valid (Draw.seedOf seed (m + 1)) complete⟩

/-- A draw that succeeds partitions its roster, whatever the roster, the seed, the limits and the
course of time: every table is full, no two players at a table share a team, and nobody is lost,
seated twice or moved to another team. -/
theorem draw_partition (r : Roster) (limits : Draw.Limits) (seed : Int64) (clock : Nat → Duration)
    (report : Draw.Report) (success : (draw r limits seed clock).outcome = .ok report) :
    Partition r report.seating :=
  (Draw.sound_of_success success).2

theorem draw_partition_sparse :
    let seating : Seating :=
      .ofTables [[⟨5, 900⟩, ⟨5, 7⟩], [⟨8, 40⟩, ⟨-1, 900⟩], [⟨5, 7⟩, ⟨2, 40⟩]]
    (draw Roster.sparse ⟨2, none⟩ Int64.maxValue (fun _ => ⟨0⟩)).outcome =
      .ok ⟨seating, Int64.minValue, 2⟩ ∧ Partition Roster.sparse seating := by
  intro seating
  have success : (draw Roster.sparse ⟨2, none⟩ Int64.maxValue (fun _ => ⟨0⟩)).outcome =
      .ok ⟨seating, Int64.minValue, 2⟩ := by decide +kernel
  exact ⟨success, draw_partition _ _ _ _ _ success⟩

end TableDraw
