import TableDraw.Proofs.FewTeams

set_option autoImplicit false

/-!
Fills that leave players over. Where there are as many seats as players, every player left over
stands for an empty seat that they may not take: a teammate sits at each table that misses somebody.
So few tables miss somebody, and those left over are of few teams.
-/

namespace TableDraw

namespace Fill

/-- The tables with fewer than `n` players. -/
def shortTables (tables : List (List Player)) (n : Nat) : List (List Player) :=
  tables.filter (fun table => table.length < n)

theorem mem_shortTables_iff (tables : List (List Player)) (n : Nat) (table : List Player) :
    table ∈ shortTables tables n ↔ table ∈ tables ∧ table.length < n := by
  rw [shortTables, List.mem_filter, decide_eq_true_eq]

theorem exists_short_of_emptySeats {tables : List (List Player)} {n : Nat}
    (missing : 0 < emptySeats tables n) : ∃ table, table ∈ shortTables tables n := by
  by_contra none
  have full : emptySeats tables n = 0 := by
    rw [emptySeats_eq_zero_iff]
    intro table member
    by_contra short
    exact none ⟨table, (mem_shortTables_iff tables n table).mpr ⟨member, Nat.lt_of_not_le short⟩⟩
  omega

section Filled

variable {start : List Player} {n count : Nat} {o : Outcome} {table : List Player} {p : Player}

/-- Nobody who is left over may sit down at a table that misses a player. -/
theorem Filled.team_mem_of_short (filled : Filled start n count o)
    (short : table ∈ shortTables o.tables n) (left : p ∈ o.leftover) :
    p.team ∈ table.map Player.team := by
  obtain ⟨member, missing⟩ := (mem_shortTables_iff o.tables n table).mp short
  rcases (filled.fair table member).greedy with full | stuck
  · omega
  · exact (mayJoin_eq_false_iff table p).mp (stuck p left)

/-- A team that leaves somebody over has more players than tables miss a player. -/
theorem Filled.length_shortTables_lt (filled : Filled start n count o) (left : p ∈ o.leftover) :
    (shortTables o.tables n).length < (start.map Player.team).count p.team := by
  have seated := count_team_eq_countP (fun table member => (filled.fair table member).diverse) p.team
  have total := filled.count_team p.team
  have waiting : 0 < (o.leftover.map Player.team).count p.team :=
    List.count_pos_iff.mpr (List.mem_map_of_mem left)
  have short : (shortTables o.tables n).length ≤
      o.tables.countP (fun table => p.team ∈ table.map Player.team) := by
    rw [shortTables, ← List.countP_eq_length_filter]
    apply List.countP_mono_left
    intro table member missing
    rw [decide_eq_true_eq] at missing ⊢
    exact filled.team_mem_of_short ((mem_shortTables_iff _ n table).mpr ⟨member, missing⟩) left
  omega

/-- All who are left over have teammates at one table. -/
theorem Filled.card_teams_leftover_le (filled : Filled start n count o)
    (short : table ∈ shortTables o.tables n) : (teams o.leftover).card ≤ table.length := by
  have within : teams o.leftover ⊆ teams table := by
    intro team member
    rw [mem_teams, List.mem_map] at member
    obtain ⟨p, left, rfl⟩ := member
    exact (mem_teams table p.team).mpr (filled.team_mem_of_short short left)
  calc (teams o.leftover).card ≤ (teams table).card := Finset.card_le_card within
    _ ≤ (table.map Player.team).length := List.toFinset_card_le _
    _ = table.length := List.length_map _

end Filled

end Fill

/-- How a fill fails that leaves players of a roster over, whatever the order they waited in. As
many seats stay empty as players are left over. Everybody left over has a teammate at each table
that is not full; so there are fewer such tables than players in a team, and the players left over
are of fewer teams than a table has seats. -/
theorem stranded_of_leftover (r : Roster) (order : List Player) (valid : r.check = .ok ())
    (reordered : order.Perm r.pool)
    (stranded : (fill order r.tableSize.toNat r.numberOfTables).leftover ≠ []) :
    let o := fill order r.tableSize.toNat r.numberOfTables
    (∀ table ∈ o.tables, table.length ≤ r.tableSize.toNat) ∧
    o.leftover.length = Fill.emptySeats o.tables r.tableSize.toNat ∧
    (∀ table ∈ o.tables, table.length < r.tableSize.toNat →
      ∀ p ∈ o.leftover, ∃ q ∈ table, q.team = p.team) ∧
    (Fill.shortTables o.tables r.tableSize.toNat).length < r.teamSize.toNat ∧
    (Fill.teams o.leftover).card < r.tableSize.toNat := by
  intro o
  have sound := (Roster.check_eq_ok_iff r).mp valid
  have filled : Fill.Filled order r.tableSize.toNat r.numberOfTables o :=
    Fill.fill_filled order r.tableSize.toNat r.numberOfTables
  have balanced := filled.length_leftover (sound.length_order reordered)
  obtain ⟨p, left⟩ := List.exists_mem_of_ne_nil _ stranded
  have fielded : (order.map Player.team).count p.team = r.teamSize.toNat :=
    sound.count_team reordered
      (Roster.mem_keys_of_mem_pool (reordered.subset (filled.sublist.subset left)))
  refine ⟨fun table member => (filled.fair table member).capacity, balanced, ?_, ?_, ?_⟩
  · intro table member missing q unseated
    have short := (Fill.mem_shortTables_iff _ _ table).mpr ⟨member, missing⟩
    exact List.mem_map.mp (filled.team_mem_of_short short unseated)
  · rw [← fielded]
    exact filled.length_shortTables_lt left
  · have waiting : 0 < o.leftover.length := List.length_pos_iff.mpr stranded
    rw [balanced] at waiting
    obtain ⟨table, short⟩ := Fill.exists_short_of_emptySeats waiting
    have missing := ((Fill.mem_shortTables_iff _ _ table).mp short).2
    exact Nat.lt_of_le_of_lt (filled.card_teams_leftover_le short) missing

/-- Three teams of two in an order that strands one player: the last table seats a teammate of
theirs, and is the only one that misses a player. -/
theorem stranded_of_leftover_sparse :
    let order : List Player := [⟨5, 7⟩, ⟨8, 40⟩, ⟨5, 900⟩, ⟨5, 7⟩, ⟨2, 40⟩, ⟨-1, 900⟩]
    Roster.sparse.check = .ok () ∧ order.Perm Roster.sparse.pool ∧
    (fill order 2 3).leftover = [⟨-1, 900⟩] ∧
    Fill.emptySeats (fill order 2 3).tables 2 = 1 ∧
    (∃ q ∈ ([⟨5, 900⟩] : List Player), q.team = 900) ∧
    (Fill.shortTables (fill order 2 3).tables 2).length < 2 ∧
    (Fill.teams (fill order 2 3).leftover).card < 2 := by
  intro order
  have valid : Roster.sparse.check = .ok () := by decide +kernel
  have reordered : order.Perm Roster.sparse.pool := by decide +kernel
  have left : (fill order 2 3).leftover = [⟨-1, 900⟩] := by decide +kernel
  have stranded : (fill order 2 3).leftover ≠ [] := by
    rw [left]
    exact List.cons_ne_nil _ _
  obtain ⟨-, balanced, mates, tables, teams⟩ :=
    stranded_of_leftover Roster.sparse order valid reordered stranded
  have last : ([⟨5, 900⟩] : List Player) ∈ (fill order 2 3).tables := by decide +kernel
  have waiting : (⟨-1, 900⟩ : Player) ∈ (fill order 2 3).leftover := by
    rw [left]
    exact List.mem_cons_self
  refine ⟨valid, reordered, left, ?_, mates _ last (by decide) _ waiting, tables, teams⟩
  exact balanced.symm.trans (congrArg List.length left)

end TableDraw
