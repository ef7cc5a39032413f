import Mathlib.Algebra.BigOperators.Group.Finset.Basic
import Mathlib.Algebra.Order.BigOperators.Group.Finset
import TableDraw.Proofs.Partition

set_option autoImplicit false

/-!
Fills with no more teams than a table has seats. Then it is a matter of numbers alone how many
players of each team find a seat, and the order of the pool plays no part in it.
-/

namespace TableDraw

namespace Fill

/-- The teams that some players play for. -/
def teams (players : List Player) : Finset TeamId := (players.map Player.team).toFinset

theorem mem_teams (players : List Player) (team : TeamId) :
    team ∈ teams players ↔ team ∈ players.map Player.team := List.mem_toFinset

/-- A full table at which nobody meets a teammate seats every team if there are no more teams than
seats. -/
theorem mem_team_of_full {table start : List Player}
    (diverse : (table.map Player.team).Nodup) (sub : table ⊆ start)
    (full : (teams start).card ≤ table.length) (team : TeamId) (listed : team ∈ teams start) :
    team ∈ table.map Player.team := by
  have within : teams table ⊆ teams start := by
    intro other member
    rw [mem_teams, List.mem_map] at member ⊢
    obtain ⟨p, seated, same⟩ := member
    exact ⟨p, sub seated, same⟩
  have card : (teams table).card = table.length := by
    rw [teams, List.toFinset_card_of_nodup diverse, List.length_map]
  have all : teams table = teams start := Finset.eq_of_subset_of_card_le within (by omega)
  rw [← mem_teams, all]
  exact listed

/-- Where each table seats a team once at most, the team has as many players seated as there are
tables that seat it. -/
theorem count_team_eq_countP {tables : List (List Player)}
    (diverse : ∀ table ∈ tables, (table.map Player.team).Nodup) (team : TeamId) :
    (tables.flatten.map Player.team).count team =
      tables.countP (fun table => team ∈ table.map Player.team) := by
  induction tables with
  | nil => rfl
  | cons table rest ih =>
      have head := (diverse table List.mem_cons_self).count (a := team)
      have tail := ih (fun other member => diverse other (List.mem_cons_of_mem _ member))
      simp only [List.flatten_cons, List.map_append, List.count_append, List.countP_cons, head,
        tail, decide_eq_true_eq, Nat.add_comm]

theorem Filled.count_team {start : List Player} {n count : Nat} {o : Outcome}
    (filled : Filled start n count o) (team : TeamId) :
    (o.tables.flatten.map Player.team).count team + (o.leftover.map Player.team).count team =
      (start.map Player.team).count team := by
  rw [← List.count_append, ← List.map_append]
  exact (filled.perm.map Player.team).count_eq team

/-- With no more teams than rounds nobody left over may join any table: a table that missed no seat
is full, hence seats every team. -/
theorem Filled.stuck_of_few {start : List Player} {n count : Nat} {o : Outcome}
    (filled : Filled start n count o) (few : (teams start).card ≤ n) :
    ∀ table ∈ o.tables, Stuck table o.leftover := by
  intro table member
  have fair := filled.fair table member
  rcases fair.greedy with full | stuck
  · intro p left
    rw [mayJoin_eq_false_iff]
    refine mem_team_of_full fair.diverse (filled.subset_start member) (by omega) p.team ?_
    rw [mem_teams]
    exact List.mem_map_of_mem (filled.sublist.subset left)
  · exact stuck

/-- With no more teams than rounds each team gets a seat at every table as long as it has players:
if one of them is left over, every table seats the team. -/
theorem Filled.count_leftover {start : List Player} {n count : Nat} {o : Outcome}
    (filled : Filled start n count o) (few : (teams start).card ≤ n) (team : TeamId) :
    (o.leftover.map Player.team).count team = (start.map Player.team).count team - count := by
  have total := filled.count_team team
  have seated := count_team_eq_countP (fun table member => (filled.fair table member).diverse) team
  have atMost := List.countP_le_length (l := o.tables)
    (p := fun table => team ∈ table.map Player.team)
  rw [← seated, filled.length] at atMost
  by_cases waiting : team ∈ o.leftover.map Player.team
  · obtain ⟨p, left, rfl⟩ := List.mem_map.mp waiting
    have present : ∀ table ∈ o.tables, decide (p.team ∈ table.map Player.team) = true := by
      intro table member
      rw [decide_eq_true_eq, ← mayJoin_eq_false_iff]
      exact filled.stuck_of_few few table member p left
    have all := List.countP_eq_length.mpr present
    rw [← seated, filled.length] at all
    omega
  · rw [List.count_eq_zero_of_not_mem waiting] at total ⊢
    omega

theorem Filled.count_seated {start : List Player} {n count : Nat} {o : Outcome}
    (filled : Filled start n count o) (few : (teams start).card ≤ n) (team : TeamId) :
    (o.tables.flatten.map Player.team).count team =
      min ((start.map Player.team).count team) count := by
  have total := filled.count_team team
  have left := filled.count_leftover few team
  omega

theorem teams_eq_of_perm {players order : List Player} (reordered : order.Perm players) :
    teams order = teams players := List.toFinset_eq_of_perm _ _ (reordered.map Player.team)

/-- With no more teams than seats at a table a fill seats as many players of each team as there are
tables, or all of them if they are fewer. So the number of seats a team gets depends on the number
of its players alone and not on the order in which they wait. -/
theorem seated_of_few_teams (pool : List Player) (tableSize tableCount : Nat)
    (few : (teams pool).card ≤ tableSize) :
    (∀ team,
      ((fill pool tableSize tableCount).tables.flatten.map Player.team).count team =
        min ((pool.map Player.team).count team) tableCount ∧
      ((fill pool tableSize tableCount).leftover.map Player.team).count team =
        (pool.map Player.team).count team - tableCount) ∧
    (∀ order : List Player, order.Perm pool → ∀ team,
      ((fill order tableSize tableCount).tables.flatten.map Player.team).count team =
        ((fill pool tableSize tableCount).tables.flatten.map Player.team).count team) := by
  have filled := fill_filled pool tableSize tableCount
  refine ⟨fun team => ⟨filled.count_seated few team, filled.count_leftover few team⟩, ?_⟩
  intro order reordered team
  have other := fill_filled order tableSize tableCount
  have few' : (teams order).card ≤ tableSize := by
    rw [teams_eq_of_perm reordered]
    exact few
  rw [filled.count_seated few, other.count_seated few', (reordered.map Player.team).count_eq]

/-- Four players of one team, two of whom share a number, and one of another at two tables of two:
whatever the order, two of the four find a seat. -/
theorem seated_of_two_teams :
    let pool : List Player := [⟨1, 7⟩, ⟨1, 7⟩, ⟨2, 7⟩, ⟨3, 40⟩, ⟨4, 7⟩]
    let order : List Player := [⟨3, 40⟩, ⟨4, 7⟩, ⟨1, 7⟩, ⟨2, 7⟩, ⟨1, 7⟩]
    (teams pool).card ≤ 2 ∧ order.Perm pool ∧
    ((fill pool 2 2).tables.flatten.map Player.team).count 7 = 2 ∧
    ((fill pool 2 2).leftover.map Player.team).count 7 = 2 ∧
    ((fill order 2 2).tables.flatten.map Player.team).count 7 = 2 := by
  intro pool order
  have few : (teams pool).card ≤ 2 := by decide
  have reordered : order.Perm pool := by decide
  obtain ⟨counts, ordered⟩ := seated_of_few_teams pool 2 2 few
  have seated : ((fill pool 2 2).tables.flatten.map Player.team).count 7 = 2 := (counts 7).1
  exact ⟨few, reordered, seated, (counts 7).2, (ordered order reordered 7).trans seated⟩

/-- With one team more than seats the order matters: the first of these seats everybody, the second
leaves a player over. -/
example :
    (fill [⟨1, 1⟩, ⟨2, 1⟩, ⟨3, 2⟩, ⟨4, 2⟩, ⟨5, 3⟩, ⟨6, 3⟩] 2 3).leftover = [] ∧
    (fill [⟨1, 1⟩, ⟨3, 2⟩, ⟨5, 3⟩, ⟨2, 1⟩, ⟨4, 2⟩, ⟨6, 3⟩] 2 3).leftover = [⟨6, 3⟩] := by decide

end Fill

namespace Roster

variable {r : Roster} {order : List Player}

theorem card_keys (r : Roster) : r.teams.keys.toFinset.card = r.teamCount := by
  rw [List.toFinset_card_of_nodup r.teams.keys_nodup, SortedMap.length_keys, Roster.teamCount]

theorem teams_subset_keys (reordered : order.Perm r.pool) :
    Fill.teams order ⊆ r.teams.keys.toFinset := by
  intro team member
  rw [Fill.mem_teams, List.mem_map] at member
  obtain ⟨p, listed, rfl⟩ := member
  exact List.mem_toFinset.mpr (mem_keys_of_mem_pool (reordered.subset listed))

theorem Valid.count_team (valid : r.Valid) (reordered : order.Perm r.pool) {team : TeamId}
    (listed : team ∈ r.teams.keys) : (order.map Player.team).count team = r.teamSize.toNat := by
  rw [(reordered.map Player.team).count_eq, count_team_pool, valid.length_get? listed]

/-- With no more teams than seats at a table, a fill leaves over as many players of each team as the
team has players more than there are tables. -/
theorem Valid.count_leftover_of_few (valid : r.Valid) (few : r.teamCount ≤ r.tableSize.toNat)
    (reordered : order.Perm r.pool) {team : TeamId} (listed : team ∈ r.teams.keys) :
    ((fill order r.tableSize.toNat r.numberOfTables).leftover.map Player.team).count team =
      r.teamSize.toNat - r.numberOfTables := by
  have card := Finset.card_le_card (teams_subset_keys reordered)
  rw [card_keys] at card
  have filled := Fill.fill_filled order r.tableSize.toNat r.numberOfTables
  rw [filled.count_leftover (card.trans few), valid.count_team reordered listed]

theorem Valid.length_leftover_of_few (valid : r.Valid) (few : r.teamCount ≤ r.tableSize.toNat)
    (reordered : order.Perm r.pool) :
    (fill order r.tableSize.toNat r.numberOfTables).leftover.length =
      r.teamCount * (r.teamSize.toNat - r.numberOfTables) := by
  have filled := Fill.fill_filled order r.tableSize.toNat r.numberOfTables
  have each := fun team (member : team ∈ r.teams.keys.toFinset) =>
    valid.count_leftover_of_few few reordered (List.mem_toFinset.mp member)
  generalize fill order r.tableSize.toNat r.numberOfTables = o at filled each ⊢
  have within : ∀ team ∈ ((o.leftover.map Player.team : List TeamId) : Multiset TeamId),
      team ∈ r.teams.keys.toFinset := by
    intro team member
    obtain ⟨p, left, rfl⟩ := List.mem_map.mp (Multiset.mem_coe.mp member)
    refine teams_subset_keys reordered ((Fill.mem_teams _ _).mpr ?_)
    exact List.mem_map_of_mem (filled.sublist.subset left)
  have total := Multiset.sum_count_eq_card within
  simp only [Multiset.coe_count, Multiset.coe_card, List.length_map] at total
  rw [← total, Finset.sum_const_nat each, card_keys]

/-- With some teams, but fewer than seats at a table, there are fewer tables than a team has
players. -/
theorem Valid.incomplete_of_few (valid : r.Valid) (inhabited : 0 < r.teamCount)
    (few : r.teamCount < r.tableSize.toNat) (reordered : order.Perm r.pool) :
    (fill order r.tableSize.toNat r.numberOfTables).leftover ≠ [] := by
  have left := valid.length_leftover_of_few (Nat.le_of_lt few) reordered
  have product : r.totalPlayers < r.tableSize.toNat * r.teamSize.toNat := by
    rw [Roster.totalPlayers, Nat.mul_comm]
    exact Nat.mul_lt_mul_of_pos_right few valid.teamSize_pos
  have tables : r.numberOfTables < r.teamSize.toNat := Nat.div_lt_of_lt_mul product
  have waiting := Nat.mul_pos inhabited (Nat.sub_pos_of_lt tables)
  rw [← left] at waiting
  exact List.length_pos_iff.mp waiting

end Roster

namespace Draw

theorem length_leftover_of_few {r : Roster} (valid : r.Valid)
    (few : r.teamCount ≤ r.tableSize.toNat) (seed : Int64) :
    (attempt r seed).leftover.length =
      r.teamCount * (r.teamSize.toNat - r.numberOfTables) :=
  valid.length_leftover_of_few few (shuffle_perm r.pool seed)

/-- Tables of one seat take everybody. -/
theorem complete_of_single_seats {r : Roster} (valid : r.Valid) (single : r.tableSize.toNat = 1)
    (seed : Int64) : (attempt r seed).leftover = [] := by
  by_contra waiting
  have taken : ∀ table ∈ (attempt r seed).tables, 1 ≤ table.length := by
    intro table member
    rcases ((attempt_filled r seed).fair table member).greedy with full | stuck
    · omega
    · exact List.length_pos_iff.mpr (stuck.nonempty waiting)
  have balanced := length_leftover_eq_emptySeats valid seed
  rw [single, (Fill.emptySeats_eq_zero_iff _ _).mpr taken] at balanced
  exact waiting (List.eq_nil_of_length_eq_zero balanced)

/-- With no team, with as many teams as seats at a table, or with single seats, nobody is ever left
over. -/
theorem complete_of_simple {r : Roster} (valid : r.Valid)
    (simple : r.teamCount = 0 ∨ r.teamCount = r.tableSize.toNat ∨ r.tableSize = 1)
    (seed : Int64) : (attempt r seed).leftover = [] := by
  rcases simple with empty | even | single
  · have left := length_leftover_of_few valid (by omega) seed
    rw [empty, Nat.zero_mul] at left
    exact List.eq_nil_of_length_eq_zero left
  · have left := length_leftover_of_few valid (by omega) seed
    have tables : r.numberOfTables = r.teamSize.toNat := by
      rw [Roster.numberOfTables, Roster.totalPlayers, even]
      exact Nat.mul_div_cancel _ valid.tableSize_pos
    rw [tables, Nat.sub_self, Nat.mul_zero] at left
    exact List.eq_nil_of_length_eq_zero left
  · exact complete_of_single_seats valid (by rw [single]; rfl) seed

theorem incomplete_of_few {r : Roster} (valid : r.Valid) (inhabited : 0 < r.teamCount)
    (few : r.teamCount < r.tableSize.toNat) (seed : Int64) : (attempt r seed).leftover ≠ [] :=
  valid.incomplete_of_few inhabited few (shuffle_perm r.pool seed)

theorem outcome_of_complete {r : Roster} (valid : r.check = .ok ()) {limits : Limits}
    {seed : Int64} {clock : Nat → Duration} (permitted : 1 ≤ limits.maxAttempts.toNat)
    (complete : ∀ used, (attempt r used).leftover = []) :
    ∃ report, (draw r limits seed clock).outcome = .ok report ∧ report.attempts = 1 ∧
      report.seedUsed = seed :=
  ⟨_, report_of_complete_first valid permitted (complete seed), rfl, rfl⟩

theorem outcome_of_incomplete {r : Roster} (valid : r.check = .ok ()) {limits : Limits}
    {seed : Int64} {clock : Nat → Duration} (unlimited : limits.deadline = none)
    (incomplete : ∀ used, (attempt r used).leftover ≠ []) :
    (draw r limits seed clock).outcome = .error (.exhausted limits.maxAttempts.toNat) := by
  apply (draw_ending valid limits seed clock).exhausted_of_none
  intro k _ _
  rw [decisive_iff_complete unlimited]
  exact incomplete (seedOf seed k)

end Draw

/-- Small rosters leave nothing to luck. Without teams, with as many teams as seats at a table and
with single seats the first attempt succeeds; with fewer teams than that every attempt fails, and
leaves the same number of players over. -/
theorem draw_of_few_teams (r : Roster) (limits : Draw.Limits) (seed : Int64)
    (clock : Nat → Duration) (valid : r.check = .ok ()) (permitted : 1 ≤ limits.maxAttempts) :
    (r.teamCount = 0 ∨ r.teamCount = r.tableSize.toNat ∨ r.tableSize = 1 →
      ∃ report, (draw r limits seed clock).outcome = .ok report ∧ report.attempts = 1 ∧
        report.seedUsed = seed) ∧
    (0 < r.teamCount → r.teamCount < r.tableSize.toNat →
      (∀ report, (draw r limits seed clock).outcome ≠ .ok report) ∧
      (∀ used, (Draw.attempt r used).leftover.length =
        r.teamCount * (r.teamSize.toNat - r.numberOfTables)) ∧
      (∀ used players, .unseated used players ∈ (draw r limits seed clock).events →
        players = r.teamCount * (r.teamSize.toNat - r.numberOfTables)) ∧
      (limits.deadline = none →
        (draw r limits seed clock).outcome = .error (.exhausted limits.maxAttempts.toNat))) := by
  have sound := (Roster.check_eq_ok_iff r).mp valid
  constructor
  · intro simple
    exact Draw.outcome_of_complete valid (UInt32.le_iff_toNat_le.mp permitted)
      (Draw.complete_of_simple sound simple)
  · intro inhabited few
    have left := Draw.length_leftover_of_few sound (Nat.le_of_lt few)
    have incomplete := Draw.incomplete_of_few sound inhabited few
    refine ⟨?_, left, ?_, fun unlimited => Draw.outcome_of_incomplete valid unlimited incomplete⟩
    · intro report success
      obtain ⟨m, _, _, complete, _⟩ := Draw.report_of_success success
      exact incomplete _ complete
    · intro used players member
      rw [Draw.unseated_of_mem_events valid member, left used]

/-- Two teams of six. -/
def Roster.twoTeams (tableSize : UInt64) : Roster :=
  ((ofSizes 6 tableSize).withTeam 4 [1, 2, 3, 4, 5, 6]).withTeam 9 [1, 1, 1, 1, 1, 1]

/-- Two teams of six fill tables of two at once, and never tables of three: each team can take one
seat at each of the four tables, and two of its players are left over. -/
theorem draw_of_two_teams :
    (Roster.twoTeams 2).check = .ok () ∧ (Roster.twoTeams 3).check = .ok () ∧
    (∀ seed clock, ∃ report, (draw (Roster.twoTeams 2) ⟨5, some ⟨0⟩⟩ seed clock).outcome =
      .ok report ∧ report.attempts = 1 ∧ report.seedUsed = seed) ∧
    (∀ seed clock, (draw (Roster.twoTeams 3) ⟨5, none⟩ seed clock).outcome =
      .error (.exhausted 5)) ∧
    (∀ seed, (Draw.attempt (Roster.twoTeams 3) seed).leftover.length = 4) := by
  have even : (Roster.twoTeams 2).check = .ok () := by decide +kernel
  have scarce : (Roster.twoTeams 3).check = .ok () := by decide +kernel
  refine ⟨even, scarce, ?_, ?_, ?_⟩
  · intro seed clock
    exact (draw_of_few_teams _ _ seed clock even (by decide)).1 (Or.inr (Or.inl (by decide)))
  · intro seed clock
    have failed := (draw_of_few_teams _ ⟨5, none⟩ seed clock scarce (by decide)).2
      (by decide) (by decide)
    exact failed.2.2.2 rfl
  · intro seed
    have failed := (draw_of_few_teams _ ⟨5, none⟩ seed (fun _ => ⟨0⟩) scarce (by decide)).2
      (by decide) (by decide)
    exact failed.2.1 seed

end TableDraw
