import Mathlib.Data.List.Count
import TableDraw.Proofs.SortedMap
import TableDraw.Roster.Check

set_option autoImplicit false

/-!
What a roster that passes its check satisfies, and what its pool holds.
-/

namespace TableDraw

namespace Roster

/-- What the check asks of a roster. -/
structure Valid (r : Roster) : Prop where
  teamSize_pos : 0 < r.teamSize.toNat
  tableSize_pos : 0 < r.tableSize.toNat
  divides : r.tableSize.toNat ∣ r.teamSize.toNat
  fielded : ∀ e ∈ r.teams.entries, e.2.length = r.teamSize.toNat
  positive : ∀ team ∈ r.teams.keys, 1 ≤ team

theorem misfieldedTeam?_eq_none_iff (r : Roster) :
    r.misfieldedTeam? = none ↔ ∀ e ∈ r.teams.entries, e.2.length = r.teamSize.toNat := by
  simp only [misfieldedTeam?, List.find?_eq_none, bne_iff_ne, ne_eq, not_not]

theorem nonPositiveTeam?_eq_none_iff (r : Roster) :
    r.nonPositiveTeam? = none ↔ ∀ team ∈ r.teams.keys, 1 ≤ team := by
  simp only [nonPositiveTeam?, List.find?_eq_none, decide_eq_true_eq, Int64.not_lt]

theorem size_eq_zero_iff (r : Roster) :
    r.teamSize = 0 ∨ r.tableSize = 0 ↔ r.teamSize.toNat = 0 ∨ r.tableSize.toNat = 0 := by
  rw [← UInt64.toNat_inj, ← UInt64.toNat_inj, UInt64.toNat_zero]

/-- With sizes that fit each other the teams are what is judged. -/
theorem check_of_divides {r : Roster} (teamSize_pos : 0 < r.teamSize.toNat)
    (tableSize_pos : 0 < r.tableSize.toNat) (divides : r.tableSize.toNat ∣ r.teamSize.toNat) :
    r.check = match r.misfieldedTeam?, r.nonPositiveTeam? with
      | some (team, players), _ =>
          .error (.wrongTeamCardinality team r.teamSize.toNat players.length)
      | none, some team => .error (.nonPositiveTeamId team)
      | none, none => .ok () := by
  have sized : ¬ (r.teamSize = 0 ∨ r.tableSize = 0) := by
    rw [size_eq_zero_iff]
    omega
  rw [check, if_neg sized, if_neg (not_not.mpr (Nat.mod_eq_zero_of_dvd divides))]
  cases r.misfieldedTeam? with
  | some entry => rfl
  | none => cases r.nonPositiveTeam? <;> rfl

theorem check_eq_ok_iff (r : Roster) : r.check = .ok () ↔ r.Valid := by
  constructor
  · intro passed
    unfold check at passed
    split at passed
    · cases passed
    · rename_i sizes
      rw [size_eq_zero_iff, not_or] at sizes
      split at passed
      · cases passed
      · rename_i divisible
        split at passed
        · cases passed
        · rename_i fielded
          split at passed
          · cases passed
          · rename_i positive
            exact ⟨Nat.pos_of_ne_zero sizes.1, Nat.pos_of_ne_zero sizes.2,
              Nat.dvd_of_mod_eq_zero (Decidable.not_not.mp divisible),
              r.misfieldedTeam?_eq_none_iff.mp fielded,
              r.nonPositiveTeam?_eq_none_iff.mp positive⟩
  · intro valid
    rw [check_of_divides valid.teamSize_pos valid.tableSize_pos valid.divides,
      r.misfieldedTeam?_eq_none_iff.mpr valid.fielded,
      r.nonPositiveTeam?_eq_none_iff.mpr valid.positive]

/-- The tables take as many players as the teams are to field. -/
theorem Valid.capacity {r : Roster} (valid : r.Valid) :
    r.numberOfTables * r.tableSize.toNat = r.teamSize.toNat * r.teamCount :=
  Nat.div_mul_cancel (Nat.dvd_mul_right_of_dvd valid.divides r.teamCount)

/-- The pool is put together team by team. -/
theorem pool_eq_flatMap_keys (r : Roster) :
    r.pool = r.teams.keys.flatMap
      (fun team => ((r.teams.get? team).getD []).map (fun id => ⟨id, team⟩)) := by
  rw [pool, SortedMap.keys, List.flatMap_map]
  apply List.flatMap_congr
  intro e member
  rw [r.teams.get?_of_mem_entries member, Option.getD_some]

private theorem filter_listed (team own : TeamId) (players : List PlayerId) :
    (players.map (fun id => (⟨id, own⟩ : Player))).filter (fun p => p.team == team) =
      if team = own then players.map (fun id => ⟨id, team⟩) else [] := by
  split
  · rename_i same
    rw [same, List.filter_eq_self]
    intro p member
    obtain ⟨id, _, rfl⟩ := List.mem_map.mp member
    exact beq_self_eq_true own
  · rename_i apart
    rw [List.filter_eq_nil_iff]
    intro p member
    obtain ⟨id, _, rfl⟩ := List.mem_map.mp member
    rw [beq_iff_eq]
    exact Ne.symm apart

/-- The pool holds the players of a team in the order of its list. -/
theorem pool_filter_team (r : Roster) (team : TeamId) :
    r.pool.filter (fun p => p.team == team) =
      ((r.teams.get? team).getD []).map (fun id => ⟨id, team⟩) := by
  obtain ⟨⟨entries, ascending⟩, teamSize, tableSize⟩ := r
  simp only [pool, SortedMap.get?]
  induction entries with
  | nil => rfl
  | cons e rest ih =>
      obtain ⟨own, players⟩ := e
      obtain ⟨first, tail⟩ := List.pairwise_cons.mp ascending
      simp only [List.flatMap_cons, List.filter_append, ih tail, List.lookup_cons, filter_listed]
      by_cases same : team = own
      · subst same
        have others : rest.lookup team = none := by
          rw [List.lookup_eq_none_iff]
          intro other member
          have below := first other member
          rw [bne_iff_ne]
          intro equal
          rw [← equal] at below
          exact Int64.lt_irrefl below
        simp only [↓reduceIte, BEq.rfl, others, Option.getD_none, Option.getD_some,
          List.map_nil, List.append_nil]
      · have missed : (team == own) = false := beq_eq_false_iff_ne.mpr same
        simp only [same, ↓reduceIte, missed, List.nil_append]

/-- A player is in the pool as often as their team lists them. -/
theorem count_pool (r : Roster) (p : Player) :
    r.pool.count p = ((r.teams.get? p.team).getD []).count p.id := by
  have own : (r.pool.filter (fun q => q.team == p.team)).count p = r.pool.count p :=
    List.count_filter (beq_self_eq_true p.team)
  have injective : Function.Injective (fun id : PlayerId => (⟨id, p.team⟩ : Player)) := by
    intro a b same
    exact congrArg Player.id same
  rw [← own, pool_filter_team]
  exact List.count_map_of_injective _ _ injective p.id

theorem count_team_pool (r : Roster) (team : TeamId) :
    (r.pool.map Player.team).count team = ((r.teams.get? team).getD []).length := by
  rw [List.count, List.countP_map, List.countP_eq_length_filter]
  change (r.pool.filter (fun p => p.team == team)).length = _
  rw [pool_filter_team, List.length_map]

theorem Valid.length_pool {r : Roster} (valid : r.Valid) :
    r.pool.length = r.teamSize.toNat * r.teamCount := by
  have sizes : r.teams.entries.map (fun e => (e.2.map (fun id => (⟨id, e.1⟩ : Player))).length) =
      List.replicate r.teams.entries.length r.teamSize.toNat := by
    rw [List.map_eq_replicate_iff]
    intro e member
    rw [List.length_map, valid.fielded e member]
  rw [pool, List.length_flatMap, sizes, List.sum_replicate_nat, Nat.mul_comm]
  rfl

/-- In whatever order the players wait, there are as many of them as seats. -/
theorem Valid.length_order {r : Roster} (valid : r.Valid) {order : List Player}
    (reordered : order.Perm r.pool) : order.length = r.numberOfTables * r.tableSize.toNat := by
  rw [reordered.length_eq, valid.length_pool, valid.capacity]

theorem Valid.length_get? {r : Roster} (valid : r.Valid) {team : TeamId}
    (listed : team ∈ r.teams.keys) :
    ((r.teams.get? team).getD []).length = r.teamSize.toNat := by
  obtain ⟨e, member, _, found⟩ := r.teams.exists_get?_of_mem_keys listed
  rw [found, Option.getD_some, valid.fielded e member]

theorem mem_keys_of_mem_pool {r : Roster} {p : Player} (member : p ∈ r.pool) :
    p.team ∈ r.teams.keys := by
  obtain ⟨e, entry, listed⟩ := List.mem_flatMap.mp member
  obtain ⟨id, _, rfl⟩ := List.mem_map.mp listed
  exact List.mem_map_of_mem entry

/-- Three teams of two with numbers far apart, entered in no order. One player number is listed
three times. -/
def sparse : Roster :=
  (((ofSizes 2 2).withTeam 900 [5, -1]).withTeam 7 [5, 5]).withTeam 40 [8, 2]

end Roster

end TableDraw
