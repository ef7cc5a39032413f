import TableDraw.Proofs.FewTeams

set_option autoImplicit false

/-!
Which rosters the greedy fill can seat at all. Where teams stand far enough apart in the pool, the
fill deals it out in order, one player to each table and round after round; this is what it does to
the unshuffled pool of a roster with at least as many teams as seats at a table. With fewer teams no
order of the pool helps.
-/

namespace TableDraw

namespace Fill

theorem visit_first {table : List Player} {p : Player} (may : mayJoin table p = true)
    (rest : List Player) : visit table (p :: rest) = (table ++ [p], rest) := by
  have nobody : Stuck table [] := fun q member => by cases member
  have turn : Turn table ([] ++ p :: rest) (table ++ [p], [] ++ rest) := .seat rfl nobody may
  exact turn.eq_visit.symm

/-- A round in which each table may take the player who is first at its turn takes them in order. -/
theorem round_of_welcome {tables : List (List Player)} {front : List Player}
    (welcome : List.Forall₂ (fun table p => mayJoin table p = true) tables front)
    (rest : List Player) :
    round tables (front ++ rest) =
      ⟨List.zipWith (fun table p => table ++ [p]) tables front, rest⟩ := by
  induction welcome with
  | nil => rfl
  | @cons table p others waiting may tail ih =>
      simp only [List.cons_append, round, visit_first may, ih, List.zipWith_cons_cons]

/-- Players who stand `count` or more places apart play for different teams. -/
def Spread (count : Nat) (pool : List Player) : Prop :=
  ∀ (i j : Nat) (p q : Player), i + count ≤ j → pool[i]? = some p → pool[j]? = some q →
    p.team ≠ q.team

theorem Spread.mono {count larger : Nat} {pool : List Player} (spread : Spread count pool)
    (below : count ≤ larger) : Spread larger pool :=
  fun i j p q apart => spread i j p q (by omega)

/-- After `n` rounds over `count` tables that dealt the pool out in order: the seats of table `t`
are taken by the players at places `t`, `count + t`, `2 * count + t`, and so on. -/
structure Dealt (pool : List Player) (count n : Nat) (o : Outcome) : Prop where
  length : o.tables.length = count
  seats : ∀ (t : Nat) (table : List Player), o.tables[t]? = some table →
    table.map some = (List.range n).map (fun s => pool[s * count + t]?)
  leftover : o.leftover = pool.drop (n * count)

theorem dealt_start (pool : List Player) (count : Nat) :
    Dealt pool count 0 ⟨List.replicate count [], pool⟩ := by
  refine ⟨List.length_replicate, ?_, ?_⟩
  · intro t table found
    rw [List.eq_of_mem_replicate (List.mem_of_getElem? found)]
    rfl
  · rw [Nat.zero_mul, List.drop_zero]

section Rounds

variable {pool : List Player} {count n : Nat} {o : Outcome}

/-- The players who are to sit down in the next round. -/
def nextRow (pool : List Player) (count n : Nat) : List Player := (pool.drop (n * count)).take count

theorem getElem?_nextRow {t : Nat} (inside : t < count) :
    (nextRow pool count n)[t]? = pool[n * count + t]? := by
  rw [nextRow, List.getElem?_take_of_lt inside, List.getElem?_drop]

theorem length_nextRow (enough : (n + 1) * count ≤ pool.length) :
    (nextRow pool count n).length = count := by
  rw [Nat.add_mul, Nat.one_mul] at enough
  rw [nextRow, List.length_take, List.length_drop]
  omega

/-- Where teams are spread, no table seats a teammate of the player it is to be dealt next. -/
theorem Dealt.welcome (dealt : Dealt pool count n o) (spread : Spread count pool)
    (enough : (n + 1) * count ≤ pool.length) :
    List.Forall₂ (fun table p => mayJoin table p = true) o.tables (nextRow pool count n) := by
  rw [List.forall₂_iff_get]
  refine ⟨dealt.length.trans (length_nextRow enough).symm, ?_⟩
  intro t table_bound row_bound
  have inside : t < count := by
    rw [← dealt.length]
    exact table_bound
  have row : pool[n * count + t]? = some ((nextRow pool count n).get ⟨t, row_bound⟩) := by
    rw [← getElem?_nextRow inside]
    exact List.getElem?_eq_getElem row_bound
  have column := dealt.seats t _ (List.getElem?_eq_getElem table_bound)
  rw [mayJoin_iff]
  intro teammate
  obtain ⟨seated, member, same⟩ := List.mem_map.mp teammate
  -- A teammate would have been dealt in an earlier row, hence stand too close in the pool.
  have listed := List.mem_map_of_mem (f := some) member
  rw [List.get_eq_getElem, column] at listed
  obtain ⟨s, earlier, place⟩ := List.mem_map.mp listed
  have apart : s * count + t + count ≤ n * count + t := by
    have rows := Nat.mul_le_mul_right count (List.mem_range.mp earlier)
    rw [Nat.succ_mul] at rows
    omega
  exact spread _ _ _ _ apart place row same

theorem Dealt.round (dealt : Dealt pool count n o) (spread : Spread count pool)
    (enough : (n + 1) * count ≤ pool.length) :
    Dealt pool count (n + 1) (round o.tables o.leftover) := by
  have split : o.leftover = nextRow pool count n ++ pool.drop ((n + 1) * count) := by
    rw [dealt.leftover, nextRow, Nat.add_mul, Nat.one_mul, ← List.drop_drop]
    exact (List.take_append_drop count _).symm
  rw [split, round_of_welcome (dealt.welcome spread enough)]
  refine ⟨?_, ?_, rfl⟩
  · rw [List.length_zipWith, dealt.length, length_nextRow enough, Nat.min_self]
  · intro t after found
    obtain ⟨table, p, before, next, rfl⟩ := List.getElem?_zipWith_eq_some.mp found
    have inside : t < count := by
      rw [← length_nextRow enough]
      exact (List.getElem?_eq_some_iff.mp next).1
    rw [getElem?_nextRow inside] at next
    rw [List.map_append, dealt.seats t table before, List.range_succ, List.map_append,
      List.map_singleton, List.map_singleton, next]

theorem Dealt.rounds (m : Nat) {tables : List (List Player)} {waiting : List Player}
    (dealt : Dealt pool count n ⟨tables, waiting⟩) (spread : Spread count pool)
    (enough : (n + m) * count ≤ pool.length) :
    Dealt pool count (n + m) (rounds m tables waiting) := by
  induction m generalizing n tables waiting with
  | zero => exact dealt
  | succ m ih =>
      have more : (n + 1 + m) * count ≤ pool.length := by
        rw [Nat.add_assoc, Nat.add_comm 1 m]
        exact enough
      have one : (n + 1) * count ≤ pool.length :=
        (Nat.mul_le_mul_right count (Nat.le_add_right (n + 1) m)).trans more
      rw [rounds_succ, Nat.add_comm m, ← Nat.add_assoc]
      exact ih (dealt.round spread one) more

end Rounds

/-- A fill deals out a pool whose teams are spread over as many places as there are tables. -/
theorem fill_dealt {pool : List Player} {tableSize tableCount : Nat}
    (spread : Spread tableCount pool) (enough : tableSize * tableCount ≤ pool.length) :
    Dealt pool tableCount tableSize (fill pool tableSize tableCount) := by
  have all : (0 + tableSize) * tableCount ≤ pool.length := by
    rw [Nat.zero_add]
    exact enough
  have dealt := (dealt_start pool tableCount).rounds tableSize spread all
  rw [Nat.zero_add] at dealt
  exact dealt

/-- Where a pool was dealt out, the player at place `s * count + t` has seat `s` of table `t`. -/
theorem Dealt.seat {pool : List Player} {count n : Nat} {o : Outcome}
    (dealt : Dealt pool count n o) (enough : n * count ≤ pool.length) {s t : Nat}
    (round : s < n) (table : t < count) :
    ∃ players p, o.seating.table? t = some players ∧ players[s]? = some p ∧
      pool[s * count + t]? = some p := by
  have inside : t < o.tables.length := by
    rw [dealt.length]
    exact table
  have place : s * count + t < pool.length := by
    have rows := Nat.mul_le_mul_right count (Nat.succ_le_of_lt round)
    rw [Nat.succ_mul] at rows
    omega
  have found := List.getElem?_eq_getElem inside
  have seats := congrArg (fun l => l[s]?) (dealt.seats t _ found)
  simp only [List.getElem?_map, List.getElem?_range round, Option.map_some,
    List.getElem?_eq_getElem place] at seats
  obtain ⟨p, seated, same⟩ := Option.map_eq_some_iff.mp seats
  refine ⟨o.tables[t], p, ?_, seated, ?_⟩
  · rw [Outcome.seating, Seating.table?_ofTables, found]
  · rw [same, List.getElem?_eq_getElem place]

end Fill

namespace Roster

theorem spread_listed {size : Nat} {entries : List (TeamId × List PlayerId)}
    (ascending : entries.Pairwise (fun a b => a.1 < b.1))
    (fielded : ∀ e ∈ entries, e.2.length = size) :
    Fill.Spread size (entries.flatMap (fun e => e.2.map (fun id => ⟨id, e.1⟩))) := by
  induction entries with
  | nil =>
      intro i j p q apart first second
      simp at first
  | cons e rest ih =>
      obtain ⟨greater, tail⟩ := List.pairwise_cons.mp ascending
      have others := ih tail (fun other member => fielded other (List.mem_cons_of_mem _ member))
      have length : (e.2.map (fun id => (⟨id, e.1⟩ : Player))).length = size := by
        rw [List.length_map, fielded e List.mem_cons_self]
      intro i j p q apart first second
      rw [List.flatMap_cons] at first second
      rw [List.getElem?_append_right (by omega), length] at second
      -- The second player stands behind the first team in any case.
      by_cases own : i < size
      · rw [List.getElem?_append_left (by omega)] at first
        obtain ⟨id, _, rfl⟩ := List.mem_map.mp (List.mem_of_getElem? first)
        obtain ⟨other, member, listed⟩ := List.mem_flatMap.mp (List.mem_of_getElem? second)
        obtain ⟨id', _, rfl⟩ := List.mem_map.mp listed
        intro same
        have below := greater other member
        dsimp only at same
        rw [same] at below
        exact Int64.lt_irrefl below
      · rw [List.getElem?_append_right (by omega), length] at first
        exact others (i - size) (j - size) p q (by omega) first second

/-- In the pool, players who stand as many places apart as a team has players play for different
teams. -/
theorem Valid.spread_pool {r : Roster} (valid : r.Valid) : Fill.Spread r.teamSize.toNat r.pool :=
  spread_listed r.teams.ascending valid.fielded

/-- With at least as many teams as seats at a table, there is a table for each player of a team. -/
theorem Valid.teamSize_le_numberOfTables {r : Roster} (valid : r.Valid)
    (enough : r.tableSize.toNat ≤ r.teamCount) : r.teamSize.toNat ≤ r.numberOfTables :=
  (Nat.le_div_iff_mul_le valid.tableSize_pos).mpr (Nat.mul_le_mul_left _ enough)

theorem Valid.length_pool_eq_seats {r : Roster} (valid : r.Valid) :
    r.pool.length = r.tableSize.toNat * r.numberOfTables := by
  rw [valid.length_order (List.Perm.refl r.pool), Nat.mul_comm]

/-- With enough teams the unshuffled pool is dealt out in order. -/
theorem Valid.fill_pool_dealt {r : Roster} (valid : r.Valid)
    (enough : r.tableSize.toNat ≤ r.teamCount) :
    Fill.Dealt r.pool r.numberOfTables r.tableSize.toNat
      (fill r.pool r.tableSize.toNat r.numberOfTables) :=
  Fill.fill_dealt (valid.spread_pool.mono (valid.teamSize_le_numberOfTables enough))
    valid.length_pool_eq_seats.ge

theorem Valid.fill_pool_complete {r : Roster} (valid : r.Valid)
    (enough : r.tableSize.toNat ≤ r.teamCount) :
    (fill r.pool r.tableSize.toNat r.numberOfTables).isComplete := by
  rw [Fill.Outcome.isComplete_iff, (valid.fill_pool_dealt enough).leftover]
  exact List.drop_of_length_le valid.length_pool_eq_seats.le

/-- Nobody is left over where nobody plays. -/
theorem Valid.fill_pool_complete_of_no_team {r : Roster} (valid : r.Valid)
    (empty : r.teamCount = 0) : (fill r.pool r.tableSize.toNat r.numberOfTables).isComplete := by
  have left := valid.length_leftover_of_few (by omega) (List.Perm.refl r.pool)
  rw [empty, Nat.zero_mul] at left
  rw [Fill.Outcome.isComplete_iff]
  exact List.eq_nil_of_length_eq_zero left

theorem Valid.exists_complete_order_iff {r : Roster} (valid : r.Valid) :
    (∃ order : List Player, order.Perm r.pool ∧
        (fill order r.tableSize.toNat r.numberOfTables).isComplete) ↔
      r.teamCount = 0 ∨ r.tableSize.toNat ≤ r.teamCount := by
  constructor
  · rintro ⟨order, reordered, complete⟩
    rw [Fill.Outcome.isComplete_iff] at complete
    by_contra scarce
    obtain ⟨inhabited, few⟩ := not_or.mp scarce
    exact valid.incomplete_of_few (by omega) (by omega) reordered complete
  · rintro (empty | enough)
    · exact ⟨r.pool, List.Perm.refl _, valid.fill_pool_complete_of_no_team empty⟩
    · exact ⟨r.pool, List.Perm.refl _, valid.fill_pool_complete enough⟩

end Roster

/-- Some order of a roster's players fills all tables if and only if there is no team at all, or
there are at least as many teams as seats at a table. In the latter case the unshuffled pool is such
an order: it is dealt out in rows, one seat of every table at a time. So a draw that exhausts its
attempts there has only met orders that leave players over, not a roster that cannot be seated. -/
theorem complete_order_iff_enough_teams (r : Roster) (valid : r.check = .ok ()) :
    ((∃ order : List Player, order.Perm r.pool ∧
        (fill order r.tableSize.toNat r.numberOfTables).isComplete) ↔
      r.teamCount = 0 ∨ r.tableSize.toNat ≤ r.teamCount) ∧
    (r.tableSize.toNat ≤ r.teamCount →
      (fill r.pool r.tableSize.toNat r.numberOfTables).isComplete ∧
      (∀ s t, s < r.tableSize.toNat → t < r.numberOfTables → ∃ players p,
        (fill r.pool r.tableSize.toNat r.numberOfTables).seating.table? t = some players ∧
        players[s]? = some p ∧ r.pool[s * r.numberOfTables + t]? = some p) ∧
      (∀ limits seed clock attempts,
        (draw r limits seed clock).outcome = .error (.exhausted attempts) →
        ∀ k, 1 ≤ k → k ≤ attempts → shuffle r.pool (Draw.seedOf seed k) ≠ r.pool ∧
          ¬ (Draw.attempt r (Draw.seedOf seed k)).isComplete)) := by
  have sound := (Roster.check_eq_ok_iff r).mp valid
  refine ⟨sound.exists_complete_order_iff, ?_⟩
  intro enough
  have complete := sound.fill_pool_complete enough
  refine ⟨complete, ?_, ?_⟩
  · intro s t round table
    exact (sound.fill_pool_dealt enough).seat sound.length_pool_eq_seats.ge round table
  · intro limits seed clock attempts exhausted k first last
    have ending := Draw.draw_ending valid limits seed clock
    have undecided := (ending.undecided_of_exhausted exhausted).2
    have failed : ¬ (Draw.attempt r (Draw.seedOf seed k)).isComplete := by
      rw [Fill.Outcome.isComplete_iff]
      exact fun seated => undecided k first last (Or.inr seated)
    refine ⟨?_, failed⟩
    intro same
    rw [Draw.attempt, same] at failed
    exact failed complete

/-- Three teams of two fill tables of two, though one seed fails to; two teams of six never fill
tables of three. -/
theorem complete_order_of_sparse :
    Roster.sparse.check = .ok () ∧ (Roster.twoTeams 3).check = .ok () ∧
    (fill Roster.sparse.pool 2 3).isComplete ∧
    (∃ players, (fill Roster.sparse.pool 2 3).seating.table? 2 = some players ∧
      players[1]? = some ⟨-1, 900⟩) ∧
    shuffle Roster.sparse.pool (Draw.seedOf Int64.maxValue 1) ≠ Roster.sparse.pool ∧
    ¬ ∃ order : List Player, order.Perm (Roster.twoTeams 3).pool ∧
      (fill order 3 4).isComplete := by
  have rich : Roster.sparse.check = .ok () := by decide +kernel
  have scarce : (Roster.twoTeams 3).check = .ok () := by decide +kernel
  obtain ⟨complete, dealt, missed⟩ :=
    (complete_order_iff_enough_teams Roster.sparse rich).2 (by decide)
  refine ⟨rich, scarce, complete, ?_, ?_, ?_⟩
  · obtain ⟨players, p, found, seat, place⟩ := dealt 1 2 (by decide) (by decide)
    have last : Roster.sparse.pool[1 * Roster.sparse.numberOfTables + 2]? = some ⟨-1, 900⟩ := by
      decide +kernel
    rw [last] at place
    exact ⟨players, found, seat.trans place.symm⟩
  · exact (missed _ _ _ 1 Draw.outcome_sparse.1 1 (by decide) (by decide)).1
  · intro found
    rcases (complete_order_iff_enough_teams (Roster.twoTeams 3) scarce).1.mp found with none | enough
    · exact absurd none (by decide)
    · exact absurd enough (by decide)

end TableDraw
