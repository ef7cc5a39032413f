import TableDraw.Proofs.Budget
import TableDraw.Proofs.Partition

set_option autoImplicit false

/-!
The log of a draw. It tells the whole course of the draw: a record for each attempt that failed, in
their order, and one more for the way in which the draw ended.
-/

namespace TableDraw.Draw

/-- The log of a draw. -/
def Result.log (result : Result) : List Log.Record := result.events.map Event.record

/-- A log that tells of `m` failed attempts and then, at a level, of how the draw ended. The
attempts have successive seeds. Each left somebody over, and as many as seats stayed empty. -/
structure Tells (r : Roster) (seed : Int64) (m : Nat) (level : Log.Level) (last : Event)
    (log : List Log.Record) : Prop where
  records : log =
    (List.range m).map (fun i => (failure r (seed + Int64.ofNat i)).record) ++ [last.record]
  levels : log.map Log.Record.level = List.replicate m .debug ++ [level]
  waiting : ∀ i, i < m → 1 ≤ (attempt r (seed + Int64.ofNat i)).leftover.length
  seats : ∀ i, i < m → (attempt r (seed + Int64.ofNat i)).leftover.length =
    Fill.emptySeats (attempt r (seed + Int64.ofNat i)).tables r.tableSize.toNat

section Course

variable {r : Roster} {limits : Limits} {seed : Int64} {clock : Nat → Duration} {m : Nat}

/-- An attempt that decides nothing leaves somebody over. -/
theorem Undecided.waiting (undecided : Undecided r limits seed clock m) {i : Nat} (within : i < m) :
    1 ≤ (attempt r (seed + Int64.ofNat i)).leftover.length := by
  have indecisive := undecided (i + 1) (Nat.le_add_left 1 i) within
  rw [Nat.one_le_iff_ne_zero, ne_eq, List.length_eq_zero_iff]
  exact fun complete => indecisive (Or.inr complete)

/-- However a draw ends that has decided nothing so far, its log tells it. -/
theorem Undecided.tells (undecided : Undecided r limits seed clock m) (valid : r.check = .ok ())
    (outcome : Except Failure Report) (last : Event) :
    Tells r seed m last.level last ((failures r seed m).finish outcome last).log := by
  have records : ((failures r seed m).finish outcome last).log =
      (List.range m).map (fun i => (failure r (seed + Int64.ofNat i)).record) ++
        [last.record] := by
    simp only [Result.log, Progress.finish, failures, List.reverse_cons, List.reverse_reverse,
      List.map_append, List.map_map, List.map_cons, List.map_nil]
    rfl
  refine ⟨records, ?_, fun i within => undecided.waiting within, ?_⟩
  · rw [records, List.map_append, List.map_map]
    refine congrArg (· ++ [last.level]) ?_
    rw [List.eq_replicate_iff]
    refine ⟨by rw [List.length_map, List.length_range], ?_⟩
    intro level member
    obtain ⟨i, _, rfl⟩ := List.mem_map.mp member
    rfl
  · intro i _
    exact length_leftover_eq_emptySeats ((Roster.check_eq_ok_iff r).mp valid) _

end Course

/-- The log of a draw tells its course, whatever the roster, the seed, the limits and the course of
time. A roster that breaks a rule leaves no record. Otherwise each failed attempt leaves one at the
level `debug`, with its seed and the number of players left over; and one more record follows, which
tells the seed and the attempts of a success, the attempts that were all there are, or those after
which the deadline had passed. -/
theorem log_tells_course (r : Roster) (limits : Limits) (seed : Int64) (clock : Nat → Duration) :
    let result := draw r limits seed clock
    match result.outcome with
    | .error (.invalidInput _) => result.log = []
    | .ok report => 1 ≤ report.attempts ∧ Tells r seed (report.attempts - 1) .info
        (.seated r.totalPlayers r.numberOfTables report.seedUsed report.attempts) result.log
    | .error (.exhausted attempts) => attempts = limits.maxAttempts.toNat ∧
        Tells r seed attempts .warn (.exhausted limits.maxAttempts.toNat) result.log
    | .error (.deadlineExceeded attempts _) => ∃ deadline, limits.deadline = some deadline ∧
        Tells r seed attempts .warn (.deadlinePassed deadline attempts) result.log := by
  intro result
  cases verdict : r.check with
  | error violation =>
      have invalid : result = ⟨.error (.invalidInput violation), []⟩ :=
        draw_of_invalid verdict limits seed clock
      rw [invalid]
      rfl
  | ok =>
      have ending : Ending r limits seed clock result := draw_ending verdict limits seed clock
      clear_value result
      cases ending with
      | exhausted undecided =>
          exact ⟨rfl, undecided.tells verdict (.error (.exhausted _)) (.exhausted _)⟩
      | deadline within undecided passed set =>
          exact ⟨_, set, undecided.tells verdict (.error (.deadlineExceeded _ _))
            (.deadlinePassed _ _)⟩
      | @complete m within undecided early complete =>
          exact ⟨Nat.le_add_left 1 m, undecided.tells verdict (.ok _) (.seated _ _ _ _)⟩

example : (draw Roster.sparse ⟨2, none⟩ Int64.maxValue (fun _ => ⟨0⟩)).log =
    [⟨.debug, "team_draw::seating::assigner",
      "Seed 9223372036854775807 left 1 players unseated, retrying", []⟩,
     ⟨.info, "team_draw::seating::assigner",
      "Seated 6 players at 3 tables (seed -9223372036854775808, attempt 2)", []⟩] := by
  decide +kernel

end TableDraw.Draw
