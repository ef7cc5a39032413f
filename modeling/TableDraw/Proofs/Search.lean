import Mathlib.Algebra.Group.Nat.Defs
import Mathlib.Order.Bounds.Basic
import TableDraw.Draw
import TableDraw.Proofs.Fill
import TableDraw.Proofs.Roster

set_option autoImplicit false

/-!
The search for a seed: a draw ends at its first decisive attempt. `search_ending` is the invariant
of the search, and `draw_at_first_decisive` says what it means for the outcome of a draw.
-/

namespace TableDraw.Draw

/-- The seed of an attempt, counted from one. Seeds wrap around after the greatest. -/
def seedOf (seed : Int64) (k : Nat) : Int64 := seed + Int64.ofNat (k - 1)

/-- Attempt `k` leaves nobody over. -/
def Complete (r : Roster) (seed : Int64) (k : Nat) : Prop :=
  (fill (shuffle r.pool (seedOf seed k)) r.tableSize.toNat r.numberOfTables).leftover = []

/-- A deadline is set and has passed when attempt `k` is due, and `k` is not the first. -/
def Passed (limits : Limits) (clock : Nat → Duration) (k : Nat) : Prop :=
  2 ≤ k ∧ ∃ deadline, limits.deadline = some deadline ∧ deadline ≤ clock k

/-- Attempt `k` ends the draw if it is reached. -/
def Decisive (r : Roster) (limits : Limits) (seed : Int64) (clock : Nat → Duration) (k : Nat) :
    Prop :=
  Passed limits clock k ∨ Complete r seed k

theorem not_passed_of_unlimited {limits : Limits} (unlimited : limits.deadline = none)
    (clock : Nat → Duration) (k : Nat) : ¬ Passed limits clock k := by
  rintro ⟨_, deadline, set, _⟩
  rw [unlimited] at set
  cases set

/-- Without a deadline nothing but success ends a draw early. -/
theorem decisive_iff_complete {r : Roster} {limits : Limits} (unlimited : limits.deadline = none)
    (seed : Int64) (clock : Nat → Duration) (k : Nat) :
    Decisive r limits seed clock k ↔ Complete r seed k :=
  or_iff_right (not_passed_of_unlimited unlimited clock k)

/-- None of the first `m` attempts ends the draw. -/
def Undecided (r : Roster) (limits : Limits) (seed : Int64) (clock : Nat → Duration) (m : Nat) :
    Prop :=
  ∀ k, 1 ≤ k → k ≤ m → ¬ Decisive r limits seed clock k

/-- The event of a failed attempt with a seed. -/
def failure (r : Roster) (seed : Int64) : Event :=
  .unseated seed (attempt r seed).leftover.length

/-- Where a draw stands after `m` failed attempts. -/
def failures (r : Roster) (seed : Int64) (m : Nat) : Progress where
  attempts := m
  seed := seed + Int64.ofNat m
  past := ((List.range m).map (fun i => failure r (seed + Int64.ofNat i))).reverse

theorem failures_succ (r : Roster) (seed : Int64) (m : Nat) :
    failures r seed (m + 1) = ⟨m + 1, seed + Int64.ofNat m + 1,
      failure r (seed + Int64.ofNat m) :: (failures r seed m).past⟩ := by
  simp only [failures, List.range_succ, List.map_append, List.map_cons, List.map_nil,
    List.reverse_append, List.reverse_cons, List.reverse_nil, List.nil_append,
    List.singleton_append, Int64.ofNat_add, Int64.add_assoc]
  rfl

theorem passedDeadline?_eq_some_iff (p : Progress) (limits : Limits) (elapsed deadline : Duration) :
    p.passedDeadline? limits elapsed = some deadline ↔
      p.attempts ≠ 0 ∧ limits.deadline = some deadline ∧ deadline ≤ elapsed := by
  unfold Progress.passedDeadline?
  split
  · rename_i first
    simp only [reduceCtorEq, first, ne_eq, not_true_eq_false, false_and]
  · rename_i later
    simp only [Option.filter_eq_some_iff, decide_eq_true_eq, ne_eq, later, not_false_eq_true,
      true_and]

theorem isComplete_iff (r : Roster) (seed : Int64) (m : Nat) :
    (attempt r (seed + Int64.ofNat m)).isComplete = true ↔ Complete r seed (m + 1) :=
  Fill.Outcome.isComplete_iff _

/-- All that attempt `m + 1` can do after `m` failed ones: find the deadline passed, seat everybody,
or fail as well. -/
theorem step_failures (r : Roster) (limits : Limits) (seed : Int64) (clock : Nat → Duration)
    (m : Nat) :
    (∃ deadline, limits.deadline = some deadline ∧ Passed limits clock (m + 1) ∧
      (failures r seed m).step r limits (clock (m + 1)) =
        .inl ((failures r seed m).finish (.error (.deadlineExceeded m (clock (m + 1))))
          (.deadlinePassed deadline m))) ∨
    (¬ Passed limits clock (m + 1) ∧ Complete r seed (m + 1) ∧
      (failures r seed m).step r limits (clock (m + 1)) =
        .inl ((failures r seed m).finish
          (.ok ⟨(attempt r (seedOf seed (m + 1))).seating, seedOf seed (m + 1), m + 1⟩)
          (.seated r.totalPlayers r.numberOfTables (seedOf seed (m + 1)) (m + 1)))) ∨
    (¬ Decisive r limits seed clock (m + 1) ∧
      (failures r seed m).step r limits (clock (m + 1)) = .inr (failures r seed (m + 1))) := by
  have found := passedDeadline?_eq_some_iff (failures r seed m) limits (clock (m + 1))
  unfold Progress.step
  split
  · rename_i deadline passed
    obtain ⟨later, set, reached⟩ := (found deadline).mp passed
    have late : 2 ≤ m + 1 := Nat.succ_le_succ (Nat.pos_of_ne_zero later)
    exact Or.inl ⟨deadline, set, ⟨late, deadline, set, reached⟩, rfl⟩
  · rename_i unpassed
    have early : ¬ Passed limits clock (m + 1) := by
      rintro ⟨late, deadline, set, reached⟩
      have later : m ≠ 0 := by omega
      rw [(found deadline).mpr ⟨later, set, reached⟩] at unpassed
      cases unpassed
    refine Or.inr ?_
    dsimp only
    split
    · rename_i complete
      exact Or.inl ⟨early, (isComplete_iff r seed m).mp complete, rfl⟩
    · rename_i incomplete
      refine Or.inr ⟨?_, ?_⟩
      · rintro (passed | complete)
        · exact early passed
        · exact incomplete ((isComplete_iff r seed m).mpr complete)
      · rw [failures_succ]
        rfl

/-- How a draw ends: after `m` attempts that decided nothing the deadline has passed, or the next
attempt seats everybody; or no attempt is left. -/
inductive Ending (r : Roster) (limits : Limits) (seed : Int64) (clock : Nat → Duration) :
    Result → Prop
  | exhausted (undecided : Undecided r limits seed clock limits.maxAttempts.toNat) :
      Ending r limits seed clock (failures r seed limits.maxAttempts.toNat).exhaust
  | deadline {m : Nat} {deadline : Duration} (within : m < limits.maxAttempts.toNat)
      (undecided : Undecided r limits seed clock m) (passed : Passed limits clock (m + 1))
      (set : limits.deadline = some deadline) :
      Ending r limits seed clock ((failures r seed m).finish
        (.error (.deadlineExceeded m (clock (m + 1)))) (.deadlinePassed deadline m))
  | complete {m : Nat} (within : m < limits.maxAttempts.toNat)
      (undecided : Undecided r limits seed clock m) (early : ¬ Passed limits clock (m + 1))
      (complete : Complete r seed (m + 1)) :
      Ending r limits seed clock ((failures r seed m).finish
        (.ok ⟨(attempt r (seedOf seed (m + 1))).seating, seedOf seed (m + 1), m + 1⟩)
        (.seated r.totalPlayers r.numberOfTables (seedOf seed (m + 1)) (m + 1)))

/-- The search keeps to this: as long as nothing is decided it stands where as many failed attempts
leave it, and so it ends as a draw should. -/
theorem search_ending (r : Roster) (limits : Limits) (seed : Int64) (clock : Nat → Duration)
    (remaining m : Nat) (total : m + remaining = limits.maxAttempts.toNat)
    (undecided : Undecided r limits seed clock m) :
    Ending r limits seed clock (search r limits clock remaining (failures r seed m)) := by
  induction remaining generalizing m with
  | zero =>
      rw [Nat.add_zero] at total
      rw [search_zero, total]
      rw [total] at undecided
      exact .exhausted undecided
  | succ remaining ih =>
      have within : m < limits.maxAttempts.toNat := by omega
      have due : (failures r seed m).attempts + 1 = m + 1 := rfl
      rw [search_succ, due]
      rcases step_failures r limits seed clock m with
        ⟨deadline, set, passed, step⟩ | ⟨early, complete, step⟩ | ⟨indecisive, step⟩
      · rw [step]
        exact .deadline within undecided passed set
      · rw [step]
        exact .complete within undecided early complete
      · rw [step]
        refine ih (m + 1) (by omega) ?_
        intro k first last
        rcases Nat.le_succ_iff.mp last with before | rfl
        · exact undecided k first before
        · exact indecisive

theorem draw_ending {r : Roster} (valid : r.check = .ok ()) (limits : Limits) (seed : Int64)
    (clock : Nat → Duration) : Ending r limits seed clock (draw r limits seed clock) := by
  have begun : Progress.start seed = failures r seed 0 := by
    simp only [Progress.start, failures, List.range_zero, List.map_nil, List.reverse_nil]
    rw [show Int64.ofNat 0 = 0 from rfl, Int64.add_zero]
  rw [draw_eq, valid, begun]
  refine search_ending r limits seed clock limits.maxAttempts.toNat 0 (Nat.zero_add _) ?_
  intro k first last
  omega

theorem check_eq_ok_of_success {r : Roster} {limits : Limits} {seed : Int64}
    {clock : Nat → Duration} {report : Report}
    (success : (draw r limits seed clock).outcome = .ok report) : r.check = .ok () := by
  rw [draw_eq] at success
  split at success
  · cases success
  · assumption

/-- The report of a success is that of the first attempt that seats everybody. -/
theorem report_of_success {r : Roster} {limits : Limits} {seed : Int64} {clock : Nat → Duration}
    {report : Report} (success : (draw r limits seed clock).outcome = .ok report) :
    ∃ m, m < limits.maxAttempts.toNat ∧ Undecided r limits seed clock m ∧
      Complete r seed (m + 1) ∧
      report = ⟨(attempt r (seedOf seed (m + 1))).seating, seedOf seed (m + 1), m + 1⟩ := by
  have ending := draw_ending (check_eq_ok_of_success success) limits seed clock
  generalize draw r limits seed clock = result at ending success
  cases ending with
  | exhausted undecided => cases success
  | deadline within undecided passed set => cases success
  | @complete m within undecided early complete =>
      cases success
      exact ⟨m, within, undecided, complete, rfl⟩

/-- A report tells the seed that the attempts made lead up to. -/
theorem seedUsed_of_success {r : Roster} {limits : Limits} {seed : Int64} {clock : Nat → Duration}
    {report : Report} (success : (draw r limits seed clock).outcome = .ok report) :
    report.seedUsed = seed + Int64.ofNat (report.attempts - 1) ∧ 1 ≤ report.attempts ∧
      report.attempts ≤ limits.maxAttempts.toNat := by
  obtain ⟨m, within, _, _, rfl⟩ := report_of_success success
  exact ⟨rfl, Nat.le_add_left 1 m, within⟩

/-- An attempt that is said to have failed left as many players over as is said. -/
theorem unseated_of_mem_events {r : Roster} (valid : r.check = .ok ()) {limits : Limits}
    {seed : Int64} {clock : Nat → Duration} {used : Int64} {players : Nat}
    (member : Event.unseated used players ∈ (draw r limits seed clock).events) :
    players = (attempt r used).leftover.length := by
  have past : ∀ m, Event.unseated used players ∈ (failures r seed m).past →
      players = (attempt r used).leftover.length := by
    intro m before
    obtain ⟨i, _, same⟩ := List.mem_map.mp (List.mem_reverse.mp before)
    cases same
    rfl
  have ending := draw_ending valid limits seed clock
  generalize draw r limits seed clock = result at ending member
  cases ending with
  | exhausted undecided =>
      rcases List.mem_cons.mp (List.mem_reverse.mp member) with impossible | before
      · cases impossible
      · exact past _ before
  | deadline within undecided passed set =>
      rcases List.mem_cons.mp (List.mem_reverse.mp member) with impossible | before
      · cases impossible
      · exact past _ before
  | complete within undecided early complete =>
      rcases List.mem_cons.mp (List.mem_reverse.mp member) with impossible | before
      · cases impossible
      · exact past _ before

/-- The attempts that a draw is allowed and that would end it. -/
def decisiveAttempts (r : Roster) (limits : Limits) (seed : Int64) (clock : Nat → Duration) :
    Set Nat :=
  {k | 1 ≤ k ∧ k ≤ limits.maxAttempts.toNat ∧ Decisive r limits seed clock k}

theorem Undecided.lt {r : Roster} {limits : Limits} {seed : Int64} {clock : Nat → Duration}
    {m k : Nat} (undecided : Undecided r limits seed clock m) (first : 1 ≤ k)
    (decisive : Decisive r limits seed clock k) : m < k :=
  Nat.lt_of_not_le (fun within => undecided k first within decisive)

theorem Undecided.eq_succ {r : Roster} {limits : Limits} {seed : Int64} {clock : Nat → Duration}
    {m k : Nat} (undecided : Undecided r limits seed clock m)
    (within : m < limits.maxAttempts.toNat) (decisive : Decisive r limits seed clock (m + 1))
    (least : IsLeast (decisiveAttempts r limits seed clock) k) : k = m + 1 := by
  have after := undecided.lt least.1.1 least.1.2.2
  have before : k ≤ m + 1 := least.2 ⟨Nat.le_add_left 1 m, within, decisive⟩
  omega

/-- Fewer than `2^64` successive seeds are all different, also where they wrap around. -/
theorem seedOf_ne (seed : Int64) {i j : Nat} (first : 1 ≤ i) (below : i < j) (bound : j ≤ 2 ^ 64) :
    seedOf seed i ≠ seedOf seed j := by
  intro same
  have shift := (Int64.add_right_inj seed).mp same
  have words := congrArg (fun x => x.toUInt64.toNat) shift
  simp only [Int64.toUInt64_ofNat', UInt64.toNat_ofNat'] at words
  rw [Nat.mod_eq_of_lt (by omega), Nat.mod_eq_of_lt (by omega)] at words
  omega

section Endings

variable {r : Roster} {limits : Limits} {seed : Int64} {clock : Nat → Duration} {result : Result}

theorem Ending.exhausted_of_none (ending : Ending r limits seed clock result)
    (indecisive : ∀ k, 1 ≤ k → k ≤ limits.maxAttempts.toNat → ¬ Decisive r limits seed clock k) :
    result.outcome = .error (.exhausted limits.maxAttempts.toNat) := by
  cases ending with
  | exhausted undecided => rfl
  | @deadline m deadline within undecided passed set =>
      exact absurd (Or.inl passed) (indecisive (m + 1) (Nat.le_add_left 1 m) within)
  | @complete m within undecided early complete =>
      exact absurd (Or.inr complete) (indecisive (m + 1) (Nat.le_add_left 1 m) within)

theorem Ending.deadline_of_least (ending : Ending r limits seed clock result) {k : Nat}
    (least : IsLeast (decisiveAttempts r limits seed clock) k) (passed : Passed limits clock k) :
    result.outcome = .error (.deadlineExceeded (k - 1) (clock k)) := by
  cases ending with
  | exhausted undecided => exact absurd least.1.2.2 (undecided k least.1.1 least.1.2.1)
  | deadline within undecided passed set =>
      rw [undecided.eq_succ within (Or.inl passed) least]
      rfl
  | complete within undecided early complete =>
      rw [undecided.eq_succ within (Or.inr complete) least] at passed
      exact absurd passed early

theorem Ending.report_of_least (ending : Ending r limits seed clock result) {k : Nat}
    (least : IsLeast (decisiveAttempts r limits seed clock) k) (early : ¬ Passed limits clock k) :
    result.outcome = .ok ⟨(attempt r (seedOf seed k)).seating, seedOf seed k, k⟩ := by
  cases ending with
  | exhausted undecided => exact absurd least.1.2.2 (undecided k least.1.1 least.1.2.1)
  | deadline within undecided passed set =>
      rw [undecided.eq_succ within (Or.inl passed) least] at early
      exact absurd passed early
  | complete within undecided _ complete =>
      rw [undecided.eq_succ within (Or.inr complete) least]
      rfl

/-- A seed whose attempt seats everybody needs no second attempt, and the first one is not subject to
any deadline. -/
theorem report_of_complete_first (valid : r.check = .ok ())
    (permitted : 1 ≤ limits.maxAttempts.toNat) (complete : (attempt r seed).leftover = []) :
    (draw r limits seed clock).outcome = .ok ⟨(attempt r seed).seating, seed, 1⟩ := by
  have same : seedOf seed 1 = seed := Int64.add_zero seed
  have seated : Complete r seed 1 := by
    rw [Complete, same]
    exact complete
  have least : IsLeast (decisiveAttempts r limits seed clock) 1 :=
    ⟨⟨Nat.le_refl 1, permitted, Or.inr seated⟩, fun k allowed => allowed.1⟩
  have early : ¬ Passed limits clock 1 := fun passed => absurd passed.1 (by decide)
  have first := (draw_ending valid limits seed clock).report_of_least least early
  rw [same] at first
  exact first

/-- An attempt that would seat everybody is made, unless the draw ended before it. -/
theorem Ending.of_complete (ending : Ending r limits seed clock result) {k : Nat} (first : 1 ≤ k)
    (last : k ≤ limits.maxAttempts.toNat) (complete : Complete r seed k) :
    (∃ report, result.outcome = .ok report ∧ report.attempts ≤ k) ∨
    (∃ attempts elapsed, result.outcome = .error (.deadlineExceeded attempts elapsed) ∧
      attempts < k) := by
  cases ending with
  | exhausted undecided => exact absurd (Or.inr complete) (undecided k first last)
  | @deadline m deadline within undecided passed set =>
      exact Or.inr ⟨m, clock (m + 1), rfl, undecided.lt first (Or.inr complete)⟩
  | complete within undecided early seated =>
      exact Or.inl ⟨_, rfl, undecided.lt first (Or.inr complete)⟩

/-- Whoever has used up the attempts has made them all. -/
theorem Ending.undecided_of_exhausted (ending : Ending r limits seed clock result) {attempts : Nat}
    (exhausted : result.outcome = .error (.exhausted attempts)) :
    attempts = limits.maxAttempts.toNat ∧ Undecided r limits seed clock attempts := by
  cases ending with
  | exhausted undecided =>
      cases exhausted
      exact ⟨rfl, undecided⟩
  | deadline within undecided passed set => cases exhausted
  | complete within undecided early complete => cases exhausted

theorem Ending.attempted_of_deadline (ending : Ending r limits seed clock result) {attempts : Nat}
    {elapsed : Duration} (exceeded : result.outcome = .error (.deadlineExceeded attempts elapsed)) :
    1 ≤ attempts := by
  cases ending with
  | exhausted undecided => cases exceeded
  | deadline within undecided passed set =>
      cases exceeded
      exact Nat.le_of_succ_le_succ passed.1
  | complete within undecided early complete => cases exceeded

end Endings

/-- A draw ends at the least attempt that is decisive: with the deadline if that has passed, else
with the tables and the seed of that very attempt; and it is exhausted only if there is none. So no
attempt that seats everybody is passed over, no deadline is reported before an attempt was made, and
no seed is tried twice. -/
theorem draw_at_first_decisive (r : Roster) (limits : Limits) (seed : Int64)
    (clock : Nat → Duration) (valid : r.check = .ok ()) :
    ((∀ k, 1 ≤ k → k ≤ limits.maxAttempts.toNat → ¬ Decisive r limits seed clock k) →
      (draw r limits seed clock).outcome = .error (.exhausted limits.maxAttempts.toNat)) ∧
    (∀ k, IsLeast (decisiveAttempts r limits seed clock) k →
      (Passed limits clock k →
        (draw r limits seed clock).outcome = .error (.deadlineExceeded (k - 1) (clock k))) ∧
      (¬ Passed limits clock k →
        (draw r limits seed clock).outcome = .ok
          ⟨(fill (shuffle r.pool (seedOf seed k)) r.tableSize.toNat r.numberOfTables).seating,
            seedOf seed k, k⟩)) ∧
    (∀ k, 1 ≤ k → k ≤ limits.maxAttempts.toNat → Complete r seed k →
      (∃ report, (draw r limits seed clock).outcome = .ok report ∧ report.attempts ≤ k) ∨
      (∃ attempts elapsed, (draw r limits seed clock).outcome =
        .error (.deadlineExceeded attempts elapsed) ∧ attempts < k)) ∧
    (∀ attempts elapsed, (draw r limits seed clock).outcome =
      .error (.deadlineExceeded attempts elapsed) → 1 ≤ attempts) ∧
    (∀ i j, 1 ≤ i → i < j → j ≤ limits.maxAttempts.toNat → seedOf seed i ≠ seedOf seed j) := by
  have ending := draw_ending valid limits seed clock
  refine ⟨ending.exhausted_of_none, ?_, ?_, ?_, ?_⟩
  · intro k least
    exact ⟨ending.deadline_of_least least, ending.report_of_least least⟩
  · intro k first last complete
    exact ending.of_complete first last complete
  · intro attempts elapsed exceeded
    exact ending.attempted_of_deadline exceeded
  · intro i j first below last
    have bound := limits.maxAttempts.toNat_lt
    exact seedOf_ne seed first below (by omega)

/-- From the greatest seed the first attempt fails. The second takes the least seed and seats
everybody, unless a deadline of no time at all ends the draw before it. -/
theorem draw_sparse_at_second :
    Roster.sparse.check = .ok () ∧
    (∀ deadline, IsLeast
      (decisiveAttempts Roster.sparse ⟨2, deadline⟩ Int64.maxValue (fun _ => ⟨0⟩)) 2) ∧
    (draw Roster.sparse ⟨2, none⟩ Int64.maxValue (fun _ => ⟨0⟩)).outcome = .ok
      ⟨(fill (shuffle Roster.sparse.pool Int64.minValue) 2 3).seating, Int64.minValue, 2⟩ ∧
    (draw Roster.sparse ⟨2, some ⟨0⟩⟩ Int64.maxValue (fun _ => ⟨0⟩)).outcome =
      .error (.deadlineExceeded 1 ⟨0⟩) := by
  have valid : Roster.sparse.check = .ok () := by decide +kernel
  have failed : ¬ Complete Roster.sparse Int64.maxValue 1 := by
    unfold Complete
    decide +kernel
  have complete : Complete Roster.sparse Int64.maxValue 2 := by
    unfold Complete
    decide +kernel
  have least : ∀ deadline, IsLeast
      (decisiveAttempts Roster.sparse ⟨2, deadline⟩ Int64.maxValue (fun _ => ⟨0⟩)) 2 := by
    intro deadline
    refine ⟨⟨by decide, Nat.le_refl 2, Or.inr complete⟩, ?_⟩
    rintro k ⟨first, _, decisive⟩
    by_contra below
    have start : k = 1 := by omega
    subst start
    rcases decisive with passed | seated
    · exact absurd passed.1 (by decide)
    · exact failed seated
  have patient := draw_at_first_decisive Roster.sparse ⟨2, none⟩ Int64.maxValue (fun _ => ⟨0⟩) valid
  have hurried :=
    draw_at_first_decisive Roster.sparse ⟨2, some ⟨0⟩⟩ Int64.maxValue (fun _ => ⟨0⟩) valid
  refine ⟨valid, least, (patient.2.1 2 (least _)).2 ?_, (hurried.2.1 2 (least _)).1 ?_⟩
  · exact not_passed_of_unlimited rfl _ 2
  · exact ⟨Nat.le_refl 2, ⟨0⟩, rfl, by decide⟩

/-- The tables of the sparse roster under the least seed. -/
def sparseSeating : Seating :=
  .ofTables [[⟨5, 900⟩, ⟨5, 7⟩], [⟨8, 40⟩, ⟨-1, 900⟩], [⟨5, 7⟩, ⟨2, 40⟩]]

/-- One attempt from the greatest seed is not enough for the sparse roster; the seeds wrap around to
the second one, which is. -/
theorem outcome_sparse :
    (draw Roster.sparse ⟨1, none⟩ Int64.maxValue (fun _ => ⟨0⟩)).outcome = .error (.exhausted 1) ∧
    (draw Roster.sparse ⟨2, none⟩ Int64.maxValue (fun _ => ⟨0⟩)).outcome =
      .ok ⟨sparseSeating, Int64.minValue, 2⟩ := by
  constructor <;> decide +kernel

end TableDraw.Draw
