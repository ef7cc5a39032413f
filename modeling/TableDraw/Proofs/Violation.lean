import TableDraw.Proofs.Budget

set_option autoImplicit false

/-!
What is reported of a roster that breaks the rules: the first rule broken, and of the teams that
break it the one with the least number. A draw reports the same and does nothing else.
-/

namespace TableDraw

namespace Roster

/-- A team lists these players, and they are more or fewer than it is to field. -/
def Misfields (r : Roster) (team : TeamId) (players : List PlayerId) : Prop :=
  r.teams.get? team = some players ∧ players.length ≠ r.teamSize.toNat

/-- The first rule that a roster breaks, and what there is to report: the sizes, or the least team
that breaks it. Each rule is judged of a roster that keeps those before it. -/
inductive FirstBroken (r : Roster) : Violation → Prop
  | zeroSize (zero : r.teamSize.toNat = 0 ∨ r.tableSize.toNat = 0) : FirstBroken r .zeroSize
  | indivisible (teamSize_pos : 0 < r.teamSize.toNat) (tableSize_pos : 0 < r.tableSize.toNat)
      (remains : ¬ r.tableSize.toNat ∣ r.teamSize.toNat) :
      FirstBroken r (.indivisibleTeamSize r.teamSize.toNat r.tableSize.toNat)
  | cardinality {team : TeamId} {players : List PlayerId} (teamSize_pos : 0 < r.teamSize.toNat)
      (tableSize_pos : 0 < r.tableSize.toNat) (divides : r.tableSize.toNat ∣ r.teamSize.toNat)
      (wrong : r.Misfields team players)
      (least : ∀ other others, r.Misfields other others → team ≤ other) :
      FirstBroken r (.wrongTeamCardinality team r.teamSize.toNat players.length)
  | nonPositive {team : TeamId} (teamSize_pos : 0 < r.teamSize.toNat)
      (tableSize_pos : 0 < r.tableSize.toNat) (divides : r.tableSize.toNat ∣ r.teamSize.toNat)
      (fielded : ∀ other others, ¬ r.Misfields other others) (listed : team ∈ r.teams.keys)
      (below : team < 1) (least : ∀ other ∈ r.teams.keys, team ≤ other) :
      FirstBroken r (.nonPositiveTeamId team)

theorem misfieldedTeam?_eq_some_iff (r : Roster) (team : TeamId) (players : List PlayerId) :
    r.misfieldedTeam? = some (team, players) ↔ r.Misfields team players ∧
      ∀ other others, r.Misfields other others → team ≤ other := by
  simp only [misfieldedTeam?, Misfields,
    SortedMap.find?_eq_some_iff_least Prod.fst r.teams.ascending, Prod.forall, bne_iff_ne,
    SortedMap.get?_eq_some_iff, and_imp, and_assoc]

theorem misfieldedTeam?_eq_none_iff_forall (r : Roster) :
    r.misfieldedTeam? = none ↔ ∀ team players, ¬ r.Misfields team players := by
  simp only [misfieldedTeam?_eq_none_iff, Misfields, SortedMap.get?_eq_some_iff, Prod.forall,
    not_and, not_not]

/-- The least of all teams is the least that is below one. -/
theorem nonPositiveTeam?_eq_some_iff (r : Roster) (team : TeamId) :
    r.nonPositiveTeam? = some team ↔
      team ∈ r.teams.keys ∧ team < 1 ∧ ∀ other ∈ r.teams.keys, team ≤ other := by
  rw [nonPositiveTeam?, SortedMap.find?_eq_some_iff_least id r.teams.keys_ascending]
  simp only [decide_eq_true_eq, id_eq]
  refine and_congr_right (fun _ => and_congr_right (fun below => ?_))
  constructor
  · intro least other listed
    by_cases low : other < 1
    · exact least other listed low
    · exact Int64.le_of_lt (Int64.lt_of_lt_of_le below (Int64.not_lt.mp low))
  · intro least other listed _
    exact least other listed

theorem FirstBroken.check_eq {r : Roster} {violation : Violation}
    (broken : r.FirstBroken violation) : r.check = .error violation := by
  cases broken with
  | zeroSize zero => rw [check, if_pos (r.size_eq_zero_iff.mpr zero)]
  | indivisible teamSize_pos tableSize_pos remains =>
      have sized : ¬ (r.teamSize = 0 ∨ r.tableSize = 0) := by
        rw [size_eq_zero_iff]
        omega
      rw [check, if_neg sized, if_pos (fun whole => remains (Nat.dvd_of_mod_eq_zero whole))]
  | cardinality teamSize_pos tableSize_pos divides wrong least =>
      rw [check_of_divides teamSize_pos tableSize_pos divides,
        (r.misfieldedTeam?_eq_some_iff _ _).mpr ⟨wrong, least⟩]
  | nonPositive teamSize_pos tableSize_pos divides fielded listed below least =>
      rw [check_of_divides teamSize_pos tableSize_pos divides,
        r.misfieldedTeam?_eq_none_iff_forall.mpr fielded,
        (r.nonPositiveTeam?_eq_some_iff _).mpr ⟨listed, below, least⟩]

theorem firstBroken_of_check {r : Roster} {violation : Violation}
    (failed : r.check = .error violation) : r.FirstBroken violation := by
  by_cases zero : r.teamSize.toNat = 0 ∨ r.tableSize.toNat = 0
  · rw [check, if_pos (r.size_eq_zero_iff.mpr zero)] at failed
    cases failed
    exact .zeroSize zero
  · have teamSize_pos : 0 < r.teamSize.toNat := by omega
    have tableSize_pos : 0 < r.tableSize.toNat := by omega
    by_cases divides : r.tableSize.toNat ∣ r.teamSize.toNat
    · rw [check_of_divides teamSize_pos tableSize_pos divides] at failed
      cases found : r.misfieldedTeam? with
      | some entry =>
          obtain ⟨team, players⟩ := entry
          rw [found] at failed
          cases failed
          obtain ⟨wrong, least⟩ := (r.misfieldedTeam?_eq_some_iff team players).mp found
          exact .cardinality teamSize_pos tableSize_pos divides wrong least
      | none =>
          have fielded := r.misfieldedTeam?_eq_none_iff_forall.mp found
          cases lowest : r.nonPositiveTeam? with
          | some team =>
              rw [found, lowest] at failed
              cases failed
              obtain ⟨listed, below, least⟩ := (r.nonPositiveTeam?_eq_some_iff team).mp lowest
              exact .nonPositive teamSize_pos tableSize_pos divides fielded listed below least
          | none =>
              rw [found, lowest] at failed
              cases failed
    · have broken := FirstBroken.indivisible teamSize_pos tableSize_pos divides
      rw [broken.check_eq] at failed
      cases failed
      exact broken

end Roster

/-- A draw finds fault with a roster only if the check does. -/
theorem Draw.check_eq_of_invalidInput {r : Roster} {limits : Draw.Limits} {seed : Int64}
    {clock : Nat → Duration} {violation : Violation}
    (invalid : (draw r limits seed clock).outcome = .error (.invalidInput violation)) :
    r.check = .error violation := by
  cases verdict : r.check with
  | error found =>
      rw [draw_of_invalid verdict] at invalid
      cases invalid
      rfl
  | ok =>
      have ending := Draw.draw_ending verdict limits seed clock
      generalize draw r limits seed clock = result at ending invalid
      cases ending with
      | exhausted undecided => cases invalid
      | deadline within undecided passed set => cases invalid
      | complete within undecided early complete => cases invalid

/-- A roster passes its check just if it keeps every rule. Otherwise the first rule that it breaks
is reported, in the order of sizes, divisibility, numbers of players and numbers of teams; and of the
teams that break it, whatever the order they were entered in, the least one. A draw reports the
violation that the check does, whatever its limits. Any attempt would leave an event, and there is
none. -/
theorem check_reports_first_broken (r : Roster) :
    (r.check = .ok () ↔ r.Valid) ∧
    (∀ violation, r.check = .error violation ↔ r.FirstBroken violation) ∧
    ∀ (limits : Draw.Limits) (seed : Int64) (clock : Nat → Duration) (violation : Violation),
      ((draw r limits seed clock).outcome = .error (.invalidInput violation) ↔
        r.check = .error violation) ∧
      (r.check = .error violation → (draw r limits seed clock).events = []) := by
  refine ⟨r.check_eq_ok_iff, ?_, ?_⟩
  · intro violation
    exact ⟨Roster.firstBroken_of_check, Roster.FirstBroken.check_eq⟩
  · intro limits seed clock violation
    refine ⟨⟨Draw.check_eq_of_invalidInput, ?_⟩, ?_⟩
    · intro broken
      rw [Draw.draw_of_invalid broken]
    · intro broken
      rw [Draw.draw_of_invalid broken]

/-- Three teams that are to field two players, entered in no order. Two of them list another number,
and the least is below one. -/
def Roster.lopsided : Roster :=
  (((Roster.ofSizes 2 2).withTeam 900 [5]).withTeam (-3) [8, 2]).withTeam 7 [5, 5, 5]

/-- Of the two teams with too few or too many players the lesser is reported, and the number below
one is not. Once it lists two players, the other one is; and then the number below one. A draw with
no attempts and no time says the same. -/
theorem check_reports_lopsided :
    Roster.lopsided.check = .error (.wrongTeamCardinality 7 2 3) ∧
    Roster.lopsided.FirstBroken (.wrongTeamCardinality 7 2 3) ∧
    (Roster.lopsided.withTeam 7 [5, 6]).FirstBroken (.wrongTeamCardinality 900 2 1) ∧
    (Roster.lopsided.withoutTeam 900 |>.withTeam 7 [5, 6]).FirstBroken (.nonPositiveTeamId (-3)) ∧
    (draw Roster.lopsided ⟨0, some ⟨0⟩⟩ 1 (fun _ => ⟨0⟩)).outcome =
      .error (.invalidInput (.wrongTeamCardinality 7 2 3)) ∧
    (draw Roster.lopsided ⟨0, some ⟨0⟩⟩ 1 (fun _ => ⟨0⟩)).events = [] := by
  have broken : Roster.lopsided.check = .error (.wrongTeamCardinality 7 2 3) := by decide +kernel
  obtain ⟨-, reported, drawn⟩ := check_reports_first_broken Roster.lopsided
  have outcome := drawn ⟨0, some ⟨0⟩⟩ 1 (fun _ => ⟨0⟩) (.wrongTeamCardinality 7 2 3)
  refine ⟨broken, (reported _).mp broken, ?_, ?_, outcome.1.mpr broken, outcome.2 broken⟩
  · exact ((check_reports_first_broken _).2.1 _).mp (by decide +kernel)
  · exact ((check_reports_first_broken _).2.1 _).mp (by decide +kernel)

end TableDraw
