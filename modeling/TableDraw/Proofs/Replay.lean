import TableDraw.Proofs.Search
import TableDraw.Run

set_option autoImplicit false

/-!
Replaying a draw. The seed that a run reports gives the same tables again, in one attempt and
whatever the limits: an attempt depends on nothing but the roster and its seed.
-/

namespace TableDraw

/-- A draw that succeeds does so again from the seed it reports, at once. -/
theorem Draw.report_of_replay {r : Roster} {limits : Draw.Limits} {seed : Int64}
    {clock : Nat → Duration} {report : Draw.Report}
    (success : (draw r limits seed clock).outcome = .ok report) (limits' : Draw.Limits)
    (clock' : Nat → Duration) (permitted : 1 ≤ limits'.maxAttempts.toNat) :
    (draw r limits' report.seedUsed clock').outcome = .ok { report with attempts := 1 } := by
  have valid := Draw.check_eq_ok_of_success success
  obtain ⟨m, _, _, complete, rfl⟩ := Draw.report_of_success success
  exact Draw.report_of_complete_first valid permitted complete

/-- A run succeeds just if its file spells a roster and the draw of that roster succeeds. It puts
the draw's report in the form that is asked for. -/
theorem Run.outcome_eq_ok_iff (settings : Settings) (content : Except FileError Bytes)
    (clock : Nat → Duration) (o : Run.Output) :
    (run settings content clock).outcome = .ok o ↔
      ∃ roster report, Run.loadRoster settings.roster content = .ok roster ∧
        (draw roster settings.limits settings.seed clock).outcome = .ok report ∧
        o = ⟨settings.seed, report.seedUsed, report.attempts,
          Run.listingOf settings.records report.seating⟩ := by
  rw [run_eq]
  split
  · rename_i failure unread
    simp only [reduceCtorEq, unread, false_and, exists_false]
  · rename_i roster loaded
    simp only [loaded, Except.ok.injEq, exists_and_left, exists_eq_left', Run.conclude]
    split
    · rename_i cause failed
      simp only [reduceCtorEq, failed, false_and, exists_false]
    · rename_i report drawn
      simp only [drawn, Except.ok.injEq, exists_eq_left', eq_comm]

/-- A printed draw can be replayed. A run with the seed that was reported, on the same file and in
the same form, succeeds at the first attempt and lists the same, whatever the number of attempts
permitted, the deadline and the course of time. The seed reported is the one that the attempts made
lead up to. -/
theorem run_replays (settings : Settings) (content : Except FileError Bytes)
    (clock : Nat → Duration) (o : Run.Output)
    (success : (run settings content clock).outcome = .ok o) :
    (∀ (limits : Draw.Limits) (clock' : Nat → Duration), 1 ≤ limits.maxAttempts →
      (run { settings with seed := o.seedUsed, limits := limits } content clock').outcome =
        .ok { seed := o.seedUsed, seedUsed := o.seedUsed, attempts := 1, listing := o.listing }) ∧
    o.seed = settings.seed ∧ o.seedUsed = o.seed + Int64.ofNat (o.attempts - 1) ∧
    1 ≤ o.attempts ∧ o.attempts ≤ settings.limits.maxAttempts.toNat := by
  obtain ⟨roster, report, loaded, drawn, rfl⟩ :=
    (Run.outcome_eq_ok_iff settings content clock o).mp success
  refine ⟨?_, rfl, Draw.seedUsed_of_success drawn⟩
  intro limits clock' permitted
  have again := Draw.report_of_replay drawn limits clock' (UInt32.le_iff_toNat_le.mp permitted)
  exact (Run.outcome_eq_ok_iff _ content clock' _).mpr ⟨roster, _, loaded, again, rfl⟩

/-- The file of the sparse roster. -/
def sparseFile : Bytes := Utf8.encode Roster.sparse.text

theorem loadRoster_sparseFile : Run.loadRoster [] (.ok sparseFile) = .ok Roster.sparse := by
  have decoded : Utf8.decode? sparseFile = some Roster.sparse.text := by decide +kernel
  have parsed : Roster.parse Roster.sparse.text = .ok Roster.sparse := by decide +kernel
  simp only [Run.loadRoster, decoded, parsed]

/-- A run on the file of the sparse roster that took two attempts takes one from the seed it
reported, also where no time is left for a second one. -/
theorem run_replays_sparse :
    let seats := Draw.sparseSeating.seatRecords
    (run ⟨[], Int64.maxValue, ⟨2, none⟩, true⟩ (.ok sparseFile) (fun _ => ⟨0⟩)).outcome =
      .ok ⟨Int64.maxValue, Int64.minValue, 2, .seats seats⟩ ∧
    (run ⟨[], Int64.minValue, ⟨1, some ⟨0⟩⟩, true⟩ (.ok sparseFile) (fun _ => ⟨7⟩)).outcome =
      .ok ⟨Int64.minValue, Int64.minValue, 1, .seats seats⟩ := by
  intro seats
  have success : (run ⟨[], Int64.maxValue, ⟨2, none⟩, true⟩ (.ok sparseFile)
      (fun _ => ⟨0⟩)).outcome = .ok ⟨Int64.maxValue, Int64.minValue, 2, .seats seats⟩ :=
    (Run.outcome_eq_ok_iff _ _ _ _).mpr
      ⟨Roster.sparse, _, loadRoster_sparseFile, Draw.outcome_sparse.2, rfl⟩
  exact ⟨success, (run_replays _ _ _ _ success).1 ⟨1, some ⟨0⟩⟩ (fun _ => ⟨7⟩) (by decide)⟩

end TableDraw
