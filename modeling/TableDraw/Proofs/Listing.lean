import TableDraw.Proofs.Partition
import TableDraw.Proofs.Replay
import TableDraw.Proofs.SeatRecords

set_option autoImplicit false

/-!
The two forms of an outcome. Whether a run lists seats or tables, it makes the same draw, and the one
list can be made of the other: a draw that succeeds leaves no table empty.
-/

namespace TableDraw

/-- The names of an object's members. -/
def Json.Document.names : Json.Document → List String
  | object members => members.map Prod.fst
  | _ => []

namespace Run

/-- The outcomes of a run that lists seats and of one that lists tables: the same failure, or the
same draw in its two forms. -/
inductive Agree : Except Failure Output → Except Failure Output → Prop
  | failed (failure : Failure) : Agree (.error failure) (.error failure)
  | drawn {seed seedUsed : Int64} {attempts : Nat} {seats : List SeatRecord} {seating : Seating}
      (seated : ∀ table ∈ seating.tables.values, table ≠ [])
      (listed : seats = seating.seatRecords) (grouped : Seating.ofRecords seats = seating) :
      Agree (.ok ⟨seed, seedUsed, attempts, .seats seats⟩)
        (.ok ⟨seed, seedUsed, attempts, .tables seating⟩)

theorem names_document (o : Output) :
    (∃ seats, o.listing = .seats seats ∧
      o.document.names = ["seed", "seed_used", "attempts", "seats"]) ∨
    (∃ seating, o.listing = .tables seating ∧
      o.document.names = ["seed", "seed_used", "attempts", "tables"]) := by
  obtain ⟨seed, seedUsed, attempts, listing⟩ := o
  cases listing with
  | seats seats => exact .inl ⟨seats, rfl, rfl⟩
  | tables seating => exact .inr ⟨seating, rfl, rfl⟩

theorem agree (settings : Settings) (content : Except FileError Bytes) (clock : Nat → Duration) :
    Agree (run { settings with records := true } content clock).outcome
      (run { settings with records := false } content clock).outcome := by
  rw [run_eq, run_eq]
  cases loadRoster settings.roster content with
  | error failure => exact .failed failure
  | ok roster =>
      simp only [conclude]
      cases drawn : (draw roster settings.limits settings.seed clock).outcome with
      | error failure => exact .failed (.draw failure)
      | ok report =>
          obtain ⟨valid, partition⟩ := Draw.sound_of_success drawn
          have seated := partition.nonempty valid
          have grouped : Seating.ofRecords report.seating.seatRecords = report.seating := by
            rw [Seating.ofRecords_seatRecords, Seating.occupied_eq_self seated]
          exact .drawn seated rfl grouped

end Run

/-- Seats and tables tell the same. The records of a seating are in the order of their places, count
the seats of each table from zero, name the seated players, and make the occupied tables again if
they are grouped by table. So a run that lists seats and one that lists tables, on the same file and
at the same times, fail alike, or report the same draw, and neither lists both. -/
theorem seats_and_tables_agree :
    (∀ s : Seating, s.seatRecords.Pairwise SeatRecord.Before ∧
      (∀ table, (SeatRecord.ofTable table s.seatRecords).map SeatRecord.seat =
        List.range ((s.table? table).getD []).length) ∧
      s.seatRecords.map SeatRecord.player = s.playerIds ∧
      Seating.ofRecords s.seatRecords = s.occupied) ∧
    (∀ (settings : Settings) (content : Except FileError Bytes) (clock : Nat → Duration),
      Run.Agree (run { settings with records := true } content clock).outcome
        (run { settings with records := false } content clock).outcome) ∧
    (∀ o : Run.Output,
      (∃ seats, o.listing = .seats seats ∧
        o.document.names = ["seed", "seed_used", "attempts", "seats"]) ∨
      (∃ seating, o.listing = .tables seating ∧
        o.document.names = ["seed", "seed_used", "attempts", "tables"])) := by
  refine ⟨?_, Run.agree, Run.names_document⟩
  intro s
  refine ⟨s.seatRecords_ordered, ?_, s.map_player_seatRecords, s.ofRecords_seatRecords⟩
  intro table
  rw [s.ofTable_seatRecords, Seating.map_seat_tableRecords, List.range_eq_range']

end TableDraw
