import TableDraw.Proofs.Listing
import TableDraw.Proofs.RoundTrip

set_option autoImplicit false

/-!
Reading an outcome back from its text. The text tells the whole outcome, whichever form it has,
provided that its numbers can be counted in 64 bits; those of a partition can if its players can.
-/

namespace TableDraw

open Json

namespace Run

/-- A listing whose places can be counted in 64 bits. -/
def Listing.Fits : Listing → Prop
  | tables seating => seating.Fits
  | seats records => ∀ r ∈ records, r.Fits

namespace Output

/-- The fields of an outcome that were read so far. -/
structure Fields where
  seed : Option Int64 := none
  seedUsed : Option Int64 := none
  attempts : Option Nat := none
  listing : Option Listing := none

/-- Outcomes as a record. -/
def record : Json.Record Fields Output where
  name := "DrawOutput"
  fields := [
    ⟨"seed", Reader.signed.map (fun v fields => { fields with seed := some v }), (·.seed.isSome)⟩,
    ⟨"seed_used", Reader.signed.map (fun v fields => { fields with seedUsed := some v }),
      (·.seedUsed.isSome)⟩,
    ⟨"attempts", (Reader.unsigned.map UInt64.toNat).map
      (fun v fields => { fields with attempts := some v }), (·.attempts.isSome)⟩,
    ⟨"tables", (Seating.reader.map Listing.tables).map
      (fun v fields => { fields with listing := some v }), (·.listing.isSome)⟩,
    ⟨"seats", ((Reader.list SeatRecord.record.reader).map Listing.seats).map
      (fun v fields => { fields with listing := some v }), (·.listing.isSome)⟩]
  blank := {}
  build fields :=
    do return ⟨← fields.seed, ← fields.seedUsed, ← fields.attempts, ← fields.listing⟩

/-- Reads the outcome that a text spells. -/
def parse (text : List Char) : Except Json.Error Output := record.reader.parse text

theorem reads_document {o : Output} (counted : o.attempts < 2 ^ 64) (fits : o.listing.Fits) :
    record.reader.Reads o.document o := by
  obtain ⟨seed, seedUsed, attempts, listing⟩ := o
  have fills : record.Fills record.blank [("seed", .integer seed.toInt),
      ("seed_used", .integer seedUsed.toInt), ("attempts", .integer attempts), listing.document]
      ⟨some seed, some seedUsed, some attempts, some listing⟩ := by
    refine .member (by decide) rfl rfl (Reader.signed_reads seed) ?_
    refine .member (by decide) rfl rfl (Reader.signed_reads seedUsed) ?_
    refine .member (by decide) rfl rfl (Reader.unsigned_toNat_reads counted) ?_
    cases listing with
    | tables seating =>
        have reads := (Seating.reads_document fits).map Listing.tables
        exact .member (by decide) rfl rfl reads (.done _)
    | seats records =>
        have each := fun r member => SeatRecord.reads_document (fits r member)
        have reads := (Reader.list_reads each).map Listing.seats
        exact .member (by decide) rfl rfl reads (.done _)
  exact Record.reader_reads fills rfl

end Output

end Run

namespace Partition

variable {r : Roster} {s : Seating}

theorem table_lt (partition : Partition r s) (small : r.totalPlayers < 2 ^ 64) : s.Fits := by
  intro table member
  rw [partition.numbers, List.mem_range] at member
  calc
    table < r.numberOfTables := member
    _ ≤ r.totalPlayers := Nat.div_le_self _ _
    _ < 2 ^ 64 := small

theorem place_lt (partition : Partition r s) (small : r.totalPlayers < 2 ^ 64) :
    ∀ record ∈ s.seatRecords, record.Fits := by
  intro record member
  obtain ⟨e, entry, member⟩ := List.mem_flatMap.mp member
  constructor
  · rw [Seating.table_of_mem_tableRecords member]
    exact partition.table_lt small e.1 (List.mem_map_of_mem entry)
  · have seat : record.seat ∈ (Seating.tableRecords e.1 0 e.2).map SeatRecord.seat :=
      List.mem_map_of_mem member
    have full := partition.full e.2 (List.mem_map_of_mem entry)
    have size := r.tableSize.toNat_lt
    rw [Seating.map_seat_tableRecords, List.mem_range'_1] at seat
    omega

/-- A partition can be listed in either form. -/
theorem fits (partition : Partition r s) (small : r.totalPlayers < 2 ^ 64) (records : Bool) :
    (Run.listingOf records s).Fits := by
  cases records with
  | false => exact partition.table_lt small
  | true => exact partition.place_lt small

end Partition

end TableDraw
