import TableDraw.Proofs.Json.Fields
import TableDraw.Roster.Json
import TableDraw.Seating.Json

set_option autoImplicit false

/-!
JSON loses nothing: what is written is read back as it was, in either layout. Numbers go to the very
ends of 64 bits, also as keys, and lists and objects may be empty. The members of an object stand in
the order of their numbers, not of their digits.
-/

namespace TableDraw

open Json

namespace Player

theorem reads_document (p : Player) : record.reader.Reads p.document p := by
  have fills : record.Fills record.blank [("id", .integer p.id.toInt),
      ("team_id", .integer p.team.toInt)] ⟨some p.id, some p.team⟩ := by
    refine .member (by decide) rfl rfl (Reader.signed_reads p.id) ?_
    refine .member (by decide) rfl rfl (Reader.signed_reads p.team) ?_
    exact .done _
  exact Record.reader_reads fills rfl

end Player

namespace SeatRecord

/-- A record of a place that can be counted in 64 bits. -/
def Fits (r : SeatRecord) : Prop := r.table < 2 ^ 64 ∧ r.seat < 2 ^ 64

theorem reads_document {r : SeatRecord} (fits : r.Fits) : record.reader.Reads r.document r := by
  have fills : record.Fills record.blank [("table_id", .integer r.table),
      ("seat", .integer r.seat), ("player_id", .integer r.player.toInt),
      ("team_id", .integer r.team.toInt)]
      ⟨some (UInt64.ofNat r.table).toNat, some (UInt64.ofNat r.seat).toNat, some r.player,
        some r.team⟩ := by
    refine .member (by decide) rfl rfl (Reader.unsigned_reads fits.1) ?_
    refine .member (by decide) rfl rfl (Reader.unsigned_reads fits.2) ?_
    refine .member (by decide) rfl rfl (Reader.signed_reads r.player) ?_
    refine .member (by decide) rfl rfl (Reader.signed_reads r.team) ?_
    exact .done _
  apply Record.reader_reads fills
  rw [UInt64.toNat_ofNat_of_lt' fits.1, UInt64.toNat_ofNat_of_lt' fits.2]
  rfl

end SeatRecord

namespace Roster

/-- Reads the teams as members in the order in which they stand. -/
def teamMembers : Reader (List (TeamId × List PlayerId)) := .listed .signed (.list .signed)

/-- The object of teams that are listed in any order. -/
def listing (teams : List (TeamId × List PlayerId)) : Document :=
  .object (teams.map (fun e => (toString e.1, .list (e.2.map (fun id => .integer id.toInt)))))

theorem listing_reads (teams : List (TeamId × List PlayerId)) :
    teamMembers.Reads (listing teams) teams := by
  unfold teamMembers listing
  apply Reader.listed_reads
  case names => exact fun e _ => Reader.signed_readsKey e.1
  case reads => exact fun e _ => Reader.list_reads (fun id _ => Reader.signed_reads id)

theorem teamMembers_reads (teams : SortedMap TeamId (List PlayerId)) :
    teamMembers.Reads (teamsDocument teams) teams.entries :=
  listing_reads teams.entries

theorem reads_document (r : Roster) : record.reader.Reads r.document r := by
  have fills : record.Fills record.blank [("teams", teamsDocument r.teams),
      ("team_size", .integer r.teamSize.toNat), ("table_size", .integer r.tableSize.toNat)]
      ⟨some r.teams, some r.teamSize, some r.tableSize⟩ := by
    refine .member (by decide) rfl rfl (Reader.sortedMap_reads (teamMembers_reads r.teams)) ?_
    refine .member (by decide) rfl rfl (Reader.unsigned_reads_toNat r.teamSize) ?_
    refine .member (by decide) rfl rfl (Reader.unsigned_reads_toNat r.tableSize) ?_
    exact .done _
  exact Record.reader_reads fills rfl

/-- The teams are the first member of a roster's text. -/
theorem text_begins (r : Roster) :
    ∃ rest, r.text = "\x7b\"teams\":".toList ++ ((teamsDocument r.teams).compact ++ rest) := by
  simp only [text, document, Document.compact, Document.compactMembers, Document.keyText,
    List.append_assoc, List.cons_append]
  exact ⟨_, rfl⟩

end Roster

namespace Seating

/-- Reads the tables as members in the order in which they stand. -/
def tableMembers : Reader (List (TableId × List Player)) :=
  .listed (Reader.unsigned.map UInt64.toNat) (.list Player.record.reader)

/-- A seating whose tables can be numbered in 64 bits. -/
def Fits (s : Seating) : Prop := ∀ table ∈ s.tables.keys, table < 2 ^ 64

theorem tableMembers_reads {s : Seating} (fits : s.Fits) :
    tableMembers.Reads s.document s.tables.entries := by
  unfold tableMembers document
  apply Reader.listed_reads
  case names =>
    intro e member
    exact Reader.unsigned_readsKey (fits e.1 (List.mem_map_of_mem member))
  case reads => exact fun e _ => Reader.list_reads (fun p _ => p.reads_document)

theorem reads_document {s : Seating} (fits : s.Fits) : reader.Reads s.document s :=
  (Reader.sortedMap_reads (tableMembers_reads fits)).map (⟨·⟩ : _ → Seating)

end Seating

theorem Roster.teams_ascending (r : Roster) :
    r.teams.keys.Pairwise (fun a b => a.toInt < b.toInt) :=
  r.teams.keys_ascending.imp Int64.lt_iff_toInt_lt.mp

/-- Every player, seat record, roster and seating is read back from its text, and a seating also
from its lines. The members of a text stand in the ascending order of their numbers: what is read
one after the other are the entries of the map. -/
theorem parse_text :
    (∀ p : Player, Player.parse p.text = .ok p) ∧
    (∀ r : SeatRecord, r.Fits → SeatRecord.parse r.text = .ok r) ∧
    (∀ r : Roster, Roster.parse r.text = .ok r ∧
      r.teams.keys.Pairwise (fun a b => a.toInt < b.toInt) ∧
      ∃ teams rest, r.text = "\x7b\"teams\":".toList ++ (teams ++ rest) ∧
        Roster.teamMembers.parse teams = .ok r.teams.entries) ∧
    (∀ s : Seating, s.Fits →
      Seating.parse s.text = .ok s ∧ Seating.parse s.indentedText = .ok s ∧
      s.tables.keys.Pairwise (· < ·) ∧
      Seating.tableMembers.parse s.text = .ok s.tables.entries ∧
      Seating.tableMembers.parse s.indentedText = .ok s.tables.entries) := by
  refine ⟨?players, ?records, ?rosters, ?seatings⟩
  case players => exact fun p => p.reads_document.parse_compact
  case records => exact fun r fits => (SeatRecord.reads_document fits).parse_compact
  case rosters =>
    intro r
    obtain ⟨rest, begins⟩ := r.text_begins
    have members := (Roster.teamMembers_reads r.teams).parse_compact
    exact ⟨r.reads_document.parse_compact, r.teams_ascending, _, rest, begins, members⟩
  case seatings =>
    intro s fits
    have whole := Seating.reads_document fits
    have members := Seating.tableMembers_reads fits
    exact ⟨whole.parse_compact, whole.parse_indented 0, s.tables.keys_ascending,
      members.parse_compact, members.parse_indented 0⟩

/-- A record of the last place that can be counted. -/
def SeatRecord.outermost : SeatRecord :=
  ⟨2 ^ 64 - 1, 2 ^ 64 - 1, Int64.minValue, Int64.maxValue⟩

/-- Tables far apart, one of them empty. -/
def Seating.scattered : Seating :=
  .ofList [(2 ^ 64 - 1, [⟨Int64.minValue, -2⟩, ⟨Int64.maxValue, -2⟩]), (10, []), (2, [⟨0, -1⟩])]

/-- The ends of 64 bits are read back like any other number. -/
theorem parse_text_outermost :
    SeatRecord.parse SeatRecord.outermost.text = .ok .outermost ∧
    Seating.parse Seating.scattered.text = .ok .scattered ∧
    Seating.parse Seating.scattered.indentedText = .ok .scattered := by
  obtain ⟨_, records, _, seatings⟩ := parse_text
  have counted : SeatRecord.outermost.Fits := ⟨by decide, by decide⟩
  have numbered : Seating.scattered.Fits := by
    show ∀ table ∈ Seating.scattered.tables.keys, table < 2 ^ 64
    decide
  obtain ⟨text, lines, _⟩ := seatings .scattered numbered
  exact ⟨records .outermost counted, text, lines⟩

example : (Seating.ofList [(10, []), (2, [])]).text = "\x7b\"2\":[],\"10\":[]\x7d".toList := by
  decide

end TableDraw
