import TableDraw.Proofs.Seating
import TableDraw.Proofs.SortedMap

set_option autoImplicit false

/-!
The records of a seating: in which order they come, how they count seats, and what can be made of
them again. A seating and its records tell the same, but for the tables at which nobody sits.
-/

namespace TableDraw

namespace SeatRecord

/-- The player of a record. -/
def whose (r : SeatRecord) : Player := ⟨r.player, r.team⟩

/-- A place that comes first: at an earlier table, or at an earlier seat of the same one. -/
def Before (a b : SeatRecord) : Prop := a.table < b.table ∨ (a.table = b.table ∧ a.seat < b.seat)

/-- The records of one table among others. -/
def ofTable (table : TableId) (records : List SeatRecord) : List SeatRecord :=
  records.filter (fun r => r.table == table)

end SeatRecord

namespace Seating

section Table

variable {table : TableId} {seat : Nat}

theorem table_of_mem_tableRecords {players : List Player} {r : SeatRecord}
    (member : r ∈ tableRecords table seat players) : r.table = table := by
  induction players generalizing seat with
  | nil => cases member
  | cons p rest ih =>
      rcases List.mem_cons.mp member with rfl | member
      · rfl
      · exact ih member

theorem map_whose_tableRecords (players : List Player) :
    (tableRecords table seat players).map SeatRecord.whose = players := by
  induction players generalizing seat with
  | nil => rfl
  | cons p rest ih =>
      rw [tableRecords, List.map_cons, ih]
      rfl

theorem map_seat_tableRecords (players : List Player) :
    (tableRecords table seat players).map SeatRecord.seat = List.range' seat players.length := by
  induction players generalizing seat with
  | nil => rfl
  | cons p rest ih => rw [tableRecords, List.map_cons, ih, List.length_cons, List.range'_succ]

theorem tableRecords_ordered (players : List Player) :
    (tableRecords table seat players).Pairwise SeatRecord.Before := by
  have seats : ((tableRecords table seat players).map SeatRecord.seat).Pairwise (· < ·) := by
    rw [map_seat_tableRecords]
    exact List.pairwise_lt_range'
  apply (List.pairwise_map.mp seats).imp_of_mem
  intro a b first second below
  have same : a.table = b.table := by
    rw [table_of_mem_tableRecords first, table_of_mem_tableRecords second]
  exact .inr ⟨same, below⟩

theorem ofTable_tableRecords (own : TableId) (players : List Player) :
    SeatRecord.ofTable own (tableRecords table seat players) =
      if table = own then tableRecords table seat players else [] := by
  by_cases here : table = own
  · rw [if_pos here]
    apply List.filter_eq_self.mpr
    intro r member
    rw [table_of_mem_tableRecords member, here, beq_self_eq_true]
  · rw [if_neg here]
    apply List.filter_eq_nil_iff.mpr
    intro r member
    rw [table_of_mem_tableRecords member, beq_iff_eq]
    exact here

end Table

section Records

theorem seatRecords_ordered (s : Seating) : s.seatRecords.Pairwise SeatRecord.Before := by
  apply List.pairwise_flatMap.mpr
  refine ⟨fun e _ => tableRecords_ordered e.2, s.tables.ascending.imp ?_⟩
  intro e e' below a first b second
  rw [← table_of_mem_tableRecords first, ← table_of_mem_tableRecords second] at below
  exact .inl below

theorem map_player_seatRecords (s : Seating) :
    s.seatRecords.map SeatRecord.player = s.playerIds := by
  have table (e : TableId × List Player) :
      (tableRecords e.1 0 e.2).map SeatRecord.player = e.2.map Player.id := by
    calc
      (tableRecords e.1 0 e.2).map SeatRecord.player
          = ((tableRecords e.1 0 e.2).map SeatRecord.whose).map Player.id := by
            rw [List.map_map]
            rfl
      _ = e.2.map Player.id := by rw [map_whose_tableRecords]
  rw [seatRecords, List.map_flatMap, playerIds, SortedMap.values, List.flatMap_map]
  exact List.flatMap_congr (fun e _ => table e)

/-- Only one entry has records of a table, so the induction finds it and nothing behind it. -/
theorem ofTable_flatMap {entries : List (TableId × List Player)}
    (ascending : entries.Pairwise (fun a b => a.1 < b.1)) (table : TableId) :
    SeatRecord.ofTable table (entries.flatMap (fun e => tableRecords e.1 0 e.2)) =
      tableRecords table 0 ((entries.lookup table).getD []) := by
  induction entries with
  | nil => rfl
  | cons e rest ih =>
      obtain ⟨own, players⟩ := e
      obtain ⟨above, tail⟩ := List.pairwise_cons.mp ascending
      rw [List.flatMap_cons, SeatRecord.ofTable, List.filter_append, ← SeatRecord.ofTable,
        ← SeatRecord.ofTable, ih tail, ofTable_tableRecords, List.lookup_cons]
      by_cases here : own = table
      · have missing : rest.lookup table = none := by
          apply List.lookup_eq_none_iff.mpr
          intro e member
          have below : own < e.1 := above e member
          rw [bne_iff_ne, ← here]
          exact Nat.ne_of_lt below
        subst here
        simp only [missing, ↓reduceIte, BEq.rfl, Option.getD_none, Option.getD_some, tableRecords,
          List.append_nil]
      · have apart : (table == own) = false := by
          rw [beq_eq_false_iff_ne]
          exact Ne.symm here
        simp only [here, apart, ↓reduceIte, List.nil_append]

theorem ofTable_seatRecords (s : Seating) (table : TableId) :
    SeatRecord.ofTable table s.seatRecords = tableRecords table 0 ((s.table? table).getD []) :=
  ofTable_flatMap s.tables.ascending table

end Records

section Grouping

/-- Seats the player of a record behind those who sit at the record's table already. -/
def place (s : Seating) (r : SeatRecord) : Seating :=
  ⟨s.tables.insert r.table ((s.table? r.table).getD [] ++ [r.whose])⟩

/-- The seating that records make, one after the other. -/
def ofRecords (records : List SeatRecord) : Seating := records.foldl place empty

/-- The seating without the tables at which nobody sits. -/
def occupied (s : Seating) : Seating := ⟨s.tables.filter (fun players => !players.isEmpty)⟩

theorem table?_place (s : Seating) (r : SeatRecord) (table : TableId) :
    (s.place r).table? table =
      if table = r.table then some ((s.table? table).getD [] ++ [r.whose])
      else s.table? table := by
  show (s.tables.insert r.table _).get? table = _
  rw [SortedMap.get?_insert]
  by_cases here : table = r.table
  · simp only [here, BEq.rfl, ↓reduceIte]
  · simp only [here, beq_iff_eq, ↓reduceIte]
    rfl

/-- The players of a table, if there are any. -/
def anyone (players : List Player) : Option (List Player) :=
  (some players).filter (fun players => !players.isEmpty)

theorem getD_anyone (players : List Player) : (anyone players).getD [] = players := by
  cases players <;> rfl

theorem anyone_append_singleton (players : List Player) (p : Player) :
    anyone (players ++ [p]) = some (players ++ [p]) := by
  cases players <;> rfl

/-- The induction is on the records, of which the last is seated last. -/
theorem table?_ofRecords (records : List SeatRecord) (table : TableId) :
    (ofRecords records).table? table =
      anyone ((SeatRecord.ofTable table records).map SeatRecord.whose) := by
  induction records using List.reverseRecOn with
  | nil => rfl
  | append_singleton records r ih =>
      have last : ofRecords (records ++ [r]) = (ofRecords records).place r := by
        simp only [ofRecords, List.foldl_append, List.foldl_cons, List.foldl_nil]
      simp only [SeatRecord.ofTable] at ih
      rw [last, table?_place, ih, SeatRecord.ofTable, List.filter_append]
      by_cases here : table = r.table
      · have kept : [r].filter (fun r => r.table == table) = [r] := by simp [here]
        rw [if_pos here, kept, List.map_append, List.map_singleton, getD_anyone,
          anyone_append_singleton]
      · have dropped : [r].filter (fun r => r.table == table) = [] := by simp [Ne.symm here]
        rw [if_neg here, dropped, List.append_nil]

/-- Grouped by table, the records of a seating make its occupied tables. -/
theorem ofRecords_seatRecords (s : Seating) : ofRecords s.seatRecords = s.occupied := by
  apply Seating.ext
  apply SortedMap.ext_get?
  intro table
  show (ofRecords s.seatRecords).table? table = (s.tables.filter _).get? table
  rw [table?_ofRecords, ofTable_seatRecords, map_whose_tableRecords, SortedMap.get?_filter]
  show _ = (s.table? table).filter _
  cases s.table? table <;> rfl

example : ofRecords (Seating.ofList [(7, [⟨4, 1⟩, ⟨4, 2⟩]), (3, [])]).seatRecords =
    .ofList [(7, [⟨4, 1⟩, ⟨4, 2⟩])] := by
  decide

theorem occupied_eq_self {s : Seating} (seated : ∀ table ∈ s.tables.values, table ≠ []) :
    s.occupied = s := by
  apply Seating.ext
  apply SortedMap.ext
  apply List.filter_eq_self.mpr
  intro e member
  have somebody : e.2 ≠ [] := seated e.2 (List.mem_map_of_mem member)
  cases players : e.2 with
  | nil => exact absurd players somebody
  | cons p rest => rfl

end Grouping

end Seating

end TableDraw
