import TableDraw.SortedMap
import TableDraw.Player

set_option autoImplicit false

/-!
Seatings: which players sit at which table, and in which order they took their seats. A seating is
also a list of records, one for each taken seat; an empty table has none.
-/

namespace TableDraw

/-- The number of a table, counted from zero. -/
abbrev TableId := Nat

/-- The players at each table, in the order in which they took their seats. -/
@[ext]
structure Seating where
  tables : SortedMap TableId (List Player)
  deriving DecidableEq, Repr, Inhabited

/-- One taken seat. -/
structure SeatRecord where
  table : TableId
  /-- The place at the table, counted from zero. -/
  seat : Nat
  player : PlayerId
  team : TeamId
  deriving DecidableEq, Repr, Inhabited

namespace Seating

/-- No tables. -/
def empty : Seating := ⟨.empty⟩

/-- Entries that number a list of tables upwards from `first`. -/
def numbered (first : TableId) : List (List Player) → List (TableId × List Player)
  | [] => []
  | table :: rest => (first, table) :: numbered (first + 1) rest

theorem le_of_mem_numbered {first : TableId} {tables : List (List Player)}
    {e : TableId × List Player} (h : e ∈ numbered first tables) : first ≤ e.1 := by
  induction tables generalizing first with
  | nil => simp [numbered] at h
  | cons table rest ih =>
    rcases List.mem_cons.1 h with rfl | h
    · exact Nat.le_refl _
    · exact Nat.le_of_succ_le (ih h)

theorem numbered_ascending (first : TableId) (tables : List (List Player)) :
    (numbered first tables).Pairwise (fun a b => a.1 < b.1) := by
  induction tables generalizing first with
  | nil => exact .nil
  | cons table rest ih =>
    exact List.pairwise_cons.2 ⟨fun _ h => Nat.lt_of_succ_le (le_of_mem_numbered h), ih _⟩

/-- The seating of a list of tables, numbered from zero. -/
def ofTables (tables : List (List Player)) : Seating :=
  ⟨⟨numbered 0 tables, numbered_ascending 0 tables⟩⟩

/-- The seating of so many empty tables. -/
def ofTableCount (count : Nat) : Seating := ofTables (List.replicate count [])

/-- The seating that lists tables with their numbers; the last list of a table counts. -/
def ofList (tables : List (TableId × List Player)) : Seating := ⟨.ofList tables⟩

/-- The number of tables. -/
def size (s : Seating) : Nat := s.tables.size

/-- Whether there is no table at all. -/
def isEmpty (s : Seating) : Bool := s.tables.entries.isEmpty

/-- The players at a table, if there is such a table. -/
def table? (s : Seating) (table : TableId) : Option (List Player) := s.tables.get? table

/-- Every seated player's number, table by table. -/
def playerIds (s : Seating) : List PlayerId :=
  s.tables.values.flatMap (fun players => players.map Player.id)

/-- The records of one table, for players who sit at places `seat`, `seat + 1`, … -/
def tableRecords (table : TableId) (seat : Nat) : List Player → List SeatRecord
  | [] => []
  | p :: rest => ⟨table, seat, p.id, p.team⟩ :: tableRecords table (seat + 1) rest

/-- One record for each taken seat, by table and then by seat. -/
def seatRecords (s : Seating) : List SeatRecord :=
  s.tables.entries.flatMap (fun e => tableRecords e.1 0 e.2)

end Seating

end TableDraw
