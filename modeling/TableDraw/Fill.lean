import TableDraw.Seating

set_option autoImplicit false

/-!
Filling tables greedily. In each round every table, in turn, takes the first player of the pool
whose team does not sit there yet; a table for which nobody qualifies is passed over. Nothing is
taken back, so players may be left over.
-/

namespace TableDraw.Fill

/-- Tables, by number, and the players without a seat. -/
structure Outcome where
  tables : List (List Player)
  leftover : List Player
  deriving DecidableEq, Repr, Inhabited

namespace Outcome

/-- Whether everybody has a seat. -/
def isComplete (o : Outcome) : Bool := o.leftover.isEmpty

/-- The tables as a seating. -/
def seating (o : Outcome) : Seating := .ofTables o.tables

end Outcome

/-- Whether a player may join a table: nobody of their team sits there. -/
def mayJoin (table : List Player) (p : Player) : Bool :=
  table.all (fun seated => seated.team != p.team)

/-- One table's turn: the first player who may join it leaves the pool for its next seat. -/
def visit (table pool : List Player) : List Player × List Player :=
  match pool.find? (mayJoin table) with
  | some p => (table ++ [p], pool.eraseP (mayJoin table))
  | none => (table, pool)

/-- One turn for each table. -/
def round : List (List Player) → List Player → Outcome
  | [], pool => ⟨[], pool⟩
  | table :: rest, pool =>
      let next := visit table pool
      let after := round rest next.2
      ⟨next.1 :: after.tables, after.leftover⟩

/-- So many rounds. A round that seats nobody is the last one: any further round would find the same
tables and the same pool. -/
def rounds : Nat → List (List Player) → List Player → Outcome
  | 0, tables, pool => ⟨tables, pool⟩
  | n + 1, tables, pool =>
      let after := round tables pool
      if after.leftover.length = pool.length then after
      else rounds n after.tables after.leftover

end TableDraw.Fill

namespace TableDraw

/-- Fills `tableCount` empty tables of `tableSize` seats each from a pool. -/
def fill (pool : List Player) (tableSize tableCount : Nat) : Fill.Outcome :=
  Fill.rounds tableSize (List.replicate tableCount []) pool

end TableDraw
