set_option autoImplicit false

/-!
Players and the numbers that name them.
-/

namespace TableDraw

/-- The number that names a team. A roster that passes its check has positive ones only. -/
abbrev TeamId := Int64

/-- The number that names a player. Nothing keeps two players from sharing one. -/
abbrev PlayerId := Int64

/-- A player together with the team they play for. -/
structure Player where
  id : PlayerId
  team : TeamId
  deriving DecidableEq, Repr, Inhabited

end TableDraw
