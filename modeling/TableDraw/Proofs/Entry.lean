import Mathlib.Data.List.Dedup
import TableDraw.Proofs.Budget
import TableDraw.Roster.Json

set_option autoImplicit false

/-!
Entering teams into a roster. The order in which they are entered leaves no trace: all that counts
is the list of players that was entered last for each team.
-/

namespace TableDraw

namespace Roster

/-- The roster of given sizes with teams entered one after the other. -/
def enter (teamSize tableSize : UInt64) (calls : List (TeamId × List PlayerId)) : Roster :=
  calls.foldl (fun r call => r.withTeam call.1 call.2) (ofSizes teamSize tableSize)

/-- The list of players that was entered last for a team. -/
def lastEntered (calls : List (TeamId × List PlayerId)) (team : TeamId) : Option (List PlayerId) :=
  calls.reverse.lookup team

/-- The teams that were entered, in ascending order, each once. -/
def enteredTeams (calls : List (TeamId × List PlayerId)) : List TeamId :=
  (calls.map Prod.fst).dedup.mergeSort (fun a b => decide (a ≤ b))

theorem enter_eq (teamSize tableSize : UInt64) (calls : List (TeamId × List PlayerId)) :
    enter teamSize tableSize calls = ⟨.ofList calls, teamSize, tableSize⟩ := by
  have step : ∀ m : SortedMap TeamId (List PlayerId),
      calls.foldl (fun r call => r.withTeam call.1 call.2) (⟨m, teamSize, tableSize⟩ : Roster) =
        ⟨calls.foldl (fun m call => m.insert call.1 call.2) m, teamSize, tableSize⟩ := by
    induction calls with
    | nil => exact fun _ => rfl
    | cons call rest ih => exact fun m => ih (m.insert call.1 call.2)
  exact step .empty

theorem get?_enter (teamSize tableSize : UInt64) (calls : List (TeamId × List PlayerId))
    (team : TeamId) :
    (enter teamSize tableSize calls).teams.get? team = lastEntered calls team := by
  rw [enter_eq]
  exact SortedMap.get?_ofList calls team

theorem isSome_lastEntered (calls : List (TeamId × List PlayerId)) (team : TeamId) :
    (lastEntered calls team).isSome ↔ team ∈ calls.map Prod.fst := by
  rw [lastEntered, SortedMap.isSome_lookup_iff, List.map_reverse, List.mem_reverse]

theorem enteredTeams_ascending (calls : List (TeamId × List PlayerId)) :
    (enteredTeams calls).Pairwise (· < ·) := by
  have sorted : (enteredTeams calls).Pairwise (fun a b => decide (a ≤ b) = true) := by
    apply List.pairwise_mergeSort
    · intro a b c first second
      exact decide_eq_true (Int64.le_trans (of_decide_eq_true first) (of_decide_eq_true second))
    · intro a b
      rw [Bool.or_eq_true, decide_eq_true_eq, decide_eq_true_eq]
      exact Int64.le_total a b
  have distinct : (enteredTeams calls).Nodup :=
    (List.mergeSort_perm _ _).nodup_iff.mpr (List.nodup_dedup _)
  exact sorted.imp₂ (fun a b below apart => Int64.lt_of_le_of_ne (of_decide_eq_true below) apart)
    distinct

theorem keys_enter (teamSize tableSize : UInt64) (calls : List (TeamId × List PlayerId)) :
    (enter teamSize tableSize calls).teams.keys = enteredTeams calls := by
  apply (SortedMap.keys_ascending _).eq_of_mem_iff (enteredTeams_ascending calls)
  intro team
  rw [SortedMap.mem_keys_iff, get?_enter, isSome_lastEntered, enteredTeams, List.mem_mergeSort,
    List.mem_dedup]

/-- Rosters are equal if the same players were entered last for each team. -/
theorem enter_eq_of_lastEntered {calls calls' : List (TeamId × List PlayerId)}
    (same : ∀ team, lastEntered calls team = lastEntered calls' team)
    (teamSize tableSize : UInt64) :
    enter teamSize tableSize calls = enter teamSize tableSize calls' := by
  have teams : SortedMap.ofList calls = SortedMap.ofList calls' := by
    apply SortedMap.ext_get?
    intro team
    rw [SortedMap.get?_ofList, SortedMap.get?_ofList]
    exact same team
  rw [enter_eq, enter_eq, teams]

end Roster

/-- The order in which teams are entered never matters. The pool lists the teams in ascending order,
each with the players that were entered last for it, in the order in which they were listed. So
rosters for which the same players were entered last for each team are equal, pass or fail the same
check, have the same pool and the same text, and without a deadline every draw of them comes to the
same. -/
theorem entry_order_irrelevant (teamSize tableSize : UInt64)
    (calls : List (TeamId × List PlayerId)) :
    (Roster.enter teamSize tableSize calls).pool = (Roster.enteredTeams calls).flatMap
      (fun team => ((Roster.lastEntered calls team).getD []).map (fun id => ⟨id, team⟩)) ∧
    (∀ calls' : List (TeamId × List PlayerId),
      (∀ team, Roster.lastEntered calls team = Roster.lastEntered calls' team) →
      let r := Roster.enter teamSize tableSize calls
      let r' := Roster.enter teamSize tableSize calls'
      r = r' ∧ r.check = r'.check ∧ r.pool = r'.pool ∧ r.text = r'.text ∧
      (∀ limits seed clock clock', limits.deadline = none →
        (draw r limits seed clock).outcome = (draw r' limits seed clock').outcome)) := by
  constructor
  · rw [Roster.pool_eq_flatMap_keys, Roster.keys_enter]
    simp only [Roster.get?_enter]
  · intro calls' same r r'
    have equal : r = r' := Roster.enter_eq_of_lastEntered same teamSize tableSize
    rw [← equal]
    refine ⟨rfl, rfl, rfl, rfl, ?_⟩
    intro limits seed clock clock' unlimited
    exact Draw.draw_clock_irrelevant r unlimited seed clock clock'

/-- Team numbers are signed, and a team that is entered anew gives up its former players. -/
example : (Roster.enter 1 1 [(3, [30]), (-2, [20]), (3, [31])]).pool = [⟨20, -2⟩, ⟨31, 3⟩] := by
  decide

/-- The sparse roster does not tell that one of its teams was entered anew and another one late. -/
theorem entry_order_irrelevant_sparse :
    let calls : List (TeamId × List PlayerId) :=
      [(900, [1]), (40, [8, 2]), (900, [5, -1]), (7, [5, 5])]
    let calls' : List (TeamId × List PlayerId) := [(900, [5, -1]), (7, [5, 5]), (40, [8, 2])]
    (∀ team, Roster.lastEntered calls team = Roster.lastEntered calls' team) ∧
    Roster.enter 2 2 calls = Roster.sparse ∧
    Roster.sparse.pool = (Roster.enteredTeams calls').flatMap
      (fun team => ((Roster.lastEntered calls' team).getD []).map (fun id => ⟨id, team⟩)) := by
  intro calls calls'
  have same : ∀ team, Roster.lastEntered calls team = Roster.lastEntered calls' team := by
    intro team
    simp only [calls, calls', Roster.lastEntered, List.reverse_cons, List.reverse_nil,
      List.nil_append, List.cons_append, List.lookup_cons, List.lookup_nil]
    cases seven : team == 7 with
    | true =>
        rw [eq_of_beq seven]
        rfl
    | false =>
        cases nine : team == 900 with
        | true =>
            rw [eq_of_beq nine]
            rfl
        | false => rfl
  exact ⟨same, ((entry_order_irrelevant 2 2 calls).2 calls' same).1,
    (entry_order_irrelevant 2 2 calls').1⟩

end TableDraw
