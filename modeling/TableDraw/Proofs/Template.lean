import Mathlib.Data.Nat.Find
import TableDraw.Proofs.Partition

set_option autoImplicit false

/-!
A draw does not know who its players are: the places on a roster that it seats, and at which seats,
depend on the numbers of teams, players and seats and on the seed alone.
-/

namespace TableDraw

/-- A place on a roster: the rank of a team among the ascending team numbers, and a position in the
list of that team's players. Both are counted from zero. -/
structure Place where
  rank : Nat
  position : Nat

namespace Place

/-- The places on a roster of `teams` teams with `size` players each, in the order of its pool. -/
def all (teams size : Nat) : List Place :=
  (List.range teams).flatMap (fun rank => (List.range size).map (fun position => ⟨rank, position⟩))

theorem mem_all (teams size : Nat) (place : Place) :
    place ∈ all teams size ↔ place.rank < teams ∧ place.position < size := by
  obtain ⟨rank, position⟩ := place
  simp [all]

/-- A player who stands for whoever holds a place: the rank is their team, the position their own
number. -/
def standIn (place : Place) : Player :=
  ⟨Int64.ofNat place.position, Int64.ofNat place.rank⟩

/-- The place that a stand-in stands for. -/
def ofStandIn (p : Player) : Place := ⟨p.team.toUInt64.toNat, p.id.toUInt64.toNat⟩

/-- Stand-ins for all places, in order. -/
def standIns (teams size : Nat) : List Player := (all teams size).map standIn

theorem ofStandIn_standIn {place : Place} (rank : place.rank < 2 ^ 64)
    (position : place.position < 2 ^ 64) : ofStandIn place.standIn = place := by
  simp only [ofStandIn, standIn, Int64.toUInt64_ofNat', UInt64.toNat_ofNat',
    Nat.mod_eq_of_lt rank, Nat.mod_eq_of_lt position]

end Place

namespace Roster

/-- The player who holds a place. -/
def playerAt? (r : Roster) (place : Place) : Option Player :=
  r.teams.entries[place.rank]?.bind
    (fun e => e.2[place.position]?.map (fun id => ⟨id, e.1⟩))

private theorem map_getElem?_range {α : Type} (l : List α) :
    (List.range l.length).map (fun i => l[i]?) = l.map some := by
  apply List.ext_getElem
  · simp
  · intro i _ _
    simp

/-- The pool lists the holders of all places in order. -/
theorem Valid.map_playerAt? {r : Roster} (valid : r.Valid) :
    (Place.all r.teamCount r.teamSize.toNat).map r.playerAt? = r.pool.map some := by
  have row : ∀ e ∈ r.teams.entries, (List.range r.teamSize.toNat).map
      (fun position => e.2[position]?.map (fun id => (⟨id, e.1⟩ : Player))) =
        (e.2.map (fun id => (⟨id, e.1⟩ : Player))).map some := by
    intro e member
    have ids := congrArg (List.map (Option.map (fun id => (⟨id, e.1⟩ : Player))))
      (map_getElem?_range e.2)
    rw [valid.fielded e member] at ids
    simpa only [List.map_map, Function.comp_def, Option.map_some] using ids
  let column (found : Option (TeamId × List PlayerId)) : List (Option Player) :=
    (List.range r.teamSize.toNat).map (fun position =>
      found.bind (fun e => e.2[position]?.map (fun id => ⟨id, e.1⟩)))
  calc (Place.all r.teamCount r.teamSize.toNat).map r.playerAt?
      = (List.range r.teams.entries.length).flatMap
          (fun rank => column r.teams.entries[rank]?) := by
        simp only [Place.all, List.map_flatMap, List.map_map]
        rfl
    _ = (r.teams.entries.map some).flatMap column := by
        rw [← map_getElem?_range, List.flatMap_map]
    _ = r.teams.entries.flatMap (fun e => column (some e)) := List.flatMap_map ..
    _ = r.teams.entries.flatMap
          (fun e => (e.2.map (fun id => (⟨id, e.1⟩ : Player))).map some) :=
        List.flatMap_congr row
    _ = r.pool.map some := by rw [pool, List.map_flatMap]

/-- The holder of the place that a stand-in stands for. -/
def holder (r : Roster) (p : Player) : Player := (r.playerAt? (Place.ofStandIn p)).getD p

/-- Machine words number the places on the roster. -/
def Fits (r : Roster) : Prop := r.teamCount < 2 ^ 64 ∧ r.teamSize.toNat < 2 ^ 64

theorem Valid.fits {r : Roster} (valid : r.Valid)
    (bound : r.teamCount * r.teamSize.toNat < 2 ^ 64) : r.Fits := by
  refine ⟨?_, r.teamSize.toNat_lt⟩
  have factor := Nat.le_mul_of_pos_right r.teamCount valid.teamSize_pos
  omega

theorem Fits.ofStandIn_standIn {r : Roster} (fits : r.Fits) {place : Place}
    (listed : place ∈ Place.all r.teamCount r.teamSize.toNat) :
    Place.ofStandIn place.standIn = place := by
  obtain ⟨rank, position⟩ := (Place.mem_all _ _ _).mp listed
  exact Place.ofStandIn_standIn (Nat.lt_trans rank fits.1) (Nat.lt_trans position fits.2)

theorem Valid.playerAt?_eq_holder {r : Roster} (valid : r.Valid) (fits : r.Fits) {place : Place}
    (listed : place ∈ Place.all r.teamCount r.teamSize.toNat) :
    r.playerAt? place = some (r.holder place.standIn) := by
  have member : r.playerAt? place ∈ r.pool.map some := by
    rw [← valid.map_playerAt?]
    exact List.mem_map_of_mem listed
  obtain ⟨p, _, found⟩ := List.mem_map.mp member
  rw [holder, fits.ofStandIn_standIn listed, ← found, Option.getD_some]

/-- Where every stand-in gives way to the holder of their place, the pool appears. -/
theorem Valid.map_holder {r : Roster} (valid : r.Valid) (fits : r.Fits) :
    (Place.standIns r.teamCount r.teamSize.toNat).map r.holder = r.pool := by
  have injective : Function.Injective (some : Player → Option Player) :=
    fun _ _ => Option.some.inj
  apply List.map_injective_iff.mpr injective
  rw [← valid.map_playerAt?, Place.standIns, List.map_map, List.map_map]
  apply List.map_congr_left
  intro place listed
  exact (valid.playerAt?_eq_holder fits listed).symm

theorem getElem?_keys_of_playerAt? {r : Roster} {place : Place} {p : Player}
    (found : r.playerAt? place = some p) : r.teams.keys[place.rank]? = some p.team := by
  obtain ⟨e, entry, listed⟩ := Option.bind_eq_some_iff.mp found
  obtain ⟨id, _, rfl⟩ := Option.map_eq_some_iff.mp listed
  rw [SortedMap.keys, List.getElem?_map, entry]
  rfl

/-- Teammates hold places of one rank, and only they do. -/
theorem Valid.keepsTeams_holder {r : Roster} (valid : r.Valid) (fits : r.Fits) :
    Fill.KeepsTeams r.holder (Place.standIns r.teamCount r.teamSize.toNat) := by
  intro p p_member q q_member
  obtain ⟨a, a_listed, rfl⟩ := List.mem_map.mp p_member
  obtain ⟨b, b_listed, rfl⟩ := List.mem_map.mp q_member
  have a_team := getElem?_keys_of_playerAt? (valid.playerAt?_eq_holder fits a_listed)
  have b_team := getElem?_keys_of_playerAt? (valid.playerAt?_eq_holder fits b_listed)
  have a_rank := ((Place.mem_all _ _ _).mp a_listed).1
  have inside : a.rank < r.teams.keys.length := by
    rw [SortedMap.length_keys]
    exact a_rank
  constructor
  · intro same
    rw [same, ← b_team] at a_team
    have ranks := (List.getElem?_inj inside r.teams.keys_nodup).mp a_team
    simp only [Place.standIn, ranks]
  · intro same
    have ranks : (Place.ofStandIn a.standIn).rank = (Place.ofStandIn b.standIn).rank :=
      congrArg (fun team : TeamId => team.toUInt64.toNat) same
    rw [fits.ofStandIn_standIn a_listed, fits.ofStandIn_standIn b_listed] at ranks
    rw [ranks, b_team] at a_team
    exact (Option.some.inj a_team).symm

end Roster

namespace Draw

/-- An attempt with a stand-in for every player. -/
def standInAttempt (teams : Nat) (teamSize tableSize : UInt64) (seed : Int64) : Fill.Outcome :=
  fill (shuffle (Place.standIns teams teamSize.toNat) seed) tableSize.toNat
    (teamSize.toNat * teams / tableSize.toNat)

/-- Every attempt is one with stand-ins who then give way to the players themselves. -/
theorem attempt_eq_map {r : Roster} (valid : r.Valid) (fits : r.Fits) (seed : Int64) :
    attempt r seed =
      (standInAttempt r.teamCount r.teamSize r.tableSize seed).map r.holder := by
  have shuffled := shuffle_perm (Place.standIns r.teamCount r.teamSize.toNat) seed
  have keeps : Fill.KeepsTeams r.holder
      (shuffle (Place.standIns r.teamCount r.teamSize.toNat) seed) :=
    fun p p_member q q_member =>
      valid.keepsTeams_holder fits p (shuffled.subset p_member) q (shuffled.subset q_member)
  rw [attempt, ← valid.map_holder fits, shuffle_map, Fill.fill_map keeps]
  rfl

theorem decisive_iff_standIns {r : Roster} (valid : r.Valid) (fits : r.Fits)
    (maxAttempts : UInt32) (seed : Int64) (clock : Nat → Duration) (k : Nat) :
    Decisive r ⟨maxAttempts, none⟩ seed clock k ↔
      (standInAttempt r.teamCount r.teamSize r.tableSize (seedOf seed k)).leftover = [] := by
  rw [decisive_iff_complete rfl]
  change (attempt r (seedOf seed k)).leftover = [] ↔ _
  rw [attempt_eq_map valid fits]
  exact List.map_eq_nil_iff

/-- A successful draw with places in place of their holders. -/
structure Template where
  tables : List (List Place)
  seedUsed : Int64
  attempts : Nat

/-- An outcome seats, seat by seat, who holds the places that a template names, and agrees with it
in all else. -/
inductive Follows (r : Roster) : Except Nat Template → Except Failure Report → Prop
  | exhausted (attempts : Nat) : Follows r (.error attempts) (.error (.exhausted attempts))
  | seated (t : Template) {tables : List (List Player)}
      (named : t.tables.map (List.map r.playerAt?) = tables.map (List.map some)) :
      Follows r (.ok t) (.ok ⟨.ofTables tables, t.seedUsed, t.attempts⟩)

theorem map_playerAt?_standIns {r : Roster} (valid : r.Valid) (fits : r.Fits) (seed : Int64) :
    ((standInAttempt r.teamCount r.teamSize r.tableSize seed).tables.map
        (List.map Place.ofStandIn)).map (List.map r.playerAt?) =
      (attempt r seed).tables.map (List.map some) := by
  have filled := Fill.fill_filled
    (shuffle (Place.standIns r.teamCount r.teamSize.toNat) seed) r.tableSize.toNat
    (r.teamSize.toNat * r.teamCount / r.tableSize.toNat)
  rw [attempt_eq_map valid fits, Fill.Outcome.map, List.map_map, List.map_map]
  apply List.map_congr_left
  intro table member
  simp only [Function.comp_apply, List.map_map]
  apply List.map_congr_left
  intro p seated
  have drawn : p ∈ Place.standIns r.teamCount r.teamSize.toNat :=
    (shuffle_perm _ seed).subset (filled.subset_start member seated)
  obtain ⟨place, listed, rfl⟩ := List.mem_map.mp drawn
  simp only [Function.comp_apply]
  rw [fits.ofStandIn_standIn listed]
  exact valid.playerAt?_eq_holder fits listed

/-- The numbers of a draw have one template for all rosters. -/
theorem exists_template (teams : Nat) (teamSize tableSize : UInt64) (seed : Int64)
    (maxAttempts : UInt32) :
    ∃ t : Except Nat Template, ∀ (r : Roster) (clock : Nat → Duration), r.check = .ok () →
      r.teamCount = teams → r.teamSize = teamSize → r.tableSize = tableSize → r.Fits →
      Follows r t (draw r ⟨maxAttempts, none⟩ seed clock).outcome := by
  classical
  by_cases found : ∃ k, 1 ≤ k ∧ k ≤ maxAttempts.toNat ∧
      (standInAttempt teams teamSize tableSize (seedOf seed k)).leftover = []
  · obtain ⟨first, last, seats⟩ := Nat.find_spec found
    have before := fun k => Nat.find_min' found (m := k)
    generalize Nat.find found = k at first last seats before
    refine ⟨.ok ⟨(standInAttempt teams teamSize tableSize (seedOf seed k)).tables.map
      (List.map Place.ofStandIn), seedOf seed k, k⟩, ?_⟩
    rintro r clock valid rfl rfl rfl fits
    have sound := (Roster.check_eq_ok_iff r).mp valid
    have decisive := decisive_iff_standIns sound fits maxAttempts seed clock
    have least : IsLeast (decisiveAttempts r ⟨maxAttempts, none⟩ seed clock) k := by
      refine ⟨⟨first, last, (decisive k).mpr seats⟩, ?_⟩
      rintro m ⟨first', last', ends⟩
      exact before m ⟨first', last', (decisive m).mp ends⟩
    have ending := draw_ending valid ⟨maxAttempts, none⟩ seed clock
    rw [ending.report_of_least least (not_passed_of_unlimited rfl clock k)]
    exact .seated _ (map_playerAt?_standIns sound fits _)
  · refine ⟨.error maxAttempts.toNat, ?_⟩
    rintro r clock valid rfl rfl rfl fits
    have sound := (Roster.check_eq_ok_iff r).mp valid
    have ending := draw_ending valid ⟨maxAttempts, none⟩ seed clock
    rw [ending.exhausted_of_none]
    · exact .exhausted _
    · intro k first last decisive
      exact found ⟨k, first, last, (decisive_iff_standIns sound fits _ _ _ k).mp decisive⟩

/-- The report with every player replaced. -/
def Report.map (f : Player → Player) (report : Report) : Report :=
  { report with seating := report.seating.map f }

/-- Two rosters that follow one template differ in the names at the seats only. -/
theorem Follows.eq_map {r s : Roster} {f : Player → Player}
    (holders : ∀ place, s.playerAt? place = (r.playerAt? place).map f)
    {t : Except Nat Template} {o o' : Except Failure Report}
    (follows : Follows r t o) (follows' : Follows s t o') : o' = o.map (Report.map f) := by
  cases follows with
  | exhausted attempts =>
      cases follows' with
      | exhausted => rfl
  | @seated t tables named =>
      cases follows' with
      | @seated _ tables' named' =>
          have names : s.playerAt? = fun place => (r.playerAt? place).map f := funext holders
          have renamed : tables'.map (List.map some) =
              (tables.map (List.map f)).map (List.map some) := by
            calc tables'.map (List.map some)
                = t.tables.map (List.map s.playerAt?) := named'.symm
              _ = (t.tables.map (List.map r.playerAt?)).map (List.map (Option.map f)) := by
                  rw [names]
                  simp only [List.map_map, Function.comp_def]
              _ = (tables.map (List.map f)).map (List.map some) := by
                  rw [named]
                  simp only [List.map_map, Function.comp_def, Option.map_some]
          have injective : Function.Injective (some : Player → Option Player) :=
            fun _ _ => Option.some.inj
          have same : tables' = tables.map (List.map f) :=
            List.map_injective_iff.mpr (List.map_injective_iff.mpr injective) renamed
          rw [same, ← Seating.map_ofTables]
          rfl

end Draw

/-- The player under another number, in a team under another number. -/
def Player.renumber (player : PlayerId → PlayerId) (team : TeamId → TeamId) (p : Player) : Player :=
  ⟨player p.id, team p.team⟩

/-- The roster `s` lists the teams of `r` in the same order, but teams and players under other
numbers. -/
structure Roster.Renumbered (player : PlayerId → PlayerId) (team : TeamId → TeamId)
    (r s : Roster) : Prop where
  teams : s.teams.entries = r.teams.entries.map (fun e => (team e.1, e.2.map player))
  teamSize : s.teamSize = r.teamSize
  tableSize : s.tableSize = r.tableSize

theorem Roster.Renumbered.playerAt? {player : PlayerId → PlayerId} {team : TeamId → TeamId}
    {r s : Roster} (renumbered : Roster.Renumbered player team r s) (place : Place) :
    s.playerAt? place = (r.playerAt? place).map (Player.renumber player team) := by
  simp only [Roster.playerAt?, renumbered.teams, List.getElem?_map]
  cases r.teams.entries[place.rank]? with
  | none => rfl
  | some e =>
      simp only [Option.map_some, Option.bind_some, List.getElem?_map, Option.map_map]
      rfl

theorem Roster.Renumbered.teamCount {player : PlayerId → PlayerId} {team : TeamId → TeamId}
    {r s : Roster} (renumbered : Roster.Renumbered player team r s) :
    s.teamCount = r.teamCount := by
  rw [Roster.teamCount, SortedMap.size, renumbered.teams, List.length_map]
  rfl

/-- A draw is blind to who the players and the teams are. Rosters of the same sizes share one
template for each seed and number of attempts, so a roster under other numbers gives the same draw
under other numbers. -/
theorem draw_follows_template (teams : Nat) (teamSize tableSize : UInt64) (seed : Int64)
    (maxAttempts : UInt32) (bound : teams * teamSize.toNat < 2 ^ 64) :
    (∃ t : Except Nat Draw.Template, ∀ (r : Roster) (clock : Nat → Duration),
      r.check = .ok () → r.teamCount = teams → r.teamSize = teamSize → r.tableSize = tableSize →
      Draw.Follows r t (draw r ⟨maxAttempts, none⟩ seed clock).outcome) ∧
    (∀ (player : PlayerId → PlayerId) (team : TeamId → TeamId) (r s : Roster)
      (clock clock' : Nat → Duration), r.check = .ok () → s.check = .ok () →
      r.teamCount = teams → r.teamSize = teamSize → r.tableSize = tableSize →
      Roster.Renumbered player team r s →
      (draw s ⟨maxAttempts, none⟩ seed clock').outcome =
        (draw r ⟨maxAttempts, none⟩ seed clock).outcome.map
          (Draw.Report.map (Player.renumber player team))) := by
  obtain ⟨t, follows⟩ := Draw.exists_template teams teamSize tableSize seed maxAttempts
  have fits : ∀ r : Roster, r.check = .ok () → r.teamCount = teams → r.teamSize = teamSize →
      r.Fits := by
    rintro r valid rfl rfl
    exact ((Roster.check_eq_ok_iff r).mp valid).fits bound
  constructor
  · refine ⟨t, ?_⟩
    intro r clock valid count size seats
    exact follows r clock valid count size seats (fits r valid count size)
  · intro player team r s clock clock' valid valid' count size seats renumbered
    have count' := renumbered.teamCount.trans count
    have size' := renumbered.teamSize.trans size
    have seats' := renumbered.tableSize.trans seats
    exact Draw.Follows.eq_map renumbered.playerAt?
      (follows r clock valid count size seats (fits r valid count size))
      (follows s clock' valid' count' size' seats' (fits s valid' count' size'))

/-- The teams of the sparse roster under successive numbers. -/
def Roster.dense : Roster :=
  (((ofSizes 2 2).withTeam 1 [1, 2]).withTeam 2 [3, 4]).withTeam 3 [5, 6]

/-- The numbers that the sparse roster gives to the players of the dense one. -/
def sparsePlayer (id : PlayerId) : PlayerId :=
  if id = 3 then 8 else if id = 4 then 2 else if id = 6 then -1 else 5

/-- The numbers that the sparse roster gives to the teams of the dense one. -/
def sparseTeam (team : TeamId) : TeamId :=
  if team = 1 then 7 else if team = 2 then 40 else 900

theorem draw_sparse_follows_dense :
    Roster.dense.check = .ok () ∧ Roster.sparse.check = .ok () ∧
    Roster.Renumbered sparsePlayer sparseTeam Roster.dense Roster.sparse ∧
    (∀ seed, ∃ t, ∀ clock clock',
      Draw.Follows Roster.dense t (draw Roster.dense ⟨9, none⟩ seed clock).outcome ∧
      Draw.Follows Roster.sparse t (draw Roster.sparse ⟨9, none⟩ seed clock').outcome) ∧
    (∀ seed clock clock', (draw Roster.sparse ⟨9, none⟩ seed clock').outcome =
      (draw Roster.dense ⟨9, none⟩ seed clock).outcome.map
        (Draw.Report.map (Player.renumber sparsePlayer sparseTeam))) := by
  have dense : Roster.dense.check = .ok () := by decide +kernel
  have sparse : Roster.sparse.check = .ok () := by decide +kernel
  have renumbered : Roster.Renumbered sparsePlayer sparseTeam Roster.dense Roster.sparse :=
    ⟨by decide +kernel, rfl, rfl⟩
  have bound : 3 * (2 : UInt64).toNat < 2 ^ 64 := by decide
  refine ⟨dense, sparse, renumbered, ?_, ?_⟩
  · intro seed
    obtain ⟨t, follows⟩ := (draw_follows_template 3 2 2 seed 9 bound).1
    refine ⟨t, ?_⟩
    intro clock clock'
    exact ⟨follows _ clock dense (by decide) rfl rfl, follows _ clock' sparse (by decide) rfl rfl⟩
  · intro seed clock clock'
    exact (draw_follows_template 3 2 2 seed 9 bound).2 _ _ _ _ clock clock' dense sparse
      (by decide) rfl rfl renumbered

end TableDraw
