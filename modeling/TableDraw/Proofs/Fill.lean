import Mathlib.Data.List.Forall2
import Mathlib.Data.List.Nodup
import TableDraw.Fill

set_option autoImplicit false

/-!
The greedy fill, turn by turn: nobody is lost, no team meets itself at a table, and a table that was
passed over once is passed over ever after. `fill_filled` gathers what holds of a finished fill.
-/

namespace TableDraw.Fill

theorem Outcome.isComplete_iff (o : Outcome) : o.isComplete = true ↔ o.leftover = [] :=
  List.isEmpty_iff

/-- Nobody in the pool may join the table. -/
def Stuck (table pool : List Player) : Prop := ∀ p ∈ pool, mayJoin table p = false

theorem mayJoin_iff (table : List Player) (p : Player) :
    mayJoin table p = true ↔ p.team ∉ table.map Player.team := by
  simp only [mayJoin, List.all_eq_true, bne_iff_ne, ne_eq, List.mem_map, not_exists, not_and]

/-- A player who may not join a table has a teammate there. -/
theorem mayJoin_eq_false_iff (table : List Player) (p : Player) :
    mayJoin table p = false ↔ p.team ∈ table.map Player.team := by
  rw [← Bool.not_eq_true, mayJoin_iff, not_not]

theorem Stuck.sublist {table pool rest : List Player} (stuck : Stuck table pool)
    (sub : rest.Sublist pool) : Stuck table rest :=
  fun p member => stuck p (sub.subset member)

/-- An empty table is stuck only where nobody is left. -/
theorem Stuck.nonempty {table pool : List Player} (stuck : Stuck table pool)
    (waiting : pool ≠ []) : table ≠ [] := by
  rintro rfl
  obtain ⟨p, member⟩ := List.exists_mem_of_ne_nil pool waiting
  have impossible := stuck p member
  simp only [mayJoin, List.all_nil, Bool.true_eq_false] at impossible

/-- All that a table's turn can do: the first player who may join it takes a seat, or nobody may. -/
inductive Turn (table pool : List Player) : List Player × List Player → Prop
  | seat {before after : List Player} {p : Player} (split : pool = before ++ p :: after)
      (refused : Stuck table before) (may : mayJoin table p = true) :
      Turn table pool (table ++ [p], before ++ after)
  | skip (stuck : Stuck table pool) : Turn table pool (table, pool)

theorem eraseP_split {table before after : List Player} {p : Player}
    (refused : Stuck table before) (may : mayJoin table p = true) :
    (before ++ p :: after).eraseP (mayJoin table) = before ++ after := by
  have stuck : ∀ q ∈ before, ¬ mayJoin table q = true := by
    intro q member
    rw [refused q member]
    exact Bool.false_ne_true
  rw [List.eraseP_append_right _ stuck, List.eraseP_cons_of_pos may]

theorem visit_turn (table pool : List Player) : Turn table pool (visit table pool) := by
  unfold visit
  split
  · rename_i p found
    obtain ⟨may, before, after, split, refused⟩ := List.find?_eq_some_iff_append.mp found
    have stuck : Stuck table before := by
      intro q member
      simpa only [Bool.not_eq_eq_eq_not, Bool.not_true] using refused q member
    rw [split, eraseP_split stuck may]
    exact .seat rfl stuck may
  · rename_i missing
    refine .skip ?_
    intro p member
    simpa only [Bool.not_eq_true] using List.find?_eq_none.mp missing p member

/-- A turn leaves no choice. -/
theorem Turn.eq_visit {table pool : List Player} {next : List Player × List Player}
    (turn : Turn table pool next) : next = visit table pool := by
  unfold visit
  cases turn with
  | @seat before after p split refused may =>
      have found : pool.find? (mayJoin table) = some p := by
        refine List.find?_eq_some_iff_append.mpr ⟨may, before, after, split, ?_⟩
        intro q member
        rw [refused q member, Bool.not_false]
      rw [found, split]
      dsimp only
      rw [eraseP_split refused may]
  | skip stuck =>
      have missing : pool.find? (mayJoin table) = none := by
        refine List.find?_eq_none.mpr ?_
        intro p member
        rw [stuck p member]
        exact Bool.false_ne_true
      rw [missing]

theorem Turn.perm {table pool : List Player} {next : List Player × List Player}
    (turn : Turn table pool next) : (next.1 ++ next.2).Perm (table ++ pool) := by
  cases turn with
  | @seat before after p split refused may =>
      change (table ++ [p] ++ (before ++ after)).Perm _
      rw [split, List.append_assoc, List.singleton_append]
      exact List.perm_middle.symm.append_left table
  | skip stuck => exact List.Perm.refl _

theorem Turn.sublist {table pool : List Player} {next : List Player × List Player}
    (turn : Turn table pool next) : next.2.Sublist pool := by
  cases turn with
  | @seat before after p split refused may =>
      rw [split]
      exact (List.sublist_cons_self p after).append_left before
  | skip stuck => exact List.Sublist.refl _

theorem round_length (tables : List (List Player)) (pool : List Player) :
    (round tables pool).tables.length = tables.length := by
  induction tables generalizing pool with
  | nil => rfl
  | cons table rest ih => simp only [round, List.length_cons, ih]

theorem round_sublist (tables : List (List Player)) (pool : List Player) :
    (round tables pool).leftover.Sublist pool := by
  induction tables generalizing pool with
  | nil => exact List.Sublist.refl _
  | cons table rest ih => exact (ih (visit table pool).2).trans (visit_turn table pool).sublist

/-- A turn moves players from the pool to one table, whoever sits elsewhere. -/
theorem Turn.perm_between {table pool : List Player} {next : List Player × List Player}
    (turn : Turn table pool next) (others : List Player) :
    (next.1 ++ (others ++ next.2)).Perm (table ++ (others ++ pool)) :=
  calc (next.1 ++ (others ++ next.2)).Perm (others ++ (next.1 ++ next.2)) :=
        List.perm_append_comm_assoc _ _ _
    List.Perm _ (others ++ (table ++ pool)) := turn.perm.append_left _
    List.Perm _ (table ++ (others ++ pool)) := List.perm_append_comm_assoc _ _ _

/-- A round moves players from the pool to the tables and does nothing else. -/
theorem round_perm (tables : List (List Player)) (pool : List Player) :
    ((round tables pool).tables.flatten ++ (round tables pool).leftover).Perm
      (tables.flatten ++ pool) := by
  induction tables generalizing pool with
  | nil => exact List.Perm.refl _
  | cons table rest ih =>
      simp only [round, List.flatten_cons, List.append_assoc]
      exact ((ih (visit table pool).2).append_left _).trans
        ((visit_turn table pool).perm_between rest.flatten)

/-- What a round from the pool `first` to the pool `last` does for one table. -/
inductive Served (first last table : List Player) : List Player → Prop
  | seated {p : Player} (member : p ∈ first) (may : mayJoin table p = true) :
      Served first last table (table ++ [p])
  | passed (stuck : Stuck table last) : Served first last table table

theorem Turn.served {table pool last : List Player} {next : List Player × List Player}
    (turn : Turn table pool next) (remaining : last.Sublist next.2) :
    Served pool last table next.1 := by
  cases turn with
  | @seat before after p split refused may => exact .seated (by simp [split]) may
  | skip stuck => exact .passed (stuck.sublist remaining)

theorem Served.mono {first last larger table after : List Player}
    (served : Served first last table after) (sub : first.Sublist larger) :
    Served larger last table after := by
  cases served with
  | seated member may => exact .seated (sub.subset member) may
  | passed stuck => exact .passed stuck

theorem round_served (tables : List (List Player)) (pool : List Player) :
    List.Forall₂ (Served pool (round tables pool).leftover) tables (round tables pool).tables := by
  induction tables generalizing pool with
  | nil => exact .nil
  | cons table rest ih =>
      have turn := visit_turn table pool
      refine .cons (turn.served (round_sublist rest (visit table pool).2)) ?_
      exact (ih (visit table pool).2).imp (fun _ _ served => served.mono turn.sublist)

theorem exists_of_forall₂ {R : List Player → List Player → Prop}
    {tables final : List (List Player)} (related : List.Forall₂ R tables final) :
    ∀ after ∈ final, ∃ table ∈ tables, R table after := by
  induction related with
  | nil => intro after member; cases member
  | @cons table after rest others head tail ih =>
      intro last member
      rcases List.mem_cons.mp member with rfl | member
      · exact ⟨table, List.mem_cons_self, head⟩
      · obtain ⟨before, found, served⟩ := ih last member
        exact ⟨before, List.mem_cons_of_mem _ found, served⟩

/-- A round that leaves as many players as it found changes nothing. -/
theorem round_idle (tables : List (List Player)) (pool : List Player)
    (idle : (round tables pool).leftover.length = pool.length) :
    round tables pool = ⟨tables, pool⟩ := by
  induction tables generalizing pool with
  | nil => rfl
  | cons table rest ih =>
      have turn := visit_turn table pool
      have others := (round_sublist rest (visit table pool).2).length_le
      rw [round] at idle ⊢
      generalize visit table pool = next at *
      cases turn with
      | @seat before after p split refused may =>
          simp only [split, List.length_append, List.length_cons] at *
          omega
      | skip stuck => simp only [ih pool idle]

/-- Rounds are made one after the other; stopping at an idle one is no more than a shortcut. -/
theorem rounds_succ (n : Nat) (tables : List (List Player)) (pool : List Player) :
    rounds (n + 1) tables pool =
      rounds n (round tables pool).tables (round tables pool).leftover := by
  have fixed : ∀ n, round tables pool = ⟨tables, pool⟩ → rounds n tables pool = ⟨tables, pool⟩ := by
    intro n same
    cases n with
    | zero => rfl
    | succ n => simp only [rounds, same, ↓reduceIte]
  rw [rounds]
  split
  · rename_i idle
    have same := round_idle tables pool idle
    simp only [same, fixed n same]
  · rfl

/-- A table after `n` rounds that left the players in `pool` waiting. It misses a seat only where
each of them has a teammate at it. -/
structure Fair (n : Nat) (pool table : List Player) : Prop where
  diverse : (table.map Player.team).Nodup
  capacity : table.length ≤ n
  greedy : table.length = n ∨ Stuck table pool

section Fair

variable {n : Nat} {pool rest table : List Player} {p : Player}

/-- A table that somebody may still join took a seat in every round. -/
theorem Fair.length_eq (fair : Fair n pool table) (member : p ∈ pool)
    (may : mayJoin table p = true) : table.length = n := by
  rcases fair.greedy with full | stuck
  · exact full
  · rw [stuck p member] at may
    cases may

theorem Fair.sublist (fair : Fair n pool table) (sub : rest.Sublist pool) : Fair n rest table :=
  ⟨fair.diverse, fair.capacity, fair.greedy.imp_right (fun stuck => stuck.sublist sub)⟩

/-- A table is served fairly by a round in which somebody sits down at it. -/
theorem Fair.seat (fair : Fair n pool table) (member : p ∈ pool) (may : mayJoin table p = true) :
    Fair (n + 1) rest (table ++ [p]) := by
  have full := fair.length_eq member may
  refine ⟨?_, ?_, Or.inl ?_⟩
  · rw [List.map_append, List.map_singleton, ← List.concat_eq_append]
    exact fair.diverse.concat ((mayJoin_iff table p).mp may)
  · simp only [List.length_append, List.length_singleton, full, Nat.le_refl]
  · simp only [List.length_append, List.length_singleton, full]

/-- A table is served fairly by a round that passes it over when everybody waiting has a teammate
at it. -/
theorem Fair.skip (fair : Fair n pool table) (stuck : Stuck table rest) : Fair (n + 1) rest table :=
  ⟨fair.diverse, Nat.le_succ_of_le fair.capacity, Or.inr stuck⟩

theorem Turn.fair {next : List Player × List Player} (turn : Turn table pool next)
    (fair : Fair n pool table) : Fair (n + 1) next.2 next.1 := by
  cases turn with
  | seat split refused may => exact fair.seat (by simp [split]) may
  | skip stuck => exact fair.skip stuck

end Fair

theorem Served.fair {first last table after : List Player} {n : Nat}
    (served : Served first last table after) (fair : Fair n first table) :
    Fair (n + 1) last after := by
  cases served with
  | seated member may => exact fair.seat member may
  | passed stuck => exact fair.skip stuck

/-- The outcome of `n` rounds over `count` tables that began with the pool `start`: nobody is lost,
those left over wait in their old order, and every table was served fairly. -/
structure Filled (start : List Player) (n count : Nat) (o : Outcome) : Prop where
  length : o.tables.length = count
  perm : (o.tables.flatten ++ o.leftover).Perm start
  sublist : o.leftover.Sublist start
  fair : ∀ table ∈ o.tables, Fair n o.leftover table

/-- Who sits at a table came from the pool. -/
theorem Filled.subset_start {start table : List Player} {n count : Nat} {o : Outcome}
    (filled : Filled start n count o) (member : table ∈ o.tables) : table ⊆ start := by
  intro p seated
  refine filled.perm.subset (List.mem_append_left _ ?_)
  exact List.mem_flatten.mpr ⟨table, member, seated⟩

theorem filled_start (pool : List Player) (count : Nat) :
    Filled pool 0 count ⟨List.replicate count [], pool⟩ := by
  refine ⟨List.length_replicate, ?_, List.Sublist.refl _, ?_⟩
  · simp only [List.flatten_replicate_nil, List.nil_append, List.Perm.refl]
  · intro table member
    rw [List.eq_of_mem_replicate member]
    exact ⟨List.nodup_nil, Nat.le_refl _, Or.inl rfl⟩

theorem Filled.round {start pool : List Player} {tables : List (List Player)} {n count : Nat}
    (filled : Filled start n count ⟨tables, pool⟩) :
    Filled start (n + 1) count (round tables pool) := by
  have sub := round_sublist tables pool
  refine ⟨(round_length tables pool).trans filled.length,
    (round_perm tables pool).trans filled.perm, sub.trans filled.sublist, ?_⟩
  intro after member
  obtain ⟨table, before, served⟩ := exists_of_forall₂ (round_served tables pool) after member
  exact served.fair (filled.fair table before)

theorem Filled.rounds {start : List Player} {n count : Nat} (m : Nat)
    {tables : List (List Player)} {pool : List Player}
    (filled : Filled start n count ⟨tables, pool⟩) :
    Filled start (n + m) count (rounds m tables pool) := by
  induction m generalizing n tables pool with
  | zero => exact filled
  | succ m ih =>
      rw [rounds_succ, Nat.add_comm m, ← Nat.add_assoc]
      exact ih filled.round

/-- What holds of every fill, whatever the pool. -/
theorem fill_filled (pool : List Player) (tableSize tableCount : Nat) :
    Filled pool tableSize tableCount (fill pool tableSize tableCount) := by
  simpa only [fill, Nat.zero_add] using (filled_start pool tableCount).rounds tableSize

section Rename

variable {rename : Player → Player} {all : List Player}

/-- A change of players that neither joins nor parts teams. -/
def KeepsTeams (rename : Player → Player) (all : List Player) : Prop :=
  ∀ p ∈ all, ∀ q ∈ all, (rename p).team = (rename q).team ↔ p.team = q.team

/-- The outcome for players that are replaced one by one. -/
def Outcome.map (rename : Player → Player) (o : Outcome) : Outcome :=
  ⟨o.tables.map (List.map rename), o.leftover.map rename⟩

theorem mayJoin_map (keeps : KeepsTeams rename all) {table : List Player} (known : table ⊆ all)
    {p : Player} (member : p ∈ all) : mayJoin (table.map rename) (rename p) = mayJoin table p := by
  rw [Bool.eq_iff_iff, mayJoin_iff, mayJoin_iff, not_iff_not]
  simp only [List.map_map, List.mem_map, Function.comp_apply]
  refine exists_congr (fun q => and_congr_right (fun seated => ?_))
  exact keeps q (known seated) p member

theorem Stuck.map (keeps : KeepsTeams rename all) {table pool : List Player} (known : table ⊆ all)
    (waiting : pool ⊆ all) (stuck : Stuck table pool) :
    Stuck (table.map rename) (pool.map rename) := by
  intro q member
  obtain ⟨p, left, rfl⟩ := List.mem_map.mp member
  rw [mayJoin_map keeps known (waiting left)]
  exact stuck p left

theorem visit_map (keeps : KeepsTeams rename all) {table pool : List Player} (known : table ⊆ all)
    (waiting : pool ⊆ all) :
    visit (table.map rename) (pool.map rename) =
      ((visit table pool).1.map rename, (visit table pool).2.map rename) := by
  symm
  apply Turn.eq_visit
  have turn := visit_turn table pool
  generalize visit table pool = next at turn ⊢
  cases turn with
  | @seat before after p split refused may =>
      have before_sub : before ⊆ all := fun q member => waiting (by simp [split, member])
      have p_mem : p ∈ all := waiting (by simp [split])
      simp only [List.map_append, List.map_singleton]
      refine .seat ?_ (refused.map keeps known before_sub) ?_
      · rw [split, List.map_append, List.map_cons]
      · rw [mayJoin_map keeps known p_mem]
        exact may
  | skip stuck => exact .skip (stuck.map keeps known waiting)

theorem round_map (keeps : KeepsTeams rename all) {tables : List (List Player)}
    {pool : List Player} (known : ∀ table ∈ tables, table ⊆ all) (waiting : pool ⊆ all) :
    round (tables.map (List.map rename)) (pool.map rename) = (round tables pool).map rename := by
  induction tables generalizing pool with
  | nil => rfl
  | cons table rest ih =>
      have head := visit_map keeps (known table List.mem_cons_self) waiting
      have smaller := List.Subset.trans (visit_turn table pool).sublist.subset waiting
      have tail := ih (fun other member => known other (List.mem_cons_of_mem _ member)) smaller
      simp only [List.map_cons, round, head, tail, Outcome.map]

theorem rounds_map (keeps : KeepsTeams rename all) (n : Nat) {tables : List (List Player)}
    {pool : List Player} (known : ∀ table ∈ tables, table ⊆ all) (waiting : pool ⊆ all) :
    rounds n (tables.map (List.map rename)) (pool.map rename) =
      (rounds n tables pool).map rename := by
  induction n generalizing tables pool with
  | zero => rfl
  | succ n ih =>
      rw [rounds_succ, rounds_succ, round_map keeps known waiting]
      refine ih ?_ (List.Subset.trans (round_sublist tables pool).subset waiting)
      intro after member p seated
      have moved : p ∈ tables.flatten ++ pool := by
        refine (round_perm tables pool).subset (List.mem_append_left _ ?_)
        exact List.mem_flatten.mpr ⟨after, member, seated⟩
      rcases List.mem_append.mp moved with before | before
      · obtain ⟨table, listed, at_table⟩ := List.mem_flatten.mp before
        exact known table listed at_table
      · exact waiting before

/-- A fill looks at nothing but who is whose teammate. -/
theorem fill_map {pool : List Player} (keeps : KeepsTeams rename pool)
    (tableSize tableCount : Nat) :
    fill (pool.map rename) tableSize tableCount =
      (fill pool tableSize tableCount).map rename := by
  have empty : ∀ table ∈ List.replicate tableCount ([] : List Player), table ⊆ pool := by
    intro table member
    rw [List.eq_of_mem_replicate member]
    exact List.nil_subset pool
  have same := rounds_map keeps tableSize empty (List.Subset.refl pool)
  rw [List.map_replicate, List.map_nil] at same
  exact same

end Rename

end TableDraw.Fill
