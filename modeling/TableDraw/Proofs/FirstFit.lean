import TableDraw.Proofs.Matching

set_option autoImplicit false

/-!
First fit. A fill takes the slots in order, by seat and then by table, and gives each to the first
player left who may take it. This can be told from its outcome alone: `FirstFit` says of a matching
of positions in the pool with slots that each slot is justified by the earlier ones, and a fill is
the outcome of the one matching of which that is true.
-/

namespace TableDraw.Fill

namespace Matching

variable {pool : List Player}

/-- A position is the first that its slot could take: every earlier one holds a slot before, or has a
teammate at the table by then, and it has none there itself. -/
structure Justified (m : Matching pool) (slot : Slot) (q : Fin pool.length) : Prop where
  earlier : ∀ p < q, (∃ taken : Slot, taken.Before slot ∧ m.Holds taken p) ∨
    ∃ seat < slot.seat, ∃ r, m.Holds ⟨seat, slot.table⟩ r ∧ Teammates pool r p
  welcome : ∀ seat < slot.seat, ∀ r, m.Holds ⟨seat, slot.table⟩ r → ¬ Teammates pool r q

/-- A table takes no player after those at `seats`: every position without a slot before the next
one has a teammate among them. -/
def PassedOver (m : Matching pool) (table : Nat) (seats : List (Fin pool.length)) : Prop :=
  ∀ q, (∀ taken : Slot, taken.Before ⟨seats.length, table⟩ → ¬ m.Holds taken q) →
    ∃ r ∈ seats, Teammates pool r q

/-- A matching with the slots of `tableCount` tables of `tableSize` seats in which every slot is
given to the first position that may take it, and stays empty only if there is none. -/
structure FirstFit (m : Matching pool) (tableSize tableCount : Nat) : Prop where
  length : m.length = tableCount
  capacity : ∀ seats ∈ m, seats.length ≤ tableSize
  once : m.flatten.Nodup
  first : ∀ slot q, m.Holds slot q → m.Justified slot q
  full : ∀ table seats, m[table]? = some seats → seats.length < tableSize →
    m.PassedOver table seats

/-- What holds of the positions seated when a slot is due: they hold earlier slots, each of them is
justified, and the tables that were passed over welcome nobody any more. -/
structure Traced (m : Matching pool) (tableCount : Nat) (due : Slot) : Prop where
  length : m.length = tableCount
  once : m.flatten.Nodup
  past : ∀ slot q, m.Holds slot q → slot.Before due
  first : ∀ slot q, m.Holds slot q → m.Justified slot q
  passed : ∀ table seats, m[table]? = some seats → Slot.Before ⟨seats.length, table⟩ due →
    m.PassedOver table seats

theorem traced_start (pool : List Player) (tableCount : Nat) :
    (vacant pool tableCount).Traced tableCount ⟨0, 0⟩ := by
  refine ⟨List.length_replicate, ?_, ?_, ?_, ?_⟩
  · rw [flatten_vacant]
    exact List.nodup_nil
  · exact fun slot q held => absurd held (not_holds_vacant tableCount slot q)
  · exact fun slot q held => absurd held (not_holds_vacant tableCount slot q)
  · intro table seats _ before
    simp only [Slot.Before] at before
    omega

theorem Justified.mono {m m' : Matching pool} {slot : Slot} {q : Fin pool.length}
    (justified : m.Justified slot q) (more : ∀ taken p, m.Holds taken p → m'.Holds taken p)
    (same : ∀ seat < slot.seat, ∀ r, m'.Holds ⟨seat, slot.table⟩ r → m.Holds ⟨seat, slot.table⟩ r) :
    m'.Justified slot q := by
  constructor
  · intro p below
    rcases justified.earlier p below with ⟨taken, before, held⟩ | ⟨seat, left, r, held, mates⟩
    · exact Or.inl ⟨taken, before, more _ _ held⟩
    · exact Or.inr ⟨seat, left, r, more _ _ held, mates⟩
  · exact fun seat left r held => justified.welcome seat left r (same seat left r held)

section Turn

variable {m : Matching pool} {tableCount s t : Nat} {seats : List (Fin pool.length)}

/-- No table that is still due in a round has more seats taken than there were rounds before. -/
theorem Traced.length_le (traced : m.Traced tableCount ⟨s, t⟩) {table : Nat} (due : t ≤ table)
    (listed : m[table]? = some seats) : seats.length ≤ s := by
  by_contra longer
  have bound : s < seats.length := by omega
  have held : m.Holds ⟨s, table⟩ seats[s] := ⟨seats, listed, List.getElem?_eq_getElem bound⟩
  have before := traced.past _ _ held
  simp only [Slot.Before] at before
  omega

/-- A table is passed over where it welcomes nobody left, and it was so before if it misses a
seat. -/
theorem Traced.skip (traced : m.Traced tableCount ⟨s, t⟩) (listed : m[t]? = some seats)
    (stuck : ∀ p ∈ m.rest, ∃ r ∈ seats, Teammates pool r p) :
    m.Traced tableCount ⟨s, t + 1⟩ := by
  refine ⟨traced.length, traced.once, ?_, traced.first, ?_⟩
  · exact fun slot q held => (Slot.before_next_iff slot s t).mpr (Or.inl (traced.past slot q held))
  · intro table others found before
    rcases (Slot.before_next_iff _ s t).mp before with earlier | now
    · exact traced.passed table others found earlier
    · obtain ⟨rfl, rfl⟩ := Slot.mk.inj now
      rw [listed, Option.some.injEq] at found
      subst found
      intro q free
      apply stuck q
      rw [mem_rest_iff]
      exact fun slot held => free slot (traced.past slot q held) held

/-- The first position left that a table welcomes takes the slot that is due. -/
theorem Traced.seat (traced : m.Traced tableCount ⟨seats.length, t⟩) (listed : m[t]? = some seats)
    {front back : List (Fin pool.length)} {q : Fin pool.length} (split : m.rest = front ++ q :: back)
    (refused : ∀ p ∈ front, ∃ r ∈ seats, Teammates pool r p)
    (welcome : ∀ r ∈ seats, ¬ Teammates pool r q) :
    (m.seat t seats q).Traced tableCount ⟨seats.length, t + 1⟩ := by
  have free : q ∈ m.rest := by simp [split]
  have more : ∀ taken p, m.Holds taken p → (m.seat t seats q).Holds taken p :=
    fun taken p held => (holds_seat_iff listed taken p).mpr (Or.inl held)
  have old : ∀ number, number < seats.length → ∀ r, (m.seat t seats q).Holds ⟨number, t⟩ r →
      m.Holds ⟨number, t⟩ r := by
    intro number left r held
    rcases (holds_seat_iff listed _ r).mp held with held | ⟨slot, _⟩
    · exact held
    · rw [Slot.mk.injEq] at slot
      omega
  refine ⟨?_, ?_, ?_, ?_, ?_⟩
  · rw [Matching.seat, List.length_set, traced.length]
  · rw [(flatten_seat_perm listed).nodup_iff, List.nodup_cons, mem_flatten_iff, not_exists]
    exact ⟨(mem_rest_iff m q).mp free, traced.once⟩
  · intro slot p held
    rw [Slot.before_next_iff]
    rcases (holds_seat_iff listed slot p).mp held with held | ⟨now, _⟩
    · exact Or.inl (traced.past slot p held)
    · exact Or.inr now
  · intro slot p held
    rcases (holds_seat_iff listed slot p).mp held with held | ⟨rfl, rfl⟩
    · refine (traced.first slot p held).mono more ?_
      intro number left r held'
      have before := traced.past slot p held
      rcases (holds_seat_iff listed _ r).mp held' with held' | ⟨same, _⟩
      · exact held'
      · simp only [Slot.Before] at before
        rw [Slot.mk.injEq] at same
        omega
    · constructor
      · intro earlier below
        by_cases taken : ∃ slot, m.Holds slot earlier
        · obtain ⟨slot, held⟩ := taken
          exact Or.inl ⟨slot, traced.past slot earlier held, more slot earlier held⟩
        · have waiting : earlier ∈ m.rest := by
            rw [mem_rest_iff]
            exact not_exists.mp taken
          obtain ⟨r, seated, mates⟩ := refused earlier ((mem_front_iff split earlier).mpr
            ⟨waiting, below⟩)
          obtain ⟨number, taken⟩ := List.mem_iff_getElem?.mp seated
          obtain ⟨left, _⟩ := List.getElem?_eq_some_iff.mp taken
          exact Or.inr ⟨number, left, r, more _ _ ⟨seats, listed, taken⟩, mates⟩
      · intro number left r held
        obtain ⟨others, found, taken⟩ := old number left r held
        rw [listed, Option.some.injEq] at found
        subst found
        exact welcome r (List.mem_of_getElem? taken)
  · intro table others found before
    by_cases same : table = t
    · subst same
      obtain ⟨bound, _⟩ := List.getElem?_eq_some_iff.mp listed
      rw [Matching.seat, List.getElem?_set_self bound, Option.some.injEq] at found
      subst found
      simp only [Slot.Before, List.length_append, List.length_singleton] at before
      omega
    · rw [Matching.seat, List.getElem?_set_ne (Ne.symm same)] at found
      have due : Slot.Before ⟨others.length, table⟩ ⟨seats.length, t⟩ := by
        simp only [Slot.Before] at before ⊢
        omega
      intro p unseated
      exact traced.passed table others found due p
        (fun taken earlier held => unseated taken earlier (more taken p held))

/-- A turn leads from one traced state to the next. -/
theorem Traced.turn (traced : m.Traced tableCount ⟨s, t⟩) (inside : t < tableCount) :
    ∃ m' : Matching pool, m'.Traced tableCount ⟨s, t + 1⟩ ∧ m'.outcome = m.outcome.turn t := by
  have bound : t < m.length := by rw [traced.length]; exact inside
  obtain ⟨seats, listed⟩ : ∃ seats, m[t]? = some seats := ⟨m[t], List.getElem?_eq_getElem bound⟩
  have skipped (stuck : ∀ p ∈ m.rest, ∃ r ∈ seats, Teammates pool r p) :
      ∃ m' : Matching pool, m'.Traced tableCount ⟨s, t + 1⟩ ∧ m'.outcome = m.outcome.turn t :=
    ⟨m, traced.skip listed stuck, (turn_outcome_of_skip listed stuck).symm⟩
  rcases Nat.lt_or_eq_of_le (traced.length_le (Nat.le_refl t) listed) with missed | full
  · apply skipped
    intro p free
    have before : Slot.Before ⟨seats.length, t⟩ ⟨s, t⟩ := Or.inl missed
    exact traced.passed t seats listed before p (fun taken _ => (mem_rest_iff m p).mp free taken)
  · subst full
    cases found : m.rest.find? (fun q => mayJoin (seats.map pool.get) (pool.get q)) with
    | none =>
        apply skipped
        rw [← stuck_map_iff]
        intro p member
        obtain ⟨q, free, rfl⟩ := List.mem_map.mp member
        simpa using List.find?_eq_none.mp found q free
    | some q =>
        obtain ⟨may, front, back, split, refused⟩ := List.find?_eq_some_iff_append.mp found
        have welcome := (mayJoin_map_iff seats q).mp may
        have turnedAway : ∀ p ∈ front, ∃ r ∈ seats, Teammates pool r p := by
          rw [← stuck_map_iff]
          intro p member
          obtain ⟨r, waiting, rfl⟩ := List.mem_map.mp member
          simpa using refused r waiting
        exact ⟨m.seat t seats q, traced.seat listed split turnedAway welcome,
          (turn_outcome_of_seat listed split turnedAway welcome).symm⟩

theorem Traced.next (traced : m.Traced tableCount ⟨s, tableCount⟩) :
    m.Traced tableCount ⟨s + 1, 0⟩ := by
  have inside : ∀ table seats, m[table]? = some seats → table < tableCount := by
    intro table seats listed
    rw [← traced.length]
    exact (List.getElem?_eq_some_iff.mp listed).1
  refine ⟨traced.length, traced.once, ?_, traced.first, ?_⟩
  · rintro slot q ⟨seats, listed, taken⟩
    exact (Slot.before_round_iff (inside _ _ listed) s).mpr
      (traced.past slot q ⟨seats, listed, taken⟩)
  · intro table seats listed before
    exact traced.passed table seats listed
      ((Slot.before_round_iff (a := ⟨seats.length, table⟩) (inside _ _ listed) s).mp before)

end Turn

/-- At any time of a fill there is a traced matching with its tables and its pool. -/
theorem exists_traced (pool : List Player) (tableCount s t : Nat) (within : t ≤ tableCount) :
    ∃ m : Matching pool, m.Traced tableCount ⟨s, t⟩ ∧ m.outcome = stateAt pool tableCount s t := by
  apply stateAt_induction (P := fun s t o => ∃ m : Matching pool,
    m.Traced tableCount ⟨s, t⟩ ∧ m.outcome = o) ?_ ?_ ?_ s t within
  · exact ⟨vacant pool tableCount, traced_start pool tableCount, outcome_vacant pool tableCount⟩
  · rintro s t _ inside ⟨m, traced, rfl⟩
    exact traced.turn inside
  · rintro s _ ⟨m, traced, rfl⟩
    exact ⟨m, traced.next, rfl⟩

theorem Traced.firstFit {m : Matching pool} {tableSize tableCount : Nat}
    (traced : m.Traced tableCount ⟨tableSize, 0⟩) : m.FirstFit tableSize tableCount := by
  refine ⟨traced.length, ?_, traced.once, traced.first, ?_⟩
  · intro seats member
    obtain ⟨table, listed⟩ := List.mem_iff_getElem?.mp member
    exact traced.length_le (Nat.zero_le table) listed
  · exact fun table seats listed short => traced.passed table seats listed (Or.inl short)

/-- The part of a matching that is settled when a slot is due. -/
def cut (m : Matching pool) (due : Slot) : Matching pool :=
  m.mapIdx (fun table seats =>
    seats.take (if table < due.table then due.seat + 1 else due.seat))

section Cut

variable {m : Matching pool} {tableSize tableCount s t : Nat} {seats : List (Fin pool.length)}

theorem holds_cut_iff (m : Matching pool) (due slot : Slot) (q : Fin pool.length) :
    (m.cut due).Holds slot q ↔ m.Holds slot q ∧ slot.Before due := by
  obtain ⟨seat, table⟩ := slot
  have settled : seat < (if table < due.table then due.seat + 1 else due.seat) ↔
      Slot.Before ⟨seat, table⟩ due := by
    simp only [Slot.Before]
    split <;> omega
  constructor
  · rintro ⟨_, found, taken⟩
    rw [cut, List.getElem?_mapIdx, Option.map_eq_some_iff] at found
    obtain ⟨seats, listed, rfl⟩ := found
    rw [List.getElem?_take, Option.ite_none_right_eq_some] at taken
    exact ⟨⟨seats, listed, taken.2⟩, settled.mp taken.1⟩
  · rintro ⟨⟨seats, listed, taken⟩, before⟩
    refine ⟨seats.take (if table < due.table then due.seat + 1 else due.seat), ?_, ?_⟩
    · rw [cut, List.getElem?_mapIdx, listed, Option.map_some]
    · rw [List.getElem?_take, if_pos (settled.mpr before)]
      exact taken

theorem mem_rest_cut_iff (m : Matching pool) (due : Slot) (q : Fin pool.length) :
    q ∈ (m.cut due).rest ↔ ∀ slot, slot.Before due → ¬ m.Holds slot q := by
  rw [mem_rest_iff]
  refine forall_congr' (fun slot => ?_)
  rw [holds_cut_iff, not_and']

theorem getElem?_cut (listed : m[t]? = some seats) (s : Nat) :
    (m.cut ⟨s, t⟩)[t]? = some (seats.take s) := by
  rw [cut, List.getElem?_mapIdx, listed, Option.map_some, if_neg (Nat.lt_irrefl t)]

theorem cut_next (listed : m[t]? = some seats) (s : Nat) :
    m.cut ⟨s, t + 1⟩ = (m.cut ⟨s, t⟩).set t (seats.take (s + 1)) := by
  apply List.ext_getElem?
  intro table
  by_cases same : t = table
  · subst same
    obtain ⟨bound, _⟩ := List.getElem?_eq_some_iff.mp (getElem?_cut listed s)
    rw [List.getElem?_set_self bound, cut, List.getElem?_mapIdx, listed, Option.map_some,
      if_pos (Nat.lt_succ_self t)]
  · have sides : table < t + 1 ↔ table < t := by omega
    simp only [List.getElem?_set_ne same, cut, List.getElem?_mapIdx, sides]

theorem cut_round (length : m.length = tableCount) (s : Nat) :
    m.cut ⟨s + 1, 0⟩ = m.cut ⟨s, tableCount⟩ := by
  apply List.ext_getElem?
  intro table
  simp only [cut, List.getElem?_mapIdx, Nat.not_lt_zero, ↓reduceIte]
  by_cases inside : table < tableCount
  · simp only [inside, ↓reduceIte]
  · rw [List.getElem?_eq_none (by omega)]
    rfl

theorem cut_start (length : m.length = tableCount) : m.cut ⟨0, 0⟩ = vacant pool tableCount := by
  rw [cut, vacant, ← length, List.mapIdx_eq_replicate_iff]
  intro table _
  rw [if_neg (Nat.not_lt_zero table), List.take_zero]

theorem cut_all (capacity : ∀ seats ∈ m, seats.length ≤ tableSize) :
    m.cut ⟨tableSize, 0⟩ = m := by
  rw [cut, List.mapIdx_eq_iff]
  intro table
  cases listed : m[table]? with
  | none => rfl
  | some seats =>
      rw [Option.map_some, if_neg (Nat.not_lt_zero table),
        List.take_of_length_le (capacity seats (List.mem_of_getElem? listed))]

/-- The position in the slot that is due is the first left that its table welcomes. -/
theorem FirstFit.turn_cut_of_taken (fit : m.FirstFit tableSize tableCount)
    (listed : m[t]? = some seats) (taken : s < seats.length) :
    (m.cut ⟨s, t⟩).outcome.turn t = (m.cut ⟨s, t + 1⟩).outcome := by
  have held : m.Holds ⟨s, t⟩ seats[s] := ⟨seats, listed, List.getElem?_eq_getElem taken⟩
  have justified := fit.first _ _ held
  have free : seats[s] ∈ (m.cut ⟨s, t⟩).rest := by
    rw [mem_rest_cut_iff]
    intro slot before held'
    rw [eq_of_holds fit.once held' held] at before
    simp only [Slot.Before] at before
    omega
  obtain ⟨front, back, split⟩ := List.append_of_mem free
  have grown : m.cut ⟨s, t + 1⟩ = (m.cut ⟨s, t⟩).seat t (seats.take s) seats[s] := by
    rw [cut_next listed, Matching.seat, List.take_succ_eq_append_getElem taken]
  rw [grown]
  apply turn_outcome_of_seat (getElem?_cut listed s) split
  · intro p member
    obtain ⟨waiting, below⟩ := (mem_front_iff split p).mp member
    rw [mem_rest_cut_iff] at waiting
    rcases justified.earlier p below with ⟨slot, before, held'⟩ | ⟨number, left, r, held', mates⟩
    · exact absurd held' (waiting slot before)
    · obtain ⟨others, found, seated⟩ := held'
      rw [listed, Option.some.injEq] at found
      subst found
      refine ⟨r, List.mem_of_getElem? (i := number) ?_, mates⟩
      rw [List.getElem?_take, if_pos left]
      exact seated
  · intro r member
    obtain ⟨number, seated⟩ := List.mem_iff_getElem?.mp member
    rw [List.getElem?_take, Option.ite_none_right_eq_some] at seated
    exact justified.welcome number seated.1 r ⟨seats, listed, seated.2⟩

/-- Nobody left is welcome at a table whose next slot is to stay empty. -/
theorem FirstFit.turn_cut_of_passed (fit : m.FirstFit tableSize tableCount)
    (listed : m[t]? = some seats) (round : s < tableSize) (passed : seats.length ≤ s) :
    (m.cut ⟨s, t⟩).outcome.turn t = (m.cut ⟨s, t + 1⟩).outcome := by
  have settled := getElem?_cut listed s
  rw [List.take_of_length_le passed] at settled
  have same : m.cut ⟨s, t + 1⟩ = m.cut ⟨s, t⟩ := by
    obtain ⟨within, found⟩ := List.getElem?_eq_some_iff.mp settled
    rw [cut_next listed, List.take_of_length_le (Nat.le_succ_of_le passed), ← found,
      List.set_getElem_self]
  rw [same]
  apply turn_outcome_of_skip settled
  intro p waiting
  rw [mem_rest_cut_iff] at waiting
  apply fit.full t seats listed (Nat.lt_of_le_of_lt passed round) p
  intro slot before held
  refine waiting slot ?_ held
  simp only [Slot.Before] at before ⊢
  omega

/-- A first fit is settled turn by turn as a fill is. -/
theorem FirstFit.turn_cut (fit : m.FirstFit tableSize tableCount) (round : s < tableSize)
    (inside : t < tableCount) : (m.cut ⟨s, t⟩).outcome.turn t = (m.cut ⟨s, t + 1⟩).outcome := by
  have bound : t < m.length := by rw [fit.length]; exact inside
  have listed : m[t]? = some m[t] := List.getElem?_eq_getElem bound
  by_cases taken : s < m[t].length
  · exact fit.turn_cut_of_taken listed taken
  · exact fit.turn_cut_of_passed listed round (Nat.le_of_not_lt taken)

/-- All first fits of a pool have one outcome, that of the fill. -/
theorem FirstFit.outcome_eq (fit : m.FirstFit tableSize tableCount) :
    m.outcome = fill pool tableSize tableCount := by
  have settled : ∀ s t, t ≤ tableCount → s < tableSize ∨ s = tableSize ∧ t = 0 →
      (m.cut ⟨s, t⟩).outcome = stateAt pool tableCount s t := by
    intro s t
    apply stateAt_induction (P := fun s t o =>
      s < tableSize ∨ s = tableSize ∧ t = 0 → (m.cut ⟨s, t⟩).outcome = o)
    · intro _
      rw [cut_start fit.length]
      exact outcome_vacant pool tableCount
    · intro s t o inside reached within
      have round : s < tableSize := by omega
      rw [← reached (Or.inl round)]
      exact (fit.turn_cut round inside).symm
    · intro s o reached within
      rw [cut_round fit.length, reached (Or.inl (by omega))]
  have whole := settled tableSize 0 (Nat.zero_le tableCount) (Or.inr ⟨rfl, rfl⟩)
  rw [cut_all fit.capacity] at whole
  exact whole

end Cut

end Matching

/-- A fill is first fit in slot order, and its outcome alone shows it: positions in the pool can be
matched with slots so that every slot is given to the first position that may take it, in order, and
the positions without a slot are those left over; and no other outcome has such a matching. A table
that is passed over in one round gets no player in any later one, so its seats are taken in
successive rounds. -/
theorem fill_iff_firstFit (pool : List Player) (tableSize tableCount : Nat) :
    (∀ o : Outcome,
      (∃ m : Matching pool, m.FirstFit tableSize tableCount ∧ m.outcome = o) ↔
        o = fill pool tableSize tableCount) ∧
    (∀ n : Nat, n ≤ tableSize → (fill pool tableSize tableCount).tables.map (List.take n) =
      (fill pool n tableCount).tables) ∧
    (∀ n t : Nat, (fill pool (n + 1) tableCount).tables[t]? = (fill pool n tableCount).tables[t]? →
      ∀ k, n ≤ k →
        (fill pool k tableCount).tables[t]? = (fill pool n tableCount).tables[t]?) := by
  refine ⟨?_, ?_, ?_⟩
  · intro o
    constructor
    · rintro ⟨m, fit, rfl⟩
      exact fit.outcome_eq
    · rintro rfl
      obtain ⟨m, traced, same⟩ :=
        Matching.exists_traced pool tableCount tableSize 0 (Nat.zero_le tableCount)
      exact ⟨m, traced.firstFit, same⟩
  · exact fun n shorter => fill_take pool shorter tableCount
  · exact fun n t passed k later => fill_passed pool tableCount n t passed later

/-- The third of three tables is passed over in the second round, where nobody but a teammate of the
player who sits there is left, and stays as it is however many rounds follow. -/
theorem fill_iff_firstFit_stranded :
    let pool : List Player := [⟨1, 1⟩, ⟨3, 2⟩, ⟨5, 3⟩, ⟨2, 1⟩, ⟨4, 2⟩, ⟨6, 3⟩]
    (∃ m : Matching pool, m.FirstFit 2 3 ∧
      m.outcome = ⟨[[⟨1, 1⟩, ⟨4, 2⟩], [⟨3, 2⟩, ⟨2, 1⟩], [⟨5, 3⟩]], [⟨6, 3⟩]⟩) ∧
    1 ≤ 2 ∧ (fill pool 2 3).tables.map (List.take 1) = (fill pool 1 3).tables ∧
    (fill pool (1 + 1) 3).tables[2]? = (fill pool 1 3).tables[2]? ∧ 1 ≤ 5 ∧
    (fill pool 5 3).tables[2]? = (fill pool 1 3).tables[2]? := by
  intro pool
  obtain ⟨matched, cut, kept⟩ := fill_iff_firstFit pool 2 3
  have passed : (fill pool (1 + 1) 3).tables[2]? = (fill pool 1 3).tables[2]? := by decide
  exact ⟨(matched _).mpr (by decide), by decide, cut 1 (by decide), passed, by decide,
    kept 1 2 passed 5 (by decide)⟩

end TableDraw.Fill
