import TableDraw.Seating

set_option autoImplicit false

/-!
The tables of a seating and their numbers.
-/

namespace TableDraw.Seating

theorem map_fst_numbered (first : TableId) (tables : List (List Player)) :
    (numbered first tables).map Prod.fst = List.range' first tables.length := by
  induction tables generalizing first with
  | nil => rfl
  | cons table rest ih =>
      simp only [numbered, List.map_cons, List.length_cons, List.range'_succ, ih]

theorem map_snd_numbered (first : TableId) (tables : List (List Player)) :
    (numbered first tables).map Prod.snd = tables := by
  induction tables generalizing first with
  | nil => rfl
  | cons table rest ih => simp only [numbered, List.map_cons, ih]

@[simp] theorem keys_ofTables (tables : List (List Player)) :
    (ofTables tables).tables.keys = List.range tables.length := by
  rw [List.range_eq_range']
  exact map_fst_numbered 0 tables

@[simp] theorem values_ofTables (tables : List (List Player)) :
    (ofTables tables).tables.values = tables :=
  map_snd_numbered 0 tables

theorem lookup_numbered (first i : Nat) (tables : List (List Player)) :
    (numbered first tables).lookup (first + i) = tables[i]? := by
  induction tables generalizing first i with
  | nil => rfl
  | cons table rest ih =>
      rw [numbered, List.lookup_cons]
      cases i with
      | zero => simp only [Nat.add_zero, BEq.rfl, List.getElem?_cons_zero]
      | succ i =>
          have next : first + (i + 1) = first + 1 + i := by omega
          have apart : (first + 1 + i == first) = false := by
            rw [beq_eq_false_iff_ne]
            omega
          simp only [next, apart, ih, List.getElem?_cons_succ]

@[simp] theorem table?_ofTables (tables : List (List Player)) (table : TableId) :
    (ofTables tables).table? table = tables[table]? := by
  rw [← lookup_numbered 0 table tables, Nat.zero_add]
  rfl

/-- The seating with every player replaced. -/
def map (f : Player → Player) (s : Seating) : Seating :=
  ⟨⟨s.tables.entries.map (fun e => (e.1, e.2.map f)), List.pairwise_map.mpr s.tables.ascending⟩⟩

theorem map_numbered (f : Player → Player) (first : TableId) (tables : List (List Player)) :
    (numbered first tables).map (fun e => (e.1, e.2.map f)) =
      numbered first (tables.map (List.map f)) := by
  induction tables generalizing first with
  | nil => rfl
  | cons table rest ih => simp only [numbered, List.map_cons, ih]

theorem map_ofTables (f : Player → Player) (tables : List (List Player)) :
    (ofTables tables).map f = ofTables (tables.map (List.map f)) := by
  apply Seating.ext
  apply SortedMap.ext
  exact map_numbered f 0 tables

end TableDraw.Seating
