import Mathlib.Data.List.Nodup
import TableDraw.Arguments
import TableDraw.Proofs.Utf8

set_option autoImplicit false

/-!
Command lines made of options with their values. Every look-up removes what it finds and leaves the
others as they stand, so the options may come in any order, and of an option that comes twice the
second occurrence is left over.
-/

namespace TableDraw.Arguments

theorem spells_iff (name : String) (argument : Bytes) :
    spells name argument = true ↔ argument = Utf8.encode name.toList := by
  rw [spells, beq_iff_eq, Utf8.decode?_eq_some_iff]

section Lines

/-- The options that take a value, in the order in which they are looked up. -/
inductive Key where
  | roster
  | seed
  | maxAttempts
  | deadlineMillis
  deriving DecidableEq

namespace Key

/-- The place of an option in the order of the look-ups. -/
def rank : Key → Nat
  | roster => 0
  | seed => 1
  | maxAttempts => 2
  | deadlineMillis => 3

/-- The name by which an option goes on a command line. -/
def name : Key → String
  | roster => "--roster"
  | seed => "--seed"
  | maxAttempts => "--max-attempts"
  | deadlineMillis => "--deadline-ms"

/-- What the value of an option is read as. -/
abbrev Value : Key → Type
  | roster => Bytes
  | seed => Int64
  | maxAttempts => UInt32
  | deadlineMillis => UInt64

/-- Reads the value of an option. A path may be any text. -/
def read : (key : Key) → List Char → Except Numeral.Defect key.Value
  | roster => fun text => .ok (Utf8.encode text)
  | seed => Numeral.readInt64
  | maxAttempts => Numeral.readUInt32
  | deadlineMillis => Numeral.readUInt64

/-- What is wrong with the value of an option. -/
inductive Misread (key : Key) : Bytes → Defect → Prop
  | notText {value : Bytes} (broken : ∀ text, value ≠ Utf8.encode text) :
      Misread key value .notText
  | unreadable {text : List Char} {cause : Numeral.Defect} (failed : key.read text = .error cause) :
      Misread key (Utf8.encode text) (.unreadable text cause)

theorem not_misread_roster (text : List Char) (defect : Defect) :
    ¬ Misread roster (Utf8.encode text) defect := by
  generalize given : Utf8.encode text = value
  rintro (⟨broken⟩ | ⟨failed⟩)
  · exact broken text given.symm
  · cases failed

end Key

/-- An option with its value, or the flag that asks for seats. -/
inductive Entry where
  | option (key : Key) (value : Bytes)
  | records
  deriving DecidableEq

/-- Names that mean something on a command line. -/
def names : List String :=
  ["--roster", "--seed", "--max-attempts", "--deadline-ms", "--records", "-h", "--help"]

namespace Entry

/-- The option of an entry; the flag is of a kind of its own. -/
def kind : Entry → Option Key
  | option key _ => some key
  | records => none

/-- The value that an entry gives to an option. -/
def value? (key : Key) : Entry → Option Bytes
  | option own value => if own = key then some value else none
  | records => none

/-- The arguments of an entry. -/
def arguments : Entry → List Bytes
  | option key value => [Utf8.encode key.name.toList, value]
  | records => [Utf8.encode "--records".toList]

/-- No value is one of the names. -/
def Plain : Entry → Prop
  | option _ value => ∀ name ∈ names, value ≠ Utf8.encode name.toList
  | records => True

instance (e : Entry) : Decidable e.Plain :=
  match e with
  | option _ value =>
      inferInstanceAs (Decidable (∀ name ∈ names, value ≠ Utf8.encode name.toList))
  | records => .isTrue trivial

end Entry

/-- The command line of some entries. -/
def line (entries : List Entry) : List Bytes := entries.flatMap Entry.arguments

/-- The first value that is given to an option. -/
def valueOf (key : Key) (entries : List Entry) : Option Bytes :=
  entries.findSome? (Entry.value? key)

/-- The entries without the first one of a kind. -/
def without (kind : Option Key) (entries : List Entry) : List Entry :=
  entries.eraseP (fun e => e.kind == kind)

end Lines

section Lookup

variable {entries : List Entry} {key : Key}

theorem spells_encode (name other : String) :
    spells name (Utf8.encode other.toList) = decide (other = name) := by
  rw [Bool.eq_iff_iff, spells_iff, decide_eq_true_eq]
  constructor
  · intro same
    exact String.toList_inj.mp (Utf8.encode_injective same)
  · rintro rfl
    rfl

theorem spells_name (key own : Key) :
    spells key.name (Utf8.encode own.name.toList) = decide (own = key) := by
  rw [spells_encode]
  cases key <;> cases own <;> decide

/-- The name of an option stands only where an entry of that option begins. -/
theorem not_spells_of_kind_ne {e : Entry} (plain : e.Plain) (other : e.kind ≠ some key) :
    ∀ argument ∈ e.arguments, spells key.name argument = false := by
  cases e with
  | records =>
      intro argument member
      rw [List.mem_singleton.mp member, spells_encode]
      cases key <;> decide
  | option own value =>
      have apart : own ≠ key := fun same => other (congrArg some same)
      have unnamed : spells key.name value = false := by
        rw [← Bool.not_eq_true, spells_iff]
        exact plain key.name (by cases key <;> decide)
      have unlike : spells key.name (Utf8.encode own.name.toList) = false := by
        rw [spells_name, decide_eq_false apart]
      exact List.forall_mem_cons.mpr ⟨unlike, List.forall_mem_singleton.mpr unnamed⟩

/-- The result of a look-up among the arguments behind one that stays. -/
def Lookup.behind (argument : Bytes) : Lookup → Lookup
  | found value others => .found value (argument :: others)
  | other => other

theorem lookup_own {name : String} {argument : Bytes} (own : spells name argument = true)
    (value : Bytes) (others : List Bytes) :
    lookup name (argument :: value :: others) = .found value others := by
  rw [lookup.eq_def]
  exact if_pos own

theorem lookup_append {name : String} {arguments : List Bytes}
    (others : ∀ argument ∈ arguments, spells name argument = false) (rest : List Bytes) :
    lookup name (arguments ++ rest) = arguments.foldr Lookup.behind (lookup name rest) := by
  induction arguments with
  | nil => rfl
  | cons argument arguments ih =>
      obtain ⟨other, others⟩ := List.forall_mem_cons.mp others
      rw [List.cons_append, List.foldr_cons, ← ih others, lookup.eq_def]
      simp only [other, Bool.false_eq_true, ↓reduceIte]
      cases lookup name (arguments ++ rest) <;> rfl

/-- What the look-up of an option comes to: its first value, and the other entries. -/
def found (key : Key) (entries : List Entry) : Lookup :=
  match valueOf key entries with
  | none => .absent
  | some value => .found value (line (without (some key) entries))

theorem found_own (key : Key) (value : Bytes) (rest : List Entry) :
    found key (.option key value :: rest) = .found value (line rest) := by
  have own : (Entry.option key value).value? key = some value := if_pos rfl
  have removed : without (some key) (.option key value :: rest) = rest :=
    List.eraseP_cons_of_pos (beq_self_eq_true (some key))
  simp only [found, valueOf, List.findSome?_cons, own, removed]

theorem value?_of_kind_ne {e : Entry} (other : e.kind ≠ some key) : e.value? key = none := by
  cases e with
  | records => rfl
  | option own value => exact if_neg (fun same => other (congrArg some same))

theorem without_cons_of_ne {kind : Option Key} {e : Entry} (other : e.kind ≠ kind)
    (rest : List Entry) : without kind (e :: rest) = e :: without kind rest :=
  List.eraseP_cons_of_neg (fun same => other (beq_iff_eq.mp same))

theorem found_other {e : Entry} (other : e.kind ≠ some key) (rest : List Entry) :
    found key (e :: rest) = e.arguments.foldr Lookup.behind (found key rest) := by
  have passed : valueOf key (e :: rest) = valueOf key rest := by
    rw [valueOf, List.findSome?_cons, value?_of_kind_ne other]
    rfl
  simp only [found, passed, without_cons_of_ne other]
  cases valueOf key rest <;> cases e <;> rfl

/-- A look-up finds the first entry of its option, and never the value of another one. -/
theorem lookup_line (plain : ∀ e ∈ entries, e.Plain) :
    lookup key.name (line entries) = found key entries := by
  induction entries with
  | nil => rfl
  | cons e rest ih =>
      obtain ⟨first, others⟩ := List.forall_mem_cons.mp plain
      show lookup key.name (e.arguments ++ line rest) = _
      by_cases kind : e.kind = some key
      · cases e with
        | records => cases kind
        | option own value =>
            have same : own = key := Option.some.inj kind
            subst same
            rw [found_own]
            exact lookup_own (by rw [spells_name, decide_eq_true rfl]) value (line rest)
      · rw [found_other kind, lookup_append (not_spells_of_kind_ne first kind), ih others]

end Lookup

section Reading

variable {entries : List Entry} {key : Key} {kind : Option Key}

/-- The value that is read for an option, if one is given. -/
def given (key : Key) (entries : List Entry) : Except Defect (Option key.Value) :=
  match valueOf key entries with
  | none => .ok none
  | some value =>
      match Utf8.decode? value with
      | none => .error .notText
      | some text =>
          match key.read text with
          | .error cause => .error (.unreadable text cause)
          | .ok a => .ok (some a)

theorem plain_without (plain : ∀ e ∈ entries, e.Plain) (kind : Option Key) :
    ∀ e ∈ without kind entries, e.Plain :=
  fun e member => plain e (List.mem_of_mem_eraseP member)

theorem without_of_valueOf_none (absent : valueOf key entries = none) :
    without (some key) entries = entries := by
  apply List.eraseP_of_forall_not
  intro e member own
  have value := List.findSome?_eq_none_iff.mp absent e member
  cases e with
  | records => cases own
  | option other given =>
      obtain rfl : other = key := Option.some.inj (beq_iff_eq.mp own)
      rw [Entry.value?, if_pos rfl] at value
      cases value

theorem valueOf_without (other : kind ≠ some key) :
    valueOf key (without kind entries) = valueOf key entries := by
  induction entries with
  | nil => rfl
  | cons e rest ih =>
      by_cases own : e.kind = kind
      · have removed : without kind (e :: rest) = rest :=
          List.eraseP_cons_of_pos (beq_iff_eq.mpr own)
        rw [removed, valueOf, valueOf, List.findSome?_cons, value?_of_kind_ne (own ▸ other)]
      · rw [without_cons_of_ne own, valueOf, valueOf, List.findSome?_cons, List.findSome?_cons]
        cases e.value? key with
        | some value => rfl
        | none => exact ih

theorem given_without (other : kind ≠ some key) :
    given key (without kind entries) = given key entries := by
  simp only [given, valueOf_without other]

/-- Taking an option reads its first value and leaves the other entries. -/
theorem takeOption_line (key : Key) (plain : ∀ e ∈ entries, e.Plain) :
    takeOption key.name key.read (line entries) =
      (given key entries).map (fun a => (a, line (without (some key) entries))) := by
  rw [takeOption, lookup_line plain, found, given]
  cases first : valueOf key entries with
  | none =>
      rw [without_of_valueOf_none first]
      rfl
  | some value =>
      dsimp only
      cases Utf8.decode? value with
      | none => rfl
      | some text =>
          dsimp only
          cases key.read text <;> rfl

theorem not_records_of_option {value : Bytes} (plain : (Entry.option key value).Plain) :
    ∀ argument ∈ (Entry.option key value).arguments, spells "--records" argument = false := by
  have unlike : spells "--records" (Utf8.encode key.name.toList) = false := by
    rw [spells_encode]
    cases key <;> decide
  have unnamed : spells "--records" value = false := by
    rw [← Bool.not_eq_true, spells_iff]
    exact plain "--records" (by decide)
  exact List.forall_mem_cons.mpr ⟨unlike, List.forall_mem_singleton.mpr unnamed⟩

theorem takeFlag_line (plain : ∀ e ∈ entries, e.Plain) :
    takeFlag "--records" (line entries) =
      (decide (Entry.records ∈ entries), line (without none entries)) := by
  induction entries with
  | nil => rfl
  | cons e rest ih =>
      obtain ⟨first, others⟩ := List.forall_mem_cons.mp plain
      obtain ⟨flag, left⟩ := Prod.ext_iff.mp (ih others)
      cases e with
      | records =>
          have own : spells "--records" (Utf8.encode "--records".toList) = true := by
            rw [spells_encode, decide_eq_true rfl]
          refine Prod.ext ?_ ?_
          · show (spells "--records" (Utf8.encode "--records".toList) || _) = _
            rw [own, Bool.true_or, decide_eq_true List.mem_cons_self]
          · exact List.eraseP_cons_of_pos own
      | option key value =>
          have unlike := not_records_of_option first
          refine Prod.ext ?_ ?_
          · show ((Entry.option key value).arguments ++ line rest).any (spells "--records") = _
            have silent : (Entry.option key value).arguments.any (spells "--records") = false :=
              List.any_eq_false.mpr (fun a member => by rw [unlike a member]; exact nofun)
            rw [List.any_append, silent, Bool.false_or]
            refine flag.trans (decide_eq_decide.mpr ?_)
            rw [List.mem_cons, or_iff_right nofun]
          · show ((Entry.option key value).arguments ++ line rest).eraseP (spells "--records") = _
            have other : (Entry.option key value).kind ≠ none := Option.some_ne_none key
            have kept := without_cons_of_ne other rest
            rw [List.eraseP_append_right _ (fun a member => by rw [unlike a member]; exact nofun),
              kept]
            exact congrArg _ left

theorem records_mem_without (key : Key) (entries : List Entry) :
    Entry.records ∈ without (some key) entries ↔ Entry.records ∈ entries :=
  List.mem_eraseP_of_neg nofun

theorem ite_isEmpty_line {α : Type} (entries : List Entry) (a b : α) :
    (if (line entries).isEmpty then a else b) = if entries = [] then a else b := by
  cases entries with
  | nil => rfl
  | cons e rest => cases e <;> rfl

/-- The kinds of entries in the order in which they are taken. -/
def kinds : List (Option Key) :=
  [some .roster, some .seed, some .maxAttempts, some .deadlineMillis, none]

/-- The entries that nothing asks for. -/
def leftOver (entries : List Entry) : List Entry :=
  kinds.foldl (fun others kind => without kind others) entries

/-- The arguments are read entry by entry, however they stand. -/
theorem parse_line (plain : ∀ e ∈ entries, e.Plain) : parse (line entries) = (do
    let roster ← given .roster entries
    let seed ← given .seed entries
    let maxAttempts ← given .maxAttempts entries
    let deadlineMillis ← given .deadlineMillis entries
    if leftOver entries = [] then
      return ⟨roster, seed, maxAttempts, deadlineMillis, decide (Entry.records ∈ entries)⟩
    else throw (.unexpected (line (leftOver entries)))) := by
  have plain₁ := plain_without plain (some .roster)
  have plain₂ := plain_without plain₁ (some .seed)
  have plain₃ := plain_without plain₂ (some .maxAttempts)
  have plain₄ := plain_without plain₃ (some .deadlineMillis)
  have roster : takeOption "--roster" (fun text => .ok (Utf8.encode text)) (line entries) = _ :=
    takeOption_line .roster plain
  have seed : takeOption "--seed" Numeral.readInt64 _ = _ := takeOption_line .seed plain₁
  have maxAttempts : takeOption "--max-attempts" Numeral.readUInt32 _ = _ :=
    takeOption_line .maxAttempts plain₂
  have deadlineMillis : takeOption "--deadline-ms" Numeral.readUInt64 _ = _ :=
    takeOption_line .deadlineMillis plain₃
  have records := takeFlag_line plain₄
  simp only [records_mem_without] at records
  rw [given_without (by decide)] at seed
  rw [given_without (by decide), given_without (by decide)] at maxAttempts
  rw [given_without (by decide), given_without (by decide), given_without (by decide)]
    at deadlineMillis
  unfold parse
  rw [roster]
  cases given .roster entries with
  | error defect => rfl
  | ok path =>
      show (takeOption "--seed" Numeral.readInt64 _ >>= _) = _
      rw [seed]
      cases given .seed entries with
      | error defect => rfl
      | ok n =>
          show (takeOption "--max-attempts" Numeral.readUInt32 _ >>= _) = _
          rw [maxAttempts]
          cases given .maxAttempts entries with
          | error defect => rfl
          | ok limit =>
              show (takeOption "--deadline-ms" Numeral.readUInt64 _ >>= _) = _
              rw [deadlineMillis]
              cases given .deadlineMillis entries with
              | error defect => rfl
              | ok millis =>
                  show (if (takeFlag "--records" _).2.isEmpty
                    then .ok ⟨path, n, limit, millis, (takeFlag "--records" _).1⟩
                    else .error (.unexpected (takeFlag "--records" _).2) :
                      Except Defect Overrides) = _
                  rw [records]
                  exact ite_isEmpty_line (leftOver entries) _ _

end Reading

section Values

variable {entries : List Entry} {key : Key} {value : Bytes} {defect : Defect}

theorem value?_eq_some_iff (key : Key) (e : Entry) (value : Bytes) :
    e.value? key = some value ↔ e = .option key value := by
  constructor
  · intro given
    cases e with
    | records => cases given
    | option own other =>
        rw [Entry.value?] at given
        split at given
        · rename_i same
          cases given
          rw [same]
        · cases given
  · rintro rfl
    exact if_pos rfl

theorem mem_of_valueOf (first : valueOf key entries = some value) :
    .option key value ∈ entries := by
  obtain ⟨e, member, given⟩ := List.exists_of_findSome?_eq_some first
  rwa [(value?_eq_some_iff key e value).mp given] at member

/-- Of an option that comes once, the value is the first one. -/
theorem valueOf_eq_some_iff (distinct : (entries.map Entry.kind).Nodup) (key : Key)
    (value : Bytes) : valueOf key entries = some value ↔ .option key value ∈ entries := by
  refine ⟨mem_of_valueOf, fun member => ?_⟩
  have given : (valueOf key entries).isSome := by
    rw [valueOf, List.findSome?_isSome_iff]
    exact ⟨_, member, by rw [(value?_eq_some_iff key _ value).mpr rfl]; rfl⟩
  obtain ⟨other, first⟩ := Option.isSome_iff_exists.mp given
  have same := List.inj_on_of_nodup_map distinct (mem_of_valueOf first) member rfl
  cases same
  exact first

theorem misread_of_given (failed : given key entries = .error defect) :
    ∃ value, valueOf key entries = some value ∧ key.Misread value defect := by
  unfold given at failed
  split at failed
  · cases failed
  · rename_i value first
    refine ⟨value, first, ?_⟩
    split at failed
    · rename_i broken
      cases failed
      refine .notText (fun text spelled => ?_)
      rw [spelled, Utf8.decode?_encode] at broken
      cases broken
    · rename_i text decoded
      split at failed
      · rename_i cause unread
        cases failed
        rw [(Utf8.decode?_eq_some_iff _ _).mp decoded]
        exact .unreadable unread
      · cases failed

theorem given_of_misread (first : valueOf key entries = some value)
    (misread : key.Misread value defect) : given key entries = .error defect := by
  cases misread with
  | notText broken =>
      have undecoded : Utf8.decode? value = none := by
        rw [Option.eq_none_iff_forall_ne_some]
        exact fun text decoded => broken text ((Utf8.decode?_eq_some_iff _ _).mp decoded)
      simp only [given, first, undecoded]
  | unreadable failed => simp only [given, first, Utf8.decode?_encode, failed]

/-- What was read is the value that is given, if one is. -/
theorem eq_some_iff_of_given {result : Option key.Value} (read : given key entries = .ok result)
    (a : key.Value) : result = some a ↔
      ∃ text, valueOf key entries = some (Utf8.encode text) ∧ key.read text = .ok a := by
  unfold given at read
  split at read
  · rename_i absent
    cases read
    rw [absent]
    exact ⟨nofun, nofun⟩
  · rename_i value first
    split at read
    · cases read
    · rename_i text decoded
      have spelled := (Utf8.decode?_eq_some_iff _ _).mp decoded
      split at read
      · cases read
      · rename_i b taken
        cases read
        rw [first, spelled]
        constructor
        · intro same
          exact ⟨text, rfl, taken.trans (congrArg _ (Option.some.inj same))⟩
        · rintro ⟨other, same, taken'⟩
          obtain rfl := Utf8.encode_injective (Option.some.inj same)
          exact congrArg some (Except.ok.inj (taken.symm.trans taken'))

end Values

section LeftOver

variable {entries : List Entry}

theorem map_kind_without (kind : Option Key) (entries : List Entry) :
    (without kind entries).map Entry.kind = (entries.map Entry.kind).erase kind := by
  rw [List.erase_eq_eraseP, List.eraseP_map, without]
  congr 2
  funext e
  exact BEq.comm

theorem map_kind_foldl (taken : List (Option Key)) (entries : List Entry) :
    (taken.foldl (fun others kind => without kind others) entries).map Entry.kind =
      (entries.map Entry.kind).diff taken := by
  rw [List.diff_eq_foldl]
  induction taken generalizing entries with
  | nil => rfl
  | cons kind taken ih => rw [List.foldl_cons, List.foldl_cons, ih, map_kind_without]

theorem kind_mem_kinds (e : Entry) : e.kind ∈ kinds := by
  cases e with
  | records => decide
  | option key value => cases key <;> simp [Entry.kind, kinds]

theorem leftOver_of_distinct (distinct : (entries.map Entry.kind).Nodup) :
    leftOver entries = [] := by
  have kindless : (leftOver entries).map Entry.kind = [] := by
    rw [leftOver, map_kind_foldl, distinct.sdiff_eq_filter, List.filter_eq_nil_iff]
    intro kind member
    obtain ⟨e, _, rfl⟩ := List.mem_map.mp member
    rw [decide_eq_true_eq, not_not]
    exact kind_mem_kinds e
  exact List.map_eq_nil_iff.mp kindless

/-- An entry that comes behind another one of its kind stays when one of each kind is taken: the
induction is on the kinds that are still to be taken. -/
theorem foldl_without_insert {taken : List (Option Key)} (distinct : taken.Nodup) {e : Entry}
    {before : List Entry} (after : List Entry)
    (earlier : e.kind ∈ taken → e.kind ∈ before.map Entry.kind) : ∃ before' after',
      taken.foldl (fun others kind => without kind others) (before ++ e :: after) =
        before' ++ e :: after' ∧
      taken.foldl (fun others kind => without kind others) (before ++ after) =
        before' ++ after' := by
  induction taken generalizing before after with
  | nil => exact ⟨before, after, rfl, rfl⟩
  | cons kind taken ih =>
      obtain ⟨fresh, distinct⟩ := List.nodup_cons.mp distinct
      simp only [List.foldl_cons]
      by_cases inside : kind ∈ before.map Entry.kind
      · obtain ⟨other, member, own⟩ := List.mem_map.mp inside
        have split (rest : List Entry) :
            without kind (before ++ rest) = without kind before ++ rest :=
          List.eraseP_append_left (p := fun e : Entry => e.kind == kind) (beq_iff_eq.mpr own) rest
            member
        rw [split, split]
        apply ih distinct
        intro later
        have apart : e.kind ≠ kind := fun same => fresh (same ▸ later)
        rw [map_kind_without, List.mem_erase_of_ne apart]
        exact earlier (List.mem_cons_of_mem _ later)
      · have split (rest : List Entry) : without kind (before ++ rest) = before ++ without kind rest :=
          List.eraseP_append_right rest
            (fun other member own => inside (List.mem_map.mpr ⟨other, member, beq_iff_eq.mp own⟩))
        have apart : e.kind ≠ kind :=
          fun same => inside (same ▸ earlier (List.mem_cons.mpr (.inl same)))
        rw [split, split, without_cons_of_ne apart]
        exact ih distinct (without kind after)
          (fun later => earlier (List.mem_cons_of_mem _ later))

/-- A second occurrence is left over, if nothing else is. -/
theorem leftOver_insert {before after : List Entry} {key : Key} {first : Bytes}
    (earlier : .option key first ∈ before) (second : Bytes)
    (used : leftOver (before ++ after) = []) :
    leftOver (before ++ .option key second :: after) = [.option key second] := by
  have distinct : kinds.Nodup := by decide
  have kind : (Entry.option key second).kind ∈ before.map Entry.kind :=
    List.mem_map.mpr ⟨_, earlier, rfl⟩
  obtain ⟨before', after', left, others⟩ := foldl_without_insert distinct after (fun _ => kind)
  obtain ⟨rfl, rfl⟩ := List.append_eq_nil_iff.mp (others.symm.trans used)
  exact left

/-- A second occurrence of an option changes no value. -/
theorem valueOf_insert {before : List Entry} {own : Key} {first : Bytes}
    (earlier : .option own first ∈ before) (second : Bytes) (after : List Entry) (key : Key) :
    valueOf key (before ++ .option own second :: after) = valueOf key (before ++ after) := by
  simp only [valueOf, List.findSome?_append]
  by_cases same : own = key
  · subst same
    have given : (before.findSome? (Entry.value? own)).isSome :=
      List.findSome?_isSome_iff.mpr
        ⟨_, earlier, by rw [(value?_eq_some_iff own _ first).mpr rfl]; rfl⟩
    obtain ⟨value, found⟩ := Option.isSome_iff_exists.mp given
    rw [found, Option.some_or, Option.some_or]
  · have other : (Entry.option own second).kind ≠ some key :=
      fun kind => same (Option.some.inj kind)
    rw [List.findSome?_cons, value?_of_kind_ne other]

end LeftOver

section Outcome

/-- What overrides say of an option. -/
def Key.setting : (key : Key) → Overrides → Option key.Value
  | roster => Overrides.roster
  | seed => Overrides.seed
  | maxAttempts => Overrides.maxAttempts
  | deadlineMillis => Overrides.deadlineMillis

/-- Overrides hold what the values of the entries are read as, and nothing else. -/
structure Tells (entries : List Entry) (o : Overrides) : Prop where
  value : ∀ (key : Key) (a : key.Value), key.setting o = some a ↔
    ∃ text, .option key (Utf8.encode text) ∈ entries ∧ key.read text = .ok a
  records : o.records = true ↔ .records ∈ entries

variable {entries : List Entry}

theorem asksForHelp_line (plain : ∀ e ∈ entries, e.Plain) :
    asksForHelp (line entries) = false := by
  rw [asksForHelp, line, List.any_flatMap, List.any_eq_false]
  intro e member
  rw [Bool.not_eq_true, List.any_eq_false]
  intro argument within
  simp only [Bool.or_eq_true, spells_iff]
  have own := plain e member
  cases e with
  | records =>
      rw [List.mem_singleton.mp within]
      decide
  | option key value =>
      rcases List.mem_cons.mp within with rfl | given
      · cases key <;> decide
      · rw [List.mem_singleton.mp given]
        rintro (short | long)
        · exact own "-h" (by decide) short
        · exact own "--help" (by decide) long

theorem given_perm {entries' : List Entry} (perm : entries'.Perm entries)
    (distinct : (entries.map Entry.kind).Nodup) (key : Key) :
    given key entries' = given key entries := by
  have distinct' : (entries'.map Entry.kind).Nodup := (perm.map Entry.kind).nodup_iff.mpr distinct
  have same : valueOf key entries' = valueOf key entries := by
    apply Option.ext
    intro value
    rw [valueOf_eq_some_iff distinct', valueOf_eq_some_iff distinct, perm.mem_iff]
  simp only [given, same]

theorem parse_perm {entries' : List Entry} (perm : entries'.Perm entries)
    (distinct : (entries.map Entry.kind).Nodup) (plain : ∀ e ∈ entries, e.Plain) :
    parse (line entries') = parse (line entries) := by
  have distinct' : (entries'.map Entry.kind).Nodup := (perm.map Entry.kind).nodup_iff.mpr distinct
  rw [parse_line plain, parse_line (fun e member => plain e (perm.mem_iff.mp member)),
    leftOver_of_distinct distinct, leftOver_of_distinct distinct']
  simp only [given_perm perm distinct, perm.mem_iff]

/-- The first option in the order of the look-ups that has a wrong value is reported. -/
theorem parse_of_misread (distinct : (entries.map Entry.kind).Nodup)
    (plain : ∀ e ∈ entries, e.Plain) {key : Key} {value : Bytes} {defect : Defect}
    (member : .option key value ∈ entries) (misread : key.Misread value defect)
    (least : ∀ other value' defect', .option other value' ∈ entries →
      Key.Misread other value' defect' → key.rank ≤ other.rank) :
    parse (line entries) = .error defect := by
  have failed := given_of_misread ((valueOf_eq_some_iff distinct key value).mpr member) misread
  have earlier (other : Key) (before : other.rank < key.rank) :
      ∃ result, given other entries = .ok result := by
    cases read : given other entries with
    | ok result => exact ⟨result, rfl⟩
    | error defect' =>
        obtain ⟨value', first, misread'⟩ := misread_of_given read
        have later := least other value' defect' (mem_of_valueOf first) misread'
        omega
  rw [parse_line plain]
  cases key with
  | roster =>
      rw [failed]
      rfl
  | seed =>
      obtain ⟨_, roster⟩ := earlier .roster (by decide)
      rw [roster, failed]
      rfl
  | maxAttempts =>
      obtain ⟨_, roster⟩ := earlier .roster (by decide)
      obtain ⟨_, seed⟩ := earlier .seed (by decide)
      rw [roster, seed, failed]
      rfl
  | deadlineMillis =>
      obtain ⟨_, roster⟩ := earlier .roster (by decide)
      obtain ⟨_, seed⟩ := earlier .seed (by decide)
      obtain ⟨_, maxAttempts⟩ := earlier .maxAttempts (by decide)
      rw [roster, seed, maxAttempts, failed]
      rfl

/-- Where no value is wrong the overrides tell what is given. -/
theorem parse_of_read (distinct : (entries.map Entry.kind).Nodup) (plain : ∀ e ∈ entries, e.Plain)
    (right : ∀ key value defect, .option key value ∈ entries → ¬ Key.Misread key value defect) :
    ∃ o, parse (line entries) = .ok o ∧ Tells entries o := by
  have read (key : Key) : ∃ result, given key entries = .ok result := by
    cases read : given key entries with
    | ok result => exact ⟨result, rfl⟩
    | error defect =>
        obtain ⟨value, first, misread⟩ := misread_of_given read
        exact absurd misread (right key value defect (mem_of_valueOf first))
  obtain ⟨roster, rosterRead⟩ := read .roster
  obtain ⟨seed, seedRead⟩ := read .seed
  obtain ⟨maxAttempts, maxAttemptsRead⟩ := read .maxAttempts
  obtain ⟨deadlineMillis, deadlineMillisRead⟩ := read .deadlineMillis
  refine ⟨⟨roster, seed, maxAttempts, deadlineMillis, decide (Entry.records ∈ entries)⟩, ?_, ?_⟩
  · rw [parse_line plain, rosterRead, seedRead, maxAttemptsRead, deadlineMillisRead,
      leftOver_of_distinct distinct]
    rfl
  · refine ⟨?_, decide_eq_true_iff⟩
    intro key a
    simp only [← valueOf_eq_some_iff distinct]
    cases key with
    | roster => exact eq_some_iff_of_given rosterRead a
    | seed => exact eq_some_iff_of_given seedRead a
    | maxAttempts => exact eq_some_iff_of_given maxAttemptsRead a
    | deadlineMillis => exact eq_some_iff_of_given deadlineMillisRead a

theorem plain_insert {before after : List Entry} {e : Entry}
    (plain : ∀ other ∈ before ++ after, other.Plain) (own : e.Plain) :
    ∀ other ∈ before ++ e :: after, other.Plain := by
  intro other member
  rcases List.mem_append.mp member with earlier | later
  · exact plain other (List.mem_append_left _ earlier)
  · rcases List.mem_cons.mp later with rfl | later
    · exact own
    · exact plain other (List.mem_append_right _ later)

/-- An option that comes a second time changes nothing of what is read, and is left over. -/
theorem parse_insert {before after : List Entry} {key : Key} {first second : Bytes}
    (distinct : ((before ++ after).map Entry.kind).Nodup) (plain : ∀ e ∈ before ++ after, e.Plain)
    (earlier : .option key first ∈ before) (plain' : (Entry.option key second).Plain) :
    parse (line (before ++ .option key second :: after)) = (parse (line (before ++ after))).bind
      (fun _ => .error (.unexpected [Utf8.encode key.name.toList, second])) := by
  have read (other : Key) : given other (before ++ .option key second :: after) =
      given other (before ++ after) := by
    simp only [given, valueOf_insert earlier second after other]
  have among := plain_insert plain plain'
  rw [parse_line among, parse_line plain, leftOver_of_distinct distinct,
    leftOver_insert earlier second (leftOver_of_distinct distinct)]
  simp only [read]
  cases given .roster (before ++ after) with
  | error defect => rfl
  | ok roster =>
      cases given .seed (before ++ after) with
      | error defect => rfl
      | ok seed =>
          cases given .maxAttempts (before ++ after) with
          | error defect => rfl
          | ok maxAttempts => cases given .deadlineMillis (before ++ after) <;> rfl

end Outcome

/-- The arguments of a command line may come in any order. Each option with its value is read by
itself, also where the value looks like an option; of several wrong values the one that is reported
is that of the option looked up first; and if no value is wrong the overrides hold just what is given.
An option that comes a second time never overrides the first. If nothing is wrong otherwise, its name
and its value are the arguments that nobody expects. -/
theorem arguments_in_any_order (entries : List Entry)
    (distinct : (entries.map Entry.kind).Nodup) (plain : ∀ e ∈ entries, e.Plain) :
    (∀ entries' : List Entry, entries'.Perm entries →
      asksForHelp (line entries') = false ∧ parse (line entries') = parse (line entries)) ∧
    (∀ key value defect, .option key value ∈ entries → Key.Misread key value defect →
      (∀ other value' defect', .option other value' ∈ entries →
        Key.Misread other value' defect' → key.rank ≤ other.rank) →
      parse (line entries) = .error defect) ∧
    ((∀ key value defect, .option key value ∈ entries → ¬ Key.Misread key value defect) →
      ∃ o, parse (line entries) = .ok o ∧ Tells entries o) ∧
    (∀ before after key first second, entries = before ++ after → .option key first ∈ before →
      (Entry.option key second).Plain →
      let line' := line (before ++ .option key second :: after)
      asksForHelp line' = false ∧
      (∀ o, parse (line entries) = .ok o →
        parse line' = .error (.unexpected [Utf8.encode key.name.toList, second])) ∧
      (∀ defect, parse (line entries) = .error defect → parse line' = .error defect)) := by
  refine ⟨?order, ?wrong, ?right, ?second⟩
  case order =>
    intro entries' perm
    exact ⟨asksForHelp_line (fun e member => plain e (perm.mem_iff.mp member)),
      parse_perm perm distinct plain⟩
  case wrong =>
    intro key value defect member misread least
    exact parse_of_misread distinct plain member misread least
  case right => exact parse_of_read distinct plain
  case second =>
    rintro before after key first second rfl earlier plain' line'
    have inserted := parse_insert distinct plain earlier plain'
    refine ⟨asksForHelp_line (plain_insert plain plain'), ?_, ?_⟩
    · intro o read
      rw [inserted, read]
      rfl
    · intro defect failed
      rw [inserted, failed]
      rfl

/-- Options with values that look like options, and the flag between them. -/
def dashed : List Entry :=
  [.option .seed (Utf8.encode "-5".toList), .records, .option .roster (Utf8.encode "--seed=".toList)]

/-- A seed that is too small, behind a time limit that is no text. -/
def unreadable : List Entry :=
  [.option .deadlineMillis [0x2d, 0xff], .option .roster (Utf8.encode "r.json".toList),
    .option .seed (Utf8.encode "-9223372036854775809".toList)]

/-- Values with dashes in front are read like any others, a second path is not expected, and a seed is
looked at before a time limit. -/
theorem arguments_in_any_order_dashed :
    parse (line dashed.reverse) = parse (line dashed) ∧
    parse (line dashed) =
      .ok ⟨some (Utf8.encode "--seed=".toList), some (-5), none, none, true⟩ ∧
    parse (line (dashed ++ [.option .roster []])) =
      .error (.unexpected [Utf8.encode "--roster".toList, []]) ∧
    parse (line unreadable) =
      .error (.unreadable "-9223372036854775809".toList .tooSmall) := by
  obtain ⟨order, _, right, second⟩ :=
    arguments_in_any_order dashed (by decide) (by decide +kernel)
  obtain ⟨_, wrong, _⟩ := arguments_in_any_order unreadable (by decide) (by decide +kernel)
  have read : parse (line dashed) =
      .ok ⟨some (Utf8.encode "--seed=".toList), some (-5), none, none, true⟩ := by decide +kernel
  obtain ⟨_, left, _⟩ := second dashed [] .roster _ [] (List.append_nil dashed).symm
    (List.mem_of_getLast? rfl) (by decide +kernel)
  refine ⟨(order dashed.reverse dashed.reverse_perm).2, read, left _ read, ?_⟩
  refine wrong .seed _ _ (List.mem_of_getLast? rfl) (.unreadable (by decide +kernel)) ?_
  rintro other value' defect' member misread
  cases other with
  | roster =>
      have only : ∀ value, Entry.option .roster value ∈ unreadable →
          value = Utf8.encode "r.json".toList := by
        intro value member
        simpa [unreadable] using member
      rw [only value' member] at misread
      exact absurd misread (Key.not_misread_roster _ defect')
  | seed => exact Nat.le_refl _
  | maxAttempts => exact Nat.le_succ 1
  | deadlineMillis => exact Nat.le_add_right 1 2

end TableDraw.Arguments
