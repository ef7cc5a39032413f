import Mathlib.Data.List.Basic
import TableDraw.EnvFile
import TableDraw.Proofs.Utf8

set_option autoImplicit false

/-!
Files of variables that can be loaded. No value of a variable may hold a zero byte, and a line that
would set such a value breaks everything off. But a value is put together from the characters of its
line and from the values of other variables, so a file without a zero byte is always loaded.
-/

namespace TableDraw

theorem Utf8.zero_notMem_of_decode? {bytes : Bytes} {text : List Char}
    (decoded : decode? bytes = some text) (whole : 0 ∉ bytes) : '\x00' ∉ text := by
  rwa [(decode?_eq_some_iff bytes text).mp decoded, zero_mem_encode_iff] at whole

namespace Environment

/-- Variables as a system hands them out: no value holds a zero byte. -/
def ZeroFree (env : Environment) : Prop := ∀ a ∈ env.assignments, 0 ∉ a.2

variable {env : Environment} {name : String} {value : Bytes}

theorem ZeroFree.of_get? (free : env.ZeroFree) (found : env.get? name = some value) :
    0 ∉ value := by
  obtain ⟨before, after, split, _⟩ := List.lookup_eq_some_iff.mp found
  apply free (name, value)
  rw [split]
  exact List.mem_append_right _ List.mem_cons_self

theorem ZeroFree.of_reference? {reference : List Char} (free : env.ZeroFree)
    (found : env.reference? reference = some value) : 0 ∉ value := by
  unfold reference? at found
  split at found
  · exact free.of_get? found
  · obtain ⟨whole, held, begins⟩ := Option.bind_eq_some_iff.mp found
    split at begins
    · cases begins
      exact fun member => free.of_get? held (List.mem_of_mem_drop member)
    · cases begins

theorem ZeroFree.set (free : env.ZeroFree) {text : List Char} (whole : '\x00' ∉ text) :
    (env.set name (Utf8.encode text)).ZeroFree := by
  intro a member
  rcases List.mem_cons.mp member with rfl | earlier
  · rwa [Utf8.zero_mem_encode_iff]
  · exact free a earlier

theorem ZeroFree.setDefault (free : env.ZeroFree) {text : List Char} (whole : '\x00' ∉ text) :
    ∃ env', env.setDefault name text = .ok env' ∧ env'.ZeroFree := by
  unfold Environment.setDefault
  rw [if_neg whole]
  split
  · exact ⟨env, rfl, free⟩
  · exact ⟨_, rfl, free.set whole⟩

theorem zero_mem_of_setDefault_error {text : List Char} {refusal : Refusal}
    (refused : env.setDefault name text = .error refusal) : '\x00' ∈ refusal.text := by
  unfold setDefault at refused
  split at refused
  · cases refused
  · split at refused
    · rename_i zero
      cases refused
      exact zero
    · cases refused

end Environment

namespace EnvFile

variable {env : Environment} {s v : List Char} {c : Char}

section Values

theorem zero_notMem_substitute (free : env.ZeroFree) (letters : List Char) :
    '\x00' ∉ substitute env letters := by
  unfold substitute
  cases found : (env.reference? letters.reverse).bind Utf8.decode? with
  | none => exact List.not_mem_nil
  | some text =>
      obtain ⟨value, held, decoded⟩ := Option.bind_eq_some_iff.mp found
      exact Utf8.zero_notMem_of_decode? decoded (free.of_reference? held)

/-- A value is put together from the characters of its text, from line feeds, and from what stands for
names. -/
theorem mem_of_readValue {weak : Bool} {mode : Mode} (read : readValue env weak mode s = some v)
    (member : c ∈ v) : c ∈ s ∨ c = '\n' ∨ ∃ letters, c ∈ substitute env letters := by
  fun_induction readValue env weak mode s generalizing v <;> grind [Option.map_eq_some_iff]

theorem zero_notMem_of_readValue (free : env.ZeroFree) {weak : Bool} {mode : Mode}
    (read : readValue env weak mode s = some v) (whole : '\x00' ∉ s) : '\x00' ∉ v := by
  intro member
  rcases mem_of_readValue read member with inside | feed | ⟨letters, put⟩
  · exact whole inside
  · exact absurd feed (by decide)
  · exact zero_notMem_substitute free letters put

end Values

section Lines

variable {name rest : List Char}

theorem mem_of_takeName (taken : takeName s = some (name, rest)) (member : c ∈ rest) : c ∈ s := by
  unfold takeName at taken
  split at taken
  · cases taken
  · split at taken
    · cases taken
      exact (List.dropWhile_sublist _).subset member
    · cases taken

theorem mem_of_trimStart (member : c ∈ Text.trimStart s) : c ∈ s :=
  (List.dropWhile_sublist _).subset member

theorem mem_of_trimEnd (member : c ∈ Text.trimEnd s) : c ∈ s :=
  List.mem_reverse.mp ((List.dropWhile_sublist _).subset (List.mem_reverse.mp member))

/-- What stands behind a name and its sign. -/
theorem mem_of_sign {behind value : List Char} (named : takeName s = some (name, behind))
    (sign : Text.trimStart behind = '=' :: value) (member : c ∈ value) : c ∈ s := by
  have later : c ∈ Text.trimStart behind := sign ▸ List.mem_cons_of_mem _ member
  exact mem_of_takeName named (mem_of_trimStart later)

theorem mem_of_takeAssigned (taken : takeAssigned s = some (name, rest)) (member : c ∈ rest) :
    c ∈ s := by
  unfold takeAssigned at taken
  split at taken
  · cases taken
  · rename_i named
    split at taken
    · rename_i sign
      cases taken
      exact mem_of_sign named sign member
    · cases taken

theorem mem_of_takeTarget (taken : takeTarget s = some (name, rest)) (member : c ∈ rest) :
    c ∈ s := by
  unfold takeTarget at taken
  split at taken
  · cases taken
  · rename_i named
    split at taken
    · rename_i sign
      cases taken
      exact mem_of_sign named sign member
    · split at taken
      · exact mem_of_takeName named (mem_of_trimStart (mem_of_takeAssigned taken member))
      · cases taken

theorem zero_notMem_of_readLine (free : env.ZeroFree) {line value : List Char}
    (read : readLine env line = .assignment name value) (whole : '\x00' ∉ line) :
    '\x00' ∉ value := by
  unfold readLine at read
  dsimp only at read
  split at read
  · cases read
  · split at read
    · cases read
    · rename_i taken
      split at read
      · cases read
        exact List.not_mem_nil
      · split at read
        · cases read
        · rename_i spelled
          cases read
          refine zero_notMem_of_readValue free spelled (fun member => whole ?_)
          exact mem_of_trimEnd (mem_of_trimStart (mem_of_takeTarget taken (mem_of_trimStart member)))

theorem mem_of_scan {quoting : Quoting} {kept : List Char} {after : Option Quoting}
    (scanned : scan quoting s = (kept, after)) (member : c ∈ kept) : c ∈ s := by
  induction s generalizing quoting kept after with
  | nil =>
      cases scanned
      exact member
  | cons d s ih =>
      unfold scan at scanned
      split at scanned
      · cases scanned
        cases member
      · cases scanned
        rcases List.mem_cons.mp member with rfl | later
        · exact List.mem_cons_self
        · exact List.mem_cons_of_mem d (ih rfl later)

/-- No line has a zero character if neither what is begun nor any of the bytes to come has one. -/
theorem zero_notMem_of_joinLines {begun : List Char} {quoting : Quoting} {lines : List Bytes}
    (begins : '\x00' ∉ begun) (whole : ∀ bytes ∈ lines, 0 ∉ bytes) {line : List Char}
    (joined : some line ∈ joinLines begun quoting lines) : '\x00' ∉ line := by
  induction lines generalizing begun quoting with
  | nil =>
      unfold joinLines at joined
      split at joined <;> simp at joined
  | cons bytes lines ih =>
      obtain ⟨first, others⟩ := List.forall_mem_cons.mp whole
      unfold joinLines at joined
      split at joined
      · simp at joined
      · rename_i text decoded
        have clean : '\x00' ∉ text := Utf8.zero_notMem_of_decode? decoded first
        have extended : '\x00' ∉ begun ++ text :=
          fun member => (List.mem_append.mp member).elim begins clean
        split at joined
        · exact ih List.not_mem_nil others joined
        · split at joined
          · rename_i kept scanned
            rcases List.mem_cons.mp joined with same | later
            · cases same
              intro member
              refine (List.mem_append.mp member).elim begins (fun inside => clean ?_)
              exact mem_of_scan scanned inside
            · exact ih List.not_mem_nil others later
          · rcases List.mem_cons.mp joined with same | later
            · cases same
              exact extended
            · exact ih List.not_mem_nil others later
          · exact ih extended others joined

theorem mem_of_splitLines {content bytes : Bytes} {b : UInt8} (line : bytes ∈ splitLines content)
    (member : b ∈ bytes) : b ∈ content := by
  fun_induction splitLines content generalizing bytes with
  | case1 => cases line
  | case2 rest ih =>
      rcases List.mem_cons.mp line with rfl | later
      · rw [List.mem_singleton.mp member]
        exact List.mem_cons_self
      · exact List.mem_cons_of_mem _ (ih later member)
  | case3 own rest _ _ ih =>
      rw [List.mem_singleton.mp line, List.mem_singleton] at member
      rw [member]
      exact List.mem_cons_self
  | case4 own rest _ head more split ih =>
      rw [split] at ih
      rcases List.mem_cons.mp line with rfl | later
      · rcases List.mem_cons.mp member with rfl | inside
        · exact List.mem_cons_self
        · exact List.mem_cons_of_mem _ (ih List.mem_cons_self inside)
      · exact List.mem_cons_of_mem _ (ih (List.mem_cons_of_mem _ later) member)

end Lines

theorem exists_apply (free : env.ZeroFree) {lines : List (Option (List Char))}
    (whole : ∀ line, some line ∈ lines → '\x00' ∉ line) : ∃ env', apply env lines = .ok env' := by
  induction lines generalizing env with
  | nil => exact ⟨env, rfl⟩
  | cons first more ih =>
      have later : ∀ line, some line ∈ more → '\x00' ∉ line :=
        fun line member => whole line (List.mem_cons_of_mem _ member)
      cases first with
      | none => exact ⟨env, rfl⟩
      | some line =>
          rw [apply]
          cases read : readLine env line with
          | empty => exact ih free later
          | assignment name value =>
              obtain ⟨env', set, free'⟩ := free.setDefault
                (zero_notMem_of_readLine free read (whole line List.mem_cons_self))
              dsimp only
              rw [set]
              exact ih free' later
          | malformed => exact ⟨env, rfl⟩

/-- Nothing but a zero character in a value is ever refused. -/
theorem zero_mem_of_apply_error {lines : List (Option (List Char))} {refusal : Environment.Refusal}
    (refused : apply env lines = .error refusal) : '\x00' ∈ refusal.text := by
  induction lines generalizing env with
  | nil => cases refused
  | cons first more ih =>
      cases first with
      | none => cases refused
      | some line =>
          rw [apply] at refused
          split at refused
          · exact ih refused
          · split at refused
            · rename_i broken
              cases refused
              exact Environment.zero_mem_of_setDefault_error broken
            · exact ih refused
          · cases refused

theorem withoutMark_sublist (content : Bytes) : (withoutMark content).Sublist content := by
  unfold withoutMark
  split
  · rename_i rest
    exact List.sublist_append_right [0xef, 0xbb, 0xbf] rest
  · exact .refl _

/-- A file without a zero byte is loaded. -/
theorem exists_load (free : env.ZeroFree) {content : Bytes} (whole : 0 ∉ content) :
    ∃ env', load env content = .ok env' := by
  have lines : ∀ bytes ∈ splitLines (withoutMark content), 0 ∉ bytes :=
    fun _ line member => whole ((withoutMark_sublist content).subset (mem_of_splitLines line member))
  exact exists_apply free (fun _ => zero_notMem_of_joinLines List.not_mem_nil lines)

end EnvFile

end TableDraw
