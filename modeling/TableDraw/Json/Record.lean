import TableDraw.Json.Reader

set_option autoImplicit false

/-!
Records: values with named fields. A record is written as an object, its fields in any order among
members of other names, or as the list of its fields in order.
-/

namespace TableDraw.Json

/-- A field of a record that is put together in a state `σ`: its name, how its value is read and put
into the state, and whether a state has it. -/
structure Field (σ : Type) where
  name : String
  value : Reader (σ → σ)
  present : σ → Bool

/-- A record: its name, its fields in order, the state without any of them, and the record that a
state with all of them makes. -/
structure Record (σ α : Type) where
  name : String
  fields : List (Field σ)
  blank : σ
  build : σ → Option α

namespace Record

variable {σ α : Type}

/-- The name of the first field that a state lacks. -/
def missing (r : Record σ α) (state : σ) : String :=
  match r.fields.find? (fun f => !f.present state) with
  | some f => f.name
  | none => r.name

/-- The record of a state; the first field that it lacks is an error. -/
def finish (r : Record σ α) (state : σ) : Except Error α :=
  match r.build state with
  | some a => .ok a
  | none => .error (.missingField (r.missing state))

/-- Takes the end of a list whose items are all read. -/
def closeList (s : List Char) : Except Error (List Char) :=
  match dropBlank s with
  | [] => .error (.endOfText .list)
  | ']' :: rest => .ok rest
  | ',' :: rest =>
      .error (if (dropBlank rest).head? = some ']' then .trailingComma else .trailingCharacters)
  | _ => .error .trailingCharacters

/-- Reads fields as the items of a list, from item `index` on. -/
def readItems (r : Record σ α) : (fields : List (Field σ)) → (index : Nat) → σ → List Char →
    Except Error (σ × List Char)
  | [], _, state, s => (closeList s).map (fun rest => (state, rest))
  | f :: fields, index, state, s =>
      match Reader.nextItem (index == 0) s with
      | .error e => .error e
      | .ok (.done _) => .error (.wrongLength index r.name r.fields.length)
      | .ok (.member s) =>
          match f.value.read s with
          | .error e => .error e
          | .ok (put, rest) => readItems r fields (index + 1) (put state) rest

/-- Reads one member of an object from behind the opening quote of its key: into the state, if the
key names a field that is not there yet, and past it, if it names none. -/
def readMember (r : Record σ α) (state : σ) (s : List Char) : Except Error (σ × List Char) :=
  match readString s with
  | .error e => .error e
  | .ok (key, rest) =>
      match r.fields.find? (fun f => f.name.toList == key) with
      | some f =>
          if f.present state then .error (.duplicateField f.name)
          else
            match Reader.takeColon rest with
            | .error e => .error e
            | .ok rest => (f.value.read rest).map (fun p => (p.1 state, p.2))
      | none =>
          match Reader.takeColon rest with
          | .error e => .error e
          | .ok rest => (skipValue rest).map (fun rest => (state, rest))

theorem length_readMember_lt {r : Record σ α} {state next : σ} {s rest : List Char}
    (h : r.readMember state s = .ok (next, rest)) : rest.length < s.length := by
  unfold readMember at h
  split at h
  · cases h
  · rename_i after key
    have := length_readString_lt key
    split at h
    · rename_i f _
      split at h
      · cases h
      · split at h
        · cases h
        · rename_i s' colon
          have := Reader.length_takeColon_lt colon
          cases taken : f.value.read s' with
          | error e => rw [taken] at h; cases h
          | ok read =>
            obtain ⟨put, rest'⟩ := read
            rw [taken] at h
            cases h
            have := f.value.shorter taken
            change rest'.length < s.length
            omega
    · split at h
      · cases h
      · rename_i s' colon
        have := Reader.length_takeColon_lt colon
        cases taken : skipValue s' with
        | error e => rw [taken] at h; cases h
        | ok rest' =>
          rw [taken] at h
          cases h
          have := length_skipValue_lt taken
          omega

/-- Reads the members of an object up to its end. -/
def readMembers (r : Record σ α) (first : Bool) (state : σ) (s : List Char) :
    Except Error (σ × List Char) :=
  match _found : Reader.nextMember first s with
  | .error e => .error e
  | .ok (.done rest) => .ok (state, rest)
  | .ok (.member s') =>
      match _taken : r.readMember state s' with
      | .error e => .error e
      | .ok (next, rest) => r.readMembers false next rest
  termination_by s.length
  decreasing_by
    exact Nat.lt_trans (length_readMember_lt _taken) (Reader.length_nextMember_lt _found)

theorem length_readMembers_lt {r : Record σ α} {first : Bool} {state last : σ}
    {s rest : List Char} (h : r.readMembers first state s = .ok (last, rest)) :
    rest.length < s.length := by
  fun_induction readMembers r first state s with
  | case1 => cases h
  | case2 first state s after found => cases h; exact Reader.length_nextMember_done_lt found
  | case3 => cases h
  | case4 first state s s' found next after taken ih =>
    have := ih h
    have := length_readMember_lt taken
    have := Reader.length_nextMember_lt found
    omega

theorem length_closeList_lt {s rest : List Char} (h : closeList s = .ok rest) :
    rest.length < s.length := by
  have bound := length_dropBlank_le s
  unfold closeList at h
  split at h
  · cases h
  · rename_i eq
    cases h
    rw [eq, List.length_cons] at bound
    omega
  · cases h
  · cases h

theorem length_readItems_lt {r : Record σ α} {fields : List (Field σ)} {index : Nat}
    {state last : σ} {s rest : List Char}
    (h : r.readItems fields index state s = .ok (last, rest)) : rest.length < s.length := by
  induction fields generalizing index state s with
  | nil =>
    rw [readItems] at h
    match closed : closeList s with
    | .error e => rw [closed] at h; cases h
    | .ok after =>
      rw [closed] at h
      cases h
      exact length_closeList_lt closed
  | cons f fields ih =>
    rw [readItems] at h
    split at h
    · cases h
    · cases h
    · rename_i found
      split at h
      · cases h
      · rename_i taken
        have := ih h
        have := f.value.shorter taken
        have := Reader.length_nextItem_le found
        omega

/-- The reader of a record. -/
def reader (r : Record σ α) : Reader α where
  read s :=
    let fields :=
      match dropBlank s with
      | '[' :: rest => r.readItems r.fields 0 r.blank rest
      | '\x7b' :: rest => r.readMembers true r.blank rest
      | s => .error (mismatch (.record r.name) s)
    match fields with
    | .error e => .error e
    | .ok (state, rest) => (r.finish state).map (fun a => (a, rest))
  shorter {s a rest} h := by
    have bound := length_dropBlank_le s
    dsimp only at h
    split at h
    · cases h
    · rename_i state after eq
      have taken : after.length < s.length := by
        split at eq
        · rename_i eq'
          have := length_readItems_lt eq
          rw [eq', List.length_cons] at bound
          omega
        · rename_i eq'
          have := length_readMembers_lt eq
          rw [eq', List.length_cons] at bound
          omega
        · cases eq
      match built : r.finish state with
      | .error e => rw [built] at h; cases h
      | .ok b =>
        rw [built] at h
        cases h
        exact taken

end Record

end TableDraw.Json
