import TableDraw.Json.Number
import TableDraw.Json.Skip
import TableDraw.SortedMap
import TableDraw.Text.Quoted

set_option autoImplicit false

/-!
Readers of JSON values of known types. A reader that succeeds has taken at least one character, so
lists and objects are read by repetition. The first thing wrong with a text, in reading order, is
what a reader reports.
-/

namespace TableDraw.Json

/-- Reads a value from the beginning of a text: the value, and the characters after it. -/
structure Reader (α : Type) where
  read : List Char → Except Error (α × List Char)
  shorter : ∀ {s : List Char} {a : α} {rest : List Char},
    read s = .ok (a, rest) → rest.length < s.length

/-- What stands where another kind of value belongs; the text begins with no blank. It is taken far
enough to tell what it is, and what is wrong on the way there comes first. -/
def mismatch (expected : Expected) : List Char → Error
  | [] => .endOfText .value
  | 'n' :: rest => word ['u', 'l', 'l'] rest .null
  | 't' :: rest => word ['r', 'u', 'e'] rest (.boolean true)
  | 'f' :: rest => word ['a', 'l', 's', 'e'] rest (.boolean false)
  | '"' :: rest =>
      match readString rest with
      | .error e => e
      | .ok (text, _) => .wrongType (.string (Text.Quoted.ofText text)) expected
  | '[' :: _ => .wrongType .sequence expected
  | '\x7b' :: _ => .wrongType .map expected
  | '-' :: rest => number true rest
  | c :: rest => if c.isDigit then number false (c :: rest) else .expectedValue
where
  /-- A value written as a word. -/
  word (letters rest : List Char) (found : Found) : Error :=
    match takeWord letters rest with
    | .error e => e
    | .ok _ => .wrongType found expected
  /-- A number. -/
  number (negative : Bool) (s : List Char) : Error :=
    match Number.read negative s with
    | .error e => e
    | .ok (n, _) => .wrongType n.found expected

namespace Reader

/-- The reader of a function's value. -/
def map {α β : Type} (f : α → β) (r : Reader α) : Reader β where
  read s := (r.read s).map (fun p => (f p.1, p.2))
  shorter {s b rest} h := by
    match found : r.read s with
    | .error e => rw [found] at h; cases h
    | .ok (a, after) =>
      rw [found] at h
      cases h
      exact r.shorter found

/-- Reads a number that has to be an integer of some range. -/
def readInteger (expected : Expected) (least greatest : Int) (s : List Char) :
    Except Error (Int × List Char) :=
  let judge : Number × List Char → Except Error (Int × List Char)
    | (.integer n, rest) =>
        if least ≤ n ∧ n ≤ greatest then .ok (n, rest) else .error (.wrongValue n expected)
    | (n, _) => .error (.wrongType n.found expected)
  match dropBlank s with
  | '-' :: rest => (Number.read true rest).bind judge
  | c :: rest =>
      if c.isDigit then (Number.read false (c :: rest)).bind judge
      else .error (mismatch expected (c :: rest))
  | [] => .error (.endOfText .value)

theorem length_readInteger_lt {expected : Expected} {least greatest : Int} {s : List Char} {n : Int}
    {rest : List Char} (h : readInteger expected least greatest s = .ok (n, rest)) :
    rest.length < s.length := by
  have bound := length_dropBlank_le s
  have taken {negative : Bool} {s' : List Char} {e : Except Error (Number × List Char)}
      (eq : Number.read negative s' = e)
      (h : e.bind (fun p => match p with
        | (.integer n, rest) =>
            if least ≤ n ∧ n ≤ greatest then .ok (n, rest) else .error (.wrongValue n expected)
        | (n, _) => .error (.wrongType n.found expected)) = .ok (n, rest)) :
      rest.length < s'.length := by
    match e with
    | .error _ => cases h
    | .ok (.integer m, after) =>
      simp only [Except.bind] at h
      split at h <;> cases h
      exact Number.length_read_lt eq
    | .ok (.float f, after) => cases h
  unfold readInteger at h
  dsimp only at h
  split at h
  · rename_i eq
    have := taken rfl h
    rw [eq, List.length_cons] at bound
    omega
  · rename_i eq
    split at h
    · have := taken rfl h
      rw [eq] at bound
      omega
    · cases h
  · cases h

/-- Reads a signed 64-bit integer. -/
def signed : Reader Int64 :=
  map Int64.ofInt
    { read := readInteger .signed Int64.minValue.toInt Int64.maxValue.toInt,
      shorter := length_readInteger_lt }

/-- Reads an unsigned 64-bit integer. -/
def unsigned : Reader UInt64 :=
  map (fun n => UInt64.ofNat n.toNat)
    { read := readInteger .unsigned 0 (UInt64.size - 1), shorter := length_readInteger_lt }

/-- Where the reading of a container goes on. -/
inductive Next where
  /-- With a member. -/
  | member (s : List Char)
  /-- Behind its end. -/
  | done (s : List Char)

/-- Finds the next item of a list, the first one or one behind a comma. -/
def nextItem (first : Bool) (s : List Char) : Except Error Next :=
  match dropBlank s with
  | [] => .error (.endOfText .list)
  | ']' :: rest => .ok (.done rest)
  | c :: rest =>
      if first then .ok (.member (c :: rest))
      else if c = ',' then
        match dropBlank rest with
        | [] => .error (.endOfText .value)
        | ']' :: _ => .error .trailingComma
        | s => .ok (.member s)
      else .error .expectedListSeparator

/-- Finds the next member of an object, from behind the opening quote of its key. -/
def nextMember (first : Bool) (s : List Char) : Except Error Next :=
  match dropBlank s with
  | [] => .error (.endOfText .object)
  | '\x7d' :: rest => .ok (.done rest)
  | c :: rest =>
      if first then if c = '"' then .ok (.member rest) else .error .keyNotString
      else if c = ',' then
        match dropBlank rest with
        | [] => .error (.endOfText .value)
        | '"' :: rest => .ok (.member rest)
        | '\x7d' :: _ => .error .trailingComma
        | _ => .error .keyNotString
      else .error .expectedObjectSeparator

theorem length_nextItem_le {first : Bool} {s rest : List Char}
    (h : nextItem first s = .ok (.member rest)) : rest.length ≤ s.length := by
  have bound := length_dropBlank_le s
  unfold nextItem at h
  split at h
  · cases h
  · cases h
  · rename_i eq
    split at h
    · cases h
      rwa [eq] at bound
    · split at h
      · rename_i after _ _ _
        have := length_dropBlank_le after
        rw [eq, List.length_cons] at bound
        split at h
        · cases h
        · cases h
        · cases h
          omega
      · cases h

theorem length_nextItem_done_lt {first : Bool} {s rest : List Char}
    (h : nextItem first s = .ok (.done rest)) : rest.length < s.length := by
  have bound := length_dropBlank_le s
  unfold nextItem at h
  split at h
  · cases h
  · rename_i eq
    cases h
    rw [eq, List.length_cons] at bound
    omega
  · split at h
    · cases h
    · split at h
      · split at h <;> cases h
      · cases h

theorem length_nextMember_lt {first : Bool} {s rest : List Char}
    (h : nextMember first s = .ok (.member rest)) : rest.length < s.length := by
  have bound := length_dropBlank_le s
  unfold nextMember at h
  split at h
  · cases h
  · cases h
  · rename_i eq
    rw [eq, List.length_cons] at bound
    split at h
    · split at h
      · cases h
        omega
      · cases h
    · split at h
      · rename_i after _ _ _
        have bound' := length_dropBlank_le after
        split at h
        · cases h
        · rename_i eq'
          cases h
          rw [eq', List.length_cons] at bound'
          omega
        · cases h
        · cases h
      · cases h

theorem length_nextMember_done_lt {first : Bool} {s rest : List Char}
    (h : nextMember first s = .ok (.done rest)) : rest.length < s.length := by
  have bound := length_dropBlank_le s
  unfold nextMember at h
  split at h
  · cases h
  · rename_i eq
    cases h
    rw [eq, List.length_cons] at bound
    omega
  · split at h
    · split at h <;> cases h
    · split at h
      · split at h <;> cases h
      · cases h

/-- Reads the items of a list up to its end. -/
def items {α : Type} (item : Reader α) (first : Bool) (s : List Char) :
    Except Error (List α × List Char) :=
  match _found : nextItem first s with
  | .error e => .error e
  | .ok (.done rest) => .ok ([], rest)
  | .ok (.member s') =>
      match _taken : item.read s' with
      | .error e => .error e
      | .ok (a, after) =>
          match items item false after with
          | .error e => .error e
          | .ok (as, rest) => .ok (a :: as, rest)
  termination_by s.length
  decreasing_by exact Nat.lt_of_lt_of_le (item.shorter _taken) (length_nextItem_le _found)

theorem length_items_lt {α : Type} {item : Reader α} {first : Bool} {s : List Char}
    {as : List α} {rest : List Char} (h : items item first s = .ok (as, rest)) :
    rest.length < s.length := by
  fun_induction items item first s generalizing as rest with
  | case1 => cases h
  | case2 first s after found => cases h; exact length_nextItem_done_lt found
  | case3 => cases h
  | case4 => cases h
  | case5 first s s' found a after taken as' rest' inner ih =>
    cases h
    have := ih inner
    have := item.shorter taken
    have := length_nextItem_le found
    omega

/-- Reads a list. -/
def list {α : Type} (item : Reader α) : Reader (List α) where
  read s :=
    match dropBlank s with
    | '[' :: rest => items item true rest
    | s => .error (mismatch .sequence s)
  shorter {s as rest} h := by
    have bound := length_dropBlank_le s
    split at h
    · rename_i eq
      have := length_items_lt h
      rw [eq, List.length_cons] at bound
      omega
    · cases h

/-- Takes the colon between a key and its value. -/
def takeColon (s : List Char) : Except Error (List Char) := Skip.takeColon (dropBlank s)

theorem length_takeColon_lt {s rest : List Char} (h : takeColon s = .ok rest) :
    rest.length < s.length :=
  Nat.lt_of_lt_of_le (Skip.length_takeColon_lt h) (length_dropBlank_le s)

/-- Reads a key that is a number in quotes, from behind the opening quote, and the colon after it.
No blank and no sign but a minus may stand before the number. -/
def numberKey {κ : Type} (number : Reader κ) (s : List Char) : Except Error (κ × List Char) :=
  match s with
  | [] => .error .keyNotNumber
  | c :: _ =>
      if c.isDigit ∨ c = '-' then
        match number.read s with
        | .error e => .error e
        | .ok (k, '"' :: rest) => (takeColon rest).map (fun r => (k, r))
        | .ok (_, _) => .error .expectedQuote
      else .error .keyNotNumber

theorem length_numberKey_lt {κ : Type} {number : Reader κ} {s : List Char} {k : κ}
    {rest : List Char} (h : numberKey number s = .ok (k, rest)) : rest.length < s.length := by
  unfold numberKey at h
  split at h
  · cases h
  · split at h
    · split at h
      · cases h
      · rename_i after taken
        have := number.shorter taken
        rw [List.length_cons] at this
        match colon : takeColon after with
        | .error e => rw [colon] at h; cases h
        | .ok r =>
          rw [colon] at h
          cases h
          have := length_takeColon_lt colon
          omega
      · cases h
    · cases h

/-- Reads the members of an object whose keys are numbers, up to its end. -/
def entries {κ ν : Type} (key : Reader κ) (value : Reader ν) (first : Bool) (s : List Char) :
    Except Error (List (κ × ν) × List Char) :=
  match _found : nextMember first s with
  | .error e => .error e
  | .ok (.done rest) => .ok ([], rest)
  | .ok (.member s') =>
      match _keyed : numberKey key s' with
      | .error e => .error e
      | .ok (k, after) =>
          match _taken : value.read after with
          | .error e => .error e
          | .ok (v, after) =>
              match entries key value false after with
              | .error e => .error e
              | .ok (es, rest) => .ok ((k, v) :: es, rest)
  termination_by s.length
  decreasing_by
    have := value.shorter _taken
    have := length_numberKey_lt _keyed
    have := length_nextMember_lt _found
    omega

theorem length_entries_lt {κ ν : Type} {key : Reader κ} {value : Reader ν} {first : Bool}
    {s : List Char} {es : List (κ × ν)} {rest : List Char}
    (h : entries key value first s = .ok (es, rest)) : rest.length < s.length := by
  fun_induction entries key value first s generalizing es rest with
  | case1 => cases h
  | case2 first s after found => cases h; exact length_nextMember_done_lt found
  | case3 => cases h
  | case4 => cases h
  | case5 => cases h
  | case6 first s s' found k after keyed v after' taken es' rest' inner ih =>
    cases h
    have := ih inner
    have := value.shorter taken
    have := length_numberKey_lt keyed
    have := length_nextMember_lt found
    omega

/-- Reads an object whose keys are numbers. The last member of a key counts. -/
def sortedMap {κ ν : Type} [LE κ] [LT κ] [DecidableLT κ] [Std.IsLinearOrder κ]
    [Std.LawfulOrderLT κ] (key : Reader κ) (value : Reader ν) : Reader (SortedMap κ ν) :=
  map SortedMap.ofList
    { read := fun s =>
        match dropBlank s with
        | '\x7b' :: rest => entries key value true rest
        | s => .error (mismatch .map s)
      shorter := by
        intro s es rest h
        have bound := length_dropBlank_le s
        split at h
        · rename_i eq
          have := length_entries_lt h
          rw [eq, List.length_cons] at bound
          omega
        · cases h }

/-- Reads a whole text. Only blanks may follow the value. -/
def parse {α : Type} (r : Reader α) (text : List Char) : Except Error α :=
  match r.read text with
  | .error e => .error e
  | .ok (a, rest) => if (dropBlank rest).isEmpty then .ok a else .error .trailingCharacters

end Reader

end TableDraw.Json
