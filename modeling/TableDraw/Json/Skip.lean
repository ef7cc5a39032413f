import TableDraw.Json.Lexeme

set_option autoImplicit false

/-!
Passing over a value that nobody asked for. It has to be a JSON text, however deeply nested, but its
numbers may be of any size and its strings may hold halves of surrogate pairs.
-/

namespace TableDraw.Json

namespace Skip

/-- Passes over at least one digit. -/
def digits (s : List Char) : Except Error (List Char) :=
  match s with
  | [] => .error .invalidNumber
  | c :: rest => if c.isDigit then .ok (rest.dropWhile Char.isDigit) else .error .invalidNumber

/-- Passes over an exponent, if there is one. -/
def exponent (s : List Char) : Except Error (List Char) :=
  match s with
  | 'e' :: rest | 'E' :: rest =>
      match rest with
      | '+' :: rest => digits rest
      | '-' :: rest => digits rest
      | rest => digits rest
  | s => .ok s

/-- Passes over a fraction and an exponent, as far as they are there. -/
def fraction (s : List Char) : Except Error (List Char) :=
  match s with
  | '.' :: rest =>
      match digits rest with
      | .error e => .error e
      | .ok rest => exponent rest
  | s => exponent s

/-- Passes over a number from behind its sign. A zero in front has no digit after it. -/
def number (s : List Char) : Except Error (List Char) :=
  match s with
  | '0' :: rest => if rest.head?.any Char.isDigit then .error .invalidNumber else fraction rest
  | s =>
      match digits s with
      | .error e => .error e
      | .ok rest => fraction rest

theorem length_digits_lt {s rest : List Char} (h : digits s = .ok rest) :
    rest.length < s.length := by
  unfold digits at h
  split at h
  · cases h
  · split at h
    · cases h
      exact Nat.lt_succ_of_le (List.dropWhile_sublist _).length_le
    · cases h

theorem length_exponent_le {s rest : List Char} (h : exponent s = .ok rest) :
    rest.length ≤ s.length := by
  unfold exponent at h
  split at h
  · split at h
    all_goals
      have := length_digits_lt h
      simp only [List.length_cons] at *
      omega
  · split at h
    all_goals
      have := length_digits_lt h
      simp only [List.length_cons] at *
      omega
  · cases h; exact Nat.le_refl _

theorem length_fraction_le {s rest : List Char} (h : fraction s = .ok rest) :
    rest.length ≤ s.length := by
  unfold fraction at h
  split at h
  · split at h
    · cases h
    · rename_i taken
      have := length_digits_lt taken
      have := length_exponent_le h
      simp only [List.length_cons]
      omega
  · exact length_exponent_le h

theorem length_number_lt {s rest : List Char} (h : number s = .ok rest) :
    rest.length < s.length := by
  unfold number at h
  split at h
  · split at h
    · cases h
    · exact Nat.lt_succ_of_le (length_fraction_le h)
  · split at h
    · cases h
    · rename_i taken
      have := length_digits_lt taken
      have := length_fraction_le h
      omega

/-- A container that is still open. -/
inductive Frame where
  | list
  | object
  deriving DecidableEq, Repr

namespace Frame

/-- The character that ends a container. -/
def closer : Frame → Char
  | list => ']'
  | object => '\x7d'

/-- The error of a text that breaks off in a container. -/
def unfinished : Frame → Error
  | list => .endOfText .list
  | object => .endOfText .object

/-- The error of a container in which something other than a separator follows a member. -/
def unseparated : Frame → Error
  | list => .expectedListSeparator
  | object => .expectedObjectSeparator

end Frame

/-- What has to come next. The containers around it are listed from the innermost outwards. -/
inductive Place where
  /-- A value. -/
  | value (around : List Frame)
  /-- A member of an object: its key, a colon and a value. -/
  | member (around : List Frame)
  /-- The end of a container, or its first member. -/
  | opened (frame : Frame) (around : List Frame)
  /-- A separator or the end of the innermost container; nothing if there is none. -/
  | closing (around : List Frame)
  deriving DecidableEq, Repr

/-- Takes a value, or the opening of one that has members. -/
def takeValue (around : List Frame) : List Char → Except Error (Place × List Char)
  | [] => .error (.endOfText .value)
  | 'n' :: rest => (takeWord ['u', 'l', 'l'] rest).map (fun r => (.closing around, r))
  | 't' :: rest => (takeWord ['r', 'u', 'e'] rest).map (fun r => (.closing around, r))
  | 'f' :: rest => (takeWord ['a', 'l', 's', 'e'] rest).map (fun r => (.closing around, r))
  | '"' :: rest => (skipString rest).map (fun r => (.closing around, r))
  | '-' :: rest => (number rest).map (fun r => (.closing around, r))
  | '[' :: rest => .ok (.opened .list around, rest)
  | '\x7b' :: rest => .ok (.opened .object around, rest)
  | c :: rest =>
      if c.isDigit then (number (c :: rest)).map (fun r => (.closing around, r))
      else .error .expectedValue

/-- Takes the colon between a key and its value. -/
def takeColon : List Char → Except Error (List Char)
  | [] => .error (.endOfText .object)
  | ':' :: rest => .ok rest
  | _ => .error .expectedColon

/-- Takes a key and the colon after it. -/
def takeKey (around : List Frame) : List Char → Except Error (Place × List Char)
  | [] => .error (.endOfText .object)
  | '"' :: rest =>
      match skipString rest with
      | .error e => .error e
      | .ok after => (takeColon (dropBlank after)).map (fun r => (.value (.object :: around), r))
  | _ => .error .keyNotString

/-- Takes the next piece at a place; the rest begins with no blank. -/
def take : Place → List Char → Except Error (Place × List Char)
  | .value around, s => takeValue around s
  | .member around, s => takeKey around s
  | .opened frame _, [] => .error frame.unfinished
  | .opened frame around, c :: rest =>
      if c = frame.closer then .ok (.closing around, rest)
      else
        match frame with
        | .list => takeValue (.list :: around) (c :: rest)
        | .object => takeKey around (c :: rest)
  | .closing [], _ => .error .trailingCharacters
  | .closing (frame :: _), [] => .error frame.unfinished
  | .closing (frame :: around), c :: rest =>
      if c = frame.closer then .ok (.closing around, rest)
      else if c = ',' then
        match frame with
        | .list => .ok (.value (.list :: around), rest)
        | .object => .ok (.member around, rest)
      else .error frame.unseparated

theorem length_takeValue_lt {around : List Frame} {s : List Char} {next : Place}
    {rest : List Char} (h : takeValue around s = .ok (next, rest)) : rest.length < s.length := by
  have map {e : Except Error (List Char)} {r : List Char}
      (h : e.map (fun r => (Place.closing around, r)) = .ok (next, r)) : e = .ok r := by
    cases e <;> cases h
    rfl
  unfold takeValue at h
  split at h
  · cases h
  · exact Nat.lt_succ_of_le (length_takeWord_le (map h))
  · exact Nat.lt_succ_of_le (length_takeWord_le (map h))
  · exact Nat.lt_succ_of_le (length_takeWord_le (map h))
  · exact Nat.lt_succ_of_lt (length_skipString_lt (map h))
  · exact Nat.lt_succ_of_lt (length_number_lt (map h))
  · cases h; exact Nat.lt_succ_self _
  · cases h; exact Nat.lt_succ_self _
  · split at h
    · exact length_number_lt (map h)
    · cases h

theorem length_takeColon_lt {s rest : List Char} (h : takeColon s = .ok rest) :
    rest.length < s.length := by
  unfold takeColon at h
  split at h <;> cases h
  exact Nat.lt_succ_self _

theorem length_takeKey_lt {around : List Frame} {s : List Char} {next : Place}
    {rest : List Char} (h : takeKey around s = .ok (next, rest)) : rest.length < s.length := by
  unfold takeKey at h
  split at h
  · cases h
  · split at h
    · cases h
    · rename_i after key
      match colon : takeColon (dropBlank after) with
      | .error e => rw [colon] at h; cases h
      | .ok r =>
        rw [colon] at h
        cases h
        have := length_takeColon_lt colon
        have := length_dropBlank_le after
        have := length_skipString_lt key
        simp only [List.length_cons]
        omega
  · cases h

theorem length_take_lt {place : Place} {s : List Char} {next : Place} {rest : List Char}
    (h : take place s = .ok (next, rest)) : rest.length < s.length := by
  unfold take at h
  split at h
  · exact length_takeValue_lt h
  · exact length_takeKey_lt h
  · cases h
  · split at h
    · cases h; exact Nat.lt_succ_self _
    · split at h
      · exact length_takeValue_lt h
      · exact length_takeKey_lt h
  · cases h
  · cases h
  · split at h
    · cases h; exact Nat.lt_succ_self _
    · split at h
      · split at h <;> cases h <;> exact Nat.lt_succ_self _
      · cases h

/-- Passes over everything that has to come, up to the end of the outermost value. -/
def run (place : Place) (s : List Char) : Except Error (List Char) :=
  if place = .closing [] then .ok s
  else
    match _h : take place (dropBlank s) with
    | .error e => .error e
    | .ok (next, rest) => run next rest
  termination_by s.length
  decreasing_by exact Nat.lt_of_lt_of_le (length_take_lt _h) (length_dropBlank_le s)

theorem length_run_le {place : Place} {s rest : List Char} (h : run place s = .ok rest) :
    rest.length ≤ s.length := by
  fun_induction run place s with
  | case1 => cases h; exact Nat.le_refl _
  | case2 => cases h
  | case3 place s _ next after taken ih =>
    have := ih h
    have := length_take_lt taken
    have := length_dropBlank_le s
    omega

end Skip

/-- Passes over a value. -/
def skipValue (s : List Char) : Except Error (List Char) := Skip.run (.value []) s

theorem length_skipValue_lt {s rest : List Char} (h : skipValue s = .ok rest) :
    rest.length < s.length := by
  unfold skipValue at h
  rw [Skip.run] at h
  simp only [reduceCtorEq, ↓reduceIte] at h
  split at h
  · cases h
  · rename_i taken
    have := Skip.length_run_le h
    have := Skip.length_take_lt taken
    have := length_dropBlank_le s
    omega

end TableDraw.Json
