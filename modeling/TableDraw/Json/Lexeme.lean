import TableDraw.Json.Error

set_option autoImplicit false

/-!
The pieces JSON texts are made of, apart from numbers: blanks, words and strings. Each reader takes
a beginning of the remaining characters and returns the others, which are fewer.
-/

namespace TableDraw.Json

/-- A blank that may stand between any two pieces. -/
def isBlank (c : Char) : Bool := c = ' ' ∨ c = '\n' ∨ c = '\t' ∨ c = '\r'

/-- The characters from the first that is not blank on. -/
def dropBlank (s : List Char) : List Char := s.dropWhile isBlank

theorem length_dropBlank_le (s : List Char) : (dropBlank s).length ≤ s.length :=
  (List.dropWhile_sublist isBlank).length_le

/-- Takes the characters of a word one by one. -/
def takeWord : (word : List Char) → List Char → Except Error (List Char)
  | [], s => .ok s
  | _ :: _, [] => .error (.endOfText .value)
  | w :: word, c :: rest => if c = w then takeWord word rest else .error .expectedWord

theorem length_takeWord_le {word s rest : List Char} (h : takeWord word s = .ok rest) :
    rest.length ≤ s.length := by
  induction word generalizing s with
  | nil => cases h; exact Nat.le_refl _
  | cons w word ih =>
    match s with
    | [] => cases h
    | c :: s =>
      rw [takeWord] at h
      split at h
      · exact Nat.le_succ_of_le (ih h)
      · cases h

/-- The value of a hexadecimal digit. -/
def hexDigit? (c : Char) : Option Nat :=
  if '0' ≤ c ∧ c ≤ '9' then some (c.toNat - '0'.toNat)
  else if 'a' ≤ c ∧ c ≤ 'f' then some (c.toNat - 'a'.toNat + 10)
  else if 'A' ≤ c ∧ c ≤ 'F' then some (c.toNat - 'A'.toNat + 10)
  else none

/-- The number of bytes that characters take up. -/
def byteCount (s : List Char) : Nat := (String.ofList s).utf8ByteSize

/-- Reads four hexadecimal digits. Where fewer than four bytes are left, the text ends too early. -/
def readHex (s : List Char) : Except Error (Nat × List Char) :=
  match (s.take 4).mapM hexDigit? with
  | some [a, b, c, d] => .ok (((a * 16 + b) * 16 + c) * 16 + d, s.drop 4)
  | _ => if byteCount (s.take 4) < 4 then .error (.endOfText .string) else .error .invalidEscape

theorem length_readHex_le {s : List Char} {n : Nat} {rest : List Char}
    (h : readHex s = .ok (n, rest)) : rest.length ≤ s.length := by
  unfold readHex at h
  split at h
  · cases h; simp
  · split at h <;> cases h

/-- Whether a code unit is the second half of a surrogate pair. -/
def isTrailing (n : Nat) : Bool := 0xdc00 ≤ n ∧ n ≤ 0xdfff

/-- Whether a code unit is the first half of a surrogate pair. -/
def isLeading (n : Nat) : Bool := 0xd800 ≤ n ∧ n ≤ 0xdbff

/-- Reads the rest of a surrogate pair whose first half is `leading`. -/
def readPair (leading : Nat) : List Char → Except Error (Char × List Char)
  | '\\' :: 'u' :: s =>
      match readHex s with
      | .error e => .error e
      | .ok (n, rest) =>
          if isTrailing n then
            .ok (Char.ofNat (0x10000 + (leading - 0xd800) * 0x400 + (n - 0xdc00)), rest)
          else .error .loneSurrogate
  | [] => .error (.endOfText .string)
  | ['\\'] => .error (.endOfText .string)
  | _ => .error .unfinishedSurrogatePair

theorem length_readPair_le {leading : Nat} {s : List Char} {c : Char} {rest : List Char}
    (h : readPair leading s = .ok (c, rest)) : rest.length ≤ s.length := by
  unfold readPair at h
  split at h
  · rename_i s'
    split at h
    · cases h
    · rename_i hex
      split at h
      · injection h with h
        injection h with _ h
        subst h
        have := length_readHex_le hex
        simp only [List.length_cons]
        omega
      · cases h
  all_goals cases h

/-- Reads a character given by its code units in hexadecimal digits. -/
def readCodeUnits (s : List Char) : Except Error (Char × List Char) :=
  match readHex s with
  | .error e => .error e
  | .ok (n, rest) =>
      if isTrailing n then .error .loneSurrogate
      else if isLeading n then readPair n rest
      else .ok (Char.ofNat n, rest)

theorem length_readCodeUnits_le {s : List Char} {c : Char} {rest : List Char}
    (h : readCodeUnits s = .ok (c, rest)) : rest.length ≤ s.length := by
  unfold readCodeUnits at h
  split at h
  · cases h
  · rename_i hex
    have := length_readHex_le hex
    split at h
    · cases h
    · split at h
      · have := length_readPair_le h
        omega
      · cases h
        exact this

/-- The character that a letter stands for after a backslash. -/
def simpleEscape? : Char → Option Char
  | '"' => some '"'
  | '\\' => some '\\'
  | '/' => some '/'
  | 'b' => some '\x08'
  | 'f' => some '\x0c'
  | 'n' => some '\n'
  | 'r' => some '\r'
  | 't' => some '\t'
  | _ => none

/-- Reads what follows a backslash. -/
def readEscape : List Char → Except Error (Char × List Char)
  | [] => .error (.endOfText .string)
  | 'u' :: rest => readCodeUnits rest
  | c :: rest =>
      match simpleEscape? c with
      | some meant => .ok (meant, rest)
      | none => .error .invalidEscape

theorem length_readEscape_lt {s : List Char} {c : Char} {rest : List Char}
    (h : readEscape s = .ok (c, rest)) : rest.length < s.length := by
  unfold readEscape at h
  split at h
  · cases h
  · exact Nat.lt_succ_of_le (length_readCodeUnits_le h)
  · split at h
    · cases h; exact Nat.lt_succ_self _
    · cases h

/-- Reads a string from behind its opening quote to its closing one. -/
def readString : List Char → Except Error (List Char × List Char)
  | [] => .error (.endOfText .string)
  | '"' :: rest => .ok ([], rest)
  | '\\' :: s =>
      match _h : readEscape s with
      | .error e => .error e
      | .ok (c, rest) =>
          match readString rest with
          | .error e => .error e
          | .ok (text, after) => .ok (c :: text, after)
  | c :: rest =>
      if c.toNat < 0x20 then .error .controlCharacter
      else
        match readString rest with
        | .error e => .error e
        | .ok (text, after) => .ok (c :: text, after)
  termination_by s => s.length
  decreasing_by
    · exact Nat.lt_succ_of_lt (length_readEscape_lt _h)
    · exact Nat.lt_succ_self _

theorem length_readString_lt {s text rest : List Char} (h : readString s = .ok (text, rest)) :
    rest.length < s.length := by
  fun_induction readString s generalizing text rest with
  | case1 => cases h
  | case2 => cases h; exact Nat.lt_succ_self _
  | case3 => cases h
  | case4 => cases h
  | case5 s c after escape text' rest' inner ih =>
    cases h
    have := length_readEscape_lt escape
    have := ih inner
    simp only [List.length_cons]
    omega
  | case6 => cases h
  | case7 => cases h
  | case8 c s _ _ _ text' rest' inner ih =>
    cases h
    have := ih inner
    simp only [List.length_cons]
    omega

/-- Passes over what follows a backslash. Code units may be halves of a pair. -/
def skipEscape : List Char → Except Error (List Char)
  | [] => .error (.endOfText .string)
  | 'u' :: rest => (readHex rest).map Prod.snd
  | c :: rest => if (simpleEscape? c).isSome then .ok rest else .error .invalidEscape

theorem length_skipEscape_lt {s rest : List Char} (h : skipEscape s = .ok rest) :
    rest.length < s.length := by
  unfold skipEscape at h
  split at h
  · cases h
  · rename_i s'
    match hex : readHex s' with
    | .error e => rw [hex] at h; cases h
    | .ok (n, after) =>
      rw [hex] at h
      cases h
      exact Nat.lt_succ_of_le (length_readHex_le hex)
  · split at h
    · cases h; exact Nat.lt_succ_self _
    · cases h

/-- Passes over a string from behind its opening quote to its closing one. -/
def skipString : List Char → Except Error (List Char)
  | [] => .error (.endOfText .string)
  | '"' :: rest => .ok rest
  | '\\' :: s =>
      match _h : skipEscape s with
      | .error e => .error e
      | .ok rest => skipString rest
  | c :: rest => if c.toNat < 0x20 then .error .controlCharacter else skipString rest
  termination_by s => s.length
  decreasing_by
    · exact Nat.lt_succ_of_lt (length_skipEscape_lt _h)
    · exact Nat.lt_succ_self _

theorem length_skipString_lt {s rest : List Char} (h : skipString s = .ok rest) :
    rest.length < s.length := by
  fun_induction skipString s with
  | case1 => cases h
  | case2 => cases h; exact Nat.lt_succ_self _
  | case3 => cases h
  | case4 s after escape ih =>
    have := length_skipEscape_lt escape
    have := ih h
    simp only [List.length_cons]
    omega
  | case5 => cases h
  | case6 c s _ _ _ ih =>
    have := ih h
    simp only [List.length_cons]
    omega

end TableDraw.Json
