import Mathlib.Data.List.Forall2
import TableDraw.Text.Utf8

set_option autoImplicit false

/-!
Decoding bytes and encoding text are inverse: the bytes that spell a text are just its encoding. The
sequences of bytes that are taken for a character are described once, by the values of their bytes.
-/

namespace TableDraw.Utf8

/-- A byte that continues a character. -/
def Continues (b : UInt8) : Prop := 0x80 ≤ b.toNat ∧ b.toNat ≤ 0xbf

/-- A leading byte and the bytes that may follow it. The shortest encoding is the only one, and
surrogates and numbers above those of all characters have none. -/
inductive WellFormed (lead : UInt8) : Bytes → Prop
  | one (range : lead.toNat < 0x80) : WellFormed lead []
  | two {x : UInt8} (range : 0xc2 ≤ lead.toNat ∧ lead.toNat < 0xe0) (first : Continues x) :
      WellFormed lead [x]
  | three {x y : UInt8} (range : 0xe0 ≤ lead.toNat ∧ lead.toNat < 0xf0) (first : Continues x)
      (shortest : lead.toNat = 0xe0 → 0xa0 ≤ x.toNat)
      (regular : lead.toNat = 0xed → x.toNat ≤ 0x9f) (second : Continues y) :
      WellFormed lead [x, y]
  | four {x y z : UInt8} (range : 0xf0 ≤ lead.toNat ∧ lead.toNat < 0xf5) (first : Continues x)
      (shortest : lead.toNat = 0xf0 → 0x90 ≤ x.toNat)
      (bounded : lead.toNat = 0xf4 → x.toNat ≤ 0x8f) (second : Continues y)
      (third : Continues z) : WellFormed lead [x, y, z]

section Ranges

/-- Bytes that lie in ranges, one in each. -/
def InRanges : List (UInt8 × UInt8) → Bytes → Prop :=
  List.Forall₂ (fun range b => range.1 ≤ b ∧ b ≤ range.2)

theorem takeInRanges_append {ranges : List (UInt8 × UInt8)} {tail : Bytes}
    (within : InRanges ranges tail) (rest : Bytes) :
    takeInRanges ranges (tail ++ rest) = (tail, rest) := by
  induction within with
  | nil => cases rest <;> rfl
  | cons first more ih => rw [List.cons_append, takeInRanges, if_pos first, ih]

theorem takeInRanges_append_eq (ranges : List (UInt8 × UInt8)) (bytes : Bytes) :
    (takeInRanges ranges bytes).1 ++ (takeInRanges ranges bytes).2 = bytes := by
  induction ranges generalizing bytes with
  | nil => rfl
  | cons range ranges ih =>
      obtain ⟨low, high⟩ := range
      cases bytes with
      | nil => rfl
      | cons b rest =>
          by_cases within : low ≤ b ∧ b ≤ high
          · simp only [takeInRanges, if_pos within, List.cons_append, ih]
          · simp only [takeInRanges, if_neg within, List.nil_append]

theorem inRanges_of_length {ranges : List (UInt8 × UInt8)} {bytes : Bytes}
    (all : (takeInRanges ranges bytes).1.length = ranges.length) :
    InRanges ranges (takeInRanges ranges bytes).1 := by
  induction ranges generalizing bytes with
  | nil =>
      rw [List.length_nil, List.length_eq_zero_iff] at all
      rw [all]
      exact .nil
  | cons range ranges ih =>
      obtain ⟨low, high⟩ := range
      cases bytes with
      | nil => cases all
      | cons b rest =>
          by_cases within : low ≤ b ∧ b ≤ high
          · simp only [takeInRanges, if_pos within, List.length_cons, Nat.add_right_cancel_iff] at all ⊢
            exact .cons within (ih all)
          · simp only [takeInRanges, if_neg within] at all
            cases all

theorem followers_eq (lead : UInt8) : followers lead =
    if lead.toNat < 0x80 then some []
    else if lead.toNat < 0xc2 then none
    else if lead.toNat < 0xe0 then some [(0x80, 0xbf)]
    else if lead.toNat < 0xf0 then
      some [(if lead.toNat = 0xe0 then 0xa0 else 0x80, if lead.toNat = 0xed then 0x9f else 0xbf),
        (0x80, 0xbf)]
    else if lead.toNat < 0xf5 then
      some [(if lead.toNat = 0xf0 then 0x90 else 0x80, if lead.toNat = 0xf4 then 0x8f else 0xbf),
        (0x80, 0xbf), (0x80, 0xbf)]
    else none := by
  simp only [followers, UInt8.lt_iff_toNat_lt, ← UInt8.toNat_inj, UInt8.reduceToNat]
  split_ifs <;> first | rfl | omega

theorem continues_iff (b : UInt8) : 0x80 ≤ b ∧ b ≤ 0xbf ↔ Continues b := by
  simp only [Continues, UInt8.le_iff_toNat_le, UInt8.reduceToNat]

/-- After some leading bytes the range of the first follower is narrower. -/
theorem narrowed_iff {p q : Prop} [Decidable p] [Decidable q] (low high x : UInt8)
    (above : 0x80 ≤ low.toNat) (below : high.toNat ≤ 0xbf) :
    ((if p then low else 0x80) ≤ x ∧ x ≤ (if q then high else 0xbf)) ↔
      Continues x ∧ (p → low.toNat ≤ x.toNat) ∧ (q → x.toNat ≤ high.toNat) := by
  simp only [Continues, UInt8.le_iff_toNat_le, apply_ite UInt8.toNat, UInt8.reduceToNat]
  by_cases narrowLow : p <;> by_cases narrowHigh : q <;>
    simp [narrowLow, narrowHigh] <;> omega

theorem wellFormed_of_followers {lead : UInt8} {ranges : List (UInt8 × UInt8)} {tail : Bytes}
    (found : followers lead = some ranges) (within : InRanges ranges tail) :
    WellFormed lead tail := by
  rw [followers_eq] at found
  split at found
  case isTrue range =>
    cases found
    cases within
    exact .one range
  split at found
  case isTrue => cases found
  split at found
  case isTrue =>
    cases found
    match tail, within with
    | [x], .cons first .nil => exact .two (by omega) ((continues_iff x).mp first)
  split at found
  case isTrue =>
    cases found
    match tail, within with
    | [x, y], .cons first (.cons second .nil) =>
        obtain ⟨continues, shortest, regular⟩ :=
          (narrowed_iff 0xa0 0x9f x (by decide) (by decide)).mp first
        exact .three (by omega) continues shortest regular ((continues_iff y).mp second)
  split at found
  case isTrue =>
    cases found
    match tail, within with
    | [x, y, z], .cons first (.cons second (.cons third .nil)) =>
        obtain ⟨continues, shortest, bounded⟩ :=
          (narrowed_iff 0x90 0x8f x (by decide) (by decide)).mp first
        exact .four (by omega) continues shortest bounded ((continues_iff y).mp second)
          ((continues_iff z).mp third)
  case isFalse => cases found

theorem followers_of_wellFormed {lead : UInt8} {tail : Bytes} (formed : WellFormed lead tail) :
    ∃ ranges, followers lead = some ranges ∧ InRanges ranges tail := by
  rw [followers_eq]
  cases formed with
  | one range =>
      rw [if_pos range]
      exact ⟨[], rfl, .nil⟩
  | two range first =>
      rw [if_neg (by omega), if_neg (by omega), if_pos range.2]
      exact ⟨_, rfl, .cons ((continues_iff _).mpr first) .nil⟩
  | three range first shortest regular second =>
      rw [if_neg (by omega), if_neg (by omega), if_neg (by omega), if_pos range.2]
      have narrow := (narrowed_iff 0xa0 0x9f _ (by decide) (by decide)).mpr
        ⟨first, shortest, regular⟩
      exact ⟨_, rfl, .cons narrow (.cons ((continues_iff _).mpr second) .nil)⟩
  | four range first shortest bounded second third =>
      rw [if_neg (by omega), if_neg (by omega), if_neg (by omega), if_neg (by omega),
        if_pos range.2]
      have narrow := (narrowed_iff 0x90 0x8f _ (by decide) (by decide)).mpr
        ⟨first, shortest, bounded⟩
      exact ⟨_, rfl, .cons narrow (.cons ((continues_iff _).mpr second)
        (.cons ((continues_iff _).mpr third) .nil))⟩

/-- A piece is a character just if it is a well-formed sequence of bytes. -/
theorem piece_eq_char_iff (lead : UInt8) (rest after : Bytes) (c : Char) :
    piece lead rest = (.char c, after) ↔
      ∃ tail, rest = tail ++ after ∧ WellFormed lead tail ∧ assemble lead tail = c := by
  constructor
  · intro found
    unfold piece at found
    split at found
    · cases found
    · rename_i ranges leads
      dsimp only at found
      split at found
      · rename_i all
        cases found
        exact ⟨_, (takeInRanges_append_eq ranges rest).symm,
          wellFormed_of_followers leads (inRanges_of_length all), rfl⟩
      · cases found
  · rintro ⟨tail, rfl, formed, rfl⟩
    obtain ⟨ranges, leads, within⟩ := followers_of_wellFormed formed
    unfold piece
    simp only [leads, takeInRanges_append within, within.length_eq, ↓reduceIte]

end Ranges

section Characters

/-- The number that a leading byte and its followers spell. -/
def codePoint (lead : UInt8) (tail : Bytes) : Nat :=
  tail.foldl (fun n b => n * 64 + (b.toNat - 0x80)) (leadBits lead tail.length)

theorem codePoint_two (lead x : UInt8) :
    codePoint lead [x] = (lead.toNat - 0xc0) * 64 + (x.toNat - 0x80) := rfl

theorem codePoint_three (lead x y : UInt8) : codePoint lead [x, y] =
    ((lead.toNat - 0xe0) * 64 + (x.toNat - 0x80)) * 64 + (y.toNat - 0x80) := rfl

theorem codePoint_four (lead x y z : UInt8) : codePoint lead [x, y, z] =
    (((lead.toNat - 0xf0) * 64 + (x.toNat - 0x80)) * 64 + (y.toNat - 0x80)) * 64 +
      (z.toNat - 0x80) := rfl

theorem WellFormed.isValidChar {lead : UInt8} {tail : Bytes} (formed : WellFormed lead tail) :
    (codePoint lead tail).isValidChar := by
  unfold Nat.isValidChar
  cases formed with
  | one range =>
      show lead.toNat < 0xd800 ∨ _
      omega
  | two range first =>
      unfold Continues at first
      rw [codePoint_two]
      omega
  | three range first shortest regular second =>
      unfold Continues at first second
      rw [codePoint_three]
      omega
  | four range first shortest bounded second third =>
      unfold Continues at first second third
      rw [codePoint_four]
      omega

theorem ofNat_eq {n : Nat} {b : UInt8} (value : n = b.toNat) : UInt8.ofNat n = b := by
  rw [value, UInt8.ofNat_toNat]

/-- Each of the four cases falls into its own range of numbers, whose digits to base 64 are the
bytes. -/
theorem utf8EncodeChar_of_wellFormed {c : Char} {lead : UInt8} {tail : Bytes}
    (formed : WellFormed lead tail) (value : c.toNat = codePoint lead tail) :
    String.utf8EncodeChar c = lead :: tail := by
  unfold String.utf8EncodeChar
  simp only [Char.toNat_val]
  cases formed with
  | one range =>
      replace value : c.toNat = lead.toNat := value
      rw [if_pos (by omega), ofNat_eq value]
  | two range first =>
      unfold Continues at first
      rw [codePoint_two] at value
      rw [if_neg (by omega), if_pos (by omega)]
      simp only [List.cons.injEq, and_true]
      exact ⟨ofNat_eq (by omega), ofNat_eq (by omega)⟩
  | three range first shortest regular second =>
      unfold Continues at first second
      rw [codePoint_three] at value
      rw [if_neg (by omega), if_neg (by omega), if_pos (by omega)]
      simp only [List.cons.injEq, and_true]
      exact ⟨ofNat_eq (by omega), ofNat_eq (by omega), ofNat_eq (by omega)⟩
  | four range first shortest bounded second third =>
      unfold Continues at first second third
      rw [codePoint_four] at value
      rw [if_neg (by omega), if_neg (by omega), if_neg (by omega)]
      simp only [List.cons.injEq, and_true]
      exact ⟨ofNat_eq (by omega), ofNat_eq (by omega), ofNat_eq (by omega), ofNat_eq (by omega)⟩

theorem exists_byte {n : Nat} (small : n < 256) : ∃ b : UInt8, b.toNat = n := by
  refine ⟨.ofNat n, ?_⟩
  rw [UInt8.toNat_ofNat']
  omega

/-- Every character is the number of some well-formed sequence. -/
theorem exists_wellFormed (c : Char) :
    ∃ lead tail, WellFormed lead tail ∧ c.toNat = codePoint lead tail := by
  have valid : c.toNat < 0xd800 ∨ (0xdfff < c.toNat ∧ c.toNat < 0x110000) := c.valid
  by_cases one : c.toNat < 0x80
  · obtain ⟨lead, l⟩ := exists_byte (n := c.toNat) (by omega)
    exact ⟨lead, [], .one (by omega), l.symm⟩
  by_cases two : c.toNat < 0x800
  · obtain ⟨lead, l⟩ := exists_byte (n := c.toNat / 64 + 0xc0) (by omega)
    obtain ⟨x, first⟩ := exists_byte (n := c.toNat % 64 + 0x80) (by omega)
    refine ⟨lead, [x], .two (by omega) ⟨by omega, by omega⟩, ?_⟩
    rw [codePoint_two]
    omega
  by_cases three : c.toNat < 0x10000
  · obtain ⟨lead, l⟩ := exists_byte (n := c.toNat / 4096 + 0xe0) (by omega)
    obtain ⟨x, first⟩ := exists_byte (n := c.toNat / 64 % 64 + 0x80) (by omega)
    obtain ⟨y, second⟩ := exists_byte (n := c.toNat % 64 + 0x80) (by omega)
    refine ⟨lead, [x, y], .three (by omega) ⟨by omega, by omega⟩ (by omega) (by omega)
      ⟨by omega, by omega⟩, ?_⟩
    rw [codePoint_three]
    omega
  · obtain ⟨lead, l⟩ := exists_byte (n := c.toNat / 262144 + 0xf0) (by omega)
    obtain ⟨x, first⟩ := exists_byte (n := c.toNat / 4096 % 64 + 0x80) (by omega)
    obtain ⟨y, second⟩ := exists_byte (n := c.toNat / 64 % 64 + 0x80) (by omega)
    obtain ⟨z, third⟩ := exists_byte (n := c.toNat % 64 + 0x80) (by omega)
    refine ⟨lead, [x, y, z], .four (by omega) ⟨by omega, by omega⟩ (by omega) (by omega)
      ⟨by omega, by omega⟩ ⟨by omega, by omega⟩, ?_⟩
    rw [codePoint_four]
    omega

/-- The first piece is a character just if the bytes begin with its encoding. -/
theorem piece_eq_char_iff_encode (lead : UInt8) (rest after : Bytes) (c : Char) :
    piece lead rest = (.char c, after) ↔ lead :: rest = String.utf8EncodeChar c ++ after := by
  rw [piece_eq_char_iff]
  constructor
  · rintro ⟨tail, rfl, formed, rfl⟩
    have value : (assemble lead tail).toNat = codePoint lead tail := by
      show (Char.ofNat (codePoint lead tail)).toNat = _
      rw [Char.ofNat, dif_pos formed.isValidChar]
      rfl
    rw [utf8EncodeChar_of_wellFormed formed value, List.cons_append]
  · intro begins
    obtain ⟨lead', tail, formed, value⟩ := exists_wellFormed c
    rw [utf8EncodeChar_of_wellFormed formed value, List.cons_append, List.cons.injEq] at begins
    obtain ⟨rfl, rfl⟩ := begins
    refine ⟨tail, rfl, formed, ?_⟩
    show Char.ofNat (codePoint lead tail) = c
    rw [← value, Char.ofNat_toNat]

end Characters

section Texts

theorem decode?_nil : decode? [] = some [] := by
  rw [decode?, pieces]
  rfl

theorem decode?_cons_eq_some_iff (lead : UInt8) (rest : Bytes) (text : List Char) :
    decode? (lead :: rest) = some text ↔
      ∃ c after others, piece lead rest = (.char c, after) ∧ decode? after = some others ∧
        text = c :: others := by
  rw [decode?, pieces, List.mapM_cons]
  show (piece lead rest).1.char?.bind
    (fun c => (decode? (piece lead rest).2).bind (fun others => some (c :: others))) = _ ↔ _
  obtain ⟨first, after⟩ := piece lead rest
  cases first with
  | broken bytes => simp [Piece.char?]
  | char c =>
      show (decode? after).bind _ = some text ↔ _
      rw [Option.bind_eq_some_iff]
      constructor
      · rintro ⟨others, decoded, same⟩
        cases same
        exact ⟨c, after, others, rfl, decoded, rfl⟩
      · rintro ⟨_, _, others, first, decoded, rfl⟩
        cases first
        exact ⟨others, decoded, rfl⟩

/-- Bytes spell a text just if they are its encoding. -/
theorem decode?_eq_some_iff (bytes : Bytes) (text : List Char) :
    decode? bytes = some text ↔ bytes = encode text := by
  induction text generalizing bytes with
  | nil =>
      cases bytes with
      | nil => simp only [decode?_nil, encode, List.flatMap_nil]
      | cons lead rest => simp [decode?_cons_eq_some_iff, encode]
  | cons c text ih =>
      have encoded : encode (c :: text) = String.utf8EncodeChar c ++ encode text := List.flatMap_cons
      rw [encoded]
      cases bytes with
      | nil => simp [decode?_nil, String.utf8EncodeChar_ne_nil]
      | cons lead rest =>
          rw [decode?_cons_eq_some_iff]
          constructor
          · rintro ⟨_, after, _, first, others, ⟨rfl, rfl⟩⟩
            rw [(piece_eq_char_iff_encode lead rest after c).mp first, (ih after).mp others]
          · intro bytes
            exact ⟨c, encode text, text, (piece_eq_char_iff_encode lead rest _ c).mpr bytes,
              (ih _).mpr rfl, rfl⟩

theorem decode?_encode (text : List Char) : decode? (encode text) = some text :=
  (decode?_eq_some_iff _ _).mpr rfl

theorem encode_injective {text text' : List Char} (same : encode text = encode text') :
    text = text' := by
  apply Option.some.inj
  rw [← decode?_encode, same, decode?_encode]

theorem WellFormed.continues {lead : UInt8} {tail : Bytes} (formed : WellFormed lead tail) :
    ∀ b ∈ tail, Continues b := by
  cases formed with
  | one range => exact List.forall_mem_nil _
  | two range first => exact List.forall_mem_singleton.mpr first
  | three range first shortest regular second =>
      exact List.forall_mem_cons.mpr ⟨first, List.forall_mem_singleton.mpr second⟩
  | four range first shortest bounded second third =>
      refine List.forall_mem_cons.mpr ⟨first, List.forall_mem_cons.mpr ⟨second, ?_⟩⟩
      exact List.forall_mem_singleton.mpr third

theorem eq_zero_of_mem_utf8EncodeChar {c : Char} (member : 0 ∈ String.utf8EncodeChar c) :
    c = '\x00' := by
  obtain ⟨lead, tail, formed, value⟩ := exists_wellFormed c
  rw [utf8EncodeChar_of_wellFormed formed value] at member
  rcases List.mem_cons.mp member with rfl | later
  · cases formed with
    | one range => exact Char.toNat_inj.mp value
    | two range => exact absurd range.1 (by decide)
    | three range => exact absurd range.1 (by decide)
    | four range => exact absurd range.1 (by decide)
  · exact absurd (formed.continues 0 later).1 (by decide)

/-- A zero byte stands for the zero character, and for nothing else. -/
theorem zero_mem_encode_iff (text : List Char) : 0 ∈ encode text ↔ '\x00' ∈ text := by
  rw [encode, List.mem_flatMap]
  constructor
  · rintro ⟨c, member, zero⟩
    rwa [← eq_zero_of_mem_utf8EncodeChar zero]
  · intro member
    exact ⟨'\x00', member, by decide⟩

end Texts

end TableDraw.Utf8
