import TableDraw.Proofs.Json.Reading
import TableDraw.Proofs.Json.Strings
import TableDraw.Proofs.Numeral

set_option autoImplicit false

/-!
The texts of all JSON values, and that each of them is passed over: from the place where a value has
to come to the place behind it, whatever is open around it.
-/

namespace TableDraw.Json

open Numeral (Digits)

section Grammar

/-- The digits of a number in front of its point. No zero stands before other digits. -/
structure WholeText (t : List Char) : Prop where
  digits : Digits t
  zero : t.head? = some '0' → t = ['0']

/-- The fraction of a number, if it has one. -/
inductive FractionText : List Char → Prop
  | none : FractionText []
  | some {t : List Char} (digits : Digits t) : FractionText ('.' :: t)

/-- The exponent of a number, if it has one. -/
inductive ExponentText : List Char → Prop
  | none : ExponentText []
  | some {letter : Char} {sign t : List Char} (begins : letter = 'e' ∨ letter = 'E')
      (signed : sign = [] ∨ sign = ['+'] ∨ sign = ['-']) (digits : Digits t) :
      ExponentText (letter :: sign ++ t)

/-- A number of any size. -/
inductive NumberText : List Char → Prop
  | mk {sign t f e : List Char} (signed : sign = [] ∨ sign = ['-']) (whole : WholeText t)
      (fraction : FractionText f) (exponent : ExponentText e) : NumberText (sign ++ (t ++ (f ++ e)))

/-- Parts of a text: a value, what stands between two commas of a container, and what follows the
opening of a container up to its end. `first` tells that no comma stands before the first entry. -/
inductive Skip.Part where
  | value
  | entry (frame : Skip.Frame)
  | entries (frame : Skip.Frame) (first : Bool)

/-- A text of any value, or of a part of one. -/
inductive ValueText : Skip.Part → List Char → Prop
  | null : ValueText .value ['n', 'u', 'l', 'l']
  | true : ValueText .value ['t', 'r', 'u', 'e']
  | false : ValueText .value ['f', 'a', 'l', 's', 'e']
  | number {t : List Char} (number : NumberText t) : ValueText .value t
  | string {meant : List (Option Char)} {t : List Char} (string : StringText meant t) :
      ValueText .value ('"' :: t)
  | list {s : List Char} (items : ValueText (.entries .list .true) s) : ValueText .value ('[' :: s)
  | object {s : List Char} (members : ValueText (.entries .object .true) s) :
      ValueText .value ('\x7b' :: s)
  | item {t : List Char} (value : ValueText .value t) : ValueText (.entry .list) t
  | member {meant : List (Option Char)} {k b b' t : List Char} (key : StringText meant k)
      (blank : Blank b) (blank' : Blank b') (value : ValueText .value t) :
      ValueText (.entry .object) ('"' :: k ++ b ++ ':' :: b' ++ t)
  | done {frame : Skip.Frame} {first : Bool} {b : List Char} (blank : Blank b) :
      ValueText (.entries frame first) (b ++ [frame.closer])
  | first {frame : Skip.Frame} {b t s : List Char} (blank : Blank b)
      (entry : ValueText (.entry frame) t) (more : ValueText (.entries frame .false) s) :
      ValueText (.entries frame .true) (b ++ t ++ s)
  | next {frame : Skip.Frame} {b b' t s : List Char} (blank : Blank b) (blank' : Blank b')
      (entry : ValueText (.entry frame) t) (more : ValueText (.entries frame .false) s) :
      ValueText (.entries frame .false) (b ++ ',' :: b' ++ t ++ s)

end Grammar

namespace Skip

section Numbers

variable {t f e rest : List Char}

/-- No digit stands in front. -/
def NoDigit (s : List Char) : Prop := s.head?.any Char.isDigit = false

theorem noDigit_of_endsNumber (ends : EndsNumber rest) : NoDigit rest := by
  cases rest with
  | nil => rfl
  | cons c rest => exact ends.1

theorem dropWhile_of_noDigit (ends : NoDigit rest) : rest.dropWhile Char.isDigit = rest := by
  cases rest with
  | nil => rfl
  | cons c rest => exact List.dropWhile_cons_of_neg (by simpa [NoDigit] using ends)

theorem digits_append (spelled : Digits t) (ends : NoDigit rest) :
    digits (t ++ rest) = .ok rest := by
  cases t with
  | nil => exact absurd rfl spelled.nonempty
  | cons c t =>
      obtain ⟨first, others⟩ := List.forall_mem_cons.mp spelled.decimal
      simp only [List.cons_append, digits, first, ↓reduceIte, List.dropWhile_append_of_pos others,
        dropWhile_of_noDigit ends]

theorem exponent_append (spelled : ExponentText e) (ends : EndsNumber rest) :
    exponent (e ++ rest) = .ok rest := by
  cases spelled with
  | none =>
      show exponent rest = _
      unfold exponent
      split
      · exact absurd rfl ends.2.2.1
      · exact absurd rfl ends.2.2.2
      · rfl
  | @some letter sign t begins signed spelled =>
      have taken := digits_append spelled (noDigit_of_endsNumber ends)
      obtain ⟨c, t, rfl⟩ := List.exists_cons_of_ne_nil spelled.nonempty
      have digit := spelled.decimal c List.mem_cons_self
      have unsigned : ∀ s, exponent (letter :: c :: s) = digits (c :: s) := by
        intro s
        rcases begins with rfl | rfl
        all_goals
          simp only [exponent]
          split
          · rename_i plus
            cases plus
            exact absurd digit (by decide)
          · rename_i minus
            cases minus
            exact absurd digit (by decide)
          · rfl
      rcases signed with rfl | rfl | rfl
      · exact (unsigned (t ++ rest)).trans taken
      · rcases begins with rfl | rfl <;> exact taken
      · rcases begins with rfl | rfl <;> exact taken

theorem noDigit_exponent (spelled : ExponentText e) (ends : EndsNumber rest) :
    NoDigit (e ++ rest) := by
  cases spelled with
  | none => exact noDigit_of_endsNumber ends
  | some begins signed spelled => rcases begins with rfl | rfl <;> rfl

theorem fraction_append (fractional : FractionText f) (spelled : ExponentText e)
    (ends : EndsNumber rest) : fraction (f ++ (e ++ rest)) = .ok rest := by
  have exponent := exponent_append spelled ends
  cases fractional with
  | none =>
      show fraction (e ++ rest) = _
      unfold fraction
      split
      · rename_i point
        cases spelled with
        | none =>
            rw [List.nil_append] at point
            rw [point] at ends
            exact absurd rfl ends.2.1
        | some begins =>
            cases point
            rcases begins with begins | begins <;> cases begins
      · exact exponent
  | some digits =>
      have taken := digits_append digits (noDigit_exponent spelled ends)
      simp only [List.cons_append, fraction, taken, exponent]

theorem noDigit_fraction (fractional : FractionText f) (spelled : ExponentText e)
    (ends : EndsNumber rest) : NoDigit (f ++ (e ++ rest)) := by
  cases fractional with
  | none =>
      show NoDigit (e ++ rest)
      exact noDigit_exponent spelled ends
  | some digits => rfl

/-- A number is passed over from behind its sign. -/
theorem number_append (whole : WholeText t) (fractional : FractionText f)
    (spelled : ExponentText e) (ends : EndsNumber rest) :
    number (t ++ (f ++ (e ++ rest))) = .ok rest := by
  have behind := fraction_append fractional spelled ends
  have stops := noDigit_fraction fractional spelled ends
  by_cases zero : t.head? = some '0'
  · obtain rfl := whole.zero zero
    have single : (f ++ (e ++ rest)).head?.any Char.isDigit = false := stops
    show number ('0' :: (f ++ (e ++ rest))) = _
    simp only [number, single, Bool.false_eq_true, ↓reduceIte, behind]
  · have taken := digits_append whole.digits stops
    unfold number
    split
    · rename_i first
      obtain ⟨c, t, rfl⟩ := List.exists_cons_of_ne_nil whole.digits.nonempty
      cases first
      exact absurd rfl zero
    · rw [taken]
      exact behind

end Numbers

theorem takeValue_digit {c : Char} (digit : c.isDigit = true) (around : List Frame)
    (s : List Char) :
    takeValue around (c :: s) = (number (c :: s)).map (fun r => (.closing around, r)) := by
  rw [takeValue.eq_def]
  split
  case h_1 empty => cases empty
  case h_9 other =>
    cases other
    exact if_pos digit
  all_goals
    rename_i sign
    cases sign
    exact absurd digit (by decide)

theorem takeValue_number {t : List Char} (spelled : NumberText t) (around : List Frame)
    {rest : List Char} (ends : EndsNumber rest) :
    takeValue around (t ++ rest) = .ok (.closing around, rest) := by
  cases spelled with
  | @mk sign t f e signed whole fractional exponential =>
      have taken := number_append whole fractional exponential ends
      simp only [List.append_assoc]
      rcases signed with rfl | rfl
      · obtain ⟨c, t, rfl⟩ := List.exists_cons_of_ne_nil whole.digits.nonempty
        have digit := whole.digits.decimal c List.mem_cons_self
        rw [List.cons_append] at taken
        rw [List.nil_append, List.cons_append, takeValue_digit digit, taken]
        rfl
      · simp only [List.cons_append, List.nil_append, takeValue, taken]
        rfl

section Run

/-- The place at which a part of a value has to come. -/
def Part.place (around : List Frame) : Part → Place
  | value => .value around
  | entry .list => .value (.list :: around)
  | entry .object => .member around
  | entries frame .true => .opened frame around
  | entries frame .false => .closing (frame :: around)

/-- The place behind a part of a value. -/
def Part.after (around : List Frame) : Part → Place
  | value => .closing around
  | entry frame => .closing (frame :: around)
  | entries _ _ => .closing around

variable {place next : Place} {around : List Frame} {b s t rest : List Char}

theorem run_eq (unfinished : place ≠ .closing []) (s : List Char) :
    run place s = (take place (dropBlank s)).bind (fun p => run p.1 p.2) := by
  rw [run, if_neg unfinished]
  split
  · rename_i failed
    rw [failed]
    rfl
  · rename_i found
    rw [found]
    rfl

theorem run_of_take (unfinished : place ≠ .closing [])
    (taken : take place (dropBlank s) = .ok (next, rest)) : run place s = run next rest := by
  rw [run_eq unfinished, taken]
  rfl

/-- A text that begins with no blank and does not end a container. -/
def Begins (t : List Char) : Prop :=
  ∃ c more, t = c :: more ∧ isBlank c = false ∧ ∀ frame : Frame, c ≠ frame.closer

theorem begins_cons {c : Char} (solid : isBlank c = false ∧ c ≠ ']' ∧ c ≠ '\x7d')
    (more : List Char) : Begins (c :: more) := by
  refine ⟨c, more, rfl, solid.1, ?_⟩
  intro frame
  cases frame with
  | list => exact solid.2.1
  | object => exact solid.2.2

theorem begins_number (spelled : NumberText t) : Begins t := by
  cases spelled with
  | @mk sign t f e signed whole fractional exponential =>
      rcases signed with rfl | rfl
      · obtain ⟨c, t, rfl⟩ := List.exists_cons_of_ne_nil whole.digits.nonempty
        have digit := whole.digits.decimal c List.mem_cons_self
        apply begins_cons
        refine ⟨Reader.isBlank_of_isDigit digit, ?_, ?_⟩
        · rintro rfl
          exact absurd digit (by decide)
        · rintro rfl
          exact absurd digit (by decide)
      · exact begins_cons (by decide) _

theorem begins_value (spelled : ValueText .value t) : Begins t := by
  cases spelled with
  | number number => exact begins_number number
  | null => exact begins_cons (by decide) _
  | true => exact begins_cons (by decide) _
  | false => exact begins_cons (by decide) _
  | string string => exact begins_cons (by decide) _
  | list items => exact begins_cons (by decide) _
  | object members => exact begins_cons (by decide) _

theorem begins_entry {frame : Frame} (spelled : ValueText (.entry frame) t) : Begins t := by
  cases spelled with
  | item value => exact begins_value value
  | member key blank blank' value => exact begins_cons (by decide) _

theorem dropBlank_begins (blank : Blank b) (begins : Begins t) (rest : List Char) :
    dropBlank (b ++ (t ++ rest)) = t ++ rest := by
  obtain ⟨c, more, rfl, solid, _⟩ := begins
  exact dropBlank_append_cons blank solid (more ++ rest)

theorem run_value (blank : Blank b) (spelled : ValueText .value t)
    (taken : takeValue around (t ++ s) = .ok (next, rest)) :
    run (.value around) (b ++ (t ++ s)) = run next rest := by
  apply run_of_take (by simp)
  rw [dropBlank_begins blank (begins_value spelled)]
  exact taken

/-- A first entry is taken like any other, as it does not look like the end of the container. -/
theorem run_opened {frame : Frame} (blank : Blank b) (begins : Begins t) (rest : List Char) :
    run (.opened frame around) (b ++ (t ++ rest)) =
      run ((Part.entry frame).place around) (b ++ (t ++ rest)) := by
  have solid := dropBlank_begins blank begins rest
  obtain ⟨c, more, rfl, _, unclosed⟩ := begins
  have taken : take (.opened frame around) (c :: (more ++ rest)) =
      take ((Part.entry frame).place around) (c :: (more ++ rest)) := by
    show (if c = frame.closer then _ else _) = _
    rw [if_neg (unclosed frame)]
    cases frame <;> rfl
  have entry : (Part.entry frame).place around ≠ .closing [] := by cases frame <;> simp [Part.place]
  rw [run_eq (by simp), run_eq entry, solid, List.cons_append, taken]

theorem run_closed {frame : Frame} (first : Bool) (blank : Blank b) (rest : List Char) :
    run ((Part.entries frame first).place around) (b ++ frame.closer :: rest) =
      run (.closing around) rest := by
  have solid : dropBlank (b ++ frame.closer :: rest) = frame.closer :: rest :=
    dropBlank_append_cons blank (by cases frame <;> decide) rest
  have unfinished : (Part.entries frame first).place around ≠ .closing [] := by
    cases first <;> simp [Part.place]
  apply run_of_take unfinished
  rw [solid]
  cases first <;> exact if_pos rfl

theorem run_separated {frame : Frame} (blank : Blank b) (s : List Char) :
    run (.closing (frame :: around)) (b ++ ',' :: s) = run ((Part.entry frame).place around) s := by
  have solid : dropBlank (b ++ ',' :: s) = ',' :: s := dropBlank_append_cons blank (by decide) s
  apply run_of_take (by simp)
  rw [solid]
  cases frame <;> rfl

theorem endsNumber_entries {frame : Frame} (spelled : ValueText (.entries frame .false) s)
    (rest : List Char) : EndsNumber (s ++ rest) := by
  cases spelled with
  | done blank =>
      rw [List.append_assoc]
      exact EndsNumber.blank_append blank (endsNumber_cons rest (by cases frame <;> decide))
  | next blank blank' entry more =>
      simp only [List.append_assoc, List.cons_append]
      exact EndsNumber.blank_append blank (endsNumber_cons _ (by decide))

/-- Every part of a value is passed over, whatever is open around it. The induction is on the text:
where a container opens, its entries are passed over with one more container around them. -/
theorem run_append {part : Part} (spelled : ValueText part t) (around : List Frame)
    (blank : Blank b) (ends : EndsNumber rest) :
    run (part.place around) (b ++ (t ++ rest)) = run (part.after around) rest := by
  induction spelled generalizing around b rest with
  | null => exact run_value blank .null rfl
  | true => exact run_value blank .true rfl
  | false => exact run_value blank .false rfl
  | number number => exact run_value blank (.number number) (takeValue_number number around ends)
  | string string =>
      apply run_value blank (.string string)
      simp only [List.cons_append, takeValue, string.skipString]
      rfl
  | list items ih =>
      rw [Part.place, run_value blank (.list items) rfl]
      exact ih around blank_nil ends
  | object members ih =>
      rw [Part.place, run_value blank (.object members) rfl]
      exact ih around blank_nil ends
  | item value ih => exact ih (.list :: around) blank ends
  | @member meant k b₁ b₂ t key blank₁ blank₂ value ih =>
      have taken : take (.member around) ('"' :: (k ++ (b₁ ++ ':' :: (b₂ ++ (t ++ rest))))) =
          .ok (.value (.object :: around), b₂ ++ (t ++ rest)) := by
        simp only [take, takeKey, key.skipString, dropBlank_append_cons blank₁ (c := ':') (by decide),
          takeColon]
        rfl
      simp only [List.append_assoc, List.cons_append]
      rw [Part.place, run_of_take (by simp)
        (by rw [dropBlank_append_cons blank (by decide)]; exact taken)]
      exact ih (.object :: around) blank₂ ends
  | @done frame first b' blank' =>
      rw [List.append_assoc, ← List.append_assoc]
      exact run_closed first (blank.append blank') rest
  | @first frame b' t s blank' entry more ihEntry ihMore =>
      have joined : b ++ (b' ++ t ++ s ++ rest) = b ++ b' ++ (t ++ (s ++ rest)) := by
        simp only [List.append_assoc]
      rw [joined, Part.place, run_opened (blank.append blank') (begins_entry entry),
        ihEntry around (blank.append blank') (endsNumber_entries more rest)]
      exact ihMore around blank_nil ends
  | @next frame b₁ b₂ t s blank₁ blank₂ entry more ihEntry ihMore =>
      have joined : b ++ (b₁ ++ ',' :: b₂ ++ t ++ s ++ rest) =
          b ++ b₁ ++ ',' :: (b₂ ++ (t ++ (s ++ rest))) := by
        simp only [List.append_assoc, List.cons_append]
      rw [joined, Part.place, run_separated (blank.append blank₁),
        ihEntry around blank₂ (endsNumber_entries more rest)]
      exact ihMore around blank_nil ends

end Run

end Skip

/-- Every value is passed over, with any blanks in front, and nothing of what follows. -/
theorem skipValue_append {b t rest : List Char} (spelled : ValueText .value t) (blank : Blank b)
    (ends : EndsNumber rest) : skipValue (b ++ (t ++ rest)) = .ok rest := by
  have passed := Skip.run_append spelled [] blank ends
  rw [skipValue]
  exact passed.trans (by rw [Skip.Part.after, Skip.run, if_pos rfl])

end TableDraw.Json
