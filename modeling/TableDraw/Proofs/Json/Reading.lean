import TableDraw.Proofs.Json.Integer
import TableDraw.Proofs.SortedMap

set_option autoImplicit false

/-!
Which documents a reader reads, and as what: for lists and maps from what is known of the readers of
their parts. What a reader reads it reads from every text of the document, whatever blanks stand
before it, and it takes nothing of what follows.
-/

namespace TableDraw.Json

open Document

section Opening

/-- Characters that begin a value: no blank stands before it, and it is not the end of a list. -/
def OpensValue (t : List Char) : Prop := ∃ c more, t = c :: more ∧ isBlank c = false ∧ c ≠ ']'

theorem opensValue_integerText (n : Int) : OpensValue (integerText n) := by
  obtain ⟨c, more, begins, digit | rfl⟩ := Reader.integerText_begins n
  · refine ⟨c, more, begins, Reader.isBlank_of_isDigit digit, ?_⟩
    rintro rfl
    exact absurd digit (by decide)
  · exact ⟨'-', more, begins, by decide, by decide⟩

theorem Document.Spelled.opensValue {d : Document} {t : List Char} (spelled : Spelled d t) :
    OpensValue t := by
  cases spelled with
  | integer n => exact opensValue_integerText n
  | list body => exact ⟨'[', _, rfl, by decide, by decide⟩
  | object body => exact ⟨'\x7b', _, rfl, by decide, by decide⟩

/-- A member is its key up to the closing quote, a colon and a value, with blanks around the colon. -/
theorem Document.Member.split {m : String × Document} {t : List Char} (member : Member Spelled m t) :
    ∃ b b' u, Blank b ∧ Blank b' ∧ Spelled m.2 u ∧
      t = '"' :: (m.1.toList ++ '"' :: (b ++ ':' :: (b' ++ u))) := by
  cases member with
  | mk blank blank' spelled =>
      refine ⟨_, _, _, blank, blank', spelled, ?_⟩
      simp only [keyText, List.append_assoc, List.cons_append, List.nil_append]

theorem Document.Member.quoted (m : String × Document) (t : List Char) (member : Member Spelled m t) :
    ∃ k, t = '"' :: k := by
  obtain ⟨_, _, _, _, _, _, same⟩ := member.split
  exact ⟨_, same⟩

theorem OpensValue.append {t : List Char} (opens : OpensValue t) (s : List Char) :
    OpensValue (t ++ s) := by
  obtain ⟨c, more, rfl, solid⟩ := opens
  exact ⟨c, more ++ s, rfl, solid⟩

theorem OpensValue.dropBlank {t : List Char} (opens : OpensValue t) : dropBlank t = t := by
  obtain ⟨c, more, rfl, solid, _⟩ := opens
  exact dropBlank_cons solid more

end Opening

section Ending

theorem endsNumber_of_isBlank {c : Char} (blank : isBlank c = true) (s : List Char) :
    EndsNumber (c :: s) := by
  unfold isBlank at blank
  rcases of_decide_eq_true blank with rfl | rfl | rfl | rfl <;> exact endsNumber_cons s (by decide)

theorem EndsNumber.blank_append {b s : List Char} (blank : Blank b) (ends : EndsNumber s) :
    EndsNumber (b ++ s) := by
  cases b with
  | nil => exact ends
  | cons c b => exact endsNumber_of_isBlank (blank c List.mem_cons_self) (b ++ s)

theorem Blank.endsNumber {b : List Char} (blank : Blank b) : EndsNumber b := by
  rw [← List.append_nil b]
  exact EndsNumber.blank_append blank trivial

/-- A number may end before whatever stands behind an item or member. -/
theorem Document.Body.endsNumber {α : Type} {close : Char} {text : α → List Char → Prop}
    {items : List α} {s : List Char} (body : Body close text false items s)
    (closing : ∀ rest, EndsNumber (close :: rest)) (rest : List Char) : EndsNumber (s ++ rest) := by
  cases body with
  | done blank =>
      rw [List.append_assoc]
      exact (closing rest).blank_append blank
  | next blank blank' item more =>
      simp only [List.append_assoc, List.cons_append]
      exact (endsNumber_cons _ (by decide)).blank_append blank

end Ending

namespace Reader

variable {α β κ ν : Type}

/-- The reader takes every text of the document as the value. -/
def Reads (r : Reader α) (d : Document) (a : α) : Prop :=
  ∀ ⦃t b rest : List Char⦄, Spelled d t → Blank b → EndsNumber rest →
    r.read (b ++ (t ++ rest)) = .ok (a, rest)

theorem Reads.front {r : Reader α} {d : Document} {a : α} (reads : r.Reads d a)
    {t rest : List Char} (spelled : Spelled d t) (ends : EndsNumber rest) :
    r.read (t ++ rest) = .ok (a, rest) :=
  reads spelled blank_nil ends

theorem Reads.map {r : Reader α} {d : Document} {a : α} (reads : r.Reads d a) (f : α → β) :
    (r.map f).Reads d (f a) := by
  intro t b rest spelled blank ends
  show (r.read (b ++ (t ++ rest))).map _ = _
  rw [reads spelled blank ends]
  rfl

/-- Blanks may follow what is read of a whole text. -/
theorem parse_of_read {r : Reader α} {a : α} {s b : List Char} (read : r.read s = .ok (a, b))
    (blank : Blank b) : r.parse s = .ok a := by
  unfold Reader.parse
  simp only [read, dropBlank_blank blank, List.isEmpty_nil, ↓reduceIte]

/-- A whole text may begin and end with blanks. -/
theorem Reads.parse {r : Reader α} {d : Document} {a : α} (reads : r.Reads d a)
    {t b b' : List Char} (spelled : Spelled d t) (blank : Blank b) (blank' : Blank b') :
    r.parse (b ++ (t ++ b')) = .ok a :=
  parse_of_read (reads spelled blank blank'.endsNumber) blank'

theorem Reads.parse_compact {r : Reader α} {d : Document} {a : α} (reads : r.Reads d a) :
    r.parse d.compact = .ok a := by
  have parsed := reads.parse (spelled_compact d) blank_nil blank_nil
  rwa [List.nil_append, List.append_nil] at parsed

theorem Reads.parse_indented {r : Reader α} {d : Document} {a : α} (reads : r.Reads d a)
    (depth : Nat) : r.parse (d.indented depth) = .ok a := by
  have parsed := reads.parse (spelled_indented depth d) blank_nil blank_nil
  rwa [List.nil_append, List.append_nil] at parsed

section Integers

theorem signed_reads (n : Int64) : signed.Reads (.integer n.toInt) n := by
  intro t b rest spelled blank ends
  cases spelled
  have low := n.le_toInt
  have high := n.toInt_lt
  have read : readInteger .signed Int64.minValue.toInt Int64.maxValue.toInt
      (b ++ (integerText n.toInt ++ rest)) = .ok (n.toInt, rest) :=
    readInteger_integerText (by omega) (by omega) ⟨low, Int64.toInt_le n⟩ blank ends
  show (readInteger _ _ _ _).map _ = _
  rw [read]
  show Except.ok (Int64.ofInt n.toInt, rest) = _
  rw [Int64.ofInt_toInt]

theorem unsigned_reads {n : Nat} (fits : n < 2 ^ 64) :
    unsigned.Reads (.integer n) (UInt64.ofNat n) := by
  intro t b rest spelled blank ends
  cases spelled
  have read : readInteger .unsigned 0 (UInt64.size - 1) (b ++ (integerText n ++ rest)) =
      .ok ((n : Int), rest) :=
    readInteger_integerText (by omega) (by omega) ⟨by omega, by simp only [UInt64.size]; omega⟩
      blank ends
  show (readInteger _ _ _ _).map _ = _
  rw [read]
  rfl

/-- A number that is counted in 64 bits is read as itself. -/
theorem unsigned_reads_toNat (n : UInt64) : unsigned.Reads (.integer n.toNat) n := by
  have reads := unsigned_reads n.toNat_lt
  rwa [UInt64.ofNat_toNat] at reads

theorem unsigned_toNat_reads {n : Nat} (fits : n < 2 ^ 64) :
    (unsigned.map UInt64.toNat).Reads (.integer n) n := by
  have reads := (unsigned_reads fits).map UInt64.toNat
  rwa [UInt64.toNat_ofNat_of_lt' fits] at reads

end Integers

section Lists

variable {first : Bool} {b b' s rest : List Char}

theorem nextItem_done (blank : Blank b) : nextItem first (b ++ ']' :: rest) = .ok (.done rest) := by
  unfold nextItem
  rw [dropBlank_append_cons blank (by decide)]
  rfl

theorem nextItem_first (blank : Blank b) (opens : OpensValue s) :
    nextItem true (b ++ s) = .ok (.member s) := by
  unfold nextItem
  rw [dropBlank_append blank, opens.dropBlank]
  obtain ⟨c, more, rfl, _, unclosed⟩ := opens
  split
  · rename_i empty
    cases empty
  · rename_i close
    cases close
    exact absurd rfl unclosed
  · rename_i item
    cases item
    exact if_pos rfl

theorem nextItem_next (blank : Blank b) (blank' : Blank b') (opens : OpensValue s) :
    nextItem false (b ++ ',' :: (b' ++ s)) = .ok (.member s) := by
  unfold nextItem
  rw [dropBlank_append_cons blank (by decide)]
  split
  · rename_i empty
    cases empty
  · rename_i close
    cases close
  · rename_i comma
    cases comma
    rw [if_neg (by decide), if_pos rfl, dropBlank_append blank', opens.dropBlank]
    obtain ⟨c, more, rfl, _, unclosed⟩ := opens
    split
    · rename_i empty
      cases empty
    · rename_i close
      cases close
      exact absurd rfl unclosed
    · rfl

variable {item : Reader α} {ι : Type} {text : ι → List Char → Prop} {i : ι} {others : List ι}

theorem items_done (found : nextItem first s = .ok (.done rest)) :
    items item first s = .ok ([], rest) := by
  rw [items]
  split <;> simp_all

theorem items_member {s' after : List Char} {a : α} {as : List α}
    (found : nextItem first s = .ok (.member s')) (taken : item.read s' = .ok (a, after))
    (more : items item false after = .ok (as, rest)) :
    items item first s = .ok (a :: as, rest) := by
  rw [items]
  split <;> simp_all
  split <;> simp_all

theorem nextItem_end (body : Body ']' text first [] s) :
    nextItem first (s ++ rest) = .ok (.done rest) := by
  cases body with
  | done blank =>
      rw [List.append_assoc]
      exact nextItem_done blank

/-- The next item is found wherever it stands, and a number may end behind it. -/
theorem nextItem_body (opens : ∀ i t, text i t → OpensValue t)
    (body : Body ']' text first (i :: others) s) (rest : List Char) :
    ∃ t more, text i t ∧ Body ']' text false others more ∧ EndsNumber (more ++ rest) ∧
      nextItem first (s ++ rest) = .ok (.member (t ++ (more ++ rest))) := by
  have closing (rest : List Char) : EndsNumber (']' :: rest) := endsNumber_cons rest (by decide)
  cases body with
  | first blank spelled more =>
      refine ⟨_, _, spelled, more, more.endsNumber closing rest, ?_⟩
      simp only [List.append_assoc]
      exact nextItem_first blank ((opens _ _ spelled).append _)
  | next blank blank' spelled more =>
      refine ⟨_, _, spelled, more, more.endsNumber closing rest, ?_⟩
      simp only [List.append_assoc, List.cons_append]
      exact nextItem_next blank blank' ((opens _ _ spelled).append _)

/-- Items that are read one by one are read as a list: the induction is on the list, whose next item
leaves the text of the others. -/
theorem items_body {document : α → Document} {as : List α}
    (reads : ∀ a ∈ as, item.Reads (document a) a)
    (body : Body ']' Spelled first (as.map document) s) :
    items item first (s ++ rest) = .ok (as, rest) := by
  induction as generalizing first s with
  | nil => exact items_done (nextItem_end body)
  | cons a as ih =>
      obtain ⟨t, more, spelled, others, ends, found⟩ :=
        nextItem_body (fun _ _ spelled => spelled.opensValue) body rest
      apply items_member found ((reads a List.mem_cons_self).front spelled ends)
      exact ih (fun a member => reads a (List.mem_cons_of_mem _ member)) others

theorem list_reads {document : α → Document} {as : List α}
    (reads : ∀ a ∈ as, item.Reads (document a) a) :
    (list item).Reads (.list (as.map document)) as := by
  intro t b rest spelled blank _
  cases spelled with
  | list body =>
      have opening : isBlank '[' = false := by decide
      unfold list
      simp only [List.cons_append, dropBlank_append_cons blank opening]
      exact items_body reads body

end Lists

section Members

variable {first : Bool} {b b' s rest : List Char}
variable {ι : Type} {text : ι → List Char → Prop} {i : ι} {others : List ι}

theorem nextMember_end (body : Body '\x7d' text first [] s) :
    nextMember first (s ++ rest) = .ok (.done rest) := by
  cases body with
  | done blank =>
      rw [List.append_assoc]
      unfold nextMember
      rw [List.singleton_append, dropBlank_append_cons blank (by decide)]
      rfl

theorem nextMember_first (blank : Blank b) : nextMember true (b ++ '"' :: s) = .ok (.member s) := by
  unfold nextMember
  rw [dropBlank_append_cons blank (by decide)]
  rfl

theorem nextMember_next (blank : Blank b) (blank' : Blank b') :
    nextMember false (b ++ ',' :: (b' ++ '"' :: s)) = .ok (.member s) := by
  unfold nextMember
  rw [dropBlank_append_cons blank (by decide)]
  split
  · rename_i empty
    cases empty
  · rename_i close
    cases close
  · rename_i comma
    cases comma
    rw [if_neg (by decide), if_pos rfl, dropBlank_append_cons blank' (by decide)]
    rfl

theorem takeColon_eq (blank : Blank b) (s : List Char) : takeColon (b ++ ':' :: s) = .ok s := by
  unfold takeColon
  rw [dropBlank_append_cons blank (by decide)]
  rfl

/-- The next member is found behind the quote that opens its key, and a number may end behind it. -/
theorem nextMember_body (opens : ∀ i t, text i t → ∃ k, t = '"' :: k)
    (body : Body '\x7d' text first (i :: others) s) (rest : List Char) :
    ∃ k more, text i ('"' :: k) ∧ Body '\x7d' text false others more ∧ EndsNumber (more ++ rest) ∧
      nextMember first (s ++ rest) = .ok (.member (k ++ (more ++ rest))) := by
  have closing (rest : List Char) : EndsNumber ('\x7d' :: rest) := endsNumber_cons rest (by decide)
  cases body with
  | first blank member more =>
      obtain ⟨k, rfl⟩ := opens _ _ member
      refine ⟨k, _, member, more, more.endsNumber closing rest, ?_⟩
      simp only [List.append_assoc, List.cons_append]
      exact nextMember_first blank
  | next blank blank' member more =>
      obtain ⟨k, rfl⟩ := opens _ _ member
      refine ⟨k, _, member, more, more.endsNumber closing rest, ?_⟩
      simp only [List.append_assoc, List.cons_append]
      exact nextMember_next blank blank'

end Members

section Maps

variable {first : Bool} {b s rest : List Char} {key : Reader κ} {value : Reader ν}

/-- The reader takes a key's text, which is an integer, as the key. -/
def ReadsKey (r : Reader κ) (name : String) (k : κ) : Prop :=
  ∃ n : Int, name.toList = integerText n ∧ r.Reads (.integer n) k

theorem toList_toString (n : Int) : (toString n).toList = integerText n := by
  cases n with
  | ofNat n =>
      show (toString n).toList = _
      rw [Nat.toString_eq_ofList_toDigits, String.toList_ofList]
      rfl
  | negSucc n =>
      show ("-" ++ toString (n + 1)).toList = _
      simp only [String.toList_append, Nat.toString_eq_ofList_toDigits, String.toList_ofList]
      rfl

theorem signed_readsKey (k : Int64) : signed.ReadsKey (toString k) k :=
  ⟨k.toInt, toList_toString k.toInt, signed_reads k⟩

theorem unsigned_readsKey {k : Nat} (fits : k < 2 ^ 64) :
    (unsigned.map UInt64.toNat).ReadsKey (toString k) k :=
  ⟨k, toList_toString k, unsigned_toNat_reads fits⟩

theorem numberKey_eq {name : String} {k : κ} (reads : key.ReadsKey name k) (blank : Blank b)
    (s : List Char) : numberKey key (name.toList ++ '"' :: (b ++ ':' :: s)) = .ok (k, s) := by
  obtain ⟨n, digits, reads⟩ := reads
  have ends : EndsNumber ('"' :: (b ++ ':' :: s)) := endsNumber_cons _ (by decide)
  have read := reads.front (.integer n) ends
  obtain ⟨c, more, begins, sort⟩ := integerText_begins n
  rw [digits]
  rw [begins, List.cons_append] at read ⊢
  unfold numberKey
  simp only [sort, ↓reduceIte, read, takeColon_eq blank]
  rfl

theorem entries_done (found : nextMember first s = .ok (.done rest)) :
    entries key value first s = .ok ([], rest) := by
  rw [entries]
  split <;> simp_all

theorem entries_member {s' after after' : List Char} {k : κ} {v : ν} {es : List (κ × ν)}
    (found : nextMember first s = .ok (.member s')) (keyed : numberKey key s' = .ok (k, after))
    (taken : value.read after = .ok (v, after'))
    (more : entries key value false after' = .ok (es, rest)) :
    entries key value first s = .ok ((k, v) :: es, rest) := by
  rw [entries]
  split <;> simp_all
  split <;> simp_all
  split <;> simp_all

/-- Reads the members of an object from before its opening. -/
def readListed (key : Reader κ) (value : Reader ν) (s : List Char) :
    Except Error (List (κ × ν) × List Char) :=
  match dropBlank s with
  | '\x7b' :: rest => entries key value true rest
  | s => .error (mismatch .map s)

theorem length_readListed_lt {es : List (κ × ν)} (read : readListed key value s = .ok (es, rest)) :
    rest.length < s.length := by
  have bound := length_dropBlank_le s
  unfold readListed at read
  split at read
  · rename_i opening
    have := length_entries_lt read
    rw [opening, List.length_cons] at bound
    omega
  · cases read

/-- Reads an object whose keys are numbers as its members, in the order in which they stand. -/
def listed (key : Reader κ) (value : Reader ν) : Reader (List (κ × ν)) :=
  ⟨readListed key value, length_readListed_lt⟩

theorem sortedMap_eq_map_listed [LE κ] [LT κ] [DecidableLT κ] [Std.IsLinearOrder κ]
    [Std.LawfulOrderLT κ] : sortedMap key value = (listed key value).map SortedMap.ofList := rfl

variable {member : κ × ν → String × Document}

theorem entries_body {es : List (κ × ν)} (names : ∀ e ∈ es, key.ReadsKey (member e).1 e.1)
    (reads : ∀ e ∈ es, value.Reads (member e).2 e.2)
    (body : Body '\x7d' (Member Spelled) first (es.map member) s) :
    entries key value first (s ++ rest) = .ok (es, rest) := by
  induction es generalizing first s with
  | nil => exact entries_done (nextMember_end body)
  | cons e es ih =>
      obtain ⟨k, more, member, others, ends, found⟩ := nextMember_body Member.quoted body rest
      obtain ⟨b, b', t, blank, blank', spelled, same⟩ := member.split
      obtain rfl := List.tail_eq_of_cons_eq same
      simp only [List.append_assoc, List.cons_append] at found
      apply entries_member found (numberKey_eq (names e List.mem_cons_self) blank _)
        (reads e List.mem_cons_self spelled blank' ends)
      exact ih (fun e listed => names e (List.mem_cons_of_mem _ listed))
        (fun e listed => reads e (List.mem_cons_of_mem _ listed)) others

theorem listed_reads {es : List (κ × ν)} (names : ∀ e ∈ es, key.ReadsKey (member e).1 e.1)
    (reads : ∀ e ∈ es, value.Reads (member e).2 e.2) :
    (listed key value).Reads (.object (es.map member)) es := by
  intro t b rest spelled blank _
  cases spelled with
  | object body =>
      have opening : isBlank '\x7b' = false := by decide
      simp only [listed, readListed, List.cons_append, dropBlank_append_cons blank opening]
      exact entries_body names reads body

/-- Members in ascending order are read as the map that they list. -/
theorem sortedMap_reads [LE κ] [LT κ] [DecidableLT κ] [Std.IsLinearOrder κ] [Std.LawfulOrderLT κ]
    {m : SortedMap κ ν} {d : Document} (reads : (listed key value).Reads d m.entries) :
    (sortedMap key value).Reads d m := by
  have map := reads.map SortedMap.ofList
  rwa [SortedMap.ofList_entries, ← sortedMap_eq_map_listed] at map

end Maps

end Reader

end TableDraw.Json
