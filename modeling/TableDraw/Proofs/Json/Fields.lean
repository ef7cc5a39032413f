import TableDraw.Json.Record
import TableDraw.Proofs.Json.Skip

set_option autoImplicit false

/-!
Which objects and lists a record reads, and as what. The members of such an object name fields of
the record, each of them once, and their values fill it; members of other names may stand among them.
The items of such a list fill the fields in order.
-/

namespace TableDraw.Json

open Document

section Keys

/-- A key that a JSON string holds as it is. -/
def PlainKey (name : List Char) : Prop := ∀ c ∈ name, c ≠ '"' ∧ c ≠ '\\' ∧ 0x20 ≤ c.toNat

instance (name : List Char) : Decidable (PlainKey name) :=
  List.decidableBAll (fun c => c ≠ '"' ∧ c ≠ '\\' ∧ 0x20 ≤ c.toNat) name

theorem PlainKey.spelled {name : List Char} (plain : PlainKey name) :
    StringText (name.map some) (name ++ ['"']) := by
  induction name with
  | nil => exact .done
  | cons c name ih =>
      obtain ⟨first, others⟩ := List.forall_mem_cons.mp plain
      exact .piece (t := [c]) (.plain first) (ih others)

end Keys

section Members

/-- A text of a document, or of any value where no document is known. -/
inductive GivenText : Option Document → List Char → Prop
  | known {d : Document} {t : List Char} (spelled : Spelled d t) : GivenText (some d) t
  | any {t : List Char} (spelled : ValueText .value t) : GivenText none t

/-- A text of a member: any text of its name, a colon, and a text of its value. A name is made of
characters, so no half of a surrogate pair stands in it by itself. -/
inductive MemberText : List Char × Option Document → List Char → Prop
  | mk {name k b b' t : List Char} {value : Option Document} (key : StringText (name.map some) k)
      (blank : Blank b) (blank' : Blank b') (given : GivenText value t) :
      MemberText (name, value) ('"' :: (k ++ (b ++ ':' :: (b' ++ t))))

theorem MemberText.quoted (m : List Char × Option Document) (t : List Char)
    (member : MemberText m t) : ∃ k, t = '"' :: k := by
  cases member with
  | mk => exact ⟨_, rfl⟩

/-- The next member is found behind the quote that opens its key. -/
theorem nextMember_given {first : Bool} {m : List Char × Option Document}
    {others : List (List Char × Option Document)} {s : List Char}
    (body : Body '\x7d' MemberText first (m :: others) s) (rest : List Char) :
    ∃ k b b' t more, StringText (m.1.map some) k ∧ Blank b ∧ Blank b' ∧ GivenText m.2 t ∧
      Body '\x7d' MemberText false others more ∧ EndsNumber (more ++ rest) ∧
      Reader.nextMember first (s ++ rest) =
        .ok (.member (k ++ (b ++ ':' :: (b' ++ (t ++ (more ++ rest)))))) := by
  obtain ⟨k, more, member, others, ends, found⟩ :=
    Reader.nextMember_body MemberText.quoted body rest
  cases member with
  | mk key blank blank' given =>
      simp only [List.append_assoc, List.cons_append] at found
      exact ⟨_, _, _, _, more, key, blank, blank', given, others, ends, found⟩

theorem Document.Member.memberText {m : String × Document} {t : List Char}
    (member : Member Spelled m t) (plain : PlainKey m.1.toList) :
    MemberText (m.1.toList, some m.2) t := by
  obtain ⟨b, b', u, blank, blank', spelled, rfl⟩ := member.split
  have text : MemberText (m.1.toList, some m.2)
      ('"' :: (m.1.toList ++ ['"'] ++ (b ++ ':' :: (b' ++ u)))) :=
    .mk plain.spelled blank blank' (.known spelled)
  rwa [List.append_assoc] at text

end Members

namespace Record

variable {σ α : Type} {r : Record σ α}

/-- The members, read one after the other, take a record from one state to another: each names a
field that is not there yet, and its value is put into the state. -/
inductive Fills (r : Record σ α) : σ → List (String × Document) → σ → Prop
  | done (state : σ) : Fills r state [] state
  | member {β : Type} {value : Reader β} {put : β → σ → σ} {present : σ → Bool} {state last : σ}
      {name : String} {d : Document} {v : β} {members : List (String × Document)}
      (plain : PlainKey name.toList)
      (named : r.fields.find? (fun f => f.name.toList == name.toList) =
        some ⟨name, value.map put, present⟩)
      (absent : present state = false) (reads : value.Reads d v)
      (more : Fills r (put v state) members last) : Fills r state ((name, d) :: members) last

/-- The members, among which there may be some of other names, take a record from one state to
another. What is not named like a field leaves the state as it is. -/
inductive Takes (r : Record σ α) : σ → List (List Char × Option Document) → σ → Prop
  | done (state : σ) : Takes r state [] state
  | field {β : Type} {value : Reader β} {put : β → σ → σ} {present : σ → Bool} {state last : σ}
      {field : String} {name : List Char} {d : Document} {v : β}
      {members : List (List Char × Option Document)}
      (named : r.fields.find? (fun f => f.name.toList == name) =
        some ⟨field, value.map put, present⟩)
      (absent : present state = false) (reads : value.Reads d v)
      (more : Takes r (put v state) members last) : Takes r state ((name, some d) :: members) last
  | other {state last : σ} {name : List Char} {members : List (List Char × Option Document)}
      (unknown : r.fields.find? (fun f => f.name.toList == name) = none)
      (more : Takes r state members last) : Takes r state ((name, none) :: members) last

/-- The items take a record from one state to another: each is put into the state as the value of the
next field. -/
inductive Lists : List (Field σ) → σ → List Document → σ → Prop
  | done (state : σ) : Lists [] state [] state
  | item {β : Type} {value : Reader β} {put : β → σ → σ} {present : σ → Bool} {state last : σ}
      {name : String} {fields : List (Field σ)} {d : Document} {v : β} {items : List Document}
      (reads : value.Reads d v) (more : Lists fields (put v state) items last) :
      Lists (⟨name, value.map put, present⟩ :: fields) state (d :: items) last

section Members

variable {first : Bool} {state next last : σ} {s s' after rest : List Char}

theorem Fills.takes {members : List (String × Document)} (fills : r.Fills state members last) :
    r.Takes state (members.map (fun m => (m.1.toList, some m.2))) last := by
  induction fills with
  | done state => exact .done state
  | member plain named absent reads more ih => exact .field named absent reads ih

theorem Fills.plain {members : List (String × Document)} (fills : r.Fills state members last) :
    ∀ m ∈ members, PlainKey m.1.toList := by
  induction fills with
  | done state => exact fun m member => absurd member List.not_mem_nil
  | member plain named absent reads more ih => exact List.forall_mem_cons.mpr ⟨plain, ih⟩

section Member

variable {name k b b' t : List Char}

theorem readMember_field {β : Type} {value : Reader β} {put : β → σ → σ} {present : σ → Bool}
    {field : String} {d : Document} {v : β} (key : StringText (name.map some) k)
    (named : r.fields.find? (fun f => f.name.toList == name) =
      some ⟨field, value.map put, present⟩)
    (absent : present state = false) (reads : value.Reads d v) (blank : Blank b)
    (blank' : Blank b') (spelled : Spelled d t) (ends : EndsNumber rest) :
    r.readMember state (k ++ (b ++ ':' :: (b' ++ (t ++ rest)))) = .ok (put v state, rest) := by
  have read := reads.map put spelled blank' ends
  unfold readMember
  simp only [key.readString, named, absent, Bool.false_eq_true, ↓reduceIte,
    Reader.takeColon_eq blank, read]
  rfl

theorem readMember_other (key : StringText (name.map some) k)
    (unknown : r.fields.find? (fun f => f.name.toList == name) = none) (blank : Blank b)
    (blank' : Blank b') (spelled : ValueText .value t) (ends : EndsNumber rest) :
    r.readMember state (k ++ (b ++ ':' :: (b' ++ (t ++ rest)))) = .ok (state, rest) := by
  have skipped := skipValue_append spelled blank' ends
  unfold readMember
  simp only [key.readString, unknown, Reader.takeColon_eq blank, skipped]
  rfl

end Member

theorem readMembers_done (found : Reader.nextMember first s = .ok (.done rest)) :
    r.readMembers first state s = .ok (state, rest) := by
  rw [readMembers]
  split <;> simp_all

theorem readMembers_member (found : Reader.nextMember first s = .ok (.member s'))
    (taken : r.readMember state s' = .ok (next, after)) :
    r.readMembers first state s = r.readMembers false next after := by
  rw [readMembers]
  split <;> simp_all
  split <;> simp_all

/-- The induction is on the members that are still to come. -/
theorem readMembers_takes {members : List (List Char × Option Document)}
    (takes : r.Takes state members last) (body : Body '\x7d' MemberText first members s) :
    r.readMembers first state (s ++ rest) = .ok (last, rest) := by
  induction takes generalizing first s with
  | done state => exact readMembers_done (Reader.nextMember_end body)
  | field named absent reads more ih =>
      obtain ⟨k, b, b', t, behind, key, blank, blank', given, others, ends, found⟩ :=
        nextMember_given body rest
      cases given with
      | known spelled =>
          rw [readMembers_member found
            (readMember_field key named absent reads blank blank' spelled ends)]
          exact ih others
  | other unknown more ih =>
      obtain ⟨k, b, b', t, behind, key, blank, blank', given, others, ends, found⟩ :=
        nextMember_given body rest
      cases given with
      | any spelled =>
          rw [readMembers_member found
            (readMember_other key unknown blank blank' spelled ends)]
          exact ih others

end Members

section Items

variable {fields : List (Field σ)} {state last : σ} {s rest : List Char}

theorem closeList_end {first : Bool} {text : Document → List Char → Prop}
    (body : Body ']' text first [] s) : closeList (s ++ rest) = .ok rest := by
  cases body with
  | done blank =>
      rw [List.append_assoc, List.singleton_append]
      unfold closeList
      rw [dropBlank_append_cons blank (by decide)]
      rfl

/-- The induction is on the fields that are still to come. -/
theorem readItems_lists {items : List Document} (lists : Lists fields state items last)
    (index : Nat) (body : Body ']' Spelled (index == 0) items s) :
    r.readItems fields index state (s ++ rest) = .ok (last, rest) := by
  induction lists generalizing index s with
  | done state =>
      rw [readItems, closeList_end body]
      rfl
  | item reads more ih =>
      obtain ⟨t, behind, spelled, others, ends, found⟩ :=
        Reader.nextItem_body (fun _ _ spelled => spelled.opensValue) body rest
      simp only [readItems, found, (reads.map _).front spelled ends]
      exact ih (index + 1) others

end Items

variable {last : σ}

/-- An object with members of other names is read all the same. -/
theorem reader_of_takes {members : List (List Char × Option Document)} {a : α} {b s rest : List Char}
    (takes : r.Takes r.blank members last) (built : r.build last = some a)
    (body : Body '\x7d' MemberText true members s) (blank : Blank b) :
    r.reader.read (b ++ '\x7b' :: (s ++ rest)) = .ok (a, rest) := by
  have opening : isBlank '\x7b' = false := by decide
  simp only [reader, dropBlank_append_cons blank opening, readMembers_takes takes body, finish, built]
  rfl

theorem reader_reads {members : List (String × Document)} {a : α}
    (fills : r.Fills r.blank members last) (built : r.build last = some a) :
    r.reader.Reads (.object members) a := by
  intro t b rest spelled blank _
  cases spelled with
  | object body =>
      exact reader_of_takes fills.takes built
        (body.map (fun m member t spelled => spelled.memberText (fills.plain m member))) blank

/-- A list is read as the values of the fields in order. -/
theorem reader_reads_list {items : List Document} {a : α}
    (lists : Lists r.fields r.blank items last) (built : r.build last = some a) :
    r.reader.Reads (.list items) a := by
  intro t b rest spelled blank _
  cases spelled with
  | list body =>
      have opening : isBlank '[' = false := by decide
      simp only [reader, List.cons_append, dropBlank_append_cons blank opening,
        readItems_lists lists 0 body, finish, built]
      rfl

end Record

end TableDraw.Json
