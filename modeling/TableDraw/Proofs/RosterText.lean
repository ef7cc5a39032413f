import TableDraw.Proofs.Command
import TableDraw.Proofs.Entry

set_option autoImplicit false

/-!
The texts of a roster. It is spelled by an object with its three fields in any order among members of
other names, or by the list of the three. Teams may be listed in any order and more than once, for the
last list of a team is the one that counts. All texts of a roster are read as that roster. Numbers are
plain decimals in them; other spellings of a number are not seen through.
-/

namespace TableDraw

open Json Json.Document

namespace Roster

section Spelling

/-- A member of an object that spells a roster. -/
inductive Item where
  | teams (listed : List (TeamId × List PlayerId))
  | teamSize (n : UInt64)
  | tableSize (n : UInt64)
  | other (name : List Char)

namespace Item

/-- The teams that a member lists. -/
def teams? : Item → Option (List (TeamId × List PlayerId))
  | teams listed => some listed
  | _ => none

/-- The size of teams that a member gives. -/
def teamSize? : Item → Option UInt64
  | teamSize n => some n
  | _ => none

/-- The size of tables that a member gives. -/
def tableSize? : Item → Option UInt64
  | tableSize n => some n
  | _ => none

/-- The name of a member, and the document of its value where it is a field. -/
def named : Item → List Char × Option Document
  | teams listed => ("teams".toList, some (listing listed))
  | teamSize n => ("team_size".toList, some (.integer n.toNat))
  | tableSize n => ("table_size".toList, some (.integer n.toNat))
  | other name => (name, none)

/-- A member that is not a field is not named like one. -/
def Apart : Item → Prop
  | other name => name ∉ ["teams".toList, "team_size".toList, "table_size".toList]
  | _ => True

instance (i : Item) : Decidable i.Apart :=
  match i with
  | other name =>
      inferInstanceAs (Decidable (name ∉ ["teams".toList, "team_size".toList, "table_size".toList]))
  | teams _ => .isTrue trivial
  | teamSize _ => .isTrue trivial
  | tableSize _ => .isTrue trivial

end Item

/-- Texts of a roster, without blanks around them. An object has each of the fields once. -/
inductive SpelledBy (r : Roster) : List Char → Prop
  | object {items : List Item} {listed : List (TeamId × List PlayerId)} {s : List Char}
      (teams : items.filterMap Item.teams? = [listed])
      (teamSize : items.filterMap Item.teamSize? = [r.teamSize])
      (tableSize : items.filterMap Item.tableSize? = [r.tableSize])
      (apart : ∀ i ∈ items, i.Apart)
      (last : ∀ team, lastEntered listed team = r.teams.get? team)
      (body : Body '\x7d' MemberText true (items.map Item.named) s) : SpelledBy r ('\x7b' :: s)
  | list {listed : List (TeamId × List PlayerId)} {s : List Char}
      (last : ∀ team, lastEntered listed team = r.teams.get? team)
      (spelled : Spelled (.list [listing listed, .integer r.teamSize.toNat,
        .integer r.tableSize.toNat]) s) : SpelledBy r s

end Spelling

section Reading

variable {r : Roster} {listed : List (TeamId × List PlayerId)}

/-- A map is told by the last list of each team. -/
theorem ofList_eq (last : ∀ team, lastEntered listed team = r.teams.get? team) :
    SortedMap.ofList listed = r.teams := by
  apply SortedMap.ext_get?
  intro team
  rw [SortedMap.get?_ofList]
  exact last team

theorem teams_reads (listed : List (TeamId × List PlayerId)) :
    (Reader.sortedMap .signed (.list .signed)).Reads (listing listed) (.ofList listed) := by
  rw [Reader.sortedMap_eq_map_listed]
  exact (listing_reads listed).map SortedMap.ofList

/-- What a state has of a field, and what the members to come give to it, is the field of the roster
and nothing else. -/
structure Due (r : Roster) (state : Fields) (items : List Item) : Prop where
  teams : state.teams.toList ++ (items.filterMap Item.teams?).map SortedMap.ofList = [r.teams]
  teamSize : state.teamSize.toList ++ items.filterMap Item.teamSize? = [r.teamSize]
  tableSize : state.tableSize.toList ++ items.filterMap Item.tableSize? = [r.tableSize]

theorem eq_none_of_due {α : Type} {o : Option α} {a b : α} {later : List α}
    (due : o.toList ++ a :: later = [b]) : o = none ∧ a = b ∧ later = [] := by
  cases o with
  | none =>
      cases due
      exact ⟨rfl, rfl, rfl⟩
  | some c => simp at due

theorem eq_some_of_due {α : Type} {o : Option α} {b : α} (due : o.toList ++ [] = [b]) :
    o = some b := by
  cases o with
  | none => cases due
  | some c =>
      cases due
      rfl

theorem find?_of_apart {name : List Char} (apart : (Item.other name).Apart) :
    record.fields.find? (fun f => f.name.toList == name) = none := by
  have names : ∀ f ∈ record.fields,
      f.name.toList ∈ ["teams".toList, "team_size".toList, "table_size".toList] := by decide
  rw [List.find?_eq_none]
  intro f member same
  apply apart
  rw [← beq_iff_eq.mp same]
  exact names f member

/-- The members that are due take a state to the one with all fields of the roster. The induction is on
the members: a field that comes is due, so it has not come before and will not come again. -/
theorem Due.takes {state : Fields} {items : List Item} (due : Due r state items)
    (apart : ∀ i ∈ items, i.Apart) :
    record.Takes state (items.map Item.named) ⟨some r.teams, some r.teamSize, some r.tableSize⟩ := by
  induction items generalizing state with
  | nil =>
      obtain ⟨teams, teamSize, tableSize⟩ := state
      obtain rfl : teams = some r.teams := eq_some_of_due due.teams
      obtain rfl : teamSize = some r.teamSize := eq_some_of_due due.teamSize
      obtain rfl : tableSize = some r.tableSize := eq_some_of_due due.tableSize
      exact .done _
  | cons i items ih =>
      obtain ⟨own, others⟩ := List.forall_mem_cons.mp apart
      cases i with
      | teams listed =>
          obtain ⟨absent, same, later⟩ := eq_none_of_due due.teams
          refine .field rfl (congrArg Option.isSome absent) (teams_reads listed) (ih ?_ others)
          exact ⟨by rw [later, same]; rfl, due.teamSize, due.tableSize⟩
      | teamSize n =>
          obtain ⟨absent, rfl, later⟩ := eq_none_of_due due.teamSize
          refine .field rfl (congrArg Option.isSome absent) (Reader.unsigned_reads_toNat _)
            (ih ?_ others)
          exact ⟨due.teams, by rw [later]; rfl, due.tableSize⟩
      | tableSize n =>
          obtain ⟨absent, rfl, later⟩ := eq_none_of_due due.tableSize
          refine .field rfl (congrArg Option.isSome absent) (Reader.unsigned_reads_toNat _)
            (ih ?_ others)
          exact ⟨due.teams, due.teamSize, by rw [later]; rfl⟩
      | other name =>
          exact .other (find?_of_apart own) (ih ⟨due.teams, due.teamSize, due.tableSize⟩ others)

theorem reads_list (last : ∀ team, lastEntered listed team = r.teams.get? team) :
    record.reader.Reads (.list [listing listed, .integer r.teamSize.toNat,
      .integer r.tableSize.toNat]) r := by
  have lists : Record.Lists record.fields record.blank [listing listed,
      .integer r.teamSize.toNat, .integer r.tableSize.toNat]
      ⟨some (.ofList listed), some r.teamSize, some r.tableSize⟩ := by
    refine .item (teams_reads listed) ?_
    refine .item (Reader.unsigned_reads_toNat r.teamSize) ?_
    refine .item (Reader.unsigned_reads_toNat r.tableSize) ?_
    exact .done _
  apply Record.reader_reads_list lists
  rw [ofList_eq last]
  rfl

theorem SpelledBy.read {s b rest : List Char} (spelled : r.SpelledBy s) (blank : Blank b)
    (ends : EndsNumber rest) : record.reader.read (b ++ (s ++ rest)) = .ok (r, rest) := by
  cases spelled with
  | @object items listed s teams teamSize tableSize apart last body =>
      have due : Due r record.blank items := by
        refine ⟨?_, teamSize, tableSize⟩
        rw [teams, ← ofList_eq last]
        rfl
      exact Record.reader_of_takes (due.takes apart) rfl body blank
  | list last spelled => exact reads_list last spelled blank ends

end Reading

end Roster

/-- A roster file is read by its meaning. Whatever text of a roster stands in it, with any blanks
before and behind, the very roster is loaded. -/
theorem Run.loadRoster_by_meaning (r : Roster) (path : Bytes) {b s b' : List Char} (blank : Blank b)
    (spelled : r.SpelledBy s) (blank' : Blank b') :
    Run.loadRoster path (.ok (Utf8.encode (b ++ (s ++ b')))) = .ok r := by
  have parsed : Roster.parse (b ++ (s ++ b')) = .ok r :=
    Reader.parse_of_read (spelled.read blank blank'.endsNumber) blank'
  rw [Run.loadRoster_eq_ok_iff]
  exact ⟨_, rfl, parsed⟩

namespace Roster

/-- Two teams of two. -/
def pairs : Roster := ⟨.ofList [(1, [1, 2]), (2, [3, 4])], 2, 2⟩

/-- The teams of the pairs, the second one in front with a list that does not count. -/
def repeated : List (TeamId × List PlayerId) := [(2, [3]), (1, [1, 2]), (2, [3, 4])]

theorem lastEntered_repeated (team : TeamId) :
    lastEntered repeated team = pairs.teams.get? team := by
  rw [pairs, SortedMap.get?_ofList]
  simp only [repeated, lastEntered, List.reverse_cons, List.reverse_nil, List.nil_append,
    List.cons_append, List.lookup_cons, List.lookup_nil]
  cases team == 2 <;> rfl

theorem digits_singleton {c : Char} (digit : c.isDigit = true) : Numeral.Digits [c] :=
  ⟨List.cons_ne_nil c [], List.forall_mem_singleton.mpr digit⟩

theorem wholeText_singleton {c : Char} (digit : c.isDigit = true) : WholeText [c] :=
  ⟨digits_singleton digit, fun zero => congrArg (fun c => [c]) (Option.some.inj zero)⟩

theorem numberText_singleton {c : Char} (digit : c.isDigit = true) : NumberText [c] :=
  .mk (.inl rfl) (wholeText_singleton digit) .none .none

/-- A note that nobody reads: a key in it is no text, and a number in it is too large. -/
def note : List Char := "[\x7b\"\\ud800\":1e999\x7d]".toList

/-- A text of the pairs behind a note. One letter of a name is written by its code unit. -/
def annotated : List Char :=
  '\x7b' :: ("\"note\": [\x7b\"\\ud800\":1e999\x7d]".toList ++
    (",\"te\\u0061ms\":\x7b\"2\":[3],\"1\":[1,2],\"2\":[3,4]\x7d".toList ++
      ",\n\"table_size\":2,\"team_size\":2\x7d".toList))

theorem valueText_note : ValueText .value note := by
  have half : StringText [none] "\\ud800\"".toList :=
    .piece (.half (.mk (k := 13) (l := 8) (m := 0) (n := 0) (by decide) (by decide) (by decide)
      (by decide)) (by decide)) .done
  have huge : NumberText "1e999".toList :=
    .mk (.inl rfl) (wholeText_singleton (c := '1') (by decide)) .none
      (.some (.inl rfl) (.inl rfl) (t := ['9', '9', '9'])
        ⟨by decide, List.all_eq_true.mp (by decide)⟩)
  have object : ValueText .value "\x7b\"\\ud800\":1e999\x7d".toList :=
    .object (.first blank_nil (.member half blank_nil blank_nil (.number huge)) (.done blank_nil))
  exact .list (.first blank_nil (.item object) (.done blank_nil))

theorem spelledBy_annotated : pairs.SpelledBy annotated := by
  have note : MemberText ("note".toList, none) "\"note\": [\x7b\"\\ud800\":1e999\x7d]".toList :=
    .mk (PlainKey.spelled (by decide)) blank_nil blank_space (.any valueText_note)
  have letter : Piece (some 'a') "\\u0061".toList :=
    .unit (.mk (k := 0) (l := 0) (m := 6) (n := 1) (by decide) (by decide) (by decide) (by decide))
  have name : StringText ("teams".toList.map some) "te\\u0061ms\"".toList :=
    .piece (.plain (c := 't') (by decide)) (.piece (.plain (c := 'e') (by decide))
      (.piece letter (@PlainKey.spelled ['m', 's'] (by decide))))
  have teams : MemberText ("teams".toList, some (listing repeated))
      "\"te\\u0061ms\":\x7b\"2\":[3],\"1\":[1,2],\"2\":[3,4]\x7d".toList :=
    .mk name blank_nil blank_nil (.known (spelled_compact _))
  have tableSize : MemberText ("table_size".toList, some (.integer 2)) "\"table_size\":2".toList :=
    .mk (PlainKey.spelled (by decide)) blank_nil blank_nil (.known (.integer 2))
  have teamSize : MemberText ("team_size".toList, some (.integer 2)) "\"team_size\":2".toList :=
    .mk (PlainKey.spelled (by decide)) blank_nil blank_nil (.known (.integer 2))
  have body : Body '\x7d' MemberText true
      ([.other "note".toList, .teams repeated, .tableSize 2, .teamSize 2].map Item.named)
      annotated.tail :=
    .first blank_nil note (.next blank_nil blank_nil teams
      (.next blank_nil (blank_newline 0) tableSize
        (.next blank_nil blank_nil teamSize (.done blank_nil))))
  exact .object rfl rfl rfl (by decide) lastEntered_repeated body

end Roster

/-- The pairs are loaded from a text with a note in it, and from a list on several lines. -/
theorem Run.loadRoster_annotated :
    Run.loadRoster [] (.ok (Utf8.encode ([' '] ++ (Roster.annotated ++ ['\n'])))) = .ok .pairs ∧
    Run.loadRoster [] (.ok (Utf8.encode ([] ++ ((Document.list
      [Roster.listing Roster.repeated, .integer 2, .integer 2]).indented 0 ++ [])))) = .ok .pairs := by
  constructor
  · exact Run.loadRoster_by_meaning .pairs [] blank_space Roster.spelledBy_annotated
      (blank_newline 0)
  · exact Run.loadRoster_by_meaning .pairs [] blank_nil
      (.list Roster.lastEntered_repeated (spelled_indented 0 _)) blank_nil

namespace Roster

/-- One team of one. -/
def alone : Roster := ⟨.ofList [(1, [5])], 1, 1⟩

/-- An object that names the three fields behind a note, and gives tables one seat. The note is told
by its name and a closing quote. -/
def objectText (name teams teamSize : String) : List Char :=
  ("\x7b\"" ++ name ++ ":0,\"teams\":" ++ teams ++ ",\"team_size\":" ++ teamSize
    ++ ",\"table_size\":1\x7d").toList

/-- A JSON text from which no roster is loaded. -/
def Refused (s : List Char) : Prop :=
  ValueText .value s ∧
    ∃ cause, Run.loadRoster [] (.ok (Utf8.encode s)) = .error (.malformed [] cause)

theorem valueText_five : ValueText .value "[5]".toList := by
  have five : ValueText .value ['5'] := .number (numberText_singleton (by decide))
  exact .list (.first blank_nil (.item five) (.done blank_nil))

theorem valueText_team {meant : List (Option Char)} {key : List Char}
    (keyed : StringText meant key) :
    ValueText .value ('\x7b' :: '"' :: key ++ [':', '[', '5', ']', '\x7d']) := by
  have team := ValueText.object (.first blank_nil
    (.member keyed blank_nil blank_nil valueText_five) (.done blank_nil))
  simpa [Skip.Frame.closer] using team

theorem valueText_objectText {meant : List (Option Char)} {name teams teamSize : String}
    (named : StringText meant name.toList) (listed : ValueText .value teams.toList)
    (sized : NumberText teamSize.toList) :
    ValueText .value (objectText name teams teamSize) := by
  have member {k t : List Char} (plain : PlainKey k) (value : ValueText .value t) :
      ValueText (.entry .object) ('"' :: (k ++ ['"']) ++ [] ++ ':' :: [] ++ t) :=
    .member plain.spelled blank_nil blank_nil value
  have note : ValueText (.entry .object) ('"' :: name.toList ++ [] ++ ':' :: [] ++ ['0']) :=
    .member named blank_nil blank_nil (.number (numberText_singleton (by decide)))
  have teams := member (k := "teams".toList) (by decide) listed
  have teamSize := member (k := "team_size".toList) (by decide) (.number sized)
  have tableSize := member (k := "table_size".toList) (by decide)
    (.number (numberText_singleton (c := '1') (by decide)))
  have text := ValueText.object (.first blank_nil note
    (.next blank_nil blank_nil teams (.next blank_nil blank_nil teamSize
      (.next blank_nil blank_nil tableSize (.done blank_nil)))))
  simpa [objectText, Skip.Frame.closer] using text

/-- There are spellings that the loading of a roster does not see through. The text of a lone player
is loaded. It is not if the number of the team is written with an escape, if a size is written with a
fraction, with an exponent or as minus zero, if half a surrogate pair stands in the name of a note,
or if something else than a list stands for the team before the list that counts. -/
theorem spellings_refused :
    Run.loadRoster [] (.ok (Utf8.encode (objectText "note\"" "\x7b\"1\":[5]\x7d" "1"))) =
      .ok alone ∧
    (StringText [some '1'] "\\u0031\"".toList ∧
      Refused (objectText "note\"" "\x7b\"\\u0031\":[5]\x7d" "1")) ∧
    (∀ teamSize ∈ ["1.0", "1e0", "-0"],
      Refused (objectText "note\"" "\x7b\"1\":[5]\x7d" teamSize)) ∧
    Refused (objectText "\\ud800\"" "\x7b\"1\":[5]\x7d" "1") ∧
    Refused (objectText "note\"" "\x7b\"1\":null,\"1\":[5]\x7d" "1") := by
  have noted : StringText ("note".toList.map some) "note\"".toList :=
    @PlainKey.spelled ['n', 'o', 't', 'e'] (by decide)
  have key : StringText [some '1'] "1\"".toList := @PlainKey.spelled ['1'] (by decide)
  have digit : Piece (some '1') "\\u0031".toList :=
    .unit (.mk (k := 0) (l := 0) (m := 3) (n := 1) (by decide) (by decide) (by decide) (by decide))
  have escaped : StringText [some '1'] "\\u0031\"".toList := .piece digit .done
  have half : StringText [none] "\\ud800\"".toList :=
    .piece (.half (.mk (k := 13) (l := 8) (m := 0) (n := 0) (by decide) (by decide) (by decide)
      (by decide)) (by decide)) .done
  have one : NumberText "1".toList := numberText_singleton (c := '1') (by decide)
  have team : ValueText .value "\x7b\"1\":[5]\x7d".toList := valueText_team key
  refine ⟨by decide +kernel, ⟨escaped, ?_⟩, ?_, ?_, ?_⟩
  · exact ⟨valueText_objectText noted (valueText_team escaped) one, .keyNotNumber,
      by decide +kernel⟩
  · simp only [List.forall_mem_cons, List.not_mem_nil, false_imp_iff, implies_true, and_true]
    have fraction : NumberText "1.0".toList :=
      .mk (.inl rfl) (wholeText_singleton (c := '1') (by decide))
        (.some (digits_singleton (c := '0') (by decide))) .none
    have exponent : NumberText "1e0".toList :=
      .mk (.inl rfl) (wholeText_singleton (c := '1') (by decide)) .none
        (.some (.inl rfl) (.inl rfl) (digits_singleton (c := '0') (by decide)))
    have minus : NumberText "-0".toList :=
      .mk (.inr rfl) (wholeText_singleton (c := '0') (by decide)) .none .none
    exact ⟨⟨valueText_objectText noted team fraction, .wrongType (.floating "1.0") .unsigned,
        by decide +kernel⟩,
      ⟨valueText_objectText noted team exponent, .wrongType (.floating "1.0") .unsigned,
        by decide +kernel⟩,
      ⟨valueText_objectText noted team minus, .wrongType (.floating "-0.0") .unsigned,
        by decide +kernel⟩⟩
  · exact ⟨valueText_objectText half team one, .unfinishedSurrogatePair, by decide +kernel⟩
  · have nothing : ValueText (.entry .object) "\"1\":null".toList :=
      .member key blank_nil blank_nil .null
    have list : ValueText (.entry .object) "\"1\":[5]".toList :=
      .member key blank_nil blank_nil valueText_five
    have twice : ValueText .value "\x7b\"1\":null,\"1\":[5]\x7d".toList :=
      .object (.first blank_nil nothing (.next blank_nil blank_nil list (.done blank_nil)))
    exact ⟨valueText_objectText noted twice one, .wrongType .null .sequence,
      by decide +kernel⟩

end Roster

end TableDraw
