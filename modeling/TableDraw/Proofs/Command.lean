import TableDraw.Command
import TableDraw.Proofs.Arguments
import TableDraw.Proofs.EnvFile
import TableDraw.Proofs.Output
import TableDraw.Proofs.Utf8

set_option autoImplicit false

/-!
The command as a whole. It prints its help, or the outcome of a draw, or nothing; what it prints as
an outcome seats the very roster that its file spells, and its exit code tells whether it did.
-/

namespace TableDraw

/-- The seating that a listing tells, be it of tables or of seats. -/
def Run.Listing.seating : Run.Listing → Seating
  | tables seating => seating
  | seats records => Seating.ofRecords records

theorem Run.loadRoster_eq_ok_iff (path : Bytes) (content : Except FileError Bytes)
    (roster : Roster) :
    Run.loadRoster path content = .ok roster ↔
      ∃ text, content = .ok (Utf8.encode text) ∧ Roster.parse text = .ok roster := by
  constructor
  · intro loaded
    unfold Run.loadRoster at loaded
    split at loaded
    · cases loaded
    · split at loaded
      · cases loaded
      · rename_i text decoded
        split at loaded
        · cases loaded
        · rename_i parsed
          cases loaded
          rw [(Utf8.decode?_eq_some_iff _ text).mp decoded]
          exact ⟨text, rfl, parsed⟩
  · rintro ⟨text, rfl, parsed⟩
    simp only [Run.loadRoster, Utf8.decode?_encode, parsed]

namespace Command

/-- An argument that asks for help stands among the arguments, wherever that may be. -/
def HelpAsked (arguments : List Bytes) : Prop :=
  Utf8.encode "-h".toList ∈ arguments ∨ Utf8.encode "--help".toList ∈ arguments

instance (arguments : List Bytes) : Decidable (HelpAsked arguments) :=
  inferInstanceAs (Decidable (_ ∈ arguments ∨ _ ∈ arguments))

theorem asksForHelp_iff (arguments : List Bytes) :
    Arguments.asksForHelp arguments = true ↔ HelpAsked arguments := by
  simp only [Arguments.asksForHelp, List.any_eq_true, Bool.or_eq_true, Arguments.spells_iff, HelpAsked]
  constructor
  · rintro ⟨argument, member, rfl | rfl⟩
    · exact .inl member
    · exact .inr member
  · rintro (member | member)
    · exact ⟨_, member, .inl rfl⟩
    · exact ⟨_, member, .inr rfl⟩

/-- Everything that has to go well in a command that draws: its arguments can be read, with none left
over, there are settings, the roster file is there and spells a roster, and the draw succeeds. The
environment has the variables of the file of them already. -/
structure Course (arguments : List Bytes) (env : Environment) (files : Files Id)
    (clock : Nat → Duration) where
  overrides : Overrides
  settings : Settings
  text : List Char
  roster : Roster
  report : Draw.Report
  parsed : Arguments.parse arguments = .ok overrides
  resolved : Settings.resolve env overrides = .ok settings
  found : Id.run (files.read settings.roster) = .ok (Utf8.encode text)
  spelled : Roster.parse text = .ok roster
  drawn : (draw roster settings.limits settings.seed clock).outcome = .ok report

namespace Course

variable {arguments : List Bytes} {env : Environment} {files : Files Id} {clock : Nat → Duration}

/-- There is only one course that a command can take. -/
instance : Subsingleton (Course arguments env files clock) where
  allEq := by
    rintro ⟨overrides, settings, text, roster, report, parsed, resolved, found, spelled, drawn⟩
      ⟨_, _, _, _, _, parsed', resolved', found', spelled', drawn'⟩
    obtain rfl := Except.ok.inj (parsed.symm.trans parsed')
    obtain rfl := Except.ok.inj (resolved.symm.trans resolved')
    obtain rfl := Utf8.encode_injective (Except.ok.inj (found.symm.trans found'))
    obtain rfl := Except.ok.inj (spelled.symm.trans spelled')
    obtain rfl := Except.ok.inj (drawn.symm.trans drawn')
    rfl

/-- The outcome that is to be printed. -/
def output (course : Course arguments env files clock) : Run.Output :=
  ⟨course.settings.seed, course.report.seedUsed, course.report.attempts,
    Run.listingOf course.settings.records course.report.seating⟩

/-- The outcome as it is printed: its document, with a line for every item and member, and the end
of the last line. -/
def printed (course : Course arguments env files clock) : String :=
  String.ofList (course.output.document.indented 0 ++ ['\n'])

theorem outcome_run (course : Course arguments env files clock) :
    (run course.settings (Id.run (files.read course.settings.roster)) clock).outcome =
      .ok course.output := by
  apply (Run.outcome_eq_ok_iff _ _ _ _).mpr
  have loaded : Run.loadRoster course.settings.roster (Id.run (files.read course.settings.roster)) =
      .ok course.roster :=
    (Run.loadRoster_eq_ok_iff _ _ _).mpr ⟨course.text, course.found, course.spelled⟩
  exact ⟨course.roster, course.report, loaded, course.drawn, rfl⟩

/-- Either form of the outcome seats the roster. -/
theorem output_partition (course : Course arguments env files clock) :
    Partition course.roster course.output.listing.seating := by
  obtain ⟨valid, partition⟩ := Draw.sound_of_success course.drawn
  have told : course.output.listing.seating = course.report.seating := by
    show (Run.listingOf course.settings.records course.report.seating).seating = _
    unfold Run.listingOf
    split
    · show Seating.ofRecords course.report.seating.seatRecords = _
      rw [Seating.ofRecords_seatRecords, Seating.occupied_eq_self (partition.nonempty valid)]
    · rfl
  rw [told]
  exact partition

/-- What is printed is read back as the outcome. -/
theorem parse_printed (course : Course arguments env files clock)
    (small : course.roster.totalPlayers < 2 ^ 64) :
    Run.Output.parse course.printed.toList = .ok course.output := by
  have counted : course.output.attempts < 2 ^ 64 := by
    obtain ⟨_, _, permitted⟩ := Draw.seedUsed_of_success course.drawn
    have size := course.settings.limits.maxAttempts.toNat_lt
    show course.report.attempts < 2 ^ 64
    omega
  have partition := (Draw.sound_of_success course.drawn).2
  have reads := Run.Output.reads_document counted (partition.fits small course.settings.records)
  have lineEnd : Json.Blank ['\n'] := by
    intro c member
    rw [List.mem_singleton.mp member]
    rfl
  rw [printed, String.toList_ofList]
  exact reads.parse (Json.Document.spelled_indented 0 _) Json.blank_nil lineEnd

end Course

/-- How a command ends whose environment is complete. -/
inductive Ends (arguments : List Bytes) (env : Environment) (files : Files Id)
    (clock : Nat → Duration) : Outcome → Prop
  | helped (asked : HelpAsked arguments) : Ends arguments env files clock ⟨0, help, [], ""⟩
  | drew (unasked : ¬ HelpAsked arguments) (course : Course arguments env files clock)
      (log : List Log.Record) : Ends arguments env files clock ⟨0, course.printed, log, ""⟩
  | failed (unasked : ¬ HelpAsked arguments) (barred : IsEmpty (Course arguments env files clock))
      (log : List Log.Record) (message : String) :
      Ends arguments env files clock ⟨1, "", log, message⟩

variable {arguments : List Bytes} {env env' : Environment} {files : Files Id}
  {clock : Nat → Duration}

/-- A draw that was run is the course of the command, or there is none. -/
theorem ends_of_run (unasked : ¬ HelpAsked arguments) {overrides : Overrides} {settings : Settings}
    (parsed : Arguments.parse arguments = .ok overrides)
    (resolved : Settings.resolve env overrides = .ok settings) (filter : Log.Filter) :
    Ends arguments env files clock
      (conclude filter (run settings (Id.run (files.read settings.roster)) clock)) := by
  unfold conclude
  split
  · rename_i o outcome
    obtain ⟨roster, report, loaded, drawn, rfl⟩ := (Run.outcome_eq_ok_iff _ _ _ _).mp outcome
    obtain ⟨text, found, spelled⟩ := (Run.loadRoster_eq_ok_iff _ _ _).mp loaded
    exact .drew unasked
      ⟨overrides, settings, text, roster, report, parsed, resolved, found, spelled, drawn⟩ _
  · rename_i failure outcome
    refine .failed unasked ⟨fun course => ?_⟩ _ _
    obtain rfl : overrides = course.overrides := Except.ok.inj (parsed.symm.trans course.parsed)
    obtain rfl : settings = course.settings := Except.ok.inj (resolved.symm.trans course.resolved)
    rw [course.outcome_run] at outcome
    cases outcome

theorem ends_of_finished (unasked : ¬ HelpAsked arguments)
    (barred : IsEmpty (Course arguments env files clock)) (message : String) :
    Ends arguments env files clock (failWith message) :=
  .failed unasked barred [] (messageOf [message])

theorem command_of_loaded (loaded : Id.run (surroundings env files) = .ok env') :
    Ends arguments env' files clock (command arguments env files clock) := by
  rw [command_eq, loaded]
  dsimp only
  by_cases asked : HelpAsked arguments
  · have help := (asksForHelp_iff arguments).mpr asked
    simp only [plan, help, ↓reduceIte]
    exact .helped asked
  · have quiet : Arguments.asksForHelp arguments = false := by
      rw [← Bool.not_eq_true, asksForHelp_iff]
      exact asked
    simp only [plan, quiet, Bool.false_eq_true, ↓reduceIte]
    cases parsed : Arguments.parse arguments with
    | error defect =>
        apply ends_of_finished asked
        exact ⟨fun course => nomatch parsed.symm.trans course.parsed⟩
    | ok overrides =>
        dsimp only
        cases resolved : Settings.resolve env' overrides with
        | error defect =>
            apply ends_of_finished asked
            refine ⟨fun course => ?_⟩
            obtain rfl : overrides = course.overrides :=
              Except.ok.inj (parsed.symm.trans course.parsed)
            exact nomatch resolved.symm.trans course.resolved
        | ok settings => exact ends_of_run asked parsed resolved _

theorem command_of_refused {refusal : Environment.Refusal}
    (refused : Id.run (surroundings env files) = .error refusal) :
    command arguments env files clock = breakDown refusal := by
  rw [command_eq, refused]

theorem zero_mem_of_refused {refusal : Environment.Refusal}
    (refused : Id.run (surroundings env files) = .error refusal) : '\x00' ∈ refusal.text := by
  unfold surroundings at refused
  rw [Id.run_bind] at refused
  split at refused
  · exact EnvFile.zero_mem_of_apply_error refused
  · cases refused

/-- The environment is completed unless a zero byte stands in the file that is to complete it. -/
theorem exists_surroundings (free : env.ZeroFree)
    (whole : ∀ content, Id.run (files.nearest? (Utf8.encode ".env".toList)) = some content →
      0 ∉ content) : ∃ env', Id.run (surroundings env files) = .ok env' := by
  unfold surroundings
  rw [Id.run_bind]
  split
  · rename_i content found
    exact EnvFile.exists_load free (whole content found)
  · exact ⟨env, rfl⟩

end Command

/-- Arguments for the seats of a roster that the environment names. -/
def sparseArguments : List Bytes :=
  ["--records", "--max-attempts", "2", "--seed", "9223372036854775807"].map
    (fun argument => Utf8.encode argument.toList)

/-- The path of the sparse roster, from the topmost directory. -/
def sparsePath : Bytes := Utf8.encode "/data/r.json".toList

/-- Files of a system in which the working directory is empty. The directory above it has a file of
variables, which names the sparse roster. -/
def sparseFiles : Files Id where
  read path := pure <|
    if path = Utf8.encode "../.env".toList then
      .ok (Utf8.encode "SEATING_ROSTER=/data/r.json\n".toList)
    else if path = sparsePath then .ok sparseFile
    else .error .notFound
  levels := pure 1

/-- The course of a command that seats the sparse roster. -/
def sparseCourse : Command.Course sparseArguments ⟨[("SEATING_ROSTER", sparsePath)]⟩ sparseFiles
    (fun _ => ⟨0⟩) where
  overrides := ⟨none, some Int64.maxValue, some 2, none, true⟩
  settings := ⟨sparsePath, Int64.maxValue, ⟨2, none⟩, true⟩
  text := Roster.sparse.text
  roster := .sparse
  report := ⟨Draw.sparseSeating, Int64.minValue, 2⟩
  parsed := by decide +kernel
  resolved := by decide +kernel
  found := by decide +kernel
  spelled := by decide +kernel
  drawn := Draw.outcome_sparse.2

/-- A directory whose file of variables would set a value with a zero byte in it. -/
def zeroDirectory : Directory :=
  ⟨[([Utf8.encode ".env".toList], .file (Utf8.encode "A=x\x00y\n".toList))]⟩

end TableDraw
