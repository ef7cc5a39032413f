import TableDraw.Proofs.Numeral
import TableDraw.Proofs.Utf8
import TableDraw.Settings

set_option autoImplicit false

/-!
Where settings come from. Each is resolved on its own, from the command line, else from its variable,
else by default, and only what results is judged.
-/

namespace TableDraw

namespace Environment

/-- The environment holds a text for a variable, of the sort that is wanted. Bytes that spell no text
are none. -/
def Spells (env : Environment) (name : String) (sort : List Char → Prop) : Prop :=
  ∃ text, env.get? name = some (Utf8.encode text) ∧ sort text

theorem text?_eq_some_iff (env : Environment) (name : String) (text : List Char) :
    env.text? name = some text ↔ env.get? name = some (Utf8.encode text) := by
  rw [text?, Option.bind_eq_some_iff]
  constructor
  · rintro ⟨bytes, found, decoded⟩
    rw [found, (Utf8.decode?_eq_some_iff bytes text).mp decoded]
  · intro found
    exact ⟨_, found, Utf8.decode?_encode text⟩

end Environment

namespace Settings

section Sources

variable {α : Type}

/-- The value of a setting: the one that is given, else one that is found, else a default. -/
inductive Chosen (given : Option α) (found : α → Prop) (default : α) : α → Prop
  | given {v : α} (own : given = some v) : Chosen given found default v
  | found {v : α} (absent : given = none) (spelled : found v) : Chosen given found default v
  | default (absent : given = none) (unset : ∀ v, ¬ found v) : Chosen given found default default

theorem chosen_iff (given found : Option α) (default v : α) :
    Chosen given (fun v => found = some v) default v ↔ v = given.getD (found.getD default) := by
  constructor
  · intro chosen
    cases chosen with
    | given own => rw [own, Option.getD_some]
    | found absent spelled => rw [absent, spelled, Option.getD_none, Option.getD_some]
    | default absent unset =>
        rw [absent, Option.eq_none_iff_forall_ne_some.mpr unset, Option.getD_none, Option.getD_none]
  · rintro rfl
    cases given with
    | some v => exact .given rfl
    | none =>
        cases found with
        | some v => exact .found rfl rfl
        | none => exact .default rfl nofun

theorem Chosen.eq_of_given {given : Option α} {found : α → Prop} {default v w : α}
    (chosen : Chosen given found default v) (own : given = some w) : v = w := by
  cases chosen with
  | given other => exact Option.some.inj (other.symm.trans own)
  | found absent => cases absent.symm.trans own
  | default absent => cases absent.symm.trans own

theorem number?_eq_some_iff {read : List Char → Except Numeral.Defect α}
    {sort : α → List Char → Prop} (reads : ∀ text v, read text = .ok v ↔ sort v text)
    (env : Environment) (name : String) (v : α) :
    number? env name read = some v ↔ env.Spells name (sort v) := by
  rw [number?, Option.bind_eq_some_iff]
  refine exists_congr (fun text => ?_)
  rw [env.text?_eq_some_iff, ← reads]
  cases read text <;> simp [Except.toOption]

/-- A number that may stand in a variable. -/
theorem chosen_number_iff {read : List Char → Except Numeral.Defect α}
    {sort : α → List Char → Prop} (reads : ∀ text v, read text = .ok v ↔ sort v text)
    (env : Environment) (name : String) (given : Option α) (default v : α) :
    Chosen given (fun v => env.Spells name (sort v)) default v ↔
      v = given.getD ((number? env name read).getD default) := by
  simp only [← number?_eq_some_iff reads env name]
  exact chosen_iff given _ default v

/-- A bound that a number may set, on the command line or in a variable. -/
theorem chosen_bound_iff {β : Type} {read : List Char → Except Numeral.Defect α}
    {sort : α → List Char → Prop} (reads : ∀ text v, read text = .ok v ↔ sort v text)
    (env : Environment) (name : String) (bound : α → β) (given : Option α) (limit : Option β) :
    Chosen (given.map (some ∘ bound))
        (fun limit => ∃ v, env.Spells name (sort v) ∧ some (bound v) = limit) none limit ↔
      limit = (given.map bound).or ((number? env name read).map bound) := by
  have found (limit : Option β) : (∃ v, env.Spells name (sort v) ∧ some (bound v) = limit) ↔
      (number? env name read).map (some ∘ bound) = some limit := by
    simp only [← number?_eq_some_iff reads env name, Option.map_eq_some_iff, Function.comp_apply]
  simp only [found]
  rw [chosen_iff]
  cases given with
  | some v => rfl
  | none => cases number? env name read <;> rfl

end Sources

section Resolving

/-- What the settings of an environment and a command line come to, whether or not they are fit to run
a draw with. A path may be any bytes, and none at all; numbers are texts of decimal digits. -/
structure Resolved (env : Environment) (given : Overrides) (s : Settings) : Prop where
  roster : given.roster = some s.roster ∨
    given.roster = none ∧ env.get? "SEATING_ROSTER" = some s.roster
  seed : Chosen given.seed
    (fun n => env.Spells "SEATING_SEED" (Numeral.Integer · n.toInt)) 1 s.seed
  maxAttempts : Chosen given.maxAttempts
    (fun n => env.Spells "SEATING_MAX_ATTEMPTS" (Numeral.Natural · n.toNat)) 1000
    s.limits.maxAttempts
  deadline : Chosen (given.deadlineMillis.map (some ∘ fun n => .ofMillis n.toNat))
    (fun limit => ∃ n : UInt64, env.Spells "SEATING_DEADLINE_MS" (Numeral.Natural · n.toNat) ∧
      some (.ofMillis n.toNat) = limit) none s.limits.deadline
  records : s.records = given.records

/-- Environments that differ at most in variables which the command line overrides. -/
structure SameBesides (given : Overrides) (env env' : Environment) : Prop where
  roster : given.roster = none → env.get? "SEATING_ROSTER" = env'.get? "SEATING_ROSTER"
  seed : given.seed = none → env.get? "SEATING_SEED" = env'.get? "SEATING_SEED"
  maxAttempts : given.maxAttempts = none →
    env.get? "SEATING_MAX_ATTEMPTS" = env'.get? "SEATING_MAX_ATTEMPTS"
  deadline : given.deadlineMillis = none →
    env.get? "SEATING_DEADLINE_MS" = env'.get? "SEATING_DEADLINE_MS"

variable {env env' : Environment} {given : Overrides}

/-- The settings with a roster's path, before they are judged. -/
def gathered (env : Environment) (given : Overrides) (roster : Bytes) : Settings where
  roster := roster
  seed := given.seed.getD ((number? env "SEATING_SEED" Numeral.readInt64).getD 1)
  limits := overrideLimits (limitsOf env) given
  records := given.records

theorem resolved_iff (s : Settings) : Resolved env given s ↔
    given.roster.or (env.get? "SEATING_ROSTER") = some s.roster ∧
      s = gathered env given s.roster := by
  have seed (n : Int64) := chosen_number_iff Numeral.readInt64_eq_ok_iff env "SEATING_SEED"
    given.seed 1 n
  have maxAttempts (n : UInt32) := chosen_number_iff Numeral.readUInt32_eq_ok_iff env
    "SEATING_MAX_ATTEMPTS" given.maxAttempts 1000 n
  have deadline (limit : Option Duration) := chosen_bound_iff Numeral.readUInt64_eq_ok_iff env
    "SEATING_DEADLINE_MS" (fun n => Duration.ofMillis n.toNat) given.deadlineMillis limit
  rw [Option.or_eq_some_iff]
  constructor
  · intro resolved
    refine ⟨resolved.roster, ?_⟩
    obtain ⟨roster, seedValue, ⟨attempts, limit⟩, records⟩ := s
    obtain rfl := (seed _).mp resolved.seed
    obtain rfl := (maxAttempts _).mp resolved.maxAttempts
    obtain rfl := (deadline _).mp resolved.deadline
    obtain rfl := resolved.records
    rfl
  · rintro ⟨roster, equal⟩
    rw [equal]
    exact ⟨roster, (seed _).mpr rfl, (maxAttempts _).mpr rfl, (deadline _).mpr rfl, rfl⟩

theorem resolve_of_missing (missing : given.roster.or (env.get? "SEATING_ROSTER") = none) :
    resolve env given = .error .missingRoster := by
  rw [resolve, missing]

/-- With a path to the roster only the number of attempts is judged, as it was resolved. -/
theorem resolve_of_found {roster : Bytes}
    (found : given.roster.or (env.get? "SEATING_ROSTER") = some roster) :
    resolve env given =
      if (gathered env given roster).limits.maxAttempts = 0 then .error .noAttempts
      else .ok (gathered env given roster) := by
  by_cases zero : (gathered env given roster).limits.maxAttempts = 0
  · have judged : checkLimits (overrideLimits (limitsOf env) given) = .error .noAttempts :=
      if_pos zero
    rw [if_pos zero]
    simp only [resolve, found, judged]
  · have judged : checkLimits (overrideLimits (limitsOf env) given) = .ok () := if_neg zero
    rw [if_neg zero]
    simp only [resolve, found, judged, gathered]

theorem resolve_eq_missingRoster_iff : resolve env given = .error .missingRoster ↔
    given.roster = none ∧ env.get? "SEATING_ROSTER" = none := by
  rw [← Option.or_eq_none_iff]
  constructor
  · intro failed
    cases source : given.roster.or (env.get? "SEATING_ROSTER") with
    | none => rfl
    | some roster =>
        rw [resolve_of_found source] at failed
        split at failed <;> cases failed
  · exact resolve_of_missing

theorem resolve_eq_ok_iff (s : Settings) :
    resolve env given = .ok s ↔ Resolved env given s ∧ s.limits.maxAttempts ≠ 0 := by
  rw [resolved_iff]
  cases source : given.roster.or (env.get? "SEATING_ROSTER") with
  | none =>
      rw [resolve_of_missing source]
      exact ⟨nofun, nofun⟩
  | some roster =>
      rw [resolve_of_found source]
      constructor
      · intro resolved
        split at resolved
        · cases resolved
        · rename_i permitted
          cases resolved
          exact ⟨⟨rfl, rfl⟩, permitted⟩
      · rintro ⟨⟨same, equal⟩, permitted⟩
        cases same
        rw [← equal, if_neg permitted]

theorem resolve_eq_noAttempts_iff : resolve env given = .error .noAttempts ↔
    ∃ s, Resolved env given s ∧ s.limits.maxAttempts = 0 := by
  simp only [resolved_iff]
  cases source : given.roster.or (env.get? "SEATING_ROSTER") with
  | none =>
      rw [resolve_of_missing source]
      exact ⟨nofun, nofun⟩
  | some roster =>
      rw [resolve_of_found source]
      constructor
      · intro failed
        split at failed
        · rename_i zero
          exact ⟨gathered env given roster, ⟨rfl, rfl⟩, zero⟩
        · cases failed
      · rintro ⟨s, ⟨same, equal⟩, zero⟩
        cases same
        rw [← equal, if_pos zero]

theorem number?_congr {α : Type} {read : List Char → Except Numeral.Defect α} {name : String}
    (same : env.get? name = env'.get? name) : number? env name read = number? env' name read := by
  simp only [number?, Environment.text?, same]

/-- What is overridden is not even looked at. -/
theorem gathered_congr (same : SameBesides given env env') (roster : Bytes) :
    gathered env given roster = gathered env' given roster := by
  have seed : given.seed.getD ((number? env "SEATING_SEED" Numeral.readInt64).getD 1) =
      given.seed.getD ((number? env' "SEATING_SEED" Numeral.readInt64).getD 1) := by
    cases own : given.seed with
    | some n => rfl
    | none => rw [number?_congr (same.seed own)]
  have maxAttempts : given.maxAttempts.getD (limitsOf env).maxAttempts =
      given.maxAttempts.getD (limitsOf env').maxAttempts := by
    cases own : given.maxAttempts with
    | some n => rfl
    | none =>
        simp only [limitsOf, number?_congr (same.maxAttempts own)]
  have deadline (bound : Option Duration) (absent : given.deadlineMillis = none) :
      bound.or (limitsOf env).deadline = bound.or (limitsOf env').deadline := by
    simp only [limitsOf, number?_congr (same.deadline absent)]
  simp only [gathered, overrideLimits, seed, maxAttempts]
  cases own : given.deadlineMillis with
  | some n => rfl
  | none => rw [deadline _ own]

theorem resolve_congr (same : SameBesides given env env') :
    resolve env given = resolve env' given := by
  have source : given.roster.or (env.get? "SEATING_ROSTER") =
      given.roster.or (env'.get? "SEATING_ROSTER") := by
    cases own : given.roster with
    | some path => rfl
    | none => rw [same.roster own]
  cases found : given.roster.or (env.get? "SEATING_ROSTER") with
  | none => rw [resolve_of_missing found, resolve_of_missing (source ▸ found)]
  | some roster =>
      rw [resolve_of_found found, resolve_of_found (source ▸ found), gathered_congr same]

end Resolving

end Settings

/-- Settings are resolved one by one, and only what results is judged. Without a roster in either
place that is what is reported, whatever else is wrong. With one, the settings are refused just if the
number of attempts that results is zero, wherever it comes from; else they are what every single
setting comes to. So an environment with a zero does no harm to a command line that permits an
attempt, a zero on the command line is refused in every environment, and a variable that is overridden
may hold anything. -/
theorem settings_resolved_one_by_one (env : Environment) (given : Overrides) :
    (Settings.resolve env given = .error .missingRoster ↔
      given.roster = none ∧ env.get? "SEATING_ROSTER" = none) ∧
    (Settings.resolve env given = .error .noAttempts ↔
      ∃ s, Settings.Resolved env given s ∧ s.limits.maxAttempts = 0) ∧
    (∀ s, Settings.resolve env given = .ok s ↔
      Settings.Resolved env given s ∧ s.limits.maxAttempts ≠ 0) ∧
    (∀ n, given.maxAttempts = some n →
      (n = 0 → ∀ s, Settings.resolve env given ≠ .ok s) ∧
      (n ≠ 0 → Settings.resolve env given ≠ .error .noAttempts)) ∧
    (∀ env', Settings.SameBesides given env env' →
      Settings.resolve env given = Settings.resolve env' given) := by
  refine ⟨Settings.resolve_eq_missingRoster_iff, Settings.resolve_eq_noAttempts_iff,
    Settings.resolve_eq_ok_iff, ?_, fun env' same => Settings.resolve_congr same⟩
  intro n own
  constructor
  · rintro rfl s succeeded
    obtain ⟨resolved, permitted⟩ := (Settings.resolve_eq_ok_iff s).mp succeeded
    exact permitted (resolved.maxAttempts.eq_of_given own)
  · intro permitted failed
    obtain ⟨s, resolved, zero⟩ := Settings.resolve_eq_noAttempts_iff.mp failed
    exact permitted ((resolved.maxAttempts.eq_of_given own).symm.trans zero)

/-- An environment in which hardly anything is right: the path is empty, the seed one too great, the
number of attempts zero and the time limit no text at all. -/
def Environment.careless : Environment where
  assignments := [("SEATING_ROSTER", []),
    ("SEATING_SEED", Utf8.encode "9223372036854775808".toList),
    ("SEATING_MAX_ATTEMPTS", Utf8.encode "+00".toList), ("SEATING_DEADLINE_MS", [0xff, 0x30])]

/-- A number of attempts on the command line saves the draw, and a zero there dooms it although the
variable is mended. -/
theorem settings_resolved_carelessly :
    Settings.resolve .careless { maxAttempts := some 7 } = .ok ⟨[], 1, ⟨7, none⟩, false⟩ ∧
    Settings.Resolved .careless { maxAttempts := some 7 } ⟨[], 1, ⟨7, none⟩, false⟩ ∧
    Settings.resolve .careless {} = .error .noAttempts ∧
    Settings.resolve (Environment.careless.set "SEATING_MAX_ATTEMPTS" (Utf8.encode "5".toList))
      { maxAttempts := some 0 } = .error .noAttempts := by
  have resolved : Settings.resolve .careless { maxAttempts := some 7 } =
      .ok ⟨[], 1, ⟨7, none⟩, false⟩ := by decide +kernel
  have doomed : Settings.resolve .careless { maxAttempts := some 0 } = .error .noAttempts := by
    decide +kernel
  have mended : Settings.SameBesides { maxAttempts := some 0 } .careless
      (Environment.careless.set "SEATING_MAX_ATTEMPTS" (Utf8.encode "5".toList)) :=
    ⟨fun _ => rfl, fun _ => rfl, nofun, fun _ => rfl⟩
  obtain ⟨_, _, succeeds, _⟩ := settings_resolved_one_by_one .careless { maxAttempts := some 7 }
  obtain ⟨_, _, _, _, unaffected⟩ :=
    settings_resolved_one_by_one .careless { maxAttempts := some 0 }
  exact ⟨resolved, ((succeeds _).mp resolved).1, by decide +kernel,
    (unaffected _ mended).symm.trans doomed⟩

end TableDraw
