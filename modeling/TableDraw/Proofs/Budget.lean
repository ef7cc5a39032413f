import TableDraw.Proofs.Search

set_option autoImplicit false

/-!
Draws without a deadline. Time plays no part in them, so they come down to `unhurried`, a plain
search over successive seeds; and such a search may be cut short and taken up again at any point.
-/

namespace TableDraw.Draw

/-- A failure with earlier attempts counted in. -/
def Failure.counting (earlier : Nat) : Failure → Failure
  | .invalidInput violation => .invalidInput violation
  | .exhausted attempts => .exhausted (earlier + attempts)
  | .deadlineExceeded attempts elapsed => .deadlineExceeded (earlier + attempts) elapsed

/-- An outcome with earlier attempts counted in. All else stays as it is. -/
def counting (earlier : Nat) : Except Failure Report → Except Failure Report
  | .ok report => .ok { report with attempts := earlier + report.attempts }
  | .error failure => .error (failure.counting earlier)

@[simp] theorem counting_zero (outcome : Except Failure Report) : counting 0 outcome = outcome := by
  rcases outcome with (_ | _ | _) | _ <;> simp only [counting, Failure.counting, Nat.zero_add]

@[simp] theorem counting_counting (earlier earliest : Nat) (outcome : Except Failure Report) :
    counting earliest (counting earlier outcome) = counting (earliest + earlier) outcome := by
  rcases outcome with (_ | _ | _) | _ <;> simp only [counting, Failure.counting, Nat.add_assoc]

/-- What so many attempts with successive seeds come to when time plays no part. -/
def unhurried (r : Roster) : (remaining : Nat) → (seed : Int64) → Except Failure Report
  | 0, _ => .error (.exhausted 0)
  | remaining + 1, seed =>
      if (attempt r seed).isComplete then .ok ⟨(attempt r seed).seating, seed, 1⟩
      else counting 1 (unhurried r remaining (seed + 1))

/-- Without a deadline a step is an attempt and nothing else. -/
theorem step_of_unlimited (r : Roster) {limits : Limits} (unlimited : limits.deadline = none)
    (elapsed : Duration) (p : Progress) :
    (∃ last, (attempt r p.seed).isComplete = true ∧ p.step r limits elapsed =
      .inl (p.finish (.ok ⟨(attempt r p.seed).seating, p.seed, p.attempts + 1⟩) last)) ∨
    (∃ past, (attempt r p.seed).isComplete = false ∧ p.step r limits elapsed =
      .inr ⟨p.attempts + 1, p.seed + 1, past⟩) := by
  have unhindered : p.passedDeadline? limits elapsed = none := by
    unfold Progress.passedDeadline?
    rw [unlimited, Option.filter_none, ite_self]
  unfold Progress.step
  rw [unhindered]
  dsimp only
  cases found : (attempt r p.seed).isComplete with
  | true => exact Or.inl ⟨_, rfl, rfl⟩
  | false => exact Or.inr ⟨_, rfl, rfl⟩

/-- A search without a deadline counts its attempts on top of those made before it. -/
theorem search_of_unlimited (r : Roster) {limits : Limits} (unlimited : limits.deadline = none)
    (clock : Nat → Duration) (remaining : Nat) (p : Progress) :
    (search r limits clock remaining p).outcome =
      counting p.attempts (unhurried r remaining p.seed) := by
  induction remaining generalizing p with
  | zero => rfl
  | succ remaining ih =>
      rw [search_succ, unhurried]
      rcases step_of_unlimited r unlimited (clock (p.attempts + 1)) p with
        ⟨last, complete, step⟩ | ⟨past, incomplete, step⟩
      · rw [step, complete]
        rfl
      · rw [step, incomplete]
        dsimp only
        rw [ih, if_neg Bool.false_ne_true, counting_counting]

/-- A draw without a deadline is an unhurried search, whatever the clock says. -/
theorem draw_of_unlimited {r : Roster} (valid : r.check = .ok ()) {limits : Limits}
    (unlimited : limits.deadline = none) (seed : Int64) (clock : Nat → Duration) :
    (draw r limits seed clock).outcome = unhurried r limits.maxAttempts.toNat seed := by
  rw [draw_eq, valid]
  dsimp only
  rw [search_of_unlimited r unlimited]
  exact counting_zero _

theorem draw_of_invalid {r : Roster} {violation : Violation} (invalid : r.check = .error violation)
    (limits : Limits) (seed : Int64) (clock : Nat → Duration) :
    draw r limits seed clock = ⟨.error (.invalidInput violation), []⟩ := by
  rw [draw_eq, invalid]

/-- Without a deadline the course of time has no influence on what a draw comes to. -/
theorem draw_clock_irrelevant (r : Roster) {limits : Limits} (unlimited : limits.deadline = none)
    (seed : Int64) (clock clock' : Nat → Duration) :
    (draw r limits seed clock).outcome = (draw r limits seed clock').outcome := by
  cases verdict : r.check with
  | error violation => rw [draw_of_invalid verdict, draw_of_invalid verdict]
  | ok =>
      rw [draw_of_unlimited verdict unlimited seed clock,
        draw_of_unlimited verdict unlimited seed clock']

/-- How an unhurried search goes on when it is permitted more attempts: it keeps what it found, or
it takes up the seeds where the shorter search left off. -/
theorem unhurried_add (r : Roster) (n m : Nat) (seed : Int64) :
    (∃ report, unhurried r n seed = .ok report ∧ unhurried r (n + m) seed = .ok report) ∨
    (unhurried r n seed = .error (.exhausted n) ∧
      unhurried r (n + m) seed = counting n (unhurried r m (seed + Int64.ofNat n))) := by
  induction n generalizing seed with
  | zero =>
      refine Or.inr ⟨rfl, ?_⟩
      rw [Nat.zero_add, counting_zero, show Int64.ofNat 0 = 0 from rfl, Int64.add_zero]
  | succ n ih =>
      rw [Nat.succ_add, unhurried, unhurried]
      cases (attempt r seed).isComplete with
      | true => exact Or.inl ⟨_, rfl, rfl⟩
      | false =>
          simp only [Bool.false_eq_true, ↓reduceIte]
          -- Both searches have made the same failed attempt and stand at the same next seed.
          rcases ih (seed + 1) with ⟨report, short, long⟩ | ⟨short, long⟩
          · exact Or.inl ⟨_, by rw [short]; rfl, by rw [long]; rfl⟩
          · refine Or.inr ⟨?_, ?_⟩
            · rw [short, Nat.add_comm n 1]
              rfl
            · have next : seed + 1 + Int64.ofNat n = seed + Int64.ofNat (n + 1) := by
                rw [Nat.add_comm n 1, Int64.ofNat_add, Int64.add_assoc]
                rfl
              rw [long, counting_counting, next, Nat.add_comm 1 n]

/-- Budgets of attempts compose. A draw without a deadline that succeeds, or finds fault with the
roster, does the very same with more attempts. One that exhausts its attempts goes on, with more of
them, just as a draw that begins at the seed after the last one tried, also where the seeds wrap
around. -/
theorem draw_budgets_compose (r : Roster) (seed : Int64) (n m : UInt32)
    (clock clock' clock'' : Nat → Duration) (bound : n.toNat + m.toNat < 2 ^ 32) :
    (∀ report, (draw r ⟨n, none⟩ seed clock).outcome = .ok report →
      (draw r ⟨n + m, none⟩ seed clock').outcome = .ok report) ∧
    (∀ violation, (draw r ⟨n, none⟩ seed clock).outcome = .error (.invalidInput violation) →
      (draw r ⟨n + m, none⟩ seed clock').outcome = .error (.invalidInput violation)) ∧
    (∀ attempts, (draw r ⟨n, none⟩ seed clock).outcome = .error (.exhausted attempts) →
      attempts = n.toNat ∧
      (draw r ⟨n + m, none⟩ seed clock').outcome = counting n.toNat
        (draw r ⟨m, none⟩ (seed + Int64.ofNat n.toNat) clock'').outcome) ∧
    (∀ attempts elapsed,
      (draw r ⟨n, none⟩ seed clock).outcome ≠ .error (.deadlineExceeded attempts elapsed)) := by
  have total : (n + m).toNat = n.toNat + m.toNat := by
    rw [UInt32.toNat_add, Nat.mod_eq_of_lt bound]
  cases verdict : r.check with
  | error violation =>
      simp only [draw_of_invalid verdict]
      refine ⟨?_, fun _ same => same, ?_, ?_⟩
      · intro report impossible
        cases impossible
      · intro attempts impossible
        cases impossible
      · intro attempts elapsed impossible
        cases impossible
  | ok =>
      simp only [draw_of_unlimited verdict, total]
      rcases unhurried_add r n.toNat m.toNat seed with ⟨report, short, long⟩ | ⟨short, long⟩
      · rw [short, long]
        refine ⟨fun _ same => same, ?_, ?_, ?_⟩
        · intro violation impossible
          cases impossible
        · intro attempts impossible
          cases impossible
        · intro attempts elapsed impossible
          cases impossible
      · rw [short, long]
        refine ⟨?_, ?_, ?_, ?_⟩
        · intro report impossible
          cases impossible
        · intro violation impossible
          cases impossible
        · intro attempts exhausted
          cases exhausted
          exact ⟨rfl, rfl⟩
        · intro attempts elapsed impossible
          cases impossible

/-- From the greatest seed the sparse roster exhausts one attempt. The second one is the first from
the least seed, and further ones are never made. -/
theorem draw_sparse_resumed :
    (1 : UInt32).toNat + (1 : UInt32).toNat < 2 ^ 32 ∧
    (2 : UInt32).toNat + (4294967293 : UInt32).toNat < 2 ^ 32 ∧
    (draw Roster.sparse ⟨1, none⟩ Int64.maxValue (fun _ => ⟨0⟩)).outcome = .error (.exhausted 1) ∧
    (draw Roster.sparse ⟨1 + 1, none⟩ Int64.maxValue (fun _ => ⟨0⟩)).outcome = counting 1
      (draw Roster.sparse ⟨1, none⟩ Int64.minValue (fun _ => ⟨0⟩)).outcome ∧
    (draw Roster.sparse ⟨2 + 4294967293, none⟩ Int64.maxValue (fun _ => ⟨0⟩)).outcome =
      .ok ⟨sparseSeating, Int64.minValue, 2⟩ := by
  have one : (1 : UInt32).toNat + (1 : UInt32).toNat < 2 ^ 32 := by decide
  have many : (2 : UInt32).toNat + (4294967293 : UInt32).toNat < 2 ^ 32 := by decide
  have resumed := draw_budgets_compose Roster.sparse Int64.maxValue 1 1
    (fun _ => ⟨0⟩) (fun _ => ⟨0⟩) (fun _ => ⟨0⟩) one
  have kept := draw_budgets_compose Roster.sparse Int64.maxValue 2 4294967293
    (fun _ => ⟨0⟩) (fun _ => ⟨0⟩) (fun _ => ⟨0⟩) many
  exact ⟨one, many, outcome_sparse.1, (resumed.2.2.1 1 outcome_sparse.1).2,
    kept.1 _ outcome_sparse.2⟩

end TableDraw.Draw
