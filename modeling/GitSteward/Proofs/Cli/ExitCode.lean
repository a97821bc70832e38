-- What the exit code of the program tells. It is zero for a request that ended well and for no
-- other, and the code of a process that ended by itself is passed on as it is. The program as a
-- whole leaves with zero only if it was asked for help or if its process did.
import GitSteward.Proofs.Call.Verdict
import GitSteward.Proofs.Cli.Serving

namespace GitSteward

/-! ## The bits of a status -/

namespace WaitStatus

variable {s : WaitStatus}

/-- The bits 8 to 15 of the word. -/
def codeBits (s : WaitStatus) : UInt8 := (s.word >>> 8).toUInt8

theorem toNat_codeBits (s : WaitStatus) : s.codeBits.toNat = s.high := by
  rw [codeBits, UInt32.toNat_toUInt8, UInt32.toNat_shiftRight, Nat.shiftRight_eq_div_pow]
  rfl

theorem low_eq_zero_iff : s.low = 0 ↔ s.word &&& 0x7F = 0 := by
  have bits : (s.word &&& 0x7F).toNat = s.low := by
    rw [UInt32.toNat_and]
    exact Nat.and_two_pow_sub_one_eq_mod s.word.toNat 7
  rw [← bits, ← UInt32.toNat_inj]
  rfl

theorem high_eq_zero_iff : s.high = 0 ↔ s.codeBits = 0 := by
  rw [← toNat_codeBits, ← UInt8.toNat_inj]
  rfl

theorem word_exited (code : UInt8) : (exited code).word.toNat = code.toNat * 256 := by
  have small := code.toNat_lt
  simp only [exited, UInt32.toNat_mul, UInt8.toNat_toUInt32, UInt32.reduceToNat]
  omega

theorem code?_exited (code : UInt8) : (exited code).code? = some code.toNat := by
  have small := code.toNat_lt
  have hlow : (exited code).low = 0 := by
    rw [low, word_exited]
    omega
  have hhigh : (exited code).high = code.toNat := by
    rw [high, word_exited]
    omega
  rw [code?, if_pos hlow, hhigh]

/-- A process that was ended or stopped by a signal, or continued, has no code. -/
theorem code?_of_signal (h : s.signal?.isSome ∨ s.stop?.isSome ∨ s.isContinued) :
    s.code? = none := by
  have hlow : s.low ≠ 0 := by
    rcases h with h | h | h
    · unfold signal? at h
      split at h
      · cases h
      · rename_i hn
        simp_all
    · unfold stop? at h
      split at h
      · rename_i hword
        rw [low]
        omega
      · cases h
    · have hword : s.word = 0xFFFF := by simpa [isContinued] using h
      simp [low, hword]
  rw [code?, if_neg hlow]

end WaitStatus

namespace Cli

variable {outcome : Outcome} {s : WaitStatus} {p : Program} {a : Arguments} {config : Config}
variable {w : Workload}

/-! ## The code of an outcome -/

/-- A code is a byte already before it is made one. -/
theorem toNat_statusCode (s : WaitStatus) :
    (statusCode s).toNat = max 1 (min 255 (s.code?.getD 1)) := by
  have fits : max 1 (min 255 (s.code?.getD 1)) < 256 := by omega
  exact Nat.mod_eq_of_lt fits

theorem statusCode_ne_zero (s : WaitStatus) : statusCode s ≠ 0 := by
  intro h
  have hnat := toNat_statusCode s
  rw [h, UInt8.toNat_zero] at hnat
  omega

theorem statusCode_of_code (h : s.code? = none ∨ s.code? = some 0) : statusCode s = 1 := by
  rcases h with h | h <;> simp [statusCode, h]

theorem statusCode_eq (s : WaitStatus) :
    statusCode s = if s.word &&& 0x7F = 0 ∧ s.codeBits ≠ 0 then s.codeBits else 1 := by
  -- only a word without a signal tells a code, and only the code zero has to be told otherwise
  by_cases hlow : s.low = 0
  · have hcode : s.code? = some s.high := by rw [WaitStatus.code?, if_pos hlow]
    by_cases hhigh : s.high = 0
    · rw [if_neg fun h => h.2 (WaitStatus.high_eq_zero_iff.mp hhigh)]
      exact statusCode_of_code (.inr (hhigh ▸ hcode))
    · rw [if_pos ⟨WaitStatus.low_eq_zero_iff.mp hlow,
        fun h => hhigh (WaitStatus.high_eq_zero_iff.mpr h)⟩, ← UInt8.toNat_inj,
        toNat_statusCode, hcode, WaitStatus.toNat_codeBits, Option.getD_some]
      have bound : s.high < 256 := Nat.mod_lt _ (by decide)
      omega
  · rw [if_neg fun h => hlow (WaitStatus.low_eq_zero_iff.mpr h.1)]
    exact statusCode_of_code (.inl (if_neg hlow))

/-- A word that tells neither a code nor a signal. -/
example : statusCode ⟨0x80⟩ = 1 := by decide

theorem exitCode_eq_zero_iff : exitCode outcome = 0 ↔ outcome = .ok () := by
  cases outcome with
  | ok => exact ⟨fun _ => rfl, fun _ => rfl⟩
  | error f =>
    refine ⟨fun h => ?_, nofun⟩
    cases f with
    | exit status text => exact absurd h (statusCode_ne_zero status)
    | invalidRepository | unsupported | start | wait | streamCopy | cancelled | handler => cases h

theorem ofExit_eq_ok_iff (s : WaitStatus) (captured : Bytes) :
    Outcome.ofExit s captured = .ok () ↔ s.word = 0 := by
  unfold Outcome.ofExit WaitStatus.isSuccess
  by_cases h : s.word = 0 <;> simp [h]

theorem exitCode_ofExit (s : WaitStatus) (captured : Bytes) :
    exitCode (.ofExit s captured) = if s.word = 0 then 0 else statusCode s := by
  unfold Outcome.ofExit WaitStatus.isSuccess
  by_cases h : s.word = 0 <;> simp [h, exitCode]

/-- A process that ends by itself makes the program end with the same code. -/
theorem exitCode_exited (code : UInt8) (captured : Bytes) :
    exitCode (.ofExit (.exited code) captured) = code := by
  rw [exitCode_ofExit]
  by_cases hc : code = 0
  · subst hc
    rfl
  · have hne : code.toNat ≠ 0 := fun h => hc (UInt8.toNat_inj.mp h)
    have hword : (WaitStatus.exited code).word ≠ 0 := fun h => by
      have hnat := WaitStatus.word_exited code
      rw [h, UInt32.toNat_zero] at hnat
      omega
    have small := code.toNat_lt
    rw [if_neg hword, ← UInt8.toNat_inj, toNat_statusCode, WaitStatus.code?_exited,
      Option.getD_some]
    omega

/-! ## The program -/

/-- What the outcome that was returned for the request tells of its process. -/
structure Answers (w : Workload) (j : Job) : Prop where
  job : w.jobs[0]? = some j
  well : j.outcome = some (.ok ()) → ∃ c, j.work = .process c ∧ c.child = .reaped ⟨0⟩
  told : ∀ c status, j.outcome.isSome → j.work = .process c → c.cancelled = false →
    c.child = .reaped status → ∃ captured, j.outcome = some (.ofExit status captured)

theorem Attended.answers (h : Attended p a config w) : ∃ j, Answers w j := by
  cases h with
  | @process _ _ c j _ follows =>
    have ho := follows.orderly Workload.isFresh_callOf
    refine ⟨j, follows.job, fun hj => ⟨c, follows.work, ?_⟩, fun c' status hj hw calm hc => ?_⟩
    · have ended := ho.inPhase.returned (Call.phase_of_outcome (follows.outcome _ hj))
      generalize well : (Except.ok () : Outcome) = outcome at ended
      cases ended with
      | exited status hc _ =>
        obtain ⟨word⟩ := status
        cases (ofExit_eq_ok_iff _ _).mp well.symm
        exact hc
      | refused | notStarted | waitFailed | killed => cases well
    · cases follows.work.symm.trans hw
      obtain ⟨outcome, hout⟩ := Option.isSome_iff_exists.mp hj
      have verdict := (Call.verdict_of_reaped ho calm hc).2
      rw [follows.outcome _ hout] at verdict
      exact ⟨_, hout.trans verdict⟩
  | refused away =>
    refine ⟨_, away.job, fun hj => ?_, fun _ _ _ hw => ?_⟩
    · cases away.outcome _ hj
    · cases away.work.symm.trans hw

/-- How a program ends that has taken on its request: by a signal, or with the code for what was
returned. A request that was not returned counts as cancelled. -/
theorem ending_of_served (hread : Arguments.ofWords p.words = .ok a)
    (haccepted : p.config a = .ok config) :
    (∃ signal, p.run.ending = .killed signal) ∨
      ∃ w j, (p.start a config).workload.Becomes w ∧ Answers w j ∧
        p.run.ending = .exited (exitCode (j.outcome.getD (.error .cancelled))) := by
  have same : p.run.ending = (p.serve (p.directory a) (p.start a config)).ending := by
    simp only [Program.run, hread, haccepted]
  rcases serve_cases p (p.directory a) (p.start a config) with ⟨signal, h⟩ | ⟨s, becomes, h⟩
  · exact .inl ⟨signal, same.trans h⟩
  · obtain ⟨j, answers⟩ := (attended_of_becomes becomes).answers
    refine .inr ⟨s.workload, j, becomes, answers, ?_⟩
    rw [same, h, Program.report, List.head?_eq_getElem?, answers.job]
    rfl

/-! ## The law -/

/-- What exit codes tell of outcomes, of statuses and of a whole program. -/
structure ExitCodeLaw (p : Program) : Prop where
  /-- zero is for what ended well, and for nothing else -/
  success : ∀ outcome, exitCode outcome = 0 ↔ outcome = .ok ()
  missing : exitCode (.error .invalidRepository) = 128
  exit : ∀ s text, exitCode (.error (.exit s text)) =
    if s.word &&& 0x7F = 0 ∧ s.codeBits ≠ 0 then s.codeBits else 1
  signal : ∀ (s : WaitStatus) text, s.signal?.isSome ∨ s.stop?.isSome ∨ s.isContinued →
    exitCode (.error (.exit s text)) = 1
  other : ∀ f, f ≠ .invalidRepository → (∀ s text, f ≠ .exit s text) → exitCode (.error f) = 1
  /-- nothing is lost when a code is made a byte -/
  narrow : ∀ s, (statusCode s).toNat = max 1 (min 255 (s.code?.getD 1))
  status : ∀ s captured, exitCode (.ofExit s captured) = 0 ↔ s.word = 0
  exited : ∀ code captured, exitCode (.ofExit (.exited code) captured) = code
  /-- the program leaves with zero only if it was asked for help, or if its process has ended with
  the status zero -/
  zero : p.run.ending = .exited 0 → Arguments.ofWords p.words = .error .help ∨
    ∃ a config w j c, Arguments.ofWords p.words = .ok a ∧ p.config a = .ok config ∧
      (p.start a config).workload.Becomes w ∧ w.jobs[0]? = some j ∧ j.outcome = some (.ok ()) ∧
      j.work = .process c ∧ c.child = .reaped ⟨0⟩
  /-- unless a signal ends it, it leaves with the code for what was returned, and so with that of
  its process if this has ended by itself -/
  passed : ∀ a config, Arguments.ofWords p.words = .ok a → p.config a = .ok config →
    (∃ signal, p.run.ending = .killed signal) ∨
      ∃ w j, (p.start a config).workload.Becomes w ∧ w.jobs[0]? = some j ∧
        p.run.ending = .exited (exitCode (j.outcome.getD (.error .cancelled))) ∧
        ∀ c code, j.outcome.isSome → j.work = .process c → c.cancelled = false →
          c.child = .reaped (.exited code) → p.run.ending = .exited code

/-- No failure is hidden by the exit code, whatever the status of the process. -/
theorem the_exit_code_hides_no_failure (p : Program) : ExitCodeLaw p where
  success _ := exitCode_eq_zero_iff
  missing := rfl
  exit s _ := statusCode_eq s
  signal s _ h := statusCode_of_code (.inl (WaitStatus.code?_of_signal h))
  other f hmissing hexit := by
    cases f with
    | invalidRepository => exact absurd rfl hmissing
    | exit s text => exact absurd rfl (hexit s text)
    | unsupported | start | wait | streamCopy | cancelled | handler => rfl
  narrow := toNat_statusCode
  status s captured := by rw [exitCode_eq_zero_iff, ofExit_eq_ok_iff]
  exited := exitCode_exited
  zero h := by
    cases hread : Arguments.ofWords p.words with
    | error refusal =>
      cases refusal with
      | help => exact .inl rfl
      | usage e => simp [Program.run, hread] at h
    | ok a =>
      cases haccepted : p.config a with
      | error e => simp [Program.run, hread, haccepted] at h
      | ok config =>
        right
        rcases ending_of_served hread haccepted with ⟨signal, hk⟩ | ⟨w, j, becomes, answers, he⟩
        · rw [hk] at h
          cases h
        · rw [he, Ending.exited.injEq, exitCode_eq_zero_iff] at h
          have hj : j.outcome = some (.ok ()) := by
            cases ho : j.outcome with
            | none => simp [ho] at h
            | some outcome => rwa [ho, Option.getD_some, ← Option.some.injEq] at h
          obtain ⟨c, hw, hc⟩ := answers.well hj
          exact ⟨a, config, w, j, c, rfl, haccepted, becomes, answers.job, hj, hw, hc⟩
  passed a config hread haccepted := by
    rcases ending_of_served hread haccepted with hk | ⟨w, j, becomes, answers, he⟩
    · exact .inl hk
    · refine .inr ⟨w, j, becomes, answers.job, he, fun c code hj hw calm hc => ?_⟩
      obtain ⟨captured, hout⟩ := answers.told c _ hj hw calm hc
      rw [he, hout, Option.getD_some, exitCode_exited]

end Cli

end GitSteward
