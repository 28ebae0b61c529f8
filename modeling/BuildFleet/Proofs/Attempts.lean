/-
Attempts and pauses.

A step that is tried again is carried out until an attempt succeeds, fails for good, or is the last
one allowed.  Between two attempts there is one pause, and the pauses grow by a factor.

* **`RetryPolicy.pauses`** — the first so many pauses;
* **`RetryPolicy.MadeBy`** — a clock that makes all of them;
* **`InTurn`** — a step whose attempts come to given outcomes one after the other, and that keeps a
  record of them;
* **`Attempted`** — what all attempts together come to;
* **`attempted_retry`** — one step that is tried again;
* **`retry_attempts`** — a function that is called again and again, each call tried again by itself.
-/
import BuildFleet.Retry
import Mathlib.Algebra.Field.Rat
import Mathlib.Order.Bounds.Basic
import Mathlib.Tactic.NormNum

namespace BuildFleet

variable {ρ τ α β : Type} [Duration τ]

/-! ### Pauses -/

/-- So many pauses from one on, each but the first the one before it times the factor. -/
def RetryPolicy.pausesFrom (policy : RetryPolicy τ) (pause : τ) : ℕ → List τ
  | 0 => []
  | n + 1 => pause :: policy.pausesFrom (Duration.scale pause policy.backoff) n

/-- The first so many pauses. -/
def RetryPolicy.pauses (policy : RetryPolicy τ) (n : ℕ) : List τ := policy.pausesFrom policy.delay n

theorem nonneg_of_mem_pausesFrom {policy : RetryPolicy ℚ} (hbackoff : 0 ≤ policy.backoff)
    {pause : ℚ} (hpause : 0 ≤ pause) {n : ℕ} : ∀ d ∈ policy.pausesFrom pause n, 0 ≤ d := by
  induction n generalizing pause with
  | zero => exact fun d hd => absurd hd List.not_mem_nil
  | succ n ih => exact List.forall_mem_cons.mpr ⟨hpause, ih (mul_nonneg hpause hbackoff)⟩

/-- The clock makes all pauses that there may be. -/
def RetryPolicy.MadeBy {σ : Type} (policy : RetryPolicy τ) (w : Timeline σ τ) : Prop :=
  ∀ d ∈ policy.pauses (policy.maxAttempts - 1), w.refusal? d = none

theorem RetryPolicy.MadeBy.congr {σ : Type} {policy : RetryPolicy τ} {w v : Timeline σ τ}
    (h : policy.MadeBy w) (hclock : v.setByHand = w.setByHand) : policy.MadeBy v := fun d hd =>
  (Timeline.refusal?_congr hclock d).trans (h d hd)

/-- Every clock makes the pauses of a policy with rational numbers that are not negative. -/
theorem RetryPolicy.madeBy_of_nonneg {σ : Type} {policy : RetryPolicy ℚ} (hdelay : 0 ≤ policy.delay)
    (hbackoff : 0 ≤ policy.backoff) (w : Timeline σ ℚ) : policy.MadeBy w := fun _ hd =>
  w.refusal?_of_nonneg (nonneg_of_mem_pausesFrom hbackoff hdelay _ hd)

/-! ### Attempts -/

/-- No attempt follows one with this outcome: a value, or a failure that will not pass. -/
def RetryPolicy.Final (policy : RetryPolicy τ) : Except Failure α → Prop
  | .ok _ => True
  | .error failure => policy.mayPass failure = false

/-- The attempts at a step come to the outcomes one after the other.  Each leaves a mark, which may
tell the pauses so far, and makes no pause itself; nor does it change what the clock is. -/
structure InTurn (step : Action (Timeline (List ρ) τ) α) (outcomes : ℕ → Except Failure α)
    (mark : List τ → ρ) : Prop where
  outcome : ∀ w, (step w).1 = outcomes w.outside.length
  record : ∀ w, (step w).2.outside = w.outside ++ [mark w.pauses]
  pauses : ∀ w, (step w).2.pauses = w.pauses
  setByHand : ∀ w, (step w).2.setByHand = w.setByHand

/-- What attempts come to, of which there are as many as `limit` at most, with `pauses` between them,
when the marks of other attempts are there already: how many pauses there are, which is one less than
there are attempts, and what the last attempt has come to. -/
structure Attempted (policy : RetryPolicy τ) (limit : ℕ) (pauses : ℕ → List τ)
    (outcomes : ℕ → Except Failure α) (mark : List τ → ρ) (w : Timeline (List ρ) τ) (n : ℕ)
    (run : Except Failure (Option α) × Timeline (List ρ) τ) : Prop where
  least : IsLeast {j | j + 1 = limit ∨ policy.Final (outcomes (w.outside.length + j))} n
  outcome : run.1 = (outcomes (w.outside.length + n)).map some
  /-- Each attempt comes after the pauses that belong between the ones before it. -/
  record : run.2.outside =
    w.outside ++ (List.range (n + 1)).map fun i => mark (w.pauses ++ pauses i)
  pauses : run.2.pauses = w.pauses ++ pauses n

section Attempts

variable {policy : RetryPolicy τ} {step : Action (Timeline (List ρ) τ) α}
  {outcomes : ℕ → Except Failure α} {mark : List τ → ρ}

/-- The last attempt is the outcome. -/
theorem retryFrom_of_stop (name : String) {left : ℕ} {w : Timeline (List ρ) τ}
    (hstop : left = 0 ∨ policy.Final (step w).1) (attempt : ℕ) (pause : τ) :
    retryFrom policy name step attempt pause (left + 1) w = ((step w).1.map some, (step w).2) := by
  rw [retryFrom, Action.bind_apply, Action.attempt_apply]
  cases hr : (step w).1 with
  | ok a => rfl
  | error failure =>
    have hlast : (left = 0 || !policy.mayPass failure) = true := by
      rw [hr] at hstop
      simpa [RetryPolicy.Final] using hstop
    simp [hlast, Except.map]

/-- An attempt that is not the last is followed by a pause. -/
theorem retryFrom_of_failed (name : String) {left : ℕ} {w : Timeline (List ρ) τ}
    (hleft : left ≠ 0) (hagain : ¬policy.Final (step w).1) (attempt : ℕ) {pause : τ}
    (hpause : (step w).2.refusal? pause = none) :
    ∃ clock log, retryFrom policy name step attempt pause (left + 1) w =
      retryFrom policy name step (attempt + 1) (Duration.scale pause policy.backoff) left
        { (step w).2 with clock, pauses := (step w).2.pauses ++ [pause], log } := by
  rw [retryFrom, Action.bind_apply, Action.attempt_apply]
  cases hr : (step w).1 with
  | ok a => exact absurd (hr ▸ trivial) hagain
  | error failure =>
    have hmore : (left = 0 || !policy.mayPass failure) = false := by
      rw [hr] at hagain
      simpa [RetryPolicy.Final, hleft] using hagain
    obtain ⟨log, hnote⟩ : ∃ log, Timeline.note .warning
        (s!"{name} attempt {attempt}/{policy.maxAttempts} failed: {failure.display}. " ++
          s!"Retrying in {Duration.text pause}s") (step w).2 =
        (.ok (), { (step w).2 with log }) := ⟨_, rfl⟩
    have hpaused := Timeline.pause_of_none (w := { (step w).2 with log }) hpause
    exact ⟨_, _, by
      simp only [hmore, Bool.false_eq_true, if_false, Action.bind_of_ok hnote,
        Action.bind_of_ok hpaused]
      rfl⟩

theorem attempted_of_stop (h : InTurn step outcomes mark) {limit : ℕ} {w : Timeline (List ρ) τ}
    (hstop : limit = 1 ∨ policy.Final (step w).1) (pause : τ) :
    Attempted policy limit (policy.pausesFrom pause) outcomes mark w 0
      ((step w).1.map some, (step w).2) where
  least := by
    refine ⟨?_, fun _ _ => Nat.zero_le _⟩
    rcases hstop with hlimit | hfinal
    · exact .inl hlimit.symm
    · rw [h.outcome] at hfinal
      exact .inr hfinal
  outcome := by
    rw [h.outcome]
    rfl
  record := by
    rw [h.record]
    simp [RetryPolicy.pausesFrom]
  pauses := by
    rw [h.pauses]
    simp [RetryPolicy.pausesFrom]

omit [Duration τ] in
theorem InTurn.outcomes_next (h : InTurn step outcomes mark) (w : Timeline (List ρ) τ) (j : ℕ) :
    outcomes ((step w).2.outside.length + j) = outcomes (w.outside.length + (j + 1)) := by
  rw [h.record, List.length_append, List.length_singleton, Nat.add_assoc, Nat.add_comm 1 j]

/-- The first attempt and the pause behind it, and then the others. -/
theorem Attempted.of_failed (h : InTurn step outcomes mark) {limit n : ℕ} {pause clock : τ}
    {log : List LogEntry} {w : Timeline (List ρ) τ} (hlimit : limit ≠ 0)
    (hagain : ¬policy.Final (step w).1)
    {run : Except Failure (Option α) × Timeline (List ρ) τ}
    (hrest : Attempted policy limit
      (policy.pausesFrom (Duration.scale pause policy.backoff)) outcomes mark
      { (step w).2 with clock, pauses := (step w).2.pauses ++ [pause], log } n run) :
    Attempted policy (limit + 1) (policy.pausesFrom pause) outcomes mark w (n + 1) run where
  least := by
    obtain ⟨hstop, hleast⟩ := hrest.least
    constructor
    · rcases hstop with hlast | hfinal
      · exact .inl (congrArg (· + 1) hlast)
      · exact .inr (h.outcomes_next w n ▸ hfinal)
    · intro j hj
      cases j with
      | zero =>
        rcases hj with hlast | hfinal
        · exact absurd (Nat.succ.inj hlast).symm hlimit
        · rw [h.outcome] at hagain
          exact absurd hfinal hagain
      | succ j =>
        refine Nat.succ_le_succ (hleast ?_)
        rcases hj with hlast | hfinal
        · exact .inl (Nat.succ.inj hlast)
        · exact .inr ((h.outcomes_next w j).symm ▸ hfinal)
  outcome := by
    rw [hrest.outcome, h.outcomes_next]
  record := by
    have hpauses : ∀ i, w.pauses ++ [pause] ++
        policy.pausesFrom (Duration.scale pause policy.backoff) i =
          w.pauses ++ policy.pausesFrom pause (i + 1) := by
      intro i
      rw [List.append_assoc]
      rfl
    rw [hrest.record, h.record, h.pauses, List.range_succ_eq_map (n := n + 1), List.map_cons,
      List.map_map, List.append_assoc]
    simp only [hpauses, Function.comp_def]
    rw [show policy.pausesFrom pause 0 = [] from rfl, List.append_nil]
    rfl
  pauses := by
    rw [hrest.pauses, h.pauses]
    simp [RetryPolicy.pausesFrom]

theorem attempted_retryFrom (h : InTurn step outcomes mark) (name : String) (left attempt : ℕ)
    (pause : τ) (w : Timeline (List ρ) τ)
    (hpauses : ∀ d ∈ policy.pausesFrom pause left, w.refusal? d = none) :
    ∃ n, Attempted policy (left + 1) (policy.pausesFrom pause) outcomes mark w n
      (retryFrom policy name step attempt pause (left + 1) w) := by
  -- By induction on the attempts that are left after the next one.
  induction left generalizing attempt pause w with
  | zero =>
    rw [retryFrom_of_stop name (.inl rfl)]
    exact ⟨0, attempted_of_stop h (.inl rfl) pause⟩
  | succ left ih =>
    by_cases hfinal : policy.Final (step w).1
    · rw [retryFrom_of_stop name (.inr hfinal)]
      exact ⟨0, attempted_of_stop h (.inr hfinal) pause⟩
    · obtain ⟨hpause, hrest⟩ := List.forall_mem_cons.mp hpauses
      have hmade : (step w).2.refusal? pause = none :=
        (Timeline.refusal?_congr (h.setByHand w) pause).trans hpause
      obtain ⟨clock, log, hnext⟩ :=
        retryFrom_of_failed name (Nat.succ_ne_zero left) hfinal attempt hmade
      obtain ⟨n, hn⟩ := ih (attempt + 1) (Duration.scale pause policy.backoff)
        { (step w).2 with clock, pauses := (step w).2.pauses ++ [pause], log } fun d hd =>
          (Timeline.refusal?_congr (h.setByHand w) d).trans (hrest d hd)
      rw [hnext]
      exact ⟨n + 1, hn.of_failed h (Nat.succ_ne_zero left) hfinal⟩

/-- There is one attempt at least, and then others as long as there may be more and the failures may
pass. -/
theorem attempted_retry (h : InTurn step outcomes mark) (hlimit : 1 ≤ policy.maxAttempts)
    (name : String) {w : Timeline (List ρ) τ} (hpauses : policy.MadeBy w) :
    ∃ n, Attempted policy policy.maxAttempts policy.pauses outcomes mark w n
      (retry policy name step w) := by
  obtain ⟨left, hleft⟩ := Nat.exists_eq_add_of_le' hlimit
  rw [RetryPolicy.MadeBy, hleft, Nat.add_sub_cancel] at hpauses
  rw [retry, hleft]
  exact attempted_retryFrom h name left 1 policy.delay w hpauses

end Attempts

/-! ### Functions -/

/-- A function whose calls come to the outcomes one after the other, each after a time of its own.
It keeps a record of the arguments that it is called with and of the pauses before. -/
def recorded (outcomes : ℕ → Except Failure α) (took : ℕ → τ) (args : β) :
    Action (Timeline (List (β × List τ)) τ) α := fun w =>
  (outcomes w.outside.length,
    { w with
      outside := w.outside ++ [(args, w.pauses)]
      clock := Duration.add w.clock (took w.outside.length) })

theorem inTurn_recorded (outcomes : ℕ → Except Failure α) (took : ℕ → τ) (args : β) :
    InTurn (recorded outcomes took args) outcomes (args, ·) :=
  ⟨fun _ => rfl, fun _ => rfl, fun _ => rfl, fun _ => rfl⟩

/-- Calls of a function that is tried again, one after the other, with the outcomes that they
deliver. -/
def callEach (policy : RetryPolicy τ) (name : String) (outcomes : ℕ → Except Failure α)
    (took : ℕ → τ) : List β →
      Action (Timeline (List (β × List τ)) τ) (List (Except Failure (Option α))) :=
  Action.forEach fun args => (retry policy name (recorded outcomes took args)).attempt

/-- What calls come to that are each tried again by themselves: every one starts with the first pause,
whatever came before it. -/
inductive EachAttempted (policy : RetryPolicy τ) (outcomes : ℕ → Except Failure α) :
    List β → Timeline (List (β × List τ)) τ → List (Except Failure (Option α)) →
      Timeline (List (β × List τ)) τ → Prop
  | nil (w : Timeline (List (β × List τ)) τ) : EachAttempted policy outcomes [] w [] w
  | cons {args : β} {rest : List β} {w y z : Timeline (List (β × List τ)) τ} {n : ℕ}
      {result : Except Failure (Option α)} {results : List (Except Failure (Option α))}
      (hfirst : Attempted policy policy.maxAttempts policy.pauses outcomes (args, ·) w n
        (result, y))
      (hrest : EachAttempted policy outcomes rest y results z) :
      EachAttempted policy outcomes (args :: rest) w (result :: results) z

/-- **A function that is tried again makes the right attempts and pauses.**  Every call is carried
out with its own arguments until an outcome is a value or a failure that will not pass, or until
there may be no more attempts, and delivers the last outcome.  There is one pause between two
attempts, the first of the length set and each other the one before it times the factor; there is
none behind the last attempt, and no call has an effect on the pauses of another.  The clock has to
make these pauses, as it does if they are not negative. -/
theorem retry_attempts {policy : RetryPolicy τ} (hlimit : 1 ≤ policy.maxAttempts) (name : String)
    (outcomes : ℕ → Except Failure α) (took : ℕ → τ) (calls : List β)
    (w : Timeline (List (β × List τ)) τ) (hpauses : policy.MadeBy w) :
    ∃ results z, callEach policy name outcomes took calls w = (.ok results, z) ∧
      EachAttempted policy outcomes calls w results z := by
  induction calls generalizing w with
  | nil => exact ⟨[], w, rfl, .nil w⟩
  | cons args rest ih =>
    obtain ⟨n, hfirst⟩ := attempted_retry (inTurn_recorded outcomes took args) hlimit name hpauses
    have hclock : (retry policy name (recorded outcomes took args) w).2.setByHand = w.setByHand :=
      retryFrom_setByHand policy name (fun _ => rfl) 1 policy.delay policy.maxAttempts w
    obtain ⟨results, z, hcalls, hrest⟩ :=
      ih (retry policy name (recorded outcomes took args) w).2 (hpauses.congr hclock)
    refine ⟨_ :: results, z, ?_, .cons hfirst hrest⟩
    rw [callEach, Action.forEach, Action.bind_apply, Action.attempt_apply]
    rw [callEach] at hcalls
    simp only [Action.bind_apply, hcalls, Action.pure_apply]
    rfl

/-- Three attempts, with pauses of half a second and of a second. -/
def RetryPolicy.threefold : RetryPolicy ℚ := ⟨3, 1 / 2, 2, Failure.isTransient⟩

/-- Two failures that may pass and a value, a failure that may pass and one that will not. -/
def mixedOutcomes : ℕ → Except Failure ℕ
  | 2 => .ok 7
  | 4 => .error (.badValue "no")
  | _ => .error (.service (.unreachable "ec2"))

theorem pauses_threefold :
    RetryPolicy.threefold.pauses 0 = [] ∧ RetryPolicy.threefold.pauses 1 = [1 / 2] ∧
      RetryPolicy.threefold.pauses 2 = [1 / 2, 1] := by
  have hsecond : Duration.scale (1 / 2 : ℚ) 2 = 1 := by
    show (1 / 2 : ℚ) * 2 = 1
    norm_num
  refine ⟨rfl, rfl, ?_⟩
  show [1 / 2, Duration.scale (1 / 2 : ℚ) 2] = _
  rw [hsecond]

/-- The second call starts with the first pause again. -/
theorem retry_attempts_twoCalls :
    ∃ z, callEach .threefold "call" mixedOutcomes (fun _ => 1) ["a", "b"] ⟨[], 0, [], [], false⟩ =
        (.ok [.ok (some 7), .error (.badValue "no")], z) ∧
      z.outside = [("a", []), ("a", [1 / 2]), ("a", [1 / 2, 1]), ("b", [1 / 2, 1]),
        ("b", [1 / 2, 1, 1 / 2])] ∧
      z.pauses = [1 / 2, 1, 1 / 2] := by
  have hlimit : 1 ≤ RetryPolicy.threefold.maxAttempts := by decide
  have hdelay : 0 ≤ RetryPolicy.threefold.delay := by
    show (0 : ℚ) ≤ 1 / 2
    norm_num
  have hbackoff : 0 ≤ RetryPolicy.threefold.backoff := zero_le_two
  obtain ⟨results, z, hcalls, heach⟩ :=
    retry_attempts hlimit "call" mixedOutcomes (fun _ => 1) ["a", "b"] ⟨[], 0, [], [], false⟩
      (RetryPolicy.madeBy_of_nonneg hdelay hbackoff _)
  obtain ⟨h0, h1, h2⟩ := pauses_threefold
  cases heach with
  | @cons _ _ _ y _ n result _ hfirst hrest =>
    obtain rfl : n = 2 := by
      refine hfirst.least.unique ⟨.inl rfl, fun j hj => ?_⟩
      by_contra hless
      obtain rfl | rfl : j = 0 ∨ j = 1 := by omega
      · rcases hj with hj | hj <;> cases hj
      · rcases hj with hj | hj <;> cases hj
    have hresult : result = .ok (some 7) := hfirst.outcome
    have hrecord : y.outside = [("a", []), ("a", [1 / 2]), ("a", [1 / 2, 1])] := by
      rw [hfirst.record]
      simp [List.range_succ, h0, h1, h2]
    have hpauses : y.pauses = [1 / 2, 1] := by
      rw [hfirst.pauses, h2]
      rfl
    cases hrest with
    | @cons _ _ _ _ _ m result' _ hsecond hnil =>
      cases hnil
      have houtcomes : ∀ k, mixedOutcomes (y.outside.length + k) = mixedOutcomes (3 + k) := by
        intro k
        rw [hrecord]
        rfl
      obtain rfl : m = 1 := by
        refine hsecond.least.unique ⟨.inr ?_, fun j hj => ?_⟩
        · rw [houtcomes]
          rfl
        · by_contra hless
          obtain rfl : j = 0 := by omega
          rw [Set.mem_ofPred_eq, houtcomes] at hj
          rcases hj with hj | hj <;> cases hj
      have hresult' : result' = .error (.badValue "no") := by
        have houtcome := hsecond.outcome
        rw [houtcomes] at houtcome
        exact houtcome
      refine ⟨z, ?_, ?_, ?_⟩
      · rw [hcalls, hresult, hresult']
      · rw [hsecond.record, hrecord, hpauses]
        simp [List.range_succ, h0, h1]
      · rw [hsecond.pauses, hpauses, h1]
        rfl

end BuildFleet
