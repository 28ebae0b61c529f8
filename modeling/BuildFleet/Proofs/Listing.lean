/-
Complete counts.

A count of instances asks for a listing, and asks again when the answer is a failure that may pass.
What it comes to is told by the last answer alone, whatever the answers before it were.

* **`Client.inTurn`** — a client that gives its answers one after the other;
* **`Reported`** — what is said of the last answer;
* **`Counts`** — the requests of a count, and its outcome;
* **`count_complete`** — every count is as `Counts` says, and a reservation that fails on a count
  takes no slot.
-/
import BuildFleet.Ec2.Provider
import BuildFleet.Proofs.Attempts
import BuildFleet.Proofs.Surfacing
import BuildFleet.Provisioning

namespace BuildFleet.Ec2

open Json (Value)
open Compute

variable {τ α : Type}

/-! ### Answers -/

/-- A client that gives its answers one after the other, each after a time of its own.  It keeps a
record of the requests. -/
def Client.inTurn (answers : ℕ → Except Failure Value) (took : ℕ → τ) :
    Client (List Request) τ where
  send r asked := ⟨answers asked.length, took asked.length, asked ++ [r]⟩

/-- The answer to a listing is pages, or a failure of any kind. -/
def ListsPages : Except Failure Value → Prop :=
  Ends (Request.list none).Fits fun _ => True

/-- After the answer, the same request may do better: no connection could be made, or the service
asks to slow down. -/
inductive MayPass : Except Failure Value → Prop
  | unreachable (cause : ConnectionFault) : MayPass (.error (.service (.unreachable cause)))
  | connectTimeout (address : String) : MayPass (.error (.service (.connectTimeout address)))
  | throttled (operation message : String) {code : String} (h : code ∈ Fault.throttlingCodes) :
      MayPass (.error (.service (.reply operation (some ⟨code, message⟩))))

/-- What a count says of the last answer: the number of instances on its pages, a failure of the
provider for a fault of the service, and any other failure as it is. -/
inductive Reported : Except Failure Value → Except Failure ℕ → Prop
  | pages (pages : List Value) : Reported (.ok (.list pages)) (.ok (instancesOn pages))
  | fault (fault : Fault) : Reported (.error (.service fault))
      (.error (.provider s!"Failed to count instances: {fault.message}"))
  | other {failure : Failure} (h : ¬IsFault failure) : Reported (.error failure) (.error failure)

/-- The number of instances that an answer tells. -/
def tally (answer : Except Failure Value) : Except Failure ℕ := do
  countPages (← (← answer).needParts)

theorem tally_of_reply {reply : Value} (h : ListsPages (.ok reply)) :
    ∃ pages, reply = .list pages ∧ tally (.ok reply) = .ok (instancesOn pages) := by
  obtain ⟨pages, rfl, hpages⟩ := h
  exact ⟨pages, rfl, countPages_of_listed hpages⟩

theorem mayPass_of_isTransient {fault : Fault} (h : fault.isTransient = true) :
    MayPass (.error (.service fault)) := by
  cases fault with
  | unreachable cause => exact .unreachable cause
  | connectTimeout address => exact .connectTimeout address
  | reply operation error =>
    cases error with
    | none => cases h
    | some error => exact .throttled operation error.message (List.contains_iff_mem.mp h)
  | _ => cases h

theorem isTransient_of_mayPass {failure : Failure} (h : MayPass (.error failure)) :
    failure.isTransient = true := by
  cases h with
  | unreachable => rfl
  | connectTimeout => rfl
  | throttled operation message hcode => exact List.contains_iff_mem.mpr hcode

/-- The answers after which a listing is not repeated. -/
theorem final_tally_iff [Duration τ] {answer : Except Failure Value} (h : ListsPages answer) :
    (listingPolicy : RetryPolicy τ).Final (tally answer) ↔ ¬MayPass answer := by
  cases answer with
  | ok reply =>
    obtain ⟨pages, -, hpages⟩ := tally_of_reply h
    rw [hpages]
    constructor
    · intro _ hpass
      cases hpass
    · intro _
      trivial
  | error failure =>
    show failure.isTransient = false ↔ _
    constructor
    · intro hfinal hpass
      rw [isTransient_of_mayPass hpass] at hfinal
      cases hfinal
    · intro hpass
      by_contra htransient
      rw [Bool.not_eq_false] at htransient
      cases failure with
      | service fault => exact hpass (mayPass_of_isTransient htransient)
      | _ => cases htransient

/-! ### Requests -/

theorem arguments_list (image : Option String) :
    (Request.list image).arguments =
      [("Filters", .list (Request.filter "instance-state-name" ["pending", "running"] ::
        image.toList.map fun id => Request.filter "image-id" [id]))] := by
  cases image <;> rfl

/-- What a count comes to from `w` on, with `n` requests that are repeated. -/
structure Counts (answers : ℕ → Except Failure Value) (image : Option String)
    (w : Timeline (List Request) τ) (n : ℕ)
    (run : Except Failure ℕ × Timeline (List Request) τ) : Prop where
  atMost : n ≤ 2
  /-- A request is repeated only after an answer that may pass. -/
  again : ∀ j < n, MayPass (answers (w.outside.length + j))
  /-- And it is repeated then, unless there have been three. -/
  last : n = 2 ∨ ¬MayPass (answers (w.outside.length + n))
  requests : run.2.outside = w.outside ++ List.replicate (n + 1) (.list image)
  reported : Reported (answers (w.outside.length + n)) run.1

section Counting

variable [Duration τ] {c : Compute (List Request) τ} {answers : ℕ → Except Failure Value}
  {took : ℕ → τ}

theorem inTurn_listOnce (hc : c.client = .inTurn answers took) (image : Option String) :
    InTurn (c.listOnce image) (fun i => tally (answers i)) fun _ => .list image := by
  have hrun : ∀ w, c.listOnce image w = (tally (answers w.outside.length),
      { w with
        outside := w.outside ++ [.list image]
        clock := Duration.add w.clock (took w.outside.length) }) := by
    intro w
    rw [listOnce, Action.bind_apply, send, hc]
    simp only [Timeline.consult, Client.inTurn]
    cases answers w.outside.length with
    | ok reply => rfl
    | error failure => rfl
  constructor
  all_goals
    intro w
    rw [hrun]

omit [Duration τ] in
theorem reported_asProviderFailure {answer : Except Failure Value} (h : ListsPages answer)
    {step : Step (List Request) τ ℕ} {w : Timeline (List Request) τ}
    (hstep : (step w).1 = tally answer) :
    Reported answer (asProviderFailure "Failed to count instances" step w).1 := by
  rw [asProviderFailure, Action.bind_apply, Action.attempt_apply, hstep]
  cases answer with
  | ok reply =>
    obtain ⟨pages, rfl, hpages⟩ := tally_of_reply h
    rw [hpages]
    exact .pages pages
  | error failure =>
    cases failure with
    | service fault => exact .fault fault
    | _ =>
      refine .other ?_
      rintro ⟨_, hfault⟩
      cases hfault

omit [Duration τ] in
/-- A step whose value is always there. -/
theorem getD_of_outcome {m : Step (List Request) τ (Option ℕ)} {r : Except Failure ℕ}
    {w : Timeline (List Request) τ} (h : (m w).1 = r.map some) :
    (do return (← m).getD 0 : Step (List Request) τ ℕ) w = (r, (m w).2) := by
  rw [Action.bind_apply]
  rcases hrun : m w with ⟨r', y⟩
  rw [hrun] at h
  dsimp only at h
  rw [h]
  cases r with
  | ok n => rfl
  | error failure => rfl

omit [Duration τ] in
/-- Every clock with rational times makes the pauses of half a second and of a second. -/
theorem listingPolicy_madeBy {σ : Type} (w : Timeline σ ℚ) : listingPolicy.MadeBy w := by
  have hdelay : 0 ≤ (listingPolicy : RetryPolicy ℚ).delay := one_half_pos.le
  have hbackoff : 0 ≤ (listingPolicy : RetryPolicy ℚ).backoff := zero_le_two
  exact RetryPolicy.madeBy_of_nonneg hdelay hbackoff w

theorem exists_counts (hc : c.client = .inTurn answers took) (h : ∀ i, ListsPages (answers i))
    (image : Option String) (w : Timeline (List Request) τ) (hpauses : listingPolicy.MadeBy w) :
    ∃ n, Counts answers image w n (c.count image w) := by
  have hlimit : 1 ≤ (listingPolicy : RetryPolicy τ).maxAttempts := Nat.le_add_left 1 2
  obtain ⟨n, hn⟩ :=
    attempted_retry (inTurn_listOnce hc image) hlimit "_describe_instances" hpauses
  obtain ⟨hstop, hleast⟩ := hn.least
  have hmost : n ≤ 2 := hleast (.inl rfl)
  have hcounted := getD_of_outcome hn.outcome
  refine ⟨n, hmost, ?_, ?_, ?_, ?_⟩
  · intro j hj
    by_contra hpass
    have hless : n ≤ j := hleast (.inr ((final_tally_iff (h _)).mpr hpass))
    omega
  · rcases hstop with hthree | hfinal
    · exact .inl (Nat.succ.inj hthree)
    · exact .inr ((final_tally_iff (h _)).mp hfinal)
  · rw [count, timed_outside, asProviderFailure_snd, hcounted]
    show (retry listingPolicy _ (c.listOnce image) w).2.outside = _
    rw [hn.record, List.map_const', List.length_range]
  · rw [count, timed_fst]
    exact reported_asProviderFailure (h _) (congrArg Prod.fst hcounted)

end Counting

/-! ### Reservations -/

/-- A reservation fails on a count, and then it takes no slot. -/
theorem reserve_error_iff {σ : Type} (k : Controller σ) (image : String) (cap : Int) (f : Fleet σ)
    (failure : Failure) :
    (k.reserve image cap f).1 = .error failure ↔
      (k.provider.count none f.cloud).1 = .error failure ∨
        (∃ total, (k.provider.count none f.cloud).1 = .ok total) ∧
          (k.provider.count (some image) (k.provider.count none f.cloud).2).1 = .error failure := by
  have hreserved := k.reserved image cap f
  constructor
  · intro hfails
    rcases hrun : k.reserve image cap f with ⟨r, f'⟩
    rw [hrun] at hreserved hfails
    cases hreserved with
    | totalError hn =>
      cases hfails
      exact .inl (by rw [hn])
    | imageError hn hm =>
      cases hfails
      exact .inr ⟨⟨_, by rw [hn]⟩, by rw [hn, hm]⟩
    | refused => cases hfails
    | granted => cases hfails
  · rintro (htotal | ⟨⟨total, htotal⟩, himage⟩)
    · rw [k.reserve_of_total_error image cap (Prod.ext htotal rfl)]
    · rw [k.reserve_of_image_error image cap (Prod.ext htotal rfl) (Prod.ext himage rfl)]

theorem ledger_of_not_reserved {σ : Type} (k : Controller σ) (image : String) (cap : Int)
    (f : Fleet σ) (h : (k.reserve image cap f).1 ≠ .ok true) :
    (k.reserve image cap f).2.ledger = f.ledger := by
  have hreserved := k.reserved image cap f
  rcases hrun : k.reserve image cap f with ⟨r, f'⟩
  rw [hrun] at hreserved h
  cases hreserved with
  | totalError => rfl
  | imageError => rfl
  | refused => rfl
  | granted => exact absurd rfl h

/-- **Counts are complete, and nothing is counted twice.**  A count makes three requests at most,
all with the same filters, and another one only after a failure that may pass.  The last answer
alone tells what is reported.  The clock has to make the pauses between the requests, of half a
second and of a second.  A reservation fails exactly if one of its counts does, and unless it takes
a slot the ledger stays as it is. -/
theorem count_complete [Duration τ] {c : Compute (List Request) τ}
    {answers : ℕ → Except Failure Value} {took : ℕ → τ} (hc : c.client = .inTurn answers took)
    (h : ∀ i, ListsPages (answers i)) :
    (∀ image, (Request.list image).method = "paginate:describe_instances" ∧
      (Request.list image).arguments =
        [("Filters", .list (Request.filter "instance-state-name" ["pending", "running"] ::
          image.toList.map fun id => Request.filter "image-id" [id]))]) ∧
    (∀ image w, listingPolicy.MadeBy w → ∃ n, Counts answers image w n (c.count image w)) ∧
    ∀ (k : Controller (Timeline (List Request) τ)) (looks : ℕ), k.provider = c.provider looks →
      ∀ image cap f,
        (∀ failure, (k.reserve image cap f).1 = .error failure ↔
          (c.count none f.cloud).1 = .error failure ∨
            (∃ total, (c.count none f.cloud).1 = .ok total) ∧
              (c.count (some image) (c.count none f.cloud).2).1 = .error failure) ∧
        ((k.reserve image cap f).1 ≠ .ok true →
          (k.reserve image cap f).2.ledger = f.ledger) := by
  refine ⟨fun image => ⟨rfl, arguments_list image⟩, exists_counts hc h, ?_⟩
  intro k looks hk image cap f
  have hcount : k.provider.count = c.count := by
    rw [hk]
    rfl
  constructor
  · intro failure
    rw [← hcount]
    exact reserve_error_iff k image cap f failure
  · exact ledger_of_not_reserved k image cap f

/-- The service asks to slow down, then it lists three instances, and then it is not allowed any
more. -/
def fadingAnswers : ℕ → Except Failure Value
  | 0 => .error (.service (.reply "DescribeInstances" (some ⟨"Throttling", "slow down"⟩)))
  | 1 => .ok (.list [
      .object [("Reservations", .list [
        .object [("Instances", .list [.text "i-1", .text "i-2"])], .object []])],
      .object [],
      .object [("Reservations", .list [.object [("Instances", .list [.text "i-3"])]])]])
  | _ => .error (.service (.reply "DescribeInstances" (some ⟨"AuthFailure", "no"⟩)))

/-- Answers that fade, a second for each. -/
def Compute.fading : Compute (List Request) ℚ := ⟨.inTurn fadingAnswers fun _ => 1, "fleet", 5⟩

/-- Controllers without templates that count by answers that fade. -/
def fadingController : Controller (Timeline (List Request) ℚ) where
  provider := Compute.fading.provider 1
  catalog := ⟨[]⟩
  instanceCap := 10
  launchTimeout := 600
  retentionDisabled := false
  minutes microseconds := microseconds / 60000000
  refuses w := (none, w)
  isEager := false
  ownsPool := true
  interlude := .none

theorem listsPages_fading (i : ℕ) : ListsPages (fadingAnswers i) := by
  match i with
  | 0 => trivial
  | 1 =>
    refine ⟨_, rfl, ?_⟩
    simp only [List.forall_mem_cons, List.not_mem_nil, IsEmpty.forall_iff, implies_true, and_true]
    refine ⟨⟨_, rfl, ?_⟩, ⟨[], rfl, by simp⟩, ⟨_, rfl, ?_⟩⟩
    · simp only [List.forall_mem_cons, List.not_mem_nil, IsEmpty.forall_iff, implies_true, and_true]
      exact ⟨⟨_, rfl, by simp⟩, ⟨[], rfl, by simp⟩⟩
    · simp only [List.forall_mem_cons, List.not_mem_nil, IsEmpty.forall_iff, implies_true, and_true]
      exact ⟨_, rfl, by simp⟩
  | _ + 2 => trivial

/-- The count of all images takes two requests and finds three instances; the count of one image
fails behind it, and no slot is taken. -/
theorem count_complete_fading :
    (Compute.fading.count none ⟨[], 0, [], [], false⟩).1 = .ok 3 ∧
      (Compute.fading.count none ⟨[], 0, [], [], false⟩).2.outside = [.list none, .list none] ∧
      (fadingController.reserve "ami-1" 5 (.fresh ⟨[], 0, [], [], false⟩ ⟨0⟩)).1 =
        .error (.provider ("Failed to count instances: An error occurred (AuthFailure) when " ++
          "calling the DescribeInstances operation: no")) ∧
      (fadingController.reserve "ami-1" 5 (.fresh ⟨[], 0, [], [], false⟩ ⟨0⟩)).2.ledger = .empty := by
  have hclient : Compute.fading.client = .inTurn fadingAnswers fun _ => 1 := rfl
  obtain ⟨-, hcounts, hreserve⟩ := count_complete hclient listsPages_fading
  have hfirst : MayPass (fadingAnswers 0) := .throttled _ _ (by decide)
  have hsecond : ¬MayPass (fadingAnswers 1) := by
    intro h
    cases h
  have hthird : ¬MayPass (fadingAnswers 2) := by
    intro h
    cases h with
    | throttled _ _ hcode => exact absurd hcode (by decide)
  obtain ⟨n, hn⟩ := hcounts none ⟨[], 0, [], [], false⟩ (listingPolicy_madeBy _)
  obtain rfl : n = 1 := by
    rcases Nat.lt_trichotomy n 1 with hless | heq | hmore
    · obtain rfl : n = 0 := by omega
      exact absurd hfirst (hn.last.resolve_left (by decide))
    · exact heq
    · exact absurd (hn.again 1 hmore) hsecond
  have htotal : (Compute.fading.count none ⟨[], 0, [], [], false⟩).1 = .ok 3 := by
    have hreported : Reported (fadingAnswers 1) _ := hn.reported
    generalize (Compute.fading.count none ⟨[], 0, [], [], false⟩).1 = r at hreported ⊢
    cases hreported
    rfl
  obtain ⟨m, hm⟩ := hcounts (some "ami-1") (Compute.fading.count none ⟨[], 0, [], [], false⟩).2
    (listingPolicy_madeBy _)
  have houtside : (Compute.fading.count none ⟨[], 0, [], [], false⟩).2.outside =
      [.list none, .list none] := hn.requests
  obtain rfl : m = 0 := by
    by_contra hm'
    have hpass := hm.again 0 (Nat.pos_of_ne_zero hm')
    rw [houtside] at hpass
    exact hthird hpass
  have himage : (Compute.fading.count (some "ami-1")
      (Compute.fading.count none ⟨[], 0, [], [], false⟩).2).1 =
        .error (.provider ("Failed to count instances: An error occurred (AuthFailure) when " ++
          "calling the DescribeInstances operation: no")) := by
    have hreported := hm.reported
    rw [houtside] at hreported
    generalize (Compute.fading.count (some "ami-1")
      (Compute.fading.count none ⟨[], 0, [], [], false⟩).2).1 = r at hreported ⊢
    cases hreported with
    | fault => rfl
    | other hnone => exact absurd ⟨_, rfl⟩ hnone
  obtain ⟨hfails, hkept⟩ :=
    hreserve fadingController 1 rfl "ami-1" 5 (.fresh ⟨[], 0, [], [], false⟩ ⟨0⟩)
  have hreserved := (hfails _).mpr (.inr ⟨⟨3, htotal⟩, himage⟩)
  refine ⟨htotal, houtside, hreserved, hkept ?_⟩
  rw [hreserved]
  nofun

end BuildFleet.Ec2
