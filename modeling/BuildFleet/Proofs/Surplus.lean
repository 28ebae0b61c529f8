/-
What is not needed goes.

The nodes of a label are more than its template wants to be kept ready by some number, the surplus.
When all nodes are checked, one after the other, the nodes whose time is up are tried in their
order, until so many are ended as the surplus was:

* **`Node.isExpired`** — the node's time is up;
* **`Tried`** — instances are asked to be ended, one after the other;
* **`Cleared`** — no more is ended than a budget allows, and no less while there is any to be had;
* **`checks_clear_surplus`** — checks of all nodes clear the surplus of each label.
-/
import BuildFleet.Proofs.Resilience
import Mathlib.Algebra.Order.Field.Basic
import Mathlib.Algebra.Order.Field.Rat
import Mathlib.Tactic.NormNum

namespace BuildFleet

variable {σ : Type} {c : Controller σ} {f g : Fleet σ}

/-! ### Nodes whose time is up -/

/-- The node is connected, no executor is busy, and its idle clock has run for more than so many
minutes. -/
def Node.isExpired (limit : Nat) (now : Moment) (n : Node) : Bool :=
  n.isOnline && n.isIdle &&
    n.idleSince.any fun since => decide ((limit * Moment.minute : Int) < now.since since)

/-- How many spare nodes there are beyond what the template wants to be kept ready. -/
def Roster.surplus (r : Roster) (label : String) (t : Template) : Nat :=
  r.spareCount label - t.primed

theorem Node.isSpare_of_isExpired {limit : Nat} {now : Moment} {n : Node} (hn : 0 < n.executors)
    (h : n.isExpired limit now = true) : n.isSpare = true := by
  simp only [isExpired, Bool.and_eq_true, isIdle, decide_eq_true_eq] at h
  obtain ⟨⟨honline, hidle⟩, -⟩ := h
  simp [isSpare, honline, hasIdleExecutor, hidle, hn]

section Judged

variable (hexact : ∀ micros, c.minutes micros = (micros : ℚ) / 60000000)

include hexact in
theorem isOverdue_iff (t : Template) (n : Node) (now : Moment) :
    c.isOverdue t n now = true ↔
      ∃ since, n.idleSince = some since ∧
        (t.idleMinutes * Moment.minute : Int) < now.since since := by
  have hover : c.isOverdue t n now = true ↔
      (t.idleMinutes * Moment.minute : Int) < now.since (n.idleSince.getD now) := by
    rw [Controller.isOverdue, Controller.idleMinutes, hexact, Bool.not_eq_true',
      decide_eq_false_iff_not, not_le, lt_div_iff₀ (by norm_num)]
    exact_mod_cast Iff.rfl
  rw [hover]
  cases hsince : n.idleSince with
  | none =>
    -- A node without a clock counts as idle from now on.
    have hnone : now.since now ≤ (t.idleMinutes * Moment.minute : Int) := by
      rw [Moment.since, sub_self]
      exact_mod_cast Nat.zero_le _
    simpa using hnone
  | some since => simp

include hexact in
/-- A template lets its nodes go whose time is up, as long as there is a surplus. -/
theorem letsGo_iff (henabled : c.retentionDisabled = false) {t : Template}
    (ht : 0 < t.idleMinutes) {n : Node} (hn : c.catalog.forNode? n = some t) (now : Moment)
    (r : Roster) :
    (∃ s, c.LetsGo s n now r) ↔
      n.isExpired t.idleMinutes now = true ∧ 0 < r.surplus n.labelString t := by
  have hexpired : n.isExpired t.idleMinutes now = true ↔
      c.mayExpire t n = true ∧ c.isOverdue t n now = true := by
    rw [isOverdue_iff hexact, Node.isExpired, Controller.mayExpire, Bool.and_eq_true,
      Option.any_eq_true]
    simp only [decide_eq_true_eq, henabled, Nat.pos_iff_ne_zero.mp ht, ne_eq, not_false_eq_true,
      decide_true, Bool.true_and, Bool.not_false, Bool.and_true]
    rw [Bool.and_comm]
  rw [hexpired, Roster.surplus, Nat.sub_pos_iff_lt]
  constructor
  · rintro ⟨s, hs⟩
    obtain rfl : t = s := Option.some.inj (hn.symm.trans hs.judges)
    exact ⟨⟨hs.mayExpire, hs.isOverdue⟩, hs.spare⟩
  · rintro ⟨⟨hmay, hdue⟩, hspare⟩
    exact ⟨t, hn, hmay, hdue, hspare⟩

end Judged

/-! ### The count of spare nodes -/

/-- Exactly one spare node is lost with a spare node. -/
theorem Roster.spareCount_remove_of_isSpare {r : Roster} {n : Node} (hn : n ∈ r.registered)
    (hspare : n.isSpare = true) :
    (r.remove n.name).spareCount n.labelString + 1 = r.spareCount n.labelString := by
  have hless : (r.remove n.name).spareCount n.labelString < r.spareCount n.labelString := by
    rw [spareCount, spareCount, withLabel, withLabel, registered_remove, List.filter_comm,
      List.countP_eq_length_filter, List.countP_eq_length_filter, List.filter_comm,
      List.length_filter_lt_length_iff_exists]
    refine ⟨n, ?_, by simp⟩
    simp [hn, hspare]
  have hloss := r.spareCount_remove n.name n.labelString
  omega

/-! ### A budget -/

/-- Of the nodes that are due the first ones are tried, and each time the budget is not used up. -/
structure Cleared (budget : Nat) (due : List Node) (trials : List (Node × Bool)) : Prop where
  order : trials.map (·.1) <+: due
  frugal : ∀ before trial behind, trials = before ++ trial :: behind →
    before.countP (·.2) < budget
  /-- Whoever knows which nodes can be ended knows which ones are: the first ones within the
  budget. -/
  ended : ∀ willing : Node → Bool, (∀ trial ∈ trials, willing trial.1 = trial.2) →
    (trials.filter (·.2)).map (·.1) =
      (due.filter willing).take (min budget (due.countP willing))

namespace Cleared

variable {budget : Nat} {n : Node} {due : List Node} {trials : List (Node × Bool)}

theorem of_nil (budget : Nat) : Cleared budget [] [] := by
  constructor
  · exact List.prefix_refl []
  · intro before trial behind h
    simp at h
  · intro willing _
    rw [List.filter_nil, List.filter_nil, List.take_nil, List.map_nil]

theorem of_zero (due : List Node) : Cleared 0 due [] := by
  constructor
  · exact List.nil_prefix
  · intro before trial behind h
    simp at h
  · intro willing _
    rw [Nat.zero_min, List.take_zero]
    rfl

theorem eq_nil (h : Cleared 0 due trials) : trials = [] := by
  cases trials with
  | nil => rfl
  | cons trial behind => exact absurd (h.frugal [] trial behind rfl) (Nat.not_lt_zero _)

theorem refused (h : Cleared budget due trials) (hb : 0 < budget) :
    Cleared budget (n :: due) ((n, false) :: trials) := by
  constructor
  · exact List.cons_prefix_cons.mpr ⟨rfl, h.order⟩
  · intro before trial behind hsplit
    cases before with
    | nil => exact hb
    | cons first before =>
      obtain ⟨rfl, hrest⟩ := List.cons.inj hsplit
      simpa using h.frugal before trial behind hrest
  · intro willing hw
    have hn : willing n = false := hw (n, false) List.mem_cons_self
    have hrest := h.ended willing fun trial ht => hw trial (List.mem_cons_of_mem _ ht)
    rw [List.filter_cons_of_neg (by simp), List.filter_cons_of_neg (by simp [hn]),
      List.countP_cons_of_neg (by simp [hn]), hrest]

theorem terminated (h : Cleared budget due trials) :
    Cleared (budget + 1) (n :: due) ((n, true) :: trials) := by
  constructor
  · exact List.cons_prefix_cons.mpr ⟨rfl, h.order⟩
  · intro before trial behind hsplit
    cases before with
    | nil => exact Nat.succ_pos budget
    | cons first before =>
      obtain ⟨rfl, hrest⟩ := List.cons.inj hsplit
      have hless := h.frugal before trial behind hrest
      rw [List.countP_cons_of_pos rfl]
      omega
  · intro willing hw
    have hn : willing n = true := hw (n, true) List.mem_cons_self
    have hrest := h.ended willing fun trial ht => hw trial (List.mem_cons_of_mem _ ht)
    rw [List.filter_cons_of_pos rfl, List.filter_cons_of_pos hn, List.countP_cons_of_pos hn,
      Nat.add_min_add_right, List.take_succ_cons, List.map_cons, hrest]

end Cleared

/-! ### Trials -/

/-- The instances of some nodes are asked to be ended, one after the other, and nothing else is
asked for.  Beside each node stands whether that went well. -/
inductive Tried (p : Provider σ) : List (Node × Bool) → σ → σ → Prop
  | nil (w : σ) : Tried p [] w w
  | ended {n : Node} {trials : List (Node × Bool)} {u v w : σ}
      (first : p.terminate n.instanceId u = (.ok (), v)) (rest : Tried p trials v w) :
      Tried p ((n, true) :: trials) u w
  | refused {n : Node} {detail : String} {trials : List (Node × Bool)} {u v w : σ}
      (first : p.terminate n.instanceId u = (.error (.provider detail), v))
      (rest : Tried p trials v w) : Tried p ((n, false) :: trials) u w

/-- The names of the nodes whose instances were ended. -/
def endedNames (trials : List (Node × Bool)) : List String :=
  (trials.filter (·.2)).map (·.1.name)

/-- The trials of nodes with a label. -/
def trialsFor (label : String) (trials : List (Node × Bool)) : List (Node × Bool) :=
  trials.filter (·.1.labelString = label)

/-- Those of some nodes that have a label and whose time is up. -/
def expiredAmong (label : String) (limit : Nat) (now : Moment) (nodes : List Node) : List Node :=
  nodes.filter fun n => n.labelString = label && n.isExpired limit now

/-- The nodes of the label can run builds, and the template judges them. -/
def Controller.Judges (c : Controller σ) (t : Template) (label : String) (nodes : List Node) :
    Prop :=
  ∀ n ∈ nodes, n.labelString = label → 0 < n.executors ∧ c.catalog.forNode? n = some t

section Labels

variable {label : String} {limit : Nat} {now : Moment} {n : Node}

theorem expiredAmong_cons (h : n.labelString = label) (he : n.isExpired limit now = true)
    (nodes : List Node) :
    expiredAmong label limit now (n :: nodes) = n :: expiredAmong label limit now nodes :=
  List.filter_cons_of_pos (by simp [h, he])

theorem expiredAmong_cons_of_not (h : n.labelString = label → ¬n.isExpired limit now = true)
    (nodes : List Node) :
    expiredAmong label limit now (n :: nodes) = expiredAmong label limit now nodes :=
  List.filter_cons_of_neg (by simpa using h)

theorem trialsFor_cons (h : n.labelString = label) (ok : Bool) (trials : List (Node × Bool)) :
    trialsFor label ((n, ok) :: trials) = (n, ok) :: trialsFor label trials :=
  List.filter_cons_of_pos (by simp [h])

theorem trialsFor_cons_of_ne (h : n.labelString ≠ label) (ok : Bool)
    (trials : List (Node × Bool)) :
    trialsFor label ((n, ok) :: trials) = trialsFor label trials :=
  List.filter_cons_of_neg (by simp [h])

end Labels

/-! ### The checks -/

/-- What checks of some nodes do to the roster. -/
structure Clearing (c : Controller σ) (now : Moment) (nodes : List Node) (r s : Roster)
    (trials : List (Node × Bool)) : Prop where
  sublist : (trials.map (·.1)).Sublist nodes
  left : s.registered = r.registered.filter (·.name ∉ endedNames trials)
  cleared : ∀ label t, 0 < t.idleMinutes → c.Judges t label nodes →
    Cleared (r.surplus label t) (expiredAmong label t.idleMinutes now nodes)
      (trialsFor label trials)

namespace Clearing

variable {now : Moment} {n : Node} {nodes : List Node} {r r' s : Roster}
  {trials : List (Node × Bool)}

theorem of_nil (r : Roster) : Clearing c now [] r r [] where
  sublist := .refl []
  left := by simp [endedNames]
  cleared label t _ _ := .of_nil _

theorem kept (h : Clearing c now nodes r s trials)
    (hkeep : ∀ t, 0 < t.idleMinutes → c.catalog.forNode? n = some t →
      n.isExpired t.idleMinutes now = true → r.surplus n.labelString t = 0) :
    Clearing c now (n :: nodes) r s trials := by
  refine ⟨h.sublist.cons n, h.left, ?_⟩
  intro label t ht hjudges
  have hrest := h.cleared label t ht fun m hm => hjudges m (List.mem_cons_of_mem n hm)
  by_cases hdue : n.labelString = label ∧ n.isExpired t.idleMinutes now = true
  · -- The surplus was used up before, so that none of the others is tried.
    obtain ⟨rfl, hexpired⟩ := hdue
    have hzero := hkeep t ht (hjudges n List.mem_cons_self rfl).2 hexpired
    rw [hzero] at hrest ⊢
    rw [hrest.eq_nil]
    exact .of_zero _
  · rwa [expiredAmong_cons_of_not fun hlabel hexpired => hdue ⟨hlabel, hexpired⟩]

theorem refused (h : Clearing c now nodes r s trials)
    (hgo : ∀ t, 0 < t.idleMinutes → c.catalog.forNode? n = some t →
      n.isExpired t.idleMinutes now = true ∧ 0 < r.surplus n.labelString t) :
    Clearing c now (n :: nodes) r s ((n, false) :: trials) := by
  refine ⟨h.sublist.cons_cons n, h.left, ?_⟩
  intro label t ht hjudges
  have hrest := h.cleared label t ht fun m hm => hjudges m (List.mem_cons_of_mem n hm)
  by_cases hlabel : n.labelString = label
  · subst hlabel
    obtain ⟨hexpired, hpos⟩ := hgo t ht (hjudges n List.mem_cons_self rfl).2
    rw [expiredAmong_cons rfl hexpired, trialsFor_cons rfl]
    exact hrest.refused hpos
  · rwa [expiredAmong_cons_of_not fun h => absurd h hlabel, trialsFor_cons_of_ne hlabel]

theorem terminated (h : Clearing c now nodes (r.remove n.name) s trials)
    (hn : n ∈ r.registered)
    (hgo : ∀ t, 0 < t.idleMinutes → c.catalog.forNode? n = some t →
      n.isExpired t.idleMinutes now = true ∧ 0 < r.surplus n.labelString t) :
    Clearing c now (n :: nodes) r s ((n, true) :: trials) := by
  refine ⟨h.sublist.cons_cons n, ?_, ?_⟩
  · rw [h.left, Roster.registered_remove, List.filter_filter]
    refine List.filter_congr fun m _ => ?_
    rw [endedNames, endedNames, List.filter_cons_of_pos rfl, List.map_cons, Bool.eq_iff_iff]
    simp [and_comm]
  · intro label t ht hjudges
    have hrest := h.cleared label t ht fun m hm => hjudges m (List.mem_cons_of_mem n hm)
    by_cases hlabel : n.labelString = label
    · subst hlabel
      obtain ⟨hexec, hjudge⟩ := hjudges n List.mem_cons_self rfl
      obtain ⟨hexpired, hpos⟩ := hgo t ht hjudge
      -- The node was spare, so that the surplus is one less from now on.
      have hone := Roster.spareCount_remove_of_isSpare hn (Node.isSpare_of_isExpired hexec hexpired)
      have hless : r.surplus n.labelString t = (r.remove n.name).surplus n.labelString t + 1 := by
        simp only [Roster.surplus] at hpos ⊢
        omega
      rw [hless, expiredAmong_cons rfl hexpired, trialsFor_cons rfl]
      exact hrest.terminated
    · have hsame : (r.remove n.name).surplus label t = r.surplus label t := by
        rw [Roster.surplus, Roster.spareCount, Roster.withLabel_remove
          (fun m hm hname => Roster.eq_of_name hn hm hname) (Ne.symm hlabel)]
        rfl
      rw [hsame] at hrest
      rwa [expiredAmong_cons_of_not fun h => absurd h hlabel, trialsFor_cons_of_ne hlabel]

end Clearing

section Checks

variable (hexact : ∀ micros, c.minutes micros = (micros : ℚ) / 60000000)
  (henabled : c.retentionDisabled = false)

include hexact henabled in
/-- Any number of checks, each of a node that is registered and of no node twice. -/
theorem clearing_of_passes {moment : Option Moment} {checked : List (Node × Retention)}
    (h : Passes (fun n => c.check n moment) checked f g)
    (hnodes : ∀ d ∈ checked, d.1 ∈ f.roster.registered)
    (hnames : (checked.map (·.1.name)).Nodup) :
    ∃ trials, Tried c.provider trials f.cloud g.cloud ∧
      Clearing c (moment.getD f.now) (checked.map (·.1)) f.roster g.roster trials := by
  induction h with
  | nil f => exact ⟨[], .nil _, .of_nil _⟩
  | @cons n decision checked f g h first rest ih =>
    obtain ⟨hother, hothers⟩ := List.nodup_cons.mp hnames
    have hn : n ∈ f.roster.registered := hnodes _ List.mem_cons_self
    have hrest : ∀ d ∈ checked, d.1 ∈ f.roster.registered := fun d hd =>
      hnodes d (List.mem_cons_of_mem _ hd)
    have hchecked := c.checked n moment f
    rw [show c.check n moment f = _ from first] at hchecked
    cases hchecked with
    | kept hkeep =>
      obtain ⟨trials, htried, hclearing⟩ := ih hrest hothers
      refine ⟨trials, htried, hclearing.kept fun t ht hjudge hexpired => ?_⟩
      by_contra hpos
      obtain ⟨s, hs⟩ := (letsGo_iff hexact henabled ht hjudge _ f.roster).mpr
        ⟨hexpired, Nat.pos_of_ne_zero hpos⟩
      exact hkeep s hs
    | refused hlets hterm =>
      obtain ⟨trials, htried, hclearing⟩ := ih hrest hothers
      exact ⟨(n, false) :: trials, .refused hterm htried, hclearing.refused fun t ht hjudge =>
        (letsGo_iff hexact henabled ht hjudge _ _).mp ⟨_, hlets⟩⟩
    | terminated hlets hterm =>
      have hstay : ∀ d ∈ checked, d.1 ∈ (f.roster.remove n.name).registered := by
        intro d hd
        rw [Roster.registered_remove, List.mem_filter]
        refine ⟨hrest d hd, decide_eq_true fun hname => hother ?_⟩
        exact List.mem_map.mpr ⟨d, hd, hname⟩
      obtain ⟨trials, htried, hclearing⟩ := ih hstay hothers
      exact ⟨(n, true) :: trials, .ended hterm htried, hclearing.terminated hn
        fun t ht hjudge => (letsGo_iff hexact henabled ht hjudge _ _).mp ⟨_, hlets⟩⟩

/-- The names that are ended for a label are those of its nodes. -/
theorem withLabel_of_clearing {now : Moment} {r s : Roster} {trials : List (Node × Bool)}
    (h : Clearing c now r.registered r s trials) (label : String) :
    s.withLabel label =
      (r.withLabel label).filter (·.name ∉ endedNames (trialsFor label trials)) := by
  rw [Roster.withLabel, Roster.withLabel, h.left, List.filter_comm, List.filter_filter,
    List.filter_filter]
  refine List.filter_congr fun n hn => ?_
  by_cases hlabel : n.labelString = label
  · have hiff : n.name ∈ endedNames (trialsFor label trials) ↔ n.name ∈ endedNames trials := by
      simp only [endedNames, trialsFor, List.mem_map, List.mem_filter]
      constructor
      · rintro ⟨trial, ⟨⟨hmem, -⟩, hended⟩, hname⟩
        exact ⟨trial, ⟨hmem, hended⟩, hname⟩
      · rintro ⟨trial, ⟨hmem, hended⟩, hname⟩
        -- No other registered node has the name.
        have hsame : trial.1 = n :=
          Roster.eq_of_name hn (h.sublist.subset (List.mem_map_of_mem hmem)) hname
        exact ⟨trial, ⟨⟨hmem, by simp [hsame, hlabel]⟩, hended⟩, hname⟩
    simp [hlabel, hiff]
  · simp [hlabel]

include hexact henabled in
/-- **A sweep takes out the surplus, and no more.**  All nodes are checked in their order, and the
provider may refuse to end any of their instances.  Of each label whose nodes one template judges,
the nodes whose time is up are tried in turn until as many are ended as there were spare nodes beyond
those to be kept ready.  The ended ones are taken out, and the others with the label stay as they
are. -/
theorem checks_clear_surplus (hterm : ∀ id, FailsAsProvider (c.provider.terminate id))
    (moment : Option Moment) (f : Fleet σ) :
    ∃ checked trials g, Passes (fun n => c.check n moment) checked f g ∧
      checked.map (·.1) = f.roster.registered ∧
      (moment = none → ∃ log, c.retire f = (.ok (), { g with log })) ∧
      Tried c.provider trials f.cloud g.cloud ∧
      (trials.map (·.1)).Sublist f.roster.registered ∧
      ∀ label t, 0 < t.idleMinutes → c.Judges t label f.roster.registered →
        Cleared (f.roster.surplus label t)
          (expiredAmong label t.idleMinutes (moment.getD f.now) f.roster.registered)
          (trialsFor label trials) ∧
        g.roster.withLabel label = (f.roster.withLabel label).filter
          (·.name ∉ endedNames (trialsFor label trials)) := by
  obtain ⟨checked, g, hpasses, hnodes⟩ :=
    exists_passes (fun n => c.check n moment) (fun n f => check_ok hterm n moment f)
      f.roster.registered f
  have hmem : ∀ d ∈ checked, d.1 ∈ f.roster.registered := by
    intro d hd
    rw [← hnodes]
    exact List.mem_map_of_mem hd
  have hnames : (checked.map (·.1.name)).Nodup := by
    have hdistinct := f.roster.nodup_names
    rwa [← hnodes, List.map_map] at hdistinct
  obtain ⟨trials, htried, hclearing⟩ := clearing_of_passes hexact henabled hpasses hmem hnames
  rw [hnodes] at hclearing
  refine ⟨checked, trials, g, hpasses, hnodes, ?_, htried, hclearing.sublist, ?_⟩
  · rintro rfl
    exact retire_of_passes hpasses hnodes
  · intro label t ht hjudges
    exact ⟨hclearing.cleared label t ht hjudges, withLabel_of_clearing hclearing label⟩

end Checks

/-- Three nodes are to be kept ready. -/
def keepsThree : Controller AmpleCloud :=
  { stubborn with
    catalog := ⟨[{ Template.primedPlain "a" "ami-1" "linux" 3 with idleMinutes := 1 }]⟩ }

/-- One executor of the first node is busy and one is free, and the others have been idle for two
minutes. -/
def oneHalfBusy : Fleet AmpleCloud :=
  { threeIdle with
    roster := .ofNodes
      [{ idleNode "i-0" with executors := 2, busy := 1 }, idleNode "i-1", idleNode "i-2",
        idleNode "i-3"] }

/-- The surplus is one node.  The instance of the first node whose time is up is not ended, so that
the second goes, and the third is not tried. -/
theorem checks_clear_surplus_oneHalfBusy :
    ∃ (trials : List (Node × Bool)) (g : Fleet AmpleCloud),
      Tried keepsThree.provider trials oneHalfBusy.cloud g.cloud ∧
      Cleared 1 [idleNode "i-1", idleNode "i-2", idleNode "i-3"] (trialsFor "linux" trials) ∧
      (g.roster.withLabel "linux").map (·.instanceId) = ["i-0", "i-1", "i-3"] := by
  have hterm : ∀ id, FailsAsProvider (keepsThree.provider.terminate id) := by
    intro id w e he
    by_cases hid : id = "i-1"
    · simp only [keepsThree, stubborn, hid, if_true] at he
      exact ⟨_, (Except.error.inj he).symm⟩
    · simp [keepsThree, stubborn, hid] at he
  obtain ⟨checked, trials, g, -, -, hretire, htried, -, hall⟩ :=
    checks_clear_surplus (c := keepsThree) (fun _ => rfl) rfl hterm none oneHalfBusy
  obtain ⟨log, hretire⟩ := hretire rfl
  have hnodes : oneHalfBusy.roster.registered =
      [{ idleNode "i-0" with executors := 2, busy := 1 }, idleNode "i-1", idleNode "i-2",
        idleNode "i-3"] := rfl
  have hjudges : keepsThree.Judges
      { Template.primedPlain "a" "ami-1" "linux" 3 with idleMinutes := 1 } "linux"
      oneHalfBusy.roster.registered := by
    intro n hn _
    simp only [hnodes, List.mem_cons, List.not_mem_nil, or_false] at hn
    rcases hn with rfl | rfl | rfl | rfl <;> exact ⟨by decide, rfl⟩
  obtain ⟨hcleared, -⟩ := hall "linux" _ (by decide) hjudges
  refine ⟨trials, g, htried, hcleared, ?_⟩
  have hleft : ((keepsThree.retire oneHalfBusy).2.roster.withLabel "linux").map (·.instanceId) =
      ["i-0", "i-1", "i-3"] := by decide +kernel
  rwa [hretire] at hleft

end BuildFleet
