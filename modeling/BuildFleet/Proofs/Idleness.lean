/-
Idle clocks.

A node is brought online and taken offline, its executors become busy and free, and every now and
then it is checked.  Its idle clock tells since when it has been idle: since the last time that it
came free, or, if it has never been busy, since it came online for the first time.

* **`Dealing`**, **`Controller.dealings`** — what is done with a node, and the fleet afterwards;
* **`Controller.WasBusy`**, **`Controller.IdleFrom`** — what a history of dealings says about the
  node, without its idle clock;
* **`Node.Clocked`** — the invariant of a node's executors and its idle clock;
* **`idle_dealings`** — the invariant holds after every history, and a check ends an instance only if
  the node has not been busy for longer than its template allows.
-/
import BuildFleet.Proofs.Checks
import BuildFleet.Proofs.Health
import BuildFleet.Proofs.Rounding
import Mathlib.Data.List.Induction

namespace BuildFleet

variable {σ : Type} {c : Controller σ} {k : Nat} {f : Fleet σ}

/-! ### Dealings with a node -/

/-- What is done with a node. -/
inductive Dealing (σ : Type) where
  /-- It is brought online if its name is registered. -/
  | connect
  | online
  | offline
  /-- So many of its executors are said to be busy. -/
  | busy (executors : Int)
  | check
  /-- Something else happens in the fleet. -/
  | aside (change : Fleet σ → Fleet σ)

/-- The two nodes are in the same state of use. -/
structure Node.SameUse (n m : Node) : Prop where
  status : m.status = n.status
  busy : m.busy = n.busy
  idleSince : m.idleSince = n.idleSince
  executors : m.executors = n.executors

/-- What else happens does not touch the use of the node with the number `k`. -/
def Dealing.Spares (k : Nat) : Dealing σ → Prop
  | .aside change => ∀ f n, f.roster.node? k = some n →
      ∃ m, (change f).roster.node? k = some m ∧ n.SameUse m
  | _ => True

/-- The fleet after a dealing with the node with the number `k` at a moment. -/
def Controller.deal (c : Controller σ) (k : Nat) (f : Fleet σ) : Moment × Dealing σ → Fleet σ
  | (now, .connect) => (Fleet.connect k now f).2
  | (now, .online) =>
    { f with roster := f.roster.update k (Node.markOnline now) (Node.name_markOnline now) }
  | (_, .offline) =>
    { f with roster := f.roster.update k Node.markOffline Node.name_markOffline }
  | (now, .busy executors) =>
    { f with
      roster := f.roster.update k (Node.setBusy executors now) (Node.name_setBusy executors now) }
  | (now, .check) =>
    match f.roster.node? k with
    | some n => (c.check n (some now) f).2
    | none => f
  | (_, .aside change) => change f

/-- The fleet after a history of dealings. -/
def Controller.dealings (c : Controller σ) (k : Nat) (history : List (Moment × Dealing σ))
    (f : Fleet σ) : Fleet σ :=
  history.foldl (c.deal k) f

theorem Controller.dealings_concat (c : Controller σ) (k : Nat)
    (history : List (Moment × Dealing σ)) (x : Moment × Dealing σ) (f : Fleet σ) :
    c.dealings k (history ++ [x]) f = c.deal k (c.dealings k history f) x := by
  rw [dealings, List.foldl_append]
  rfl

/-! ### What a history says -/

/-- An executor of the node is busy after a history. -/
def Controller.BusyAfter (c : Controller σ) (k : Nat) (f : Fleet σ)
    (history : List (Moment × Dealing σ)) : Prop :=
  ∃ n, (c.dealings k history f).roster.node? k = some n ∧ 0 < n.busy

/-- The node is online after a history. -/
def Controller.OnlineAfter (c : Controller σ) (k : Nat) (f : Fleet σ)
    (history : List (Moment × Dealing σ)) : Prop :=
  ∃ n, (c.dealings k history f).roster.node? k = some n ∧ n.isOnline = true

theorem Controller.busyAfter_iff (c : Controller σ) {history : List (Moment × Dealing σ)} {n : Node}
    (hn : (c.dealings k history f).roster.node? k = some n) :
    c.BusyAfter k f history ↔ 0 < n.busy := by
  rw [BusyAfter, hn]
  simp

theorem Controller.onlineAfter_iff (c : Controller σ) {history : List (Moment × Dealing σ)}
    {n : Node} (hn : (c.dealings k history f).roster.node? k = some n) :
    c.OnlineAfter k f history ↔ n.isOnline = true := by
  rw [OnlineAfter, hn]
  simp

/-- In the course of a history an executor of the node was busy at a moment: it was so after all
that had been done before, and before all that was done later. -/
def Controller.WasBusy (c : Controller σ) (k : Nat) (f : Fleet σ)
    (history : List (Moment × Dealing σ)) (moment : Moment) : Prop :=
  ∃ before after, history = before ++ after ∧ c.BusyAfter k f before ∧
    (∀ x ∈ before, x.1.micros ≤ moment.micros) ∧ ∀ x ∈ after, moment.micros ≤ x.1.micros

/-- A history leaves the node idle from a moment on. -/
inductive Controller.IdleFrom (c : Controller σ) (k : Nat) (f : Fleet σ) :
    List (Moment × Dealing σ) → Moment → Prop
  /-- It came free for the last time. -/
  | drained {before after : List (Moment × Dealing σ)} {x : Moment × Dealing σ}
      (busy : c.BusyAfter k f before)
      (idle : ∀ later, later <+: after → ¬c.BusyAfter k f (before ++ x :: later)) :
      IdleFrom c k f (before ++ x :: after) x.1
  /-- It has never been busy, and it came online for the first time. -/
  | unused {before after : List (Moment × Dealing σ)} {x : Moment × Dealing σ}
      (idle : ∀ part, part <+: before ++ x :: after → ¬c.BusyAfter k f part)
      (offline : ∀ part, part <+: before → ¬c.OnlineAfter k f part)
      (online : c.OnlineAfter k f (before ++ [x])) :
      IdleFrom c k f (before ++ x :: after) x.1

theorem Controller.IdleFrom.concat {history : List (Moment × Dealing σ)} {s : Moment}
    (h : c.IdleFrom k f history s) {x : Moment × Dealing σ}
    (hidle : ¬c.BusyAfter k f (history ++ [x])) : c.IdleFrom k f (history ++ [x]) s := by
  cases h with
  | @drained before after y busy idle =>
    rw [List.append_assoc, List.cons_append] at hidle ⊢
    refine .drained busy fun later hl => ?_
    rcases List.prefix_concat_iff.mp hl with rfl | hl
    · exact hidle
    · exact idle later hl
  | @unused before after y idle offline online =>
    rw [List.append_assoc, List.cons_append] at hidle ⊢
    refine .unused (fun part hp => ?_) offline online
    rw [← List.cons_append, ← List.append_assoc] at hp
    rcases List.prefix_concat_iff.mp hp with rfl | hp
    · rw [List.append_assoc, List.cons_append]
      exact hidle
    · exact idle part hp

/-- As long as the node was busy, it was not idle yet. -/
theorem Controller.IdleFrom.le_of_wasBusy {history : List (Moment × Dealing σ)} {s moment : Moment}
    (h : c.IdleFrom k f history s) (hb : c.WasBusy k f history moment) :
    moment.micros ≤ s.micros := by
  obtain ⟨early, late, hsplit, hbusy, -, hlate⟩ := hb
  cases h with
  | @drained before after x busy idle =>
    rcases List.append_eq_append_iff.mp hsplit with ⟨more, rfl, hmore⟩ | ⟨more, rfl, hmore⟩
    · -- The node was busy later than it came free, unless that was the very last that happened.
      cases more with
      | nil =>
        have hlast : x :: after = late := hmore
        exact hlate x (hlast ▸ List.mem_cons_self)
      | cons y more =>
        obtain ⟨rfl, hafter⟩ := List.cons.inj hmore
        exact absurd hbusy (idle more ⟨late, hafter.symm⟩)
    · exact hlate x (by simp [hmore])
  | @unused before after x idle offline online =>
    exact absurd hbusy (idle early ⟨late, hsplit.symm⟩)

/-! ### One dealing -/

/-- A node as a launch or a call makes it: offline, not busy, and without an idle clock. -/
structure Node.IsNew (n : Node) : Prop where
  status : n.status = .offline
  busy : n.busy = 0
  idleSince : n.idleSince = none
  executors : 0 < n.executors

theorem Node.isNew_ofTemplate (t : Template) (id instanceId : String) (imageId : Json.Value)
    (spotRequest : Option String) : (ofTemplate t id instanceId imageId spotRequest).IsNew :=
  ⟨rfl, rfl, rfl, Int.natCast_pos.mpr t.executors.property⟩

/-- There are no more busy executors than executors; the idle clock stands as long as one is busy,
and it runs while the node is online with none busy. -/
structure Node.Clocked (n : Node) : Prop where
  nonneg : 0 ≤ n.busy
  le : n.busy ≤ n.executors
  unset : 0 < n.busy → n.idleSince = none
  set : n.isOnline = true → n.busy = 0 → n.idleSince.isSome = true

/-- What can become of a node by one dealing. -/
inductive Node.Dealt (now : Moment) (n : Node) : Node → Prop
  | same {m : Node} (h : n.SameUse m) : Dealt now n m
  | online : Dealt now n (n.markOnline now)
  | offline : Dealt now n n.markOffline
  | busy (executors : Int) : Dealt now n (n.setBusy executors now)

theorem Controller.dealt {n : Node} (hn : f.roster.node? k = some n) {x : Moment × Dealing σ}
    (hx : x.2.Spares k) : ∃ m, (c.deal k f x).roster.node? k = some m ∧ n.Dealt x.1 m := by
  obtain ⟨now, dealing⟩ := x
  have hsame : n.SameUse n := ⟨rfl, rfl, rfl, rfl⟩
  cases dealing with
  | connect =>
    show ∃ m, (Fleet.connect k now f).2.roster.node? k = some m ∧ n.Dealt now m
    cases hfound : f.roster.find? n.name with
    | none =>
      have hfail : Fleet.connect k now f = (.error (.notRegistered n.name), f) := by
        simp [Fleet.connect, Fleet.nodeAt_of_some hn, hfound]
      rw [hfail]
      exact ⟨n, hn, .same hsame⟩
    | some j =>
      obtain ⟨log, hconnect⟩ := Fleet.connect_of_some hn hfound now
      rw [hconnect]
      exact ⟨_, f.roster.node?_update hn (Node.markOnline now) (Node.name_markOnline now), .online⟩
  | online =>
    exact ⟨_, f.roster.node?_update hn (Node.markOnline now) (Node.name_markOnline now), .online⟩
  | offline =>
    exact ⟨_, f.roster.node?_update hn Node.markOffline Node.name_markOffline, .offline⟩
  | busy executors =>
    exact ⟨_, f.roster.node?_update hn (Node.setBusy executors now) (Node.name_setBusy executors now),
      .busy executors⟩
  | check =>
    refine ⟨n, ?_, .same hsame⟩
    simp only [deal, hn]
    have hchecked := c.checked n (some now) f
    generalize c.check n (some now) f = outcome at hchecked
    -- A check takes out names and leaves the nodes as they are.
    cases hchecked <;> exact hn
  | aside change =>
    obtain ⟨m, hm, hsame⟩ := hx f n hn
    exact ⟨m, hm, .same hsame⟩

theorem Node.Clocked.dealt {n m : Node} {now : Moment} (h : n.Clocked) (hpos : 0 < n.executors)
    (hd : n.Dealt now m) : m.Clocked ∧ m.executors = n.executors := by
  cases hd with
  | same hs =>
    obtain ⟨hstatus, hbusy, hsince, hexecutors⟩ := hs
    refine ⟨⟨?_, ?_, ?_, ?_⟩, hexecutors⟩
    · rw [hbusy]
      exact h.nonneg
    · rw [hbusy, hexecutors]
      exact h.le
    · rw [hbusy, hsince]
      exact h.unset
    · rw [isOnline, hstatus, hbusy, hsince]
      exact h.set
  | online =>
    refine ⟨⟨h.nonneg, h.le, fun hbusy => ?_, fun _ hidle => ?_⟩, rfl⟩
    · have hnot : n.isIdle = false := decide_eq_false hbusy.ne'
      show (if n.isIdle && n.idleSince.isNone then some now else n.idleSince) = none
      rw [hnot, h.unset hbusy]
      rfl
    · have hidle : n.isIdle = true := decide_eq_true hidle
      show (if n.isIdle && n.idleSince.isNone then some now else n.idleSince).isSome = true
      rw [hidle]
      cases n.idleSince <;> rfl
  | offline => exact ⟨⟨h.nonneg, h.le, h.unset, fun honline => by cases honline⟩, rfl⟩
  | busy executors =>
    have hclamp : 0 ≤ n.clampBusy executors ∧ n.clampBusy executors ≤ n.executors := by
      rw [clampBusy]
      omega
    refine ⟨⟨hclamp.1, hclamp.2, fun hbusy => ?_, fun honline hidle => ?_⟩, rfl⟩
    · have hbusy : 0 < n.clampBusy executors := hbusy
      show (if n.clampBusy executors = 0 && 0 < n.busy then some now
        else if 0 < n.clampBusy executors then none else n.idleSince) = none
      simp [hbusy, hbusy.ne']
    · have hidle : n.clampBusy executors = 0 := hidle
      show (if n.clampBusy executors = 0 && 0 < n.busy then some now
        else if 0 < n.clampBusy executors then none else n.idleSince).isSome = true
      by_cases hbusy : 0 < n.busy
      · simp [hidle, hbusy]
      · have := h.nonneg
        simpa [hidle, hbusy] using h.set honline (by omega)

/-- Where the idle clock of a node comes from that was dealt with. -/
inductive Node.Restart (now : Moment) (n m : Node) : Moment → Prop
  | kept {s : Moment} (since : n.idleSince = some s) : Restart now n m s
  | drained (busy : 0 < n.busy) : Restart now n m now
  | begun (idle : n.busy = 0) (unset : n.idleSince = none) (online : m.isOnline = true) :
    Restart now n m now

theorem Node.Dealt.clock {n m : Node} {now s : Moment} (hd : n.Dealt now m)
    (hs : m.idleSince = some s) : n.Restart now m s := by
  cases hd with
  | same h => exact .kept (h.idleSince ▸ hs)
  | online =>
    have hs : (if n.isIdle && n.idleSince.isNone then some now else n.idleSince) = some s := hs
    split at hs
    next hcond =>
      obtain rfl : now = s := Option.some.inj hs
      rw [Bool.and_eq_true, isIdle, decide_eq_true_eq, Option.isNone_iff_eq_none] at hcond
      exact .begun hcond.1 hcond.2 rfl
    · exact .kept hs
  | offline => exact .kept hs
  | busy executors =>
    have hs : (if n.clampBusy executors = 0 && 0 < n.busy then some now
      else if 0 < n.clampBusy executors then none else n.idleSince) = some s := hs
    split_ifs at hs with hcond
    · obtain rfl : now = s := Option.some.inj hs
      simp only [Bool.and_eq_true, decide_eq_true_eq] at hcond
      exact .drained hcond.2
    · exact .kept hs

/-- Only a node without an idle clock can be left idle without one. -/
theorem Node.Dealt.untouched {n m : Node} {now : Moment} (hd : n.Dealt now m) (h : n.Clocked)
    (hidle : m.busy = 0) (hnone : m.idleSince = none) : n.busy = 0 ∧ n.idleSince = none := by
  cases hd with
  | same hs => exact ⟨hs.busy ▸ hidle, hs.idleSince ▸ hnone⟩
  | online =>
    have hnone : (if n.isIdle && n.idleSince.isNone then some now else n.idleSince) = none := hnone
    split at hnone
    · cases hnone
    · exact ⟨hidle, hnone⟩
  | offline => exact ⟨hidle, hnone⟩
  | busy executors =>
    have hidle : n.clampBusy executors = 0 := hidle
    have hnone : (if n.clampBusy executors = 0 && 0 < n.busy then some now
      else if 0 < n.clampBusy executors then none else n.idleSince) = none := hnone
    by_cases hbusy : 0 < n.busy
    · simp [hidle, hbusy] at hnone
    · have := h.nonneg
      exact ⟨by omega, by simpa [hidle, hbusy] using hnone⟩

/-! ### Histories -/

section History

variable {n : Node} (hn : f.roster.node? k = some n) (hnew : n.IsNew)

include hn hnew

theorem clocked_dealings {history : List (Moment × Dealing σ)}
    (hh : ∀ x ∈ history, x.2.Spares k) :
    ∃ m, (c.dealings k history f).roster.node? k = some m ∧ m.Clocked ∧ 0 < m.executors := by
  induction history using List.reverseRecOn with
  | nil =>
    refine ⟨n, hn, ⟨hnew.busy.ge, ?_, fun h => ?_, fun h => ?_⟩, hnew.executors⟩
    · rw [hnew.busy]
      exact hnew.executors.le
    · rw [hnew.busy] at h
      exact absurd h (Int.lt_irrefl 0)
    · rw [Node.isOnline, hnew.status] at h
      cases h
  | append_singleton history x ih =>
    obtain ⟨m, hm, hclocked, hpos⟩ := ih fun y hy => hh y (List.mem_append_left _ hy)
    obtain ⟨m', hm', hdealt⟩ := c.dealt hm (hh x (by simp))
    obtain ⟨hclocked', hexecutors⟩ := hclocked.dealt hpos hdealt
    rw [c.dealings_concat]
    exact ⟨m', hm', hclocked', hexecutors ▸ hpos⟩

/-- An idle node without an idle clock has never been busy and never online. -/
theorem untouched_of_none {history : List (Moment × Dealing σ)}
    (hh : ∀ x ∈ history, x.2.Spares k) {m : Node}
    (hm : (c.dealings k history f).roster.node? k = some m) (hidle : m.busy = 0)
    (hnone : m.idleSince = none) :
    ∀ part, part <+: history → ¬c.BusyAfter k f part ∧ ¬c.OnlineAfter k f part := by
  induction history using List.reverseRecOn generalizing m with
  | nil =>
    intro part hpart
    have hstart : (c.dealings k [] f).roster.node? k = some n := hn
    rw [List.prefix_nil.mp hpart, c.busyAfter_iff hstart, c.onlineAfter_iff hstart, hnew.busy,
      Node.isOnline, hnew.status]
    decide
  | append_singleton history x ih =>
    have hh' : ∀ y ∈ history, y.2.Spares k := fun y hy => hh y (List.mem_append_left _ hy)
    obtain ⟨b, hb, hclocked, hpos⟩ := clocked_dealings hn hnew hh'
    obtain ⟨m', hm', hdealt⟩ := c.dealt hb (hh x (by simp))
    rw [← c.dealings_concat, hm] at hm'
    obtain rfl : m = m' := Option.some.inj hm'
    obtain ⟨hbusy, hsince⟩ := hdealt.untouched hclocked hidle hnone
    intro part hpart
    rcases List.prefix_concat_iff.mp hpart with rfl | hpart
    · -- Online with none busy, the node would have an idle clock.
      rw [c.busyAfter_iff hm, c.onlineAfter_iff hm]
      refine ⟨by omega, fun honline => ?_⟩
      have hset := (hclocked.dealt hpos hdealt).1.set honline hidle
      rw [hnone] at hset
      cases hset
    · exact ih hh' hb hbusy hsince part hpart

/-- The idle clock tells since when the node has been idle. -/
theorem idleFrom_of_clock {history : List (Moment × Dealing σ)}
    (hh : ∀ x ∈ history, x.2.Spares k) {m : Node} {s : Moment}
    (hm : (c.dealings k history f).roster.node? k = some m) (hs : m.idleSince = some s) :
    c.IdleFrom k f history s := by
  induction history using List.reverseRecOn generalizing m with
  | nil =>
    obtain rfl : n = m := Option.some.inj (hn.symm.trans hm)
    rw [hnew.idleSince] at hs
    cases hs
  | append_singleton history x ih =>
    have hh' : ∀ y ∈ history, y.2.Spares k := fun y hy => hh y (List.mem_append_left _ hy)
    obtain ⟨b, hb, hclocked, hpos⟩ := clocked_dealings hn hnew hh'
    obtain ⟨m', hm', hdealt⟩ := c.dealt hb (hh x (by simp))
    rw [← c.dealings_concat, hm] at hm'
    obtain rfl : m = m' := Option.some.inj hm'
    have hclocked' := (hclocked.dealt hpos hdealt).1
    have hidle : m.busy = 0 := by
      by_contra hbusy
      have := hclocked'.nonneg
      rw [hclocked'.unset (by omega)] at hs
      cases hs
    have hfree : ¬c.BusyAfter k f (history ++ [x]) := by
      rw [c.busyAfter_iff hm, hidle]
      decide
    cases hdealt.clock hs with
    | kept hkept => exact (ih hh' hb hkept).concat hfree
    | drained hbusy =>
      refine .drained ((c.busyAfter_iff hb).mpr hbusy) fun later hlater => ?_
      rw [List.prefix_nil.mp hlater]
      exact hfree
    | begun hbusy hnone honline =>
      have hbefore := untouched_of_none hn hnew hh' hb hbusy hnone
      refine .unused (fun part hpart => ?_) (fun part hpart => (hbefore part hpart).2)
        ((c.onlineAfter_iff hm).mpr honline)
      rcases List.prefix_concat_iff.mp hpart with rfl | hpart
      · exact hfree
      · exact (hbefore part hpart).1

end History

/-! ### Time -/

/-- The moment has a date, which has a year with four digits. -/
def Moment.IsDated (now : Moment) : Prop := now.micros < daysBeforeYear 10000 * day

/-- With minutes that are counted in doubles, an overdue node has an idle clock, and more time than
the whole minutes of the template has passed. -/
theorem Controller.exists_idleSince (hm : c.minutes = doubleMinutes) {t : Template} {n : Node}
    {now : Moment} (hnow : now.IsDated) (hdue : c.isOverdue t n now = true) :
    ∃ s, n.idleSince = some s ∧ s.micros + t.idleMinutes * Moment.minute < now.micros := by
  have hlong : (n.idleSince.getD now).micros + t.idleMinutes * Moment.minute < now.micros := by
    by_contra hshort
    -- No two dates are as many as 2 ^ 46 minutes apart, and so many are exact.
    have hdated : now.micros ≤ 2 ^ 46 * Moment.minute := hnow.le.trans (by decide)
    have hround : doubleMinutes (now.since (n.idleSince.getD now)) ≤
        (min t.idleMinutes (2 ^ 46) : Nat) := by
      refine doubleMinutes_le ?_ ?_
      · have : 60 * 2 ^ 46 ≤ Number.twoTo 52 := by decide
        omega
      · rw [Moment.since, ← Nat.mul_min_mul_right]
        omega
    have hwithin : c.idleMinutes n now ≤ t.idleMinutes := by
      rw [idleMinutes, hm]
      exact hround.trans (Nat.cast_le.mpr (Nat.min_le_left _ _))
    rw [isOverdue, decide_eq_true hwithin] at hdue
    cases hdue
  cases hs : n.idleSince with
  | none =>
    rw [hs, Option.getD_none] at hlong
    omega
  | some s =>
    rw [hs, Option.getD_some] at hlong
    exact ⟨s, rfl, hlong⟩

/-- After a history the node is connected and has been idle, from the moment `s` on, for longer than
the template `t` that judges it allows. -/
structure Controller.Outstays (c : Controller σ) (k : Nat) (f : Fleet σ)
    (history : List (Moment × Dealing σ)) (n : Node) (now : Moment) (t : Template) (s : Moment) :
    Prop where
  enabled : c.retentionDisabled = false
  online : n.isOnline = true
  judges : c.catalog.forNode? n = some t
  minutes_pos : 0 < t.idleMinutes
  idleFrom : c.IdleFrom k f history s
  long : s.micros + t.idleMinutes * Moment.minute < now.micros
  unused : ∀ busy, c.WasBusy k f history busy →
    busy.micros + t.idleMinutes * Moment.minute < now.micros

/-- Whatever is done with a new node, its idle clock is right, and a check keeps it unless it has
been idle for more than the whole minutes that its template allows.  The times need not be in
order: a history tells what they must be later than. -/
theorem idle_dealings (hm : c.minutes = doubleMinutes) {n : Node}
    (hn : f.roster.node? k = some n) (hnew : n.IsNew) {history : List (Moment × Dealing σ)}
    (hh : ∀ x ∈ history, x.2.Spares k) :
    ∃ m, (c.dealings k history f).roster.node? k = some m ∧ m.Clocked ∧
      ∀ (moment : Option Moment) (g : Fleet σ), g = c.dealings k history f →
        (moment.getD g.now).IsDated →
        (∃ log, c.check m moment g = (.ok .keep, { g with log })) ∨
          ∃ t s, c.Outstays k f history m (moment.getD g.now) t s := by
  obtain ⟨m, hdealt, hclocked, -⟩ := clocked_dealings (c := c) hn hnew hh
  refine ⟨m, hdealt, hclocked, ?_⟩
  intro moment g hg hdated
  have hlong : ∀ t, c.LetsGo t m (moment.getD g.now) g.roster →
      ∃ t s, c.Outstays k f history m (moment.getD g.now) t s := by
    intro t hlets
    obtain ⟨hminutes, -, honline, henabled⟩ := hlets.isIdle
    obtain ⟨s, hs, hless⟩ := Controller.exists_idleSince hm hdated hlets.isOverdue
    have hfrom := idleFrom_of_clock hn hnew hh hdealt hs
    refine ⟨t, s, henabled, honline, hlets.judges, Nat.pos_of_ne_zero hminutes, hfrom, hless, ?_⟩
    intro busy hbusy
    have := hfrom.le_of_wasBusy hbusy
    omega
  have hchecked := c.checked m moment g
  generalize c.check m moment g = outcome at hchecked ⊢
  cases hchecked with
  | kept => exact .inl ⟨_, rfl⟩
  | terminated hlets => exact .inr (hlong _ hlets)
  | refused hlets => exact .inr (hlong _ hlets)
  | failed hlets => exact .inr (hlong _ hlets)

/-- A node may be idle for half an hour. -/
def halfHour : Controller AmpleCloud :=
  { Controller.ample [{ Template.plain "linux" "ami-1" "linux" 9 with idleMinutes := 30 }] 9 with
    minutes := doubleMinutes }

/-- A node that was launched just now. -/
def launchedFleet : Fleet AmpleCloud :=
  let n := Node.ofLaunch (.plain "linux" "ami-1" "linux" 9) ⟨"i-0", "ami-1", none⟩
  { Fleet.fresh ⟨["ami-1"], [], 1⟩ ⟨0⟩ with roster := (Roster.empty.make n).register 0 }

/-- The node comes online twice, is used for ten minutes in between, and is checked when it has been
idle for exactly half an hour. -/
def tenMinutesOfUse : List (Moment × Dealing AmpleCloud) :=
  [(⟨5 * Moment.minute⟩, .connect), (⟨10 * Moment.minute⟩, .busy 3),
    (⟨20 * Moment.minute⟩, .busy (-1)), (⟨25 * Moment.minute⟩, .offline),
    (⟨40 * Moment.minute⟩, .online), (⟨50 * Moment.minute⟩, .check)]

/-- A microsecond later the node is terminated. -/
theorem idle_dealings_tenMinutesOfUse :
    launchedFleet.roster.node? 0 =
        some (.ofLaunch (.plain "linux" "ami-1" "linux" 9) ⟨"i-0", "ami-1", none⟩) ∧
      (∀ x ∈ tenMinutesOfUse, x.2.Spares 0) ∧
      ∃ m, (halfHour.dealings 0 tenMinutesOfUse launchedFleet).roster.node? 0 = some m ∧
        m.Clocked ∧
        (halfHour.check m (some ⟨50 * Moment.minute + 1⟩)
          (halfHour.dealings 0 tenMinutesOfUse launchedFleet)).1 = .ok .terminate ∧
        ∃ s, halfHour.IdleFrom 0 launchedFleet tenMinutesOfUse s ∧
          s.micros + 30 * Moment.minute < 50 * Moment.minute + 1 := by
  have hspares : ∀ x ∈ tenMinutesOfUse, x.2.Spares 0 := by
    simp [tenMinutesOfUse, Dealing.Spares]
  obtain ⟨m, hm, hclocked, hcheck⟩ :=
    idle_dealings (c := halfHour) (f := launchedFleet) rfl rfl (Node.isNew_ofTemplate _ _ _ _ _)
      hspares
  have hend : ((halfHour.dealings 0 tenMinutesOfUse launchedFleet).roster.node? 0).map
      (fun m => (halfHour.check m (some ⟨50 * Moment.minute + 1⟩)
        (halfHour.dealings 0 tenMinutesOfUse launchedFleet)).1) = some (.ok .terminate) := by
    decide +kernel
  rw [hm] at hend
  have hterm : (halfHour.check m (some ⟨50 * Moment.minute + 1⟩)
      (halfHour.dealings 0 tenMinutesOfUse launchedFleet)).1 = .ok .terminate :=
    Option.some.inj hend
  have hdated : Moment.IsDated ⟨50 * Moment.minute + 1⟩ := by
    rw [Moment.IsDated]
    decide
  refine ⟨rfl, hspares, m, hm, hclocked, hterm, ?_⟩
  rcases hcheck (some ⟨50 * Moment.minute + 1⟩) _ rfl hdated with ⟨log, hkeep⟩ | ⟨t, s, hstays⟩
  · rw [hkeep] at hterm
    cases hterm
  · have htemplate : ((halfHour.dealings 0 tenMinutesOfUse launchedFleet).roster.node? 0).map
        (fun m => (halfHour.catalog.forNode? m).map (·.idleMinutes)) = some (some 30) := by
      decide +kernel
    rw [hm, Option.map_some, hstays.judges] at htemplate
    have hminutes : t.idleMinutes = 30 := Option.some.inj (Option.some.inj htemplate)
    have hless := hstays.long
    rw [hminutes] at hless
    exact ⟨s, hstays.idleFrom, hless⟩

end BuildFleet
