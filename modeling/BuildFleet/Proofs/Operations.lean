/-
The operations of the controllers as moves.

Each operation is shown to come about by moves, from the small steps up to whole courses of events.
Those that take a slot or give one back have a statement of their own: **`Leads.reserve`** for the
taking, **`leads_submit`**, **`leads_launch`** and **`keeps_cancel`** for the three ways in which a
slot is given back.  All others keep what is in hand, because they are put together from steps that
do.

The main statement is **`moves_run`**: an orderly controller gets by moves from the start of a
course of events to its end, with no slots in hand.
-/
import BuildFleet.Proofs.Slots

namespace BuildFleet

open Fleet (Step nodeAt makeNode register connect remove)

variable {σ α : Type} {c : Controller σ} {allowed : (σ → σ) → Prop}

/-! ### Nodes and slots -/

namespace Keeps

theorem nodeAt (k : Nat) : Keeps c allowed (nodeAt k : Step σ Node) := by
  unfold Fleet.nodeAt
  refine (reads _).bind fun n => ?_
  cases n with
  | none => exact fail _
  | some n => exact pure n

theorem makeNode (n : Node) : Keeps c allowed (makeNode n : Step σ Nat) :=
  (reads _).bind fun k => (changeRoster _).bind fun _ => pure k

theorem register (k : Nat) : Keeps c allowed (register k : Step σ Unit) :=
  (nodeAt k).bind fun _ => (changeRoster _).bind fun _ => note _ _

theorem connect (k : Nat) (now : Moment) : Keeps c allowed (connect k now : Step σ Unit) := by
  refine (nodeAt k).bind fun n => (reads _).bind fun found => ?_
  cases found with
  | none => exact fail _
  | some _ => exact (changeRoster _).bind fun _ => note _ _

theorem remove (name : String) : Keeps c allowed (remove name : Step σ (Option Nat)) := by
  refine (reads _).bind fun found => ?_
  cases found with
  | none => exact pure none
  | some k => exact (changeRoster _).bind fun _ => (note _ _).bind fun _ => pure (some k)

end Keeps

/-- The slots in hand after one was asked for. -/
def Hand.ifGranted (image : String) (h : Hand) : Except Failure Bool → Hand
  | .ok true => h.addBare image
  | _ => h

/-- A slot that is granted for a template of the catalog is in hand afterwards. -/
theorem Leads.reserve {t : Template} (ht : t ∈ c.catalog.templates) (h : Hand) :
    Leads c allowed h (c.reserve t.imageId t.instanceCap) (h.ifGranted t.imageId) := by
  intro f
  -- A count changes the world outside, whether it has an answer or not.
  have hcount : ∀ (image : Option String) {v w : σ} {r : Except Failure Nat} {g : Fleet σ},
      c.provider.count image v = (r, w) → g.cloud = v →
        Move c allowed (h, g) (h, { g with cloud := w }) := by
    intro image v w r g hv hg
    have hd : Drift c allowed v (c.provider.count image v).2 := .count image v
    rw [hv] at hd
    exact .drift (hg ▸ hd)
  have hreserved := c.reserved t.imageId t.instanceCap f
  generalize c.reserve t.imageId t.instanceCap f = outcome at hreserved
  cases hreserved with
  | totalError hn => exact .single (hcount none hn rfl)
  | imageError hn hm =>
    exact (Relation.ReflTransGen.single (hcount none hn rfl)).tail (hcount _ hm rfl)
  | refused hn hm =>
    have hcounts : Moves c allowed (h, f) (h, { f with cloud := _ }) :=
      (Relation.ReflTransGen.single (hcount none hn rfl)).tail (hcount _ hm rfl)
    exact hcounts.tail (.still rfl rfl rfl)
  | granted hn hm hr =>
    have htake : Moves c allowed (h, f) (h.addBare t.imageId,
        { f with cloud := _, ledger := f.ledger.take t.imageId }) :=
      .single (.take ht hn hm hr)
    exact htake.tail (.still rfl rfl rfl)

/-! ### Launches -/

/-- What a launch does when the provider has launched its instance. -/
def Controller.takeIn (c : Controller σ) (t : Template) (handle : LaunchHandle) : Step σ Nat := do
  let k ← Fleet.makeNode (Node.ofLaunch t handle)
  Fleet.register k
  match ← (c.bringUp handle k).attempt with
  | .ok _ => return k
  | .error failure =>
    Controller.giveUp k failure
    Action.fail failure

theorem Controller.launch_eq (c : Controller σ) (t : Template) :
    c.launch t = Action.ensuring
      (do
        let handle ← Fleet.consult (c.provider.launch t)
        c.takeIn t handle)
      (Controller.release t.imageId) := by
  simp only [launch, beginLaunch, bind_assoc, pure_bind]
  rfl

/-- A launch for which the provider has no instance only gives its slot back. -/
theorem Controller.launch_of_error (c : Controller σ) {t : Template} {f : Fleet σ} {e : Failure}
    {w : σ} (hl : c.provider.launch t f.cloud = (.error e, w)) :
    c.launch t f = (.error e, { f with cloud := w, ledger := f.ledger.release t.imageId }) := by
  rw [launch_eq]
  simp [Action.ensuring, Fleet.consult, hl, release, Fleet.changeLedger]

/-- A launch for which the provider has an instance takes it in and gives its slot back. -/
theorem Controller.launch_of_ok (c : Controller σ) {t : Template} {f : Fleet σ}
    {handle : LaunchHandle} {w : σ} (hl : c.provider.launch t f.cloud = (.ok handle, w)) :
    c.launch t f =
      ((c.takeIn t handle { f with cloud := w }).1,
        { (c.takeIn t handle { f with cloud := w }).2 with
          ledger := (c.takeIn t handle { f with cloud := w }).2.ledger.release t.imageId }) := by
  rw [launch_eq]
  simp [Action.ensuring, Fleet.consult, hl, release, Fleet.changeLedger]

/-- What is recorded of a launch that ended in an outcome. -/
def Progress.ofOutcome : Except Failure Nat → Progress
  | .ok node => .done node
  | .error failure => .failed failure

theorem Progress.ofOutcome_ne_queued (r : Except Failure Nat) :
    Progress.ofOutcome r ≠ .queued := by
  cases r <;> simp [Progress.ofOutcome]

/-- A launch that waits is carried out, and its end is recorded. -/
theorem Controller.carryOut_of_queued (c : Controller σ) {k : Nat} {t : Template} {f : Fleet σ}
    (hk : f.pool.launches[k]? = some ⟨t, .queued⟩) :
    let run := c.launch t { f with pool := f.pool.record k .running }
    c.carryOut k f =
      (.ok (), { run.2 with pool := run.2.pool.record k (.ofOutcome run.1) }) := by
  intro run
  have hrun : c.launch t { f with pool := f.pool.record k .running } = run := rfl
  simp only [carryOut, Action.bind_apply, Action.reads_apply, hk, Fleet.changePool,
    Action.modify_apply, Action.attempt_apply, hrun]
  rcases hr : run.1 with e | node <;> simp [Progress.ofOutcome]

/-- Nothing happens to a launch that does not wait. -/
theorem Controller.carryOut_of_not_queued (c : Controller σ) {k : Nat} {f : Fleet σ}
    (hk : ∀ t, f.pool.launches[k]? ≠ some ⟨t, .queued⟩) : c.carryOut k f = (.ok (), f) := by
  rw [carryOut, Action.bind_apply, Action.reads_apply]
  rcases hl : f.pool.launches[k]? with _ | ⟨t, progress⟩
  · rfl
  · cases progress with
    | queued => exact absurd hl (hk t)
    | _ => rfl

/-- What happens while launches wait comes about by moves. -/
def Controller.Steady (c : Controller σ) (allowed : (σ → σ) → Prop) : Prop :=
  ∀ h f, Moves c allowed (h, f) (h, c.interlude.happen f)

section Steady

variable (hc : c.Steady allowed)

include hc

theorem keeps_takeIn (t : Template) (handle : LaunchHandle) :
    Keeps c allowed (c.takeIn t handle) := by
  refine (Keeps.makeNode _).bind fun k => (Keeps.register k).bind fun _ => ?_
  have hup : Keeps c allowed (c.bringUp handle k) := by
    have hhappen : Keeps c allowed (Action.modify c.interlude.happen) := hc
    refine hhappen.bind fun _ => (Keeps.consult (.awaitRunning _ _)).bind fun id => ?_
    exact (Keeps.changeRoster _).bind fun _ => (Keeps.reads _).bind fun now => .connect k now
  refine hup.attempt.bind fun r => ?_
  cases r with
  | ok _ => exact .pure k
  | error failure =>
    refine Keeps.bind ?_ fun _ => .fail failure
    refine (Keeps.nodeAt k).bind fun n => (Keeps.note _ _).bind fun _ => ?_
    exact (Keeps.remove _).bind fun _ => .pure ()

/-- A launch gives back the slot that was in hand for it, whatever its outcome is. -/
theorem leads_launch (t : Template) (h : Hand) :
    Leads c allowed (h.addBare t.imageId) (c.launch t) fun _ => h := by
  intro f
  rcases hl : c.provider.launch t f.cloud with ⟨e | handle, w⟩
  · rw [c.launch_of_error hl]
    exact (Relation.ReflTransGen.single (.fail hl)).tail .giveBare
  · rw [c.launch_of_ok hl]
    -- From here on there is an instance, and the slot counts as one with an instance.
    have hm : Moves c allowed (h.addBare t.imageId, f)
        (h.addBacked t.imageId, (c.takeIn t handle { f with cloud := w }).2) :=
      (Relation.ReflTransGen.single (.launch hl)).trans (keeps_takeIn hc t handle _ _)
    exact hm.tail .giveBacked

theorem keeps_carryOut (k : Nat) : Keeps c allowed (c.carryOut k) := by
  intro h f
  by_cases hk : ∃ t, f.pool.launches[k]? = some ⟨t, .queued⟩
  · obtain ⟨t, hk⟩ := hk
    rw [c.carryOut_of_queued hk]
    set g : Fleet σ := { f with pool := f.pool.record k .running }
    have hpick : Moves c allowed (h, f) (h.addBare t.imageId, g) := .single (.pick hk (by decide))
    have hlaunch : Moves c allowed (h.addBare t.imageId, g) (h, (c.launch t g).2) :=
      leads_launch hc t h g
    -- Whatever went on while the launch waited, it was not put back into the queue.
    have hstarted : (c.launch t g).2.pool.Started k :=
      hlaunch.started (Pool.started_record hk (by decide))
    exact (hpick.trans hlaunch).tail (.settle hstarted (Progress.ofOutcome_ne_queued _))
  · rw [c.carryOut_of_not_queued (by simpa using hk)]

theorem keeps_runQueue (n : Nat) : Keeps c allowed (c.runQueue n) := by
  induction n with
  | zero => exact .pure 0
  | succ n ih =>
    refine (Keeps.reads _).bind fun queue => ?_
    cases queue with
    | nil => exact .pure 0
    | cons k rest =>
      refine Keeps.bind (.of_still (fun _ => rfl) (fun _ => rfl) fun _ => rfl) fun _ => ?_
      exact (keeps_carryOut hc k).bind fun _ => ih.bind fun _ => .pure _

theorem keeps_drain : Keeps c allowed c.drain := by
  have hone : Keeps c allowed (do c.runQueue (← Action.reads (·.pool.queue.length))) :=
    (Keeps.reads _).bind fun _ => keeps_runQueue hc _
  have : ∀ n, Keeps c allowed (c.drainWithin n) := by
    intro n
    induction n with
    | zero => exact hone
    | succ n ih =>
      exact (Keeps.reads _).bind fun _ => (keeps_runQueue hc _).bind fun _ =>
        ih.bind fun _ => .pure _
  exact this _

/-- A launch that is handed in takes its slot along; a launch that is refused loses it. -/
theorem leads_submit (t : Template) (h : Hand) :
    Leads c allowed (h.addBare t.imageId) (c.submit t) fun _ => h := by
  have hrefusal : Keeps c allowed c.refusal? := by
    refine (Keeps.reads _).bind fun isOpen => ?_
    cases isOpen with
    | true => exact Keeps.consult .refuses
    | false => exact .pure _
  refine (Leads.of_keeps hrefusal _).bind (fun reason _ _ => ?_) fun e f he => ?_
  swap
  · obtain ⟨reason, w, hr, -⟩ := c.refusal?_ok f
    simp [hr] at he
  cases reason with
  | some reason =>
    have hgive : Leads c allowed (h.addBare t.imageId) (Controller.release t.imageId)
        fun _ => h := fun _ => .single .giveBare
    exact hgive.bind (fun _ _ _ => .of_keeps (.pure _) h) fun _ _ _ => rfl
  | none =>
    have hpush : Leads c allowed (h.addBare t.imageId) (Fleet.changePool (·.push t))
        fun _ => h := fun _ => .single .push
    refine (Leads.of_keeps (.reads _) _).bind (fun k _ _ => ?_) fun _ _ he => by simp at he
    refine hpush.bind (fun _ _ _ => .of_keeps ?_ h) fun _ _ _ => rfl
    by_cases he : c.isEager
    · simp only [he, if_true]
      exact (keeps_drain hc).bind fun _ => .pure _
    · simp only [he]
      exact .pure _

theorem keeps_shutdown (wait : Bool) : Keeps c allowed (c.shutdown wait) := by
  unfold Controller.shutdown
  by_cases ho : c.ownsPool
  · rw [if_pos ho]
    have hclose : Keeps c allowed (Fleet.changePool (·.close) : Step σ Unit) :=
      .of_still (fun _ => rfl) (fun _ => rfl) fun _ => rfl
    refine hclose.bind fun _ => ?_
    cases wait with
    | true => exact (keeps_drain hc).bind fun _ => .pure ()
    | false => exact .pure ()
  · rw [if_neg ho]
    exact .pure ()

end Steady

/-- A launch that is cancelled before its turn gives its slot back; any other has none to give. -/
theorem keeps_cancel (k : Nat) : Keeps c allowed (Controller.cancel k) := by
  intro h f
  rcases hl : f.pool.launches[k]? with _ | ⟨t, progress⟩
  · have : (Controller.cancel k f).2 = f := by simp [Controller.cancel, hl]
    rw [this]
  · cases progress with
    | queued =>
      have : (Controller.cancel k f).2 = { f with
          pool := f.pool.record k .cancelled, ledger := f.ledger.release t.imageId } := by
        simp [Controller.cancel, hl, Fleet.changePool, Controller.release, Fleet.changeLedger]
      rw [this]
      have hpick : Moves c allowed (h, f)
          (h.addBare t.imageId, { f with pool := f.pool.record k .cancelled }) :=
        .single (.pick hl (by decide))
      exact hpick.tail .giveBare
    | _ =>
      have : (Controller.cancel k f).2 = f := by simp [Controller.cancel, hl]
      rw [this]

/-! ### Decisions -/

/-- A step that settles for a default ends with the slots in hand that go with the default, if they
are those that go with a failure. -/
theorem Leads.settlingFor {default : α} {label : String} {m : Step σ α} {h : Hand}
    {after : Except Failure α → Hand} (hm : Leads c allowed h m after)
    (he : ∀ e, after (.error e) = after (.ok default)) :
    Leads c allowed h (Controller.settlingFor default label m) after := by
  intro f
  have hf := hm f
  rcases hr : m f with ⟨e | a, g⟩
  · rw [hr] at hf
    cases e with
    | provider detail =>
      obtain ⟨log, hl⟩ := Controller.settlingFor_of_provider default label hr
      rw [hl]
      have hg : Moves c allowed (h, f) (after (.ok default), g) := he _ ▸ hf
      exact hg.tail (.still rfl rfl rfl)
    | _ =>
      rw [Controller.settlingFor_of_other default label hr (by simp)]
      exact hf
  · rw [hr] at hf
    rw [Controller.settlingFor_of_ok default label hr]
    exact hf

theorem keeps_pendingAmong (nodes : List Node) : Keeps c allowed (c.pendingAmong nodes) := by
  induction nodes with
  | nil => exact .pure []
  | cons n rest ih =>
    unfold Controller.pendingAmong
    cases n.awaitedRequest? with
    | none => exact ih
    | some id => exact (Keeps.consult (.requestState id)).bind fun _ => ih.bind fun _ => .pure _

theorem keeps_assess (label : String) (excess : Int) :
    Keeps c allowed (c.assess label excess) := by
  refine (Keeps.reads _).bind fun nodes => (keeps_pendingAmong nodes).bind fun pending => ?_
  refine (Keeps.reads _).bind fun spare => (Keeps.note _ _).bind fun _ => ?_
  cases c.catalog.forLabel? (some label) with
  | none => exact (Keeps.note _ _).bind fun _ => .pure none
  | some t =>
    refine (Keeps.note _ _).bind fun _ => ?_
    split
    · exact .pure _
    · refine (Keeps.reads _).bind fun now => Keeps.bind ?_ fun _ => .pure _
      exact .of_still (fun _ => rfl) (fun _ => rfl) fun _ => rfl

section Steady

variable (hc : c.Steady allowed)

include hc

/-- Each launch that is handed in brings its own slot, so a plan of any length leaves none in
hand. -/
theorem keeps_launchUpTo (label : String) {t : Template} (ht : t ∈ c.catalog.templates)
    (units : Nat) : Keeps c allowed (c.launchUpTo label t units) := by
  induction units with
  | zero => exact .pure []
  | succ n ih =>
    refine .of_leads fun h => ?_
    have hreserve : Leads c allowed h
        (Controller.settlingFor false label (c.reserve t.imageId t.instanceCap))
        (h.ifGranted t.imageId) := (Leads.reserve ht h).settlingFor fun _ => rfl
    refine hreserve.bind (fun granted _ _ => ?_) fun _ _ _ => rfl
    cases granted with
    | false => exact .of_keeps (.pure []) h
    | true =>
      refine (leads_submit hc t h).bind (fun r _ _ => ?_) fun _ _ _ => rfl
      cases r with
      | ok k => exact .of_keeps (ih.bind fun _ => .pure _) h
      | error reason => exact .of_keeps ((Keeps.note _ _).bind fun _ => .pure []) h

theorem keeps_decide (label : String) (excess : Int) :
    Keeps c allowed (c.decide label excess) := by
  refine (Keeps.note _ _).bind fun _ => .of_leads fun h => ?_
  have hassess : Leads c allowed h
      (Controller.settlingFor none label (c.assess label excess)) fun _ => h :=
    (Leads.of_keeps (keeps_assess label excess) h).settlingFor fun _ => rfl
  refine hassess.bind (fun found f hf => ?_) fun _ _ _ => rfl
  cases found with
  | none => exact .of_keeps (.pure []) h
  | some found =>
    obtain ⟨t, need⟩ := found
    have ht : t ∈ c.catalog.templates :=
      List.mem_of_find?_eq_some (Controller.forLabel?_of_settled hf)
    dsimp only
    rw [Controller.launchWhile_eq]
    refine Leads.of_keeps ((keeps_launchUpTo hc label ht _).bind fun plan => ?_) h
    split
    · exact (Keeps.note _ _).bind fun _ => .pure plan
    · exact .pure plan

theorem keeps_provision (name : String) : Keeps c allowed (c.provision name) := by
  refine .of_leads fun h => ?_
  refine (Leads.of_keeps (.ofExcept (c.catalog.named name)) h).bind (fun t f hf => ?_)
    fun _ _ _ => rfl
  have ht : t ∈ c.catalog.templates := c.catalog.mem_of_named hf
  refine (Leads.reserve ht h).bind (fun granted _ _ => ?_) fun _ _ _ => rfl
  cases granted with
  | true => exact leads_launch hc t h
  | false => exact .of_keeps (.fail _) h

end Steady

/-! ### Single nodes, checks and sweeps -/

theorem keeps_attach (id : String) (template : Option String) :
    Keeps c allowed (c.attach id template) := by
  refine (Keeps.ofExcept _).bind fun t => (Keeps.consult (.describe id)).bind fun description => ?_
  refine (Keeps.ofExcept _).bind fun imageId => (Keeps.makeNode _).bind fun k => ?_
  refine (Keeps.register k).bind fun _ => (Keeps.ofExcept _).bind fun running => ?_
  have hnote : Keeps c allowed (do
      Fleet.note .info s!"Attached instance {id} as {(Node.ofTemplate t id id imageId none).name}"
      return k) := (Keeps.note _ _).bind fun _ => .pure k
  cases running with
  | true => exact (Keeps.reads _).bind fun now => (Keeps.connect k now).bind fun _ => hnote
  | false => exact hnote

theorem keeps_evaluate (n : Node) (moment : Option Moment) :
    Keeps c allowed (c.evaluate n moment) := by
  unfold Controller.evaluate
  cases c.catalog.forNode? n with
  | none => exact (Keeps.note _ _).bind fun _ => .pure _
  | some t =>
    refine (Keeps.reads _).bind fun now => ?_
    dsimp only
    split
    · refine (Keeps.reads _).bind fun idle => (Keeps.note _ _).bind fun _ => ?_
      split
      · exact (Keeps.note _ _).bind fun _ => .pure _
      · exact (Keeps.note _ _).bind fun _ => .pure _
    · exact .pure _

theorem keeps_check (n : Node) (moment : Option Moment) :
    Keeps c allowed (c.check n moment) := by
  refine (keeps_evaluate n moment).bind fun decision => ?_
  cases decision with
  | keep => exact .pure _
  | terminate =>
    refine (Keeps.consult (.terminate _)).attempt.bind fun r => ?_
    cases r with
    | ok _ => exact (Keeps.remove _).bind fun _ => .pure _
    | error e =>
      cases e with
      | provider detail => exact (Keeps.note _ _).bind fun _ => .pure _
      | _ => exact .fail _

theorem keeps_retire : Keeps c allowed c.retire := by
  have hall : ∀ nodes, Keeps c allowed (c.checkAll nodes) := by
    intro nodes
    induction nodes with
    | nil => exact .pure 0
    | cons n rest ih => exact (keeps_check n none).bind fun _ => ih.bind fun _ => .pure _
  refine (Keeps.reads _).bind fun nodes => (hall nodes).bind fun count => ?_
  split
  · exact .note _ _
  · exact .pure ()

theorem keeps_topUp (hc : c.Steady allowed) (labels : List String) :
    Keeps c allowed (c.topUp labels) := by
  induction labels with
  | nil => exact .pure []
  | cons label rest ih => exact (keeps_decide hc label 0).bind fun _ => ih.bind fun _ => .pure _

theorem keeps_sweep (hc : c.Steady allowed) (retains : Bool) :
    Keeps c allowed (c.sweep retains) := by
  refine (Keeps.reads _).bind fun _ => (Keeps.note _ _).bind fun _ => ?_
  refine (keeps_topUp hc _).bind fun plans => ?_
  cases retains with
  | true => exact keeps_retire.bind fun _ => .pure plans
  | false => exact .pure plans

/-! ### Courses of events -/

theorem moves_perform (hc : c.Steady allowed) {e : Event σ} (he : e.Within allowed) (h : Hand)
    (f : Fleet σ) : Moves c allowed (h, f) (h, c.perform f e) := by
  cases e with
  | demand label excess => exact keeps_decide hc label excess h f
  | sweep retains => exact keeps_sweep hc retains h f
  | provision template => exact keeps_provision hc template h f
  | attach id template => exact keeps_attach id template h f
  | check node moment => exact keeps_check node moment h f
  | carryOut launch => exact keeps_carryOut hc launch h f
  | runQueue atMost => exact keeps_runQueue hc atMost h f
  | cancel launch => exact keeps_cancel launch h f
  | shutdown wait => exact keeps_shutdown hc wait h f
  | elsewhere world now nodes =>
    have hworld : Moves c allowed (h, f) (h, { f with cloud := world f.cloud }) :=
      .single (.drift (.elsewhere he f.cloud))
    exact hworld.tail (.still rfl rfl rfl)

theorem Controller.Steady.moves_run (hc : c.Steady allowed) {events : List (Event σ)}
    (he : ∀ e ∈ events, e.Within allowed) (h : Hand) (f : Fleet σ) :
    Moves c allowed (h, f) (h, c.run events f) := by
  induction events generalizing f with
  | nil => exact .refl
  | cons e events ih =>
    rw [Controller.run_cons]
    have hfirst := moves_perform hc (he e List.mem_cons_self) h f
    exact hfirst.trans (ih (fun e' he' => he e' (List.mem_cons_of_mem e he')) _)

/-- By induction on how deep waits are nested: what happens during a wait is a course of events of
the controller whose waits are less deep. -/
theorem Controller.Orderly.steady (hc : c.Orderly allowed) : c.Steady allowed := by
  induction hc with
  | still hi =>
    intro h f
    rw [hi]
    exact .refl
  | busy _ i hi ih =>
    intro h f
    obtain ⟨events, he, hf⟩ := hi f
    show Moves _ allowed (h, f) (h, i.happen f)
    rw [hf]
    exact (ih.moves_run he h f).of_interlude i

/-- **A course of events comes about by moves**, with no slots in hand at its start and at its
end. -/
theorem moves_run (hc : c.Orderly allowed) {events : List (Event σ)}
    (he : ∀ e ∈ events, e.Within allowed) (f : Fleet σ) :
    Moves c allowed (.none, f) (.none, c.run events f) :=
  hc.steady.moves_run he .none f

end BuildFleet
