/-
Checks.

A check terminates a node if there is a template that judges the node, if the node has been idle for
longer than that template allows, and if more nodes are spare than it wants to be kept ready.

* **`Controller.LetsGo`** — a template lets a node go;
* **`Controller.evaluated`** — exactly then a node is not to be kept;
* **`Controller.checked`** — what a check comes to, with all that it changes.
-/
import BuildFleet.Retention

namespace BuildFleet

variable {σ : Type}

/-- The template that judges the node allows it no more time, and wants fewer nodes to be kept ready
than are spare. -/
structure Controller.LetsGo (c : Controller σ) (t : Template) (n : Node) (now : Moment)
    (r : Roster) : Prop where
  judges : c.catalog.forNode? n = some t
  mayExpire : c.mayExpire t n = true
  isOverdue : c.isOverdue t n now = true
  spare : t.primed < r.spareCount n.labelString

/-- The node can be let go while it is connected, and none of its executors is busy. -/
theorem Controller.LetsGo.isIdle {c : Controller σ} {t : Template} {n : Node} {now : Moment}
    {r : Roster} (h : c.LetsGo t n now r) :
    t.idleMinutes ≠ 0 ∧ n.isIdle = true ∧ n.isOnline = true ∧ c.retentionDisabled = false := by
  have hmay := h.mayExpire
  rw [Controller.mayExpire] at hmay
  simp only [Bool.and_eq_true, decide_eq_true_eq, Bool.not_eq_true'] at hmay
  obtain ⟨⟨⟨hminutes, hidle⟩, honline⟩, hdisabled⟩ := hmay
  exact ⟨hminutes, hidle, honline, hdisabled⟩

namespace Controller

variable (c : Controller σ)

theorem weighed (t : Template) (n : Node) (now : Moment) (f : Fleet σ) :
    ∃ log, c.weigh t n now f =
      (.ok (if t.primed < f.roster.spareCount n.labelString then .terminate else .keep),
        { f with log }) := by
  by_cases hless : t.primed < f.roster.spareCount n.labelString
  · exact ⟨_, by simp [weigh, hless, Fleet.note]; rfl⟩
  · exact ⟨_, by simp [weigh, hless, Fleet.note]; rfl⟩

/-- A node is not to be kept exactly if a template lets it go, and to find out only writes to the
log. -/
theorem evaluated (n : Node) (moment : Option Moment) (f : Fleet σ) :
    ∃ decision log, c.evaluate n moment f = (.ok decision, { f with log }) ∧
      (decision = .terminate ↔ ∃ t, c.LetsGo t n (moment.getD f.now) f.roster) := by
  unfold evaluate
  cases ht : c.catalog.forNode? n with
  | none =>
    refine ⟨.keep, _, rfl, ?_⟩
    constructor
    · intro h
      cases h
    · rintro ⟨t, hlets⟩
      rw [hlets.judges] at ht
      cases ht
  | some t =>
    simp only [Action.bind_apply, Action.reads_apply]
    generalize moment.getD f.now = now
    -- No other template judges the node, so that one whole condition decides.
    have hone : (∃ s, c.LetsGo s n now f.roster) ↔
        (c.mayExpire t n && c.isOverdue t n now) = true ∧
          t.primed < f.roster.spareCount n.labelString := by
      rw [Bool.and_eq_true]
      constructor
      · rintro ⟨s, hs⟩
        obtain rfl : t = s := Option.some.inj (ht.symm.trans hs.judges)
        exact ⟨⟨hs.mayExpire, hs.isOverdue⟩, hs.spare⟩
      · rintro ⟨⟨hmay, hdue⟩, hspare⟩
        exact ⟨t, ht, hmay, hdue, hspare⟩
    by_cases hdue : (c.mayExpire t n && c.isOverdue t n now) = true
    · obtain ⟨log, hw⟩ := c.weighed t n now f
      rw [if_pos hdue, hw]
      refine ⟨_, log, rfl, ?_⟩
      rw [hone]
      by_cases hspare : t.primed < f.roster.spareCount n.labelString
      · simp [hdue, hspare]
      · simp [hspare]
    · rw [if_neg hdue]
      refine ⟨.keep, f.log, rfl, ?_⟩
      simp [hone, hdue]

end Controller

/-- What a check can come to, each with what it changes. -/
inductive Checked (c : Controller σ) (n : Node) (now : Moment) (f : Fleet σ) :
    Except Failure Retention × Fleet σ → Prop
  | kept {log : List LogEntry} (hkeep : ∀ t, ¬c.LetsGo t n now f.roster) :
      Checked c n now f (.ok .keep, { f with log })
  /-- The provider ended the instance. -/
  | terminated {t : Template} {w : σ} {log : List LogEntry} (hlets : c.LetsGo t n now f.roster)
      (hterm : c.provider.terminate n.instanceId f.cloud = (.ok (), w)) :
      Checked c n now f
        (.ok .terminate, { f with cloud := w, roster := f.roster.remove n.name, log })
  /-- The provider was in trouble, and the node stays. -/
  | refused {t : Template} {detail : String} {w : σ} {log : List LogEntry}
      (hlets : c.LetsGo t n now f.roster)
      (hterm : c.provider.terminate n.instanceId f.cloud = (.error (.provider detail), w)) :
      Checked c n now f (.ok .keep, { f with cloud := w, log })
  | failed {t : Template} {e : Failure} {w : σ} {log : List LogEntry}
      (hlets : c.LetsGo t n now f.roster)
      (hterm : c.provider.terminate n.instanceId f.cloud = (.error e, w))
      (he : ∀ detail, e ≠ .provider detail) :
      Checked c n now f (.error e, { f with cloud := w, log })

/-- To take out a name that is not there changes nothing. -/
theorem Roster.remove_of_find? {r : Roster} {name : String} (h : r.find? name = none) :
    r.remove name = r := by
  have horder : (r.remove name).order = r.order := by
    refine List.filter_eq_self.mpr fun k hk => ?_
    have := List.find?_eq_none.mp h k hk
    simpa using this
  have hnodes : (r.remove name).nodes = r.nodes := rfl
  generalize r.remove name = s at horder hnodes
  cases r
  cases s
  cases horder
  cases hnodes
  rfl

theorem Fleet.removed (name : String) (f : Fleet σ) :
    ∃ found log, Fleet.remove name f =
      (.ok found, { f with roster := f.roster.remove name, log }) := by
  cases h : f.roster.find? name with
  | none =>
    refine ⟨none, f.log, ?_⟩
    rw [Fleet.remove_of_none h, Roster.remove_of_find? h]
  | some k =>
    obtain ⟨log, hremove⟩ := Fleet.remove_of_some h
    exact ⟨some k, log, hremove⟩

theorem Controller.checked (c : Controller σ) (n : Node) (moment : Option Moment) (f : Fleet σ) :
    Checked c n (moment.getD f.now) f (c.check n moment f) := by
  obtain ⟨decision, log, he, hlets⟩ := c.evaluated n moment f
  unfold check
  rw [Action.bind_apply, he]
  cases decision with
  | keep =>
    refine .kept fun t ht => ?_
    have hgo := hlets.mpr ⟨t, ht⟩
    cases hgo
  | terminate =>
    obtain ⟨t, ht⟩ := hlets.mp rfl
    simp only [Action.bind_apply, Action.attempt_apply, Fleet.consult, Action.onPart_apply]
    rcases hr : c.provider.terminate n.instanceId f.cloud with ⟨e | u, w⟩
    · cases e with
      | provider detail => exact .refused ht hr
      | _ => exact .failed ht hr (by simp)
    · obtain ⟨found, log', hremove⟩ := Fleet.removed n.name { f with cloud := w, log }
      show Checked c n _ f ((Fleet.remove n.name >>= fun _ => _) { f with cloud := w, log })
      rw [Action.bind_of_ok hremove]
      exact .terminated ht hr

end BuildFleet
