/-
Labels that differ in their spacing.

The label strings of templates have single spaces between their words, but a label that is asked for
is only trimmed, and nodes are found by their label strings exactly.  So spacing counts between the
words of a label, and around it as far as nodes are concerned:

* **`Text.SingleSpaced`** — the words of a text are separated by single spaces, whatever blanks stand
  around them;
* **`Catalog.forLabel?_eq`** — a label is served like its normal form, or not at all;
* **`Fleet.standing`** — what the nodes with exactly a label string count for;
* **`decide_respaced`** — two labels of one normal form are decided alike if both or neither of them
  are single-spaced and the nodes under each of them count for the same.
-/
import BuildFleet.Proofs.NormalForm
import BuildFleet.Proofs.Promises
import Mathlib.Data.List.Find

namespace BuildFleet

open Controller (needFor unitsFor executorsOf)

variable {σ : Type} {c : Controller σ}

/-! ### Normal form -/

namespace Text

/-- The words of a text, joined by single spaces. -/
def tidy (s : String) : String := unwords (words s)

/-- The words of the text are separated by single spaces. -/
def SingleSpaced (s : String) : Prop := trim s = tidy s
deriving Decidable

theorem tidy_tidy (s : String) : tidy (tidy s) = tidy s := by
  rw [tidy, tidy, words_unwords_words]

theorem tidy_trim (s : String) : tidy (trim s) = tidy s := by
  rw [tidy, tidy, words_trim]

theorem singleSpaced_tidy (s : String) : SingleSpaced (tidy s) := by
  rw [SingleSpaced, tidy_tidy]
  exact trim_unwords_words s

end Text

open Text (SingleSpaced tidy trim)

/-! ### Templates -/

theorem Template.serves_iff {t : Template} (ht : tidy t.labelString = t.labelString)
    (label : String) :
    t.serves (some label) = true ↔
      SingleSpaced label ∧ (tidy label = t.labelString ∨ tidy label ∈ t.labels) := by
  simp only [serves, Bool.or_eq_true, decide_eq_true_eq, List.contains_iff_mem]
  constructor
  · intro h
    -- What a template serves is in normal form itself.
    have htrim : tidy (trim label) = trim label := by
      rcases h with hall | hword
      · rw [hall, ht]
      · exact Text.unwords_words_of_mem hword
    rw [Text.tidy_trim] at htrim
    exact ⟨htrim.symm, htrim ▸ h⟩
  · rintro ⟨hspaced, h⟩
    rw [SingleSpaced] at hspaced
    rwa [hspaced]

theorem Template.serves_eq {t : Template} (ht : tidy t.labelString = t.labelString)
    (label : String) :
    t.serves (some label) = (decide (SingleSpaced label) && t.serves (some (tidy label))) := by
  rw [Bool.eq_iff_iff, Bool.and_eq_true, decide_eq_true_eq, serves_iff ht, serves_iff ht,
    Text.tidy_tidy, and_iff_right (Text.singleSpaced_tidy label)]

/-- A label is served like its normal form, or not at all. -/
theorem Catalog.forLabel?_eq {catalog : Catalog}
    (htidy : ∀ t ∈ catalog.templates, tidy t.labelString = t.labelString) (label : String) :
    catalog.forLabel? (some label) =
      if SingleSpaced label then catalog.forLabel? (some (tidy label)) else none := by
  split
  next hspaced =>
    refine List.find?_congr fun t ht => ?_
    rw [t.serves_eq (htidy t ht), decide_eq_true hspaced, Bool.true_and]
  next hspaced =>
    refine List.find?_eq_none.mpr fun t ht => ?_
    rw [t.serves_eq (htidy t ht), decide_eq_false hspaced, Bool.false_and]
    exact Bool.false_ne_true

/-! ### Decisions -/

/-- What the nodes with exactly a label string count for: the idle ones less those that may still
come up, and the executors of the latter. -/
def Fleet.standing (s : Scene) (label : String) (f : Fleet σ) : Int × Int :=
  (f.roster.spareCount label - (f.roster.awaited label s).length,
    executorsOf (f.roster.awaited label s))

/-- What is needed for a label depends on it by the nodes that have it only. -/
theorem needed_congr {s : Scene} {f : Fleet σ} {a b : String}
    (h : f.standing s a = f.standing s b) (t : Template) (excess : Int) :
    f.needed (fun _ => s) t a excess = f.needed (fun _ => s) t b excess := by
  obtain ⟨hidle, hexecutors⟩ := Prod.mk.inj h
  rw [Fleet.needed, Fleet.needed, needFor, needFor, hidle, hexecutors]

section Calm

variable {s : Scene} {calm : Set σ} (hc : c.Calm s calm)
include hc

theorem Controller.Calm.decide_unserved {label : String}
    (hnone : c.catalog.forLabel? (some label) = none) (excess : Int) {f : Fleet σ}
    (hf : f.cloud ∈ calm) : ∃ g, c.decide label excess f = (.ok [], g) ∧ Alike f g := by
  obtain ⟨w, -, hpending⟩ := hc.pendingAmong (f.roster.withLabel label) hf
  obtain ⟨log, hd⟩ := c.decide_of_pending excess hpending
  rw [hnone] at hd
  exact ⟨_, hd, rfl, rfl, rfl⟩

/-- A closed pool takes nothing. -/
theorem Controller.Calm.launchUpTo_closed (label : String) (t : Template) (units : Nat)
    {f : Fleet σ} (hf : f.cloud ∈ calm) (hclosed : f.pool.isOpen = false) :
    ∃ g, c.launchUpTo label t units f = (.ok [], g) := by
  cases units with
  | zero => exact ⟨f, rfl⟩
  | succ n =>
    obtain ⟨w, -, log, hreserve⟩ := hc.reserve label t hf
    by_cases hroom : 0 < c.room (fun _ => s) t f
    · rw [if_pos hroom] at hreserve
      have hsubmit : ∀ f : Fleet σ, f.pool.isOpen = false → c.submit t f =
          (.ok (.error Controller.closedText),
            { f with ledger := f.ledger.release t.imageId }) := by
        intro f h
        simp [Controller.submit, Controller.refusal?, h, Controller.release, Fleet.changeLedger]
      exact ⟨_, by
        simp [Controller.launchUpTo, Controller.launchThen, hreserve, hsubmit, hclosed, Fleet.note]
        rfl⟩
    · rw [if_neg hroom] at hreserve
      exact ⟨_, by simp [Controller.launchUpTo, Controller.launchThen, hreserve]; rfl⟩

/-- An open pool takes what is needed, as far as there is room, and a closed one nothing. -/
theorem Controller.Calm.decide_length (hwilling : ∀ w ∈ calm, (c.refuses w).1 = none)
    {label : String} {t : Template} (ht : c.catalog.forLabel? (some label) = some t)
    (excess : Int) {f : Fleet σ} (hf : f.cloud ∈ calm) :
    ∃ plan g, c.decide label excess f = (.ok plan, g) ∧ Handed t plan f g ∧
      plan.length = if f.pool.isOpen then
        min (f.needed (fun _ => s) t label excess) (c.room (fun _ => s) t f) else 0 := by
  obtain ⟨plan, g, hd, -, hlen, hhanded, -, -⟩ := hc.decide ht excess hf
  refine ⟨plan, g, hd, hhanded, ?_⟩
  cases ho : f.pool.isOpen with
  | true => exact hlen ho hwilling
  | false =>
    obtain ⟨w, hw, hpending⟩ := hc.pendingAmong (f.roster.withLabel label) hf
    obtain ⟨log, hserved⟩ := c.decide_of_served excess hpending ht
    obtain ⟨g', hl⟩ := hc.launchUpTo_closed label t
      (unitsFor t (needFor t label excess ((f.roster.withLabel label).filter (·.isAwaited s)) f))
      (f := { f with cloud := w, log }) hw ho
    obtain ⟨log', hd'⟩ := hserved [] g' hl
    have hnil : plan = [] := Except.ok.inj (congrArg Prod.fst (hd.symm.trans hd'))
    rw [hnil]
    rfl

/-- Labels with one template, under which nodes count for the same, are decided alike. -/
theorem Controller.Calm.decide_congr (hwilling : ∀ w ∈ calm, (c.refuses w).1 = none)
    {a b : String} (hserved : c.catalog.forLabel? (some a) = c.catalog.forLabel? (some b))
    {f : Fleet σ} (hstanding : f.standing s a = f.standing s b) (excess : Int)
    (hf : f.cloud ∈ calm) :
    ∃ plan g g', c.decide a excess f = (.ok plan, g) ∧ c.decide b excess f = (.ok plan, g') ∧
      g'.pool.launches = g.pool.launches ∧
      match c.catalog.forLabel? (some a) with
      | none => plan = []
      | some t =>
        g.pool.launches = f.pool.launches ++ List.replicate plan.length ⟨t, .queued⟩ ∧
          plan.length = if f.pool.isOpen then
            min (f.needed (fun _ => s) t a excess) (c.room (fun _ => s) t f) else 0 := by
  cases ht : c.catalog.forLabel? (some a) with
  | none =>
    obtain ⟨g, hd, hlike⟩ := hc.decide_unserved ht excess hf
    obtain ⟨g', hd', hlike'⟩ := hc.decide_unserved (hserved ▸ ht) excess hf
    exact ⟨[], g, g', hd, hd', by rw [hlike.pool, hlike'.pool], rfl⟩
  | some t =>
    obtain ⟨plan, g, hd, hhanded, hlen⟩ := hc.decide_length hwilling ht excess hf
    obtain ⟨plan', g', hd', hhanded', hlen'⟩ :=
      hc.decide_length hwilling (hserved ▸ ht) excess hf
    rw [← needed_congr hstanding] at hlen'
    have hsame : plan'.length = plan.length := hlen'.trans hlen.symm
    have hplan : plan' = plan := by rw [hhanded'.units, hhanded.units, hsame]
    subst hplan
    exact ⟨plan', g, g', hd, hd', hhanded'.launches.trans hhanded.launches.symm, hhanded.launches,
      hlen⟩

end Calm

/-- **A label is tried as it is spaced.**  It is served, by the template of its normal form, if its
words are separated by single spaces, and by none if they are not, and then nothing is planned for
it.  Of two labels of one normal form, both or neither of which are single-spaced, one is served if
the other is; and if the nodes under exactly the one and exactly the other count for the same, then
the same launches are planned for both: those that are needed, as far as there is room. -/
theorem decide_respaced {s : Scene} {calm : Set σ} (hc : c.Calm s calm)
    (hwilling : ∀ w ∈ calm, (c.refuses w).1 = none)
    (htidy : ∀ t ∈ c.catalog.templates, tidy t.labelString = t.labelString) {a b : String}
    (hab : tidy a = tidy b) (excess : Int) {f : Fleet σ} (hf : f.cloud ∈ calm) :
    (∀ label, c.catalog.forLabel? (some label) =
        if SingleSpaced label then c.catalog.forLabel? (some (tidy label)) else none) ∧
      (∀ label, ¬SingleSpaced label → c.canProvision (some label) = false ∧
        ∃ g, c.decide label excess f = (.ok [], g) ∧ Alike f g) ∧
      ((SingleSpaced a ↔ SingleSpaced b) →
        c.canProvision (some a) = c.canProvision (some b) ∧
          (f.standing s a = f.standing s b →
            ∃ plan g g', c.decide a excess f = (.ok plan, g) ∧
              c.decide b excess f = (.ok plan, g') ∧ g'.pool.launches = g.pool.launches ∧
              match c.catalog.forLabel? (some a) with
              | none => plan = []
              | some t =>
                g.pool.launches = f.pool.launches ++ List.replicate plan.length ⟨t, .queued⟩ ∧
                  plan.length = if f.pool.isOpen then
                    min (f.needed (fun _ => s) t a excess) (c.room (fun _ => s) t f) else 0)) := by
  have hserved := Catalog.forLabel?_eq htidy
  refine ⟨hserved, fun label hnot => ?_, fun hspaced => ?_⟩
  · have hnone : c.catalog.forLabel? (some label) = none := by rw [hserved, if_neg hnot]
    exact ⟨by rw [Controller.canProvision, hnone]; rfl, hc.decide_unserved hnone excess hf⟩
  · have hsame : c.catalog.forLabel? (some a) = c.catalog.forLabel? (some b) := by
      rw [hserved a, hserved b, hab]
      simp only [hspaced]
    refine ⟨?_, fun hstanding => hc.decide_congr hwilling hsame hstanding excess hf⟩
    rw [Controller.canProvision, Controller.canProvision, hsame]

/-- Two instances are to be kept ready for a label of two words. -/
def twoWords : Controller AmpleCloud := .ample [.primedPlain "a" "ami-1" "linux docker" 2] 9

/-- One node is idle under the label of the template, and one under the same with blanks around. -/
def respacedNodes : Fleet AmpleCloud :=
  { Fleet.fresh ⟨["ami-1", "ami-1"], [], 2⟩ ⟨0⟩ with
    roster := .ofNodes
      [{ idleNode "i-0" with labelString := "linux docker" },
        { idleNode "i-1" with labelString := "\tlinux docker " }] }

/-- Each of the two labels has only its own node, so that one instance more is planned for both than
is asked for. -/
theorem decide_respaced_twoWords :
    ∃ plan g g', twoWords.decide "linux docker" 1 respacedNodes = (.ok plan, g) ∧
      twoWords.decide "\tlinux docker " 1 respacedNodes = (.ok plan, g') ∧ plan.length = 2 ∧
      g'.pool.launches = g.pool.launches := by
  have hspaced := (decide_respaced (c := twoWords) ((patient_ample _ _).calm healthy_ample _)
    (fun w _ => willing_ample _ _ w) (by decide +kernel) (a := "linux docker")
    (b := "\tlinux docker ") (by decide +kernel) 1 (f := respacedNodes) rfl).2.2
  obtain ⟨-, hdecided⟩ := hspaced (iff_of_true (by decide +kernel) (by decide +kernel))
  obtain ⟨plan, g, g', hd, hd', hlaunches, -⟩ := hdecided (by decide +kernel)
  have htwo : (twoWords.decide "linux docker" 1 respacedNodes).1.map (·.length) = .ok 2 := by
    decide +kernel
  rw [hd] at htwo
  exact ⟨plan, g, g', hd, hd', Except.ok.inj htwo, hlaunches⟩

/-- With two blanks between its words a label is not served, though it has the normal form of one
that is; and with a blank in front of it the node is not found that makes a launch unnecessary. -/
theorem spacing_counts :
    (tidy "linux  docker" = tidy "linux docker" ∧
        twoWords.canProvision (some "linux docker") = true ∧
        twoWords.canProvision (some "linux  docker") = false) ∧
      ∃ f : Fleet AmpleCloud, tidy " linux" = tidy "linux" ∧
        (primedOnce.decide "linux" 0 f).1 = .ok [] ∧
        (primedOnce.decide " linux" 0 f).1 = .ok [⟨"a", 1, 0⟩] := by
  refine ⟨by decide +kernel,
    { Fleet.fresh ⟨["ami-1"], [], 1⟩ ⟨0⟩ with roster := .ofNodes [idleNode "i-0"] }, ?_⟩
  decide +kernel

end BuildFleet
