/-
When windows cover a moment.

The minutes of the day are marks on the face of a clock.  A window covers those that are met on the
way forward from its start, up to but not including its end:

* **`TimeOfDay.Spells`** — a text is an hour and a minute with a colon between them;
* **`OnArc`** — a mark is met on the way from one to another;
* **`covers_iff_onArc`** — which moments a window covers, and when a template is primed.
-/
import BuildFleet.Proofs.Census

namespace BuildFleet

open Text (readInteger splitChars trimChars)

/-! ### Times of day -/

/-- The text is an hour and a minute with one colon between them, each an integer in any of its
spellings, and `m` is the minute of the day that they stand for. -/
def TimeOfDay.Spells (bound : List Text.Piece) (m : Nat) : Prop :=
  ∃ s before behind hour min, Text.Piece.text? bound = some s ∧
    trimChars s.toList = before ++ ':' :: behind ∧ ':' ∉ before ∧ ':' ∉ behind ∧
    readInteger (String.ofList before) = .ok hour ∧ readInteger (String.ofList behind) = .ok min ∧
    (0 ≤ hour ∧ hour < 24) ∧ (0 ≤ min ∧ min < 60) ∧ (m : Int) = 60 * hour + min

theorem TimeOfDay.read?_eq_some {s : String} {m : Nat} :
    TimeOfDay.read? s = some m ↔ ∃ before behind hour min,
      trimChars s.toList = before ++ ':' :: behind ∧ ':' ∉ before ∧ ':' ∉ behind ∧
      readInteger (String.ofList before) = .ok hour ∧ readInteger (String.ofList behind) = .ok min ∧
      (0 ≤ hour ∧ hour < 24) ∧ (0 ≤ min ∧ min < 60) ∧ (m : Int) = 60 * hour + min := by
  constructor
  · intro h
    rw [TimeOfDay.read?] at h
    split at h
    · next before behind hpieces =>
      split at h
      · next hour min hhour hmin =>
        obtain ⟨hsplit, hbefore, hbehind⟩ := Text.splitChars_eq_pair.mp hpieces
        split at h
        · next hrange =>
          simp only [Bool.and_eq_true, decide_eq_true_eq] at hrange
          have hm := Option.some.inj h
          exact ⟨before, behind, hour, min, hsplit, hbefore, hbehind, hhour, hmin, by omega,
            by omega, by omega⟩
        · cases h
      · cases h
    · cases h
  · rintro ⟨before, behind, hour, min, hsplit, hbefore, hbehind, hhour, hmin, hh, hk, hm⟩
    have hpieces := Text.splitChars_eq_pair.mpr ⟨hsplit, hbefore, hbehind⟩
    have hrange : (decide (0 ≤ hour) && decide (hour < 24) && decide (0 ≤ min) &&
        decide (min < 60)) = true := by
      simp only [Bool.and_eq_true, decide_eq_true_eq]
      omega
    simp only [TimeOfDay.read?, hpieces, hhour, hmin, hrange, if_true, Option.some.injEq]
    omega

namespace Window

open TimeOfDay (Spells)

theorem boundOf?_eq_some {bound : List Text.Piece} {m : Nat} :
    boundOf? bound = some m ↔ Spells bound m := by
  rw [boundOf?, Option.bind_eq_some_iff]
  constructor
  · rintro ⟨s, hs, hread⟩
    obtain ⟨before, behind, hour, min, h⟩ := TimeOfDay.read?_eq_some.mp hread
    exact ⟨s, before, behind, hour, min, hs, h⟩
  · rintro ⟨s, before, behind, hour, min, hs, h⟩
    exact ⟨s, hs, TimeOfDay.read?_eq_some.mpr ⟨before, behind, hour, min, h⟩⟩

theorem bounds?_eq_some {w : Window} {s e : Nat} :
    w.bounds? = some (s, e) ↔ Spells w.start s ∧ Spells w.stop e := by
  rw [← boundOf?_eq_some, ← boundOf?_eq_some, bounds?]
  cases boundOf? w.start with
  | none => simp
  | some s' => cases boundOf? w.stop <;> simp

end Window

theorem TimeOfDay.Spells.ne_nil {bound : List Text.Piece} {m : Nat} (h : Spells bound m) :
    bound ≠ [] := by
  rintro rfl
  obtain ⟨s, before, behind, -, -, hs, hsplit, -⟩ := h
  obtain rfl : "" = s := Option.some.inj hs
  have hnil : [] = before ++ ':' :: behind := hsplit
  simp at hnil

theorem TimeOfDay.Spells.lt {bound : List Text.Piece} {m : Nat} (h : Spells bound m) :
    m < 1440 := by
  obtain ⟨-, -, -, hour, min, -, -, -, -, -, -, hh, hk, hm⟩ := h
  omega

/-! ### Arcs -/

/-- On the way forward from the mark `s` on the face of the clock, the mark `m` is met before the
mark `e` is. -/
def OnArc (s e m : Nat) : Prop :=
  ∃ k, (s + k) % 1440 = m ∧ ∀ j ≤ k, (s + j) % 1440 ≠ e

theorem onArc_iff {s e m : Nat} (he : e < 1440) (hm : m < 1440) :
    OnArc s e m ↔ ((m : Int) - s) % 1440 < ((e : Int) - s) % 1440 := by
  constructor
  · rintro ⟨k, hk, hbefore⟩
    -- If the end were not farther away than the mark, it would be met on the way.
    refine Int.not_le.mp ?_
    intro hle
    have hmet := hbefore (((e : Int) - s) % 1440).toNat
    omega
  · intro hlt
    refine ⟨(((m : Int) - s) % 1440).toNat, by omega, ?_⟩
    intro j hj
    omega

theorem inRange_iff {s e m : Nat} (hs : s < 1440) (he : e < 1440) (hm : m < 1440) :
    Window.inRange s e m = true ↔ ((m : Int) - s) % 1440 < ((e : Int) - s) % 1440 := by
  rw [Window.inRange_eq hs hm]
  split
  · -- The way goes past midnight.
    rw [Bool.or_eq_true, decide_eq_true_eq, decide_eq_true_eq]
    omega
  · rw [Bool.and_eq_true, decide_eq_true_eq, decide_eq_true_eq]
    omega

theorem Moment.minuteOfDay_lt (now : Moment) : now.minuteOfDay < 1440 :=
  Nat.mod_lt _ (by decide)

/-! ### Windows -/

namespace Window

open TimeOfDay (Spells)

theorem includesDay_iff {w : Window} {d : Weekday} :
    w.includesDay d = true ↔ w.days = none ∨ ∃ days, w.days = some days ∧ d ∈ days := by
  rw [includesDay]
  cases w.days with
  | none => simp
  | some days => simp

theorem covers_iff {w : Window} {now : Moment} :
    w.covers now = true ↔ (w.days = none ∨ ∃ days, w.days = some days ∧ now.weekday ∈ days) ∧
      ((w.start = [] ∧ w.stop = []) ∨
        ∃ s e, Spells w.start s ∧ Spells w.stop e ∧ inRange s e now.minuteOfDay = true) := by
  rw [covers, Bool.and_eq_true, Bool.or_eq_true, includesDay_iff, isUnbounded, Bool.and_eq_true,
    List.isEmpty_iff, List.isEmpty_iff]
  refine and_congr Iff.rfl (or_congr Iff.rfl ?_)
  constructor
  · intro h
    split at h
    · next s e hbounds =>
      obtain ⟨hs, he⟩ := bounds?_eq_some.mp hbounds
      exact ⟨s, e, hs, he, h⟩
    · cases h
  · rintro ⟨s, e, hs, he, hin⟩
    rw [bounds?_eq_some.mpr ⟨hs, he⟩]
    exact hin

theorem covers_of_spells {w : Window} {s e : Nat} (hs : Spells w.start s) (he : Spells w.stop e)
    (now : Moment) : w.covers now = (w.includesDay now.weekday && inRange s e now.minuteOfDay) := by
  have hbounded : w.isUnbounded = false := by
    rw [isUnbounded, List.isEmpty_eq_false_iff.mpr hs.ne_nil, Bool.false_and]
  rw [covers, hbounded, bounds?_eq_some.mpr ⟨hs, he⟩, Bool.false_or]

theorem anyCovers_iff {ws : List Window} {now : Moment} :
    anyCovers ws now = true ↔ ws = [] ∨ ∃ w ∈ ws, w.covers now = true := by
  rw [anyCovers, Bool.or_eq_true, List.isEmpty_iff, List.any_eq_true]

end Window

open TimeOfDay (Spells)

/-- **A window covers the half-open arc from its start to its end** on its weekdays: the moments
whose minute of the day is met on the way forward from the start before the end is, past midnight if
need be, so that equal bounds leave nothing to cover and a malformed bound keeps the window from
covering anything; two empty bounds cover the whole day.  A template is primed when it has no
windows or one of them covers the moment, in whatever order they are. -/
theorem covers_iff_onArc (w : Window) (t : Template) (now : Moment) :
    (w.covers now = true ↔ (w.days = none ∨ ∃ days, w.days = some days ∧ now.weekday ∈ days) ∧
      ((w.start = [] ∧ w.stop = []) ∨
        ∃ s e, Spells w.start s ∧ Spells w.stop e ∧ s < 1440 ∧ e < 1440 ∧
          ((now.minuteOfDay : Int) - s) % 1440 < ((e : Int) - s) % 1440)) ∧
    (∀ s e, Spells w.start s → Spells w.stop e →
      (w.covers now = true ↔ w.includesDay now.weekday = true ∧ OnArc s e now.minuteOfDay) ∧
      (s = e → w.covers now = false)) ∧
    (w.start ≠ [] ∨ w.stop ≠ [] → (∀ s, ¬Spells w.start s) ∨ (∀ e, ¬Spells w.stop e) →
      w.covers now = false) ∧
    (t.isPrimedAt now = true ↔ t.windows = [] ∨ ∃ v ∈ t.windows, v.covers now = true) ∧
    (∀ ws, ws.Perm t.windows → { t with windows := ws }.isPrimedAt now = t.isPrimedAt now) := by
  have hm := now.minuteOfDay_lt
  refine ⟨?_, ?_, ?_, Window.anyCovers_iff, ?_⟩
  · rw [Window.covers_iff]
    refine and_congr Iff.rfl (or_congr Iff.rfl ?_)
    constructor
    · rintro ⟨s, e, hs, he, hin⟩
      exact ⟨s, e, hs, he, hs.lt, he.lt, (inRange_iff hs.lt he.lt hm).mp hin⟩
    · rintro ⟨s, e, hs, he, -, -, hlt⟩
      exact ⟨s, e, hs, he, (inRange_iff hs.lt he.lt hm).mpr hlt⟩
  · intro s e hs he
    have hcovers : w.covers now = true ↔
        w.includesDay now.weekday = true ∧ OnArc s e now.minuteOfDay := by
      rw [Window.covers_of_spells hs he, Bool.and_eq_true, inRange_iff hs.lt he.lt hm,
        onArc_iff he.lt hm]
    refine ⟨hcovers, ?_⟩
    rintro rfl
    -- The end is met at the very first mark.
    refine Bool.eq_false_iff.mpr ?_
    intro h
    obtain ⟨-, k, -, hbefore⟩ := hcovers.mp h
    exact hbefore 0 (Nat.zero_le k) (Nat.mod_eq_of_lt hs.lt)
  · intro hbound hmalformed
    refine Bool.eq_false_iff.mpr ?_
    intro h
    obtain ⟨-, ⟨hstart, hstop⟩ | ⟨s, e, hs, he, -⟩⟩ := Window.covers_iff.mp h
    · exact hbound.elim (· hstart) (· hstop)
    · exact hmalformed.elim (· s hs) (· e he)
  · intro ws hws
    refine Bool.eq_iff_iff.mpr ?_
    show Window.anyCovers ws now = true ↔ Window.anyCovers t.windows now = true
    rw [Window.anyCovers_iff, Window.anyCovers_iff, ← List.length_eq_zero_iff, hws.length_eq,
      List.length_eq_zero_iff]
    simp only [hws.mem_iff]

/-- A window from ten in the evening to six in the morning, on Mondays. -/
def nightShift : Window where
  start := Text.Piece.ofText "22:00"
  stop := Text.Piece.ofText " 6:00"
  days := some [.monday]

/-- A window whose start has no colon in it. -/
def shapeless : Window where
  start := Text.Piece.ofText "8am"
  stop := Text.Piece.ofText "18:00"
  days := none

/-- A template that is primed in these two windows. -/
def shiftTemplate : Template :=
  { Template.plain "a" "ami-1" "linux" 9 with windows := [shapeless, nightShift] }

/-- The last minute of the night shift, on the first day of all, which was a Monday. -/
theorem covers_iff_onArc_nightShift :
    (Spells nightShift.start 1320 ∧ Spells nightShift.stop 360) ∧
      (nightShift.covers ⟨359 * Moment.minute⟩ = true ↔
        nightShift.includesDay .monday = true ∧ OnArc 1320 360 359) ∧
      ((∀ s, ¬Spells shapeless.start s) ∧ shapeless.covers ⟨359 * Moment.minute⟩ = false) ∧
      { shiftTemplate with windows := [nightShift, shapeless] }.isPrimedAt
        ⟨359 * Moment.minute⟩ = shiftTemplate.isPrimedAt ⟨359 * Moment.minute⟩ ∧
      nightShift.covers ⟨359 * Moment.minute⟩ = true ∧
      nightShift.covers ⟨360 * Moment.minute⟩ = false := by
  have hstart : Spells nightShift.start 1320 := Window.boundOf?_eq_some.mp (by decide +kernel)
  have hstop : Spells nightShift.stop 360 := Window.boundOf?_eq_some.mp (by decide +kernel)
  have hnone : ∀ s, ¬Spells shapeless.start s := by
    intro s hs
    have hread : Window.boundOf? shapeless.start = none := by decide +kernel
    rw [Window.boundOf?_eq_some.mpr hs] at hread
    cases hread
  obtain ⟨-, harc, -, -, -⟩ := covers_iff_onArc nightShift shiftTemplate ⟨359 * Moment.minute⟩
  obtain ⟨-, -, hmalformed, -, horder⟩ :=
    covers_iff_onArc shapeless shiftTemplate ⟨359 * Moment.minute⟩
  refine ⟨⟨hstart, hstop⟩, (harc 1320 360 hstart hstop).1, ⟨hnone, ?_⟩, ?_, ?_, ?_⟩
  · exact hmalformed (.inl (by decide +kernel)) (.inl hnone)
  · exact horder _ (.swap _ _ _)
  · decide +kernel
  · decide +kernel

end BuildFleet
