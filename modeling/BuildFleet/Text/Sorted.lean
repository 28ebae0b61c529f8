/-
Sorted lists of different texts.

`sortedSet` sorts texts by the code points of their characters and keeps one of each: it has the
same members (`mem_sortedSet`), and each is less than all behind it (`pairwise_sortedSet`).
-/
namespace BuildFleet.Text

/-- Puts a text into a sorted list, unless it is there. -/
def insertSorted (s : String) : List String → List String
  | [] => [s]
  | t :: ts =>
    if s < t then s :: t :: ts
    else if s = t then t :: ts
    else t :: insertSorted s ts

/-- The different texts of a list, sorted. -/
def sortedSet (ss : List String) : List String :=
  ss.foldr insertSorted []

theorem mem_insertSorted {s x : String} {ts : List String} :
    x ∈ insertSorted s ts ↔ x = s ∨ x ∈ ts := by
  induction ts with
  | nil => simp [insertSorted]
  | cons t ts ih => grind [insertSorted]

/-- Sorting loses no text and adds none. -/
theorem mem_sortedSet {x : String} {ss : List String} : x ∈ sortedSet ss ↔ x ∈ ss := by
  induction ss with
  | nil => simp [sortedSet]
  | cons s ss ih =>
    rw [sortedSet, List.foldr_cons, mem_insertSorted, ← sortedSet, ih, List.mem_cons]

theorem pairwise_insertSorted {s : String} {ts : List String} (h : ts.Pairwise (· < ·)) :
    (insertSorted s ts).Pairwise (· < ·) := by
  induction ts with
  | nil => simp [insertSorted]
  | cons t ts ih =>
    have ⟨above, rest⟩ := List.pairwise_cons.1 h
    rw [insertSorted]
    split
    next less =>
      refine List.pairwise_cons.2 ⟨fun x hx => ?_, h⟩
      rcases List.mem_cons.1 hx with rfl | hx
      · exact less
      · exact String.lt_trans less (above x hx)
    next notLess =>
      split
      next => exact h
      next differs =>
        refine List.pairwise_cons.2 ⟨fun x hx => ?_, ih rest⟩
        rcases mem_insertSorted.1 hx with rfl | hx
        · exact Std.lt_of_le_of_ne (String.not_lt.1 notLess) (Ne.symm differs)
        · exact above x hx

/-- Each text is less than all behind it. -/
theorem pairwise_sortedSet (ss : List String) : (sortedSet ss).Pairwise (· < ·) := by
  induction ss with
  | nil => exact .nil
  | cons s ss ih => exact pairwise_insertSorted ih

end BuildFleet.Text
