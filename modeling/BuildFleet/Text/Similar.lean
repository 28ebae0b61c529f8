/-
How much two texts have in common.

The common part of two texts is found by taking the longest run of characters that both have, and
then looking in the same way to the left and to the right of it.  `isSimilar` holds when the common
part makes up at least three fifths of both.
-/
namespace BuildFleet.Text

/-- The length of the common beginning. -/
def commonStart : List Char → List Char → Nat
  | a :: as, b :: bs => if a = b then commonStart as bs + 1 else 0
  | _, _ => 0

/-- A common run: where it starts in either text, and its length. -/
structure Run where
  /-- Where it starts in the first text. -/
  first : Nat
  /-- Where it starts in the second text. -/
  second : Nat
  length : Nat
deriving DecidableEq, Repr

/-- The longer of two runs, and the first one of two that are equally long. -/
def longer (r s : Run) : Run := if r.length < s.length then s else r

/-- The longest run that starts at the beginning of `as`, looking for it from `bs` on, which starts
at `j`. -/
def longestAt (as : List Char) (i : Nat) : List Char → (j : Nat) → Run
  | [], j => ⟨i, j, 0⟩
  | b :: bs, j => longer ⟨i, j, commonStart as (b :: bs)⟩ (longestAt as i bs (j + 1))

/-- The longest common run, looking for it from `as` on, which starts at `i`. -/
def longestFrom (bs : List Char) : List Char → (i : Nat) → Run
  | [], i => ⟨i, 0, 0⟩
  | a :: as, i => longer (longestAt (a :: as) i bs 0) (longestFrom bs as (i + 1))

/-- The number of characters that two texts have in common, where `fuel` is at least the length of
the first one. -/
def commonCount : (fuel : Nat) → List Char → List Char → Nat
  | 0, _, _ => 0
  | fuel + 1, as, bs =>
    let run := longestFrom bs as 0
    if run.length = 0 then 0
    else
      commonCount fuel (as.take run.first) (bs.take run.second) + run.length +
        commonCount fuel (as.drop (run.first + run.length)) (bs.drop (run.second + run.length))

/-- At least three fifths of the texts are common to both. -/
def isSimilar (s t : String) : Bool :=
  let as := s.toList
  let bs := t.toList
  3 * (as.length + bs.length) ≤ 5 * (2 * commonCount as.length as bs)

end BuildFleet.Text
