/-
Scripted worlds.

A script is a list of responses that are given one after the other, whatever is asked.  It stands
for the outside in tests and rehearsals, and keeps a record of what was asked.
-/
import BuildFleet.Clock.Timeline
import BuildFleet.Json.Value

namespace BuildFleet

open Json (Value)

/-- A scripted response: an outcome and the time that it takes. -/
structure Line (τ : Type) where
  /-- The outcome. -/
  outcome : Except Failure Value
  /-- The time before it is known. -/
  took : τ

/-- The responses still to come, and the questions so far. -/
structure Script (ρ τ : Type) where
  /-- The responses still to come. -/
  lines : List (Line τ)
  /-- The questions so far, in order. -/
  asked : List ρ

/-- Answers a question by the next response. -/
def Script.respond {ρ τ : Type} [Duration τ] (question : ρ) (s : Script ρ τ) :
    Response (Script ρ τ) τ Value :=
  let asked := s.asked ++ [question]
  match s.lines with
  | [] => ⟨.error .scriptEnded, Duration.seconds 0, { lines := [], asked }⟩
  | line :: rest => ⟨line.outcome, line.took, { lines := rest, asked }⟩

end BuildFleet
