/-
Relying on the shape of a value.

Each function takes a part of a value whose shape nobody has checked, and fails with the cause when
the value is not of the shape that the step relies on.
-/
import BuildFleet.Failure
import BuildFleet.Json.Value

namespace BuildFleet.Json.Value

/-- The field of an object, or a default for an absent one; fails for a value that is no object. -/
def getField (v : Value) (name : String) (default : Value) : Except Failure Value :=
  match v.fields? with
  | some fields => .ok ((lookup name fields).getD default)
  | none => .error (.misfit .noSuchPart)

/-- The field of an object, which has to be there. -/
def needField (v : Value) (name : String) : Except Failure Value :=
  match v.fields? with
  | some fields =>
    match lookup name fields with
    | some w => .ok w
    | none => .error (.missing name)
  | none => .error (.misfit .wrongKind)

/-- The first item of a list, which has to be there. -/
def needFirst (v : Value) : Except Failure Value :=
  match v with
  | .list (w :: _) => .ok w
  | .list [] => .error (.misfit .noSuchItem)
  | .text s =>
    match s.toList with
    | c :: _ => .ok (.text (String.singleton c))
    | [] => .error (.misfit .noSuchItem)
  | .brokenText (p :: _) => .ok (ofPieces [p])
  | .object _ | .brokenObject _ => .error (.noItem 0)
  | _ => .error (.misfit .wrongKind)

/-- The parts of a value, which has to have parts. -/
def needParts (v : Value) : Except Failure (List Value) :=
  match v.parts? with
  | some parts => .ok parts
  | none => .error (.misfit .wrongKind)

/-- The value, or an empty text in place of one that counts as absent. -/
def orEmpty (v : Value) : Value :=
  if v.isTruthy then v else .text ""

end BuildFleet.Json.Value
