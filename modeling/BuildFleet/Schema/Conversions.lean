/-
Values as models.

A model is read from an object field by field.  How a single value is converted to a type is not up
to the model: the conversions are a parameter.

* **`Conversions`** — how values are converted to types;
* **`LawfulConversions`** — what models rely on in that;
* **`asModel`**, **`required`**, **`optional`** — objects with given fields.
-/
import BuildFleet.Json.Value
import BuildFleet.Schema.Checked

namespace BuildFleet.Schema

open Json (Value)

/-! ### Conversions -/

/-- How values are converted to types. -/
class Conversions where
  asText : Value → Checked String
  /-- Reads a text that is not empty. -/
  asNonemptyText : Value → Checked String
  asInt : Value → Checked Int
  asDouble : Value → Checked Float
  asBool : Value → Checked Bool
  /-- Reads a list of which each item is read so. -/
  asList : {α : Type} → (Value → Checked α) → Value → Checked (List α)
  /-- Reads an object of which each field is read so. -/
  asFields : {α : Type} → (Value → Checked α) → Value → Checked (List (String × α))

export Conversions (asText asNonemptyText asInt asDouble asBool asList asFields)

/-- The text of a value that is a text; the replacement character stands for an unpaired half. -/
def textOf? : Value → Option String
  | .text s => some s
  | .brokenText pieces => some (Text.Piece.replaced pieces)
  | _ => none

/-- What is relied on in conversions: a value that is of the type already is kept as it is, without
a word in the log, and lists and objects are read part by part. -/
class LawfulConversions [Conversions] : Prop where
  /-- Only a text is read as a text, and as the one that it is. -/
  asText_accepted {v : Value} {s : String} : (asText v).verdict = .accepted s ↔ textOf? v = some s
  asText_text (s : String) : asText (.text s) = .accept s
  /-- What may not be empty is not. -/
  asNonemptyText_accepted {v : Value} {s : String}
    (h : (asNonemptyText v).verdict = .accepted s) : s ≠ ""
  asNonemptyText_text {s : String} (h : s ≠ "") : asNonemptyText (.text s) = .accept s
  asInt_int (n : Int) : asInt (.int n) = .accept n
  asBool_bool (b : Bool) : asBool (.bool b) = .accept b
  /-- The words of the truth values are read as them. -/
  asBool_word (b : Bool) : asBool (.text (if b then "true" else "false")) = .accept b
  /-- Each item that was read was read from an item. -/
  asList_accepted {α : Type} {read : Value → Checked α} {v : Value} {as : List α}
    (h : (asList read v).verdict = .accepted as) :
    ∀ a ∈ as, ∃ item, (read item).verdict = .accepted a
  asList_list {α : Type} {read : Value → Checked α} {write : α → Value} {as : List α}
    (h : ∀ a ∈ as, read (write a) = .accept a) : asList read (.list (as.map write)) = .accept as
  asFields_object {α : Type} {read : Value → Checked α} {write : α → Value}
    {as : List (String × α)} (h : ∀ a ∈ as, read (write a.2) = .accept a.2) :
    asFields read (.object (as.map fun a => (a.1, write a.2))) = .accept as

/-! ### Bounds -/

/-- Reads a natural number. -/
def asNat [Conversions] (v : Value) : Checked Nat :=
  (asInt v).andThen fun n => if n < 0 then .reject .greaterThanEqual else .accept n.toNat

/-- Reads a positive number. -/
def asPositive [Conversions] (v : Value) : Checked { n : Nat // 0 < n } :=
  (asInt v).andThen fun n =>
    if h : n < 1 then .reject .greaterThanEqual else .accept ⟨n.toNat, by omega⟩

/-- Reads a double that is zero or more. -/
def asNonnegativeDouble [Conversions] (v : Value) : Checked Float :=
  (asDouble v).andThen fun x => if 0.0 ≤ x then .accept x else .reject .greaterThanEqual

/-- Reads a double above zero. -/
def asPositiveDouble [Conversions] (v : Value) : Checked Float :=
  (asDouble v).andThen fun x => if 0.0 < x then .accept x else .reject .greaterThan

theorem asNat_ofNat [Conversions] [LawfulConversions] (n : Nat) : asNat (.int n) = .accept n := by
  rw [asNat, LawfulConversions.asInt_int, Checked.accept_andThen, if_neg (by omega),
    Int.toNat_natCast]

theorem asPositive_ofPositive [Conversions] [LawfulConversions] (n : { n : Nat // 0 < n }) :
    asPositive (.int n.val) = .accept n := by
  have hpos := n.property
  rw [asPositive, LawfulConversions.asInt_int, Checked.accept_andThen, dif_neg (by omega)]
  rfl

/-! ### Objects -/

/-- Reads a value that may be null. -/
def asOptional {α : Type} (read : Value → Checked α) : Value → Checked (Option α)
  | .null => .accept none
  | v => some <$> read v

/-- Reads an object with given fields. -/
def asModel {α : Type} (read : List (String × Value) → Checked α) (v : Value) : Checked α :=
  match v.fields? with
  | some fields => read fields
  | none => .reject .modelType

/-- Reads a field that must be there. -/
def required {α : Type} (fields : List (String × Value)) (name : String)
    (read : Value → Checked α) : Checked α :=
  match Value.lookup name fields with
  | some v => (read v).under (.field name)
  | none => (Checked.reject .missing).under (.field name)

/-- Reads a field that may be absent. -/
def optional {α : Type} (fields : List (String × Value)) (name : String) (default : α)
    (read : Value → Checked α) : Checked α :=
  match Value.lookup name fields with
  | some v => (read v).under (.field name)
  | none => .accept default

theorem required_accepted {α : Type} {read : Value → Checked α} {fields : List (String × Value)}
    {name : String} {a : α} : (required fields name read).verdict = .accepted a ↔
      ∃ v, Value.lookup name fields = some v ∧ (read v).verdict = .accepted a := by
  rw [required]
  cases Value.lookup name fields with
  | none => exact ⟨nofun, nofun⟩
  | some v =>
    dsimp only
    rw [Checked.under_accepted]
    constructor
    · intro h
      exact ⟨v, rfl, h⟩
    · rintro ⟨_, ⟨⟩, h⟩
      exact h

theorem optional_accepted {α : Type} {read : Value → Checked α} {fields : List (String × Value)}
    {name : String} {default a : α} :
    (optional fields name default read).verdict = .accepted a ↔
      (Value.lookup name fields).elim (default = a) fun v => (read v).verdict = .accepted a := by
  rw [optional]
  cases Value.lookup name fields with
  | none =>
    show Verdict.accepted default = .accepted a ↔ default = a
    rw [Verdict.accepted.injEq]
  | some v => exact Checked.under_accepted

end BuildFleet.Schema
