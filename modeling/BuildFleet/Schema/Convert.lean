/-
Lenient conversions of loosely typed values.

Each function reads a value as one type, and accepts the other spellings that configuration files
and environment variables use for it: an integer may be a text or a double without fraction, a
truth value a word or one of the numbers 0 and 1.
-/
import BuildFleet.Schema.Conversions
import BuildFleet.Schema.Numeral
import BuildFleet.Text.Letter

namespace BuildFleet.Schema

open Json (Value)

/-! ### Integers -/

/-- Reads the text of an integer. -/
def integerOfText (s : String) : Checked Int :=
  match readLenient s with
  | .ok n => .accept n
  | .error complaint => .reject complaint

/-- Reads a double as an integer. -/
def integerOfDouble (x : Float) : Checked Int :=
  match Number.value? x with
  | none => .reject .finiteNumber
  | some r =>
    if r.den ≠ 1 then .reject .intFromFloat
    else if r.num.natAbs < Number.twoTo 63 then .accept r.num
    else .reject .intParsingSize

/-! ### Doubles -/

/-- The number that a text spells: an infinity, not a number, or digits with at most one point
and an exponent. -/
def doubleOfDigits (cs : List Char) : Option Float :=
  let (negative, body) := Text.splitSign cs
  let signed (x : Float) : Float := if negative then -x else x
  let word := String.ofList body
  if Text.equalLetters word "inf" || Text.equalLetters word "infinity" then
    some (signed (1.0 / 0.0))
  else if Text.equalLetters word "nan" then some (0.0 / 0.0)
  else
    let (whole, afterWhole) := Json.splitDigits body
    let (tenths, afterPoint) :=
      match afterWhole with
      | '.' :: rest => Json.splitDigits rest
      | rest => ([], rest)
    if whole.isEmpty && tenths.isEmpty then none
    else
      let x (e : Int) : Float :=
        signed (Number.ofDecimal (Json.natOfDigits (whole ++ tenths)) (e - tenths.length))
      match Json.splitExponent afterPoint with
      | (none, []) => some (x 0)
      | (some e, []) => some (x e)
      | _ => none

/-- The number that a text spells between white space, or with single underscores inside. -/
def doubleOfText (s : String) : Option Float :=
  doubleOfDigits (Text.stripWhile Text.isWhiteSpace s.toList) <|>
    (joinGroups s.toList).bind doubleOfDigits

/-! ### Truth values -/

/-- The words for true. -/
def trueWords : List String := ["1", "on", "t", "true", "y", "yes"]

/-- The words for false. -/
def falseWords : List String := ["0", "off", "f", "false", "n", "no"]

/-- The integer fits into a signed word of 64 bits. -/
def isWord (n : Int) : Bool :=
  -(Number.twoTo 63 : Int) ≤ n && n < Number.twoTo 63

/-- Reads an integer as a truth value. -/
def truthOfInt (n : Int) : Checked Bool :=
  if n = 0 then .accept false else if n = 1 then .accept true else .reject .boolParsing

/-! ### Lists and objects -/

/-- Reads the items of a list from position `i` on. -/
def eachItem {α : Type} (read : Value → Checked α) (i : Nat) : List Value → Checked (List α)
  | [] => .accept []
  | v :: rest =>
    List.cons <$> (read v).under (.item i) <*> eachItem read (i + 1) rest

/-- Reads the fields of an object that are all of one type. -/
def eachField {α : Type} (read : Value → Checked α) :
    List (String × Value) → Checked (List (String × α))
  | [] => .accept []
  | (name, v) :: rest =>
    (fun a as => (name, a) :: as) <$> (read v).under (.field name) <*> eachField read rest

/-! ### Conversions -/

namespace Lenient

/-- Reads a text; the replacement character stands for an unpaired half. -/
def asText : Value → Checked String
  | .text s => .accept s
  | .brokenText pieces => .accept (Text.Piece.replaced pieces)
  | _ => .reject .stringType

/-- Reads a text that is not empty; one whose length is looked at has no unpaired half. -/
def asNonemptyText : Value → Checked String
  | .brokenText _ => .reject .stringUnicode
  | v => (asText v).andThen fun s => if s.isEmpty then .reject .stringTooShort else .accept s

/-- Reads an integer. -/
def asInt : Value → Checked Int
  | .int n => .accept n
  | .bool b => .accept (if b then 1 else 0)
  | .float x => integerOfDouble x
  | .text s => integerOfText s
  | .brokenText _ => .reject .stringUnicode
  | _ => .reject .intType

/-- Reads a double. -/
def asDouble : Value → Checked Float
  | .float x => .accept x
  | .int n =>
    let x := Number.ofDecimal n.natAbs 0
    if x.isInf then .reject .floatType else .accept (if n < 0 then -x else x)
  | .bool b => .accept (if b then 1 else 0)
  | .text s =>
    match doubleOfText s with
    | some x => .accept x
    | none => .reject .floatParsing
  | .brokenText _ => .reject .stringUnicode
  | _ => .reject .floatType

/-- Reads a truth value. -/
def asBool : Value → Checked Bool
  | .bool b => .accept b
  | .text s =>
    if trueWords.any (Text.equalLetters s) then .accept true
    else if falseWords.any (Text.equalLetters s) then .accept false
    else .reject .boolParsing
  | .brokenText _ => .reject .stringUnicode
  | .int n => if isWord n then truthOfInt n else .reject .boolType
  | .float x =>
    match (integerOfDouble x).verdict with
    | .accepted n => truthOfInt n
    | _ => .reject .boolType
  | _ => .reject .boolType

/-- Reads a list. -/
def asList {α : Type} (read : Value → Checked α) : Value → Checked (List α)
  | .list items => eachItem read 0 items
  | _ => .reject .listType

/-- Reads an object whose fields are all of one type; the replacement character stands for an
unpaired half in a name. -/
def asFields {α : Type} (read : Value → Checked α) : Value → Checked (List (String × α))
  | .object fields => eachField read fields
  | .brokenObject fields =>
    (Entries.putAll · []) <$>
      eachField read (fields.map fun f => (Text.Piece.replaced f.1, f.2))
  | _ => .reject .dictType

end Lenient

/-- Lenient conversions. -/
instance lenient : Conversions where
  asText := Lenient.asText
  asNonemptyText := Lenient.asNonemptyText
  asInt := Lenient.asInt
  asDouble := Lenient.asDouble
  asBool := Lenient.asBool
  asList := Lenient.asList
  asFields := Lenient.asFields

/-! ### Laws -/

section Items

variable {α : Type} {read : Value → Checked α}

theorem eachItem_of_accept {write : α → Value} {as : List α}
    (h : ∀ a ∈ as, read (write a) = .accept a) (i : Nat) :
    eachItem read i (as.map write) = .accept as := by
  induction as generalizing i with
  | nil => rfl
  | cons a as ih =>
    rw [List.map_cons, eachItem, h a List.mem_cons_self,
      ih (fun b hb => h b (List.mem_cons_of_mem _ hb))]
    rfl

theorem eachItem_accepted {i : Nat} {items : List Value} {as : List α}
    (h : (eachItem read i items).verdict = .accepted as) :
    ∀ a ∈ as, ∃ item, (read item).verdict = .accepted a := by
  induction items generalizing i as with
  | nil =>
    cases h
    exact fun a ha => absurd ha List.not_mem_nil
  | cons v rest ih =>
    rw [eachItem, Checked.seq_accepted] at h
    obtain ⟨_, more, hfirst, hmore, rfl⟩ := h
    obtain ⟨a, ha, rfl⟩ := Checked.map_accepted.mp hfirst
    exact List.forall_mem_cons.mpr ⟨⟨v, Checked.under_accepted.mp ha⟩, ih hmore⟩

theorem eachField_of_accept {write : α → Value} {as : List (String × α)}
    (h : ∀ a ∈ as, read (write a.2) = .accept a.2) :
    eachField read (as.map fun a => (a.1, write a.2)) = .accept as := by
  induction as with
  | nil => rfl
  | cons a as ih =>
    rw [List.map_cons, eachField, h a List.mem_cons_self,
      ih (fun b hb => h b (List.mem_cons_of_mem _ hb))]
    rfl

end Items

namespace Lenient

theorem asText_accepted {v : Value} {s : String} :
    (asText v).verdict = .accepted s ↔ textOf? v = some s := by
  cases v with
  | text t =>
    show Verdict.accepted t = .accepted s ↔ some t = some s
    rw [Verdict.accepted.injEq, Option.some.injEq]
  | brokenText pieces =>
    show Verdict.accepted (Text.Piece.replaced pieces) = .accepted s ↔ some _ = some s
    rw [Verdict.accepted.injEq, Option.some.injEq]
  | _ => exact ⟨nofun, nofun⟩

theorem asNonemptyText_accepted {v : Value} {s : String}
    (h : (asNonemptyText v).verdict = .accepted s) : s ≠ "" := by
  have hread : ∀ v : Value, ((asText v).andThen fun s =>
      if s.isEmpty then Checked.reject .stringTooShort else .accept s).verdict = .accepted s →
      s ≠ "" := by
    intro v h
    obtain ⟨t, -, ht⟩ := Checked.andThen_accepted.mp h
    by_cases hempty : t.isEmpty = true
    · rw [if_pos hempty] at ht
      cases ht
    · rw [if_neg hempty] at ht
      cases ht
      simpa using hempty
  cases v with
  | brokenText pieces => cases h
  | _ => exact hread _ h

theorem asNonemptyText_text {s : String} (h : s ≠ "") : asNonemptyText (.text s) = .accept s := by
  rw [asNonemptyText, asText, Checked.accept_andThen, if_neg (by simpa using h)]
  exact nofun

theorem asBool_word (b : Bool) :
    asBool (.text (if b then "true" else "false")) = .accept b := by
  have htrue : trueWords.any (Text.equalLetters "true") = true := by decide +kernel
  have hnot : trueWords.any (Text.equalLetters "false") = false := by decide +kernel
  have hfalse : falseWords.any (Text.equalLetters "false") = true := by decide +kernel
  cases b with
  | true => simp [asBool, htrue]
  | false => simp [asBool, hnot, hfalse]

theorem asList_accepted {α : Type} {read : Value → Checked α} {v : Value} {as : List α}
    (h : (asList read v).verdict = .accepted as) :
    ∀ a ∈ as, ∃ item, (read item).verdict = .accepted a := by
  cases v with
  | list items => exact eachItem_accepted h
  | _ => cases h

end Lenient

instance : LawfulConversions where
  asText_accepted := Lenient.asText_accepted
  asText_text _ := rfl
  asNonemptyText_accepted := Lenient.asNonemptyText_accepted
  asNonemptyText_text := Lenient.asNonemptyText_text
  asInt_int _ := rfl
  asBool_bool _ := rfl
  asBool_word := Lenient.asBool_word
  asList_accepted := Lenient.asList_accepted
  asList_list h := eachItem_of_accept h 0
  asFields_object := eachField_of_accept

end BuildFleet.Schema
