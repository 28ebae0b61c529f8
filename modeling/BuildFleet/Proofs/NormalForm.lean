/-
Templates in normal form.

To read a template tidies it: labels are joined anew by single spaces, bounds of windows are
trimmed, weekdays are called by their short names, and numbers are no longer texts.  What has been
read is in normal form, and a template in normal form is read from its own fields as it is.

* **`Text.tokens`** — the pieces of a text between its blanks, which are its words;
* **`Window.Normal`**, **`Template.Normal`** — reading has nothing left to tidy;
* **`normal_of_ofValue`**, **`ofValue_toValue`** — the two halves of the fixed point;
* **`template_settles`** — what has been read is read again as it is, and serves its own labels
  whatever blanks stand around them.
-/
import BuildFleet.Schema.Convert
import BuildFleet.Template.Basic
import Mathlib.Data.List.DropRight

namespace BuildFleet

open Json (Value)
open Schema (Checked Conversions LawfulConversions)
open Schema.LawfulConversions
open Text (isBlank stripWhile trim trimChars unwords unwordsChars words wordsAux wordsChars)

/-! ### Words -/

namespace Text

/-- The pieces of a text between its blanks, without the empty ones. -/
def tokens (s : String) : List String :=
  ((s.toList.splitOnP isBlank).filter (!·.isEmpty)).map String.ofList

/-- The run that is being read belongs to the first piece. -/
theorem wordsAux_eq (run cs : List Char) :
    wordsAux run cs =
      ((cs.splitOnP isBlank).modifyHead (run.reverse ++ ·)).filter (!·.isEmpty) := by
  induction cs generalizing run with
  | nil =>
    rw [wordsAux, List.splitOnP_nil, List.modifyHead_cons, List.append_nil]
    by_cases hrun : run = []
    · simp [hrun]
    · simp [hrun]
  | cons c cs ih =>
    rw [wordsAux, List.splitOnP_cons_eq_if_modifyHead]
    by_cases hc : isBlank c = true
    · have hrest : wordsAux [] cs = (cs.splitOnP isBlank).filter (!·.isEmpty) := by
        rw [ih]
        exact congrArg _ (congrFun List.modifyHead_id _)
      rw [if_pos hc, if_pos hc, List.modifyHead_cons, List.append_nil, hrest]
      by_cases hrun : run = []
      · simp [hrun]
      · simp [hrun]
    · rw [if_neg hc, if_neg hc, ih, List.modifyHead_modifyHead]
      congr 2
      funext piece
      simp

theorem words_eq_tokens (s : String) : words s = tokens s := by
  rw [words, wordsChars, wordsAux_eq, tokens]
  exact congrArg _ (congrArg _ (congrFun List.modifyHead_id _))

theorem unwordsChars_eq (ws : List (List Char)) : unwordsChars ws = [' '].intercalate ws := by
  induction ws with
  | nil => rfl
  | cons w ws ih =>
    cases ws with
    | nil => simp [unwordsChars, List.intercalate]
    | cons v vs => rw [unwordsChars, ih, List.intercalate_cons_cons, List.append_assoc]; rfl

theorem unwords_eq_intercalate (ws : List String) : unwords ws = " ".intercalate ws := by
  rw [unwords, unwordsChars_eq, ← String.ofList_toList (s := " ".intercalate ws),
    String.toList_intercalate]
  rfl

theorem words_unwords_words (s : String) : words (unwords (words s)) = words s := by
  have hkept : wordsChars (unwordsChars (wordsChars s.toList)) = wordsChars s.toList :=
    wordsChars_unwordsChars (fun w hw => (mem_wordsChars hw).1) fun w hw => (mem_wordsChars hw).2
  rw [unwords, map_toList_words, words, String.toList_ofList, hkept, words]

theorem unwords_words_of_mem {w s : String} (h : w ∈ words s) : unwords (words w) = w := by
  rw [words_of_mem h]
  simp [unwords, unwordsChars]

/-! ### Trimming -/

theorem stripWhile_stripWhile {α : Type} (p : α → Bool) (cs : List α) :
    stripWhile p (stripWhile p cs) = stripWhile p cs := by
  set front := cs.dropWhile p with hfront
  have hstrip : stripWhile p cs = front.rdropWhile p := rfl
  -- What is left is the beginning of `front`, so it begins with what `front` begins with.
  have hhead : (front.rdropWhile p).dropWhile p = front.rdropWhile p := by
    refine dropWhile_eq_self fun c hc => ?_
    have hstart : front.head? = some c := by
      obtain ⟨rest, hrest⟩ := List.rdropWhile_prefix p (l := front)
      rw [← hrest, List.head?_append, hc, Option.some_or]
    have hnot := List.head?_dropWhile_not p cs
    rw [← hfront, hstart] at hnot
    exact hnot
  rw [hstrip, stripWhile, hhead]
  exact List.rdropWhile_idempotent p front

theorem stripWhile_between {α : Type} {p : α → Bool} {before behind : List α}
    (hbefore : ∀ c ∈ before, p c = true) (hbehind : ∀ c ∈ behind, p c = true) (cs : List α) :
    stripWhile p (before ++ cs ++ behind) = stripWhile p cs := by
  rw [stripWhile, stripWhile, List.append_assoc, List.dropWhile_append_of_pos hbefore,
    List.dropWhile_append]
  by_cases hnone : cs.dropWhile p = []
  · rw [hnone, List.isEmpty_nil, if_pos rfl, List.dropWhile_eq_nil_iff.mpr hbehind]
  · rw [if_neg (by simpa using hnone), List.reverse_append,
      List.dropWhile_append_of_pos fun c hc => hbehind c (List.mem_reverse.mp hc)]

/-- Blanks around a text are trimmed. -/
theorem trim_between {before behind : List Char} (hbefore : ∀ c ∈ before, isBlank c = true)
    (hbehind : ∀ c ∈ behind, isBlank c = true) (s : String) :
    trim (String.ofList (before ++ s.toList ++ behind)) = trim s := by
  rw [trim, trim, String.toList_ofList, trimChars, trimChars, stripWhile_between hbefore hbehind]

theorem trim_of_mem_words {w s : String} (h : w ∈ words s) : trim w = w := by
  rw [← unwords_words_of_mem h]
  exact trim_unwords_words w

end Text

/-! ### Windows -/

namespace Window

/-- The bounds of the window are trimmed. -/
structure Normal (w : Window) : Prop where
  start : Text.Piece.trim w.start = w.start
  stop : Text.Piece.trim w.stop = w.stop

theorem trim_of_boundOfValue {v : Value} {ps : List Text.Piece}
    (h : (boundOfValue v).verdict = .accepted ps) : Text.Piece.trim ps = ps := by
  cases v with
  | null =>
    cases h
    rfl
  | _ =>
    cases h
    exact Text.stripWhile_stripWhile _ _

theorem normal_of_ofValue {v : Value} {w : Window} (h : (ofValue v).verdict = .accepted w) :
    w.Normal := by
  have hbound : ∀ {fields : List (String × Value)} {name : String} {ps : List Text.Piece},
      (Schema.optional fields name [] boundOfValue).verdict = .accepted ps →
      Text.Piece.trim ps = ps := by
    intro fields name ps h
    rw [Schema.optional_accepted] at h
    cases hv : Value.lookup name fields with
    | none =>
      rw [hv] at h
      cases h
      rfl
    | some v =>
      rw [hv] at h
      exact trim_of_boundOfValue h
  rw [ofValue, Schema.asModel] at h
  cases hfields : v.fields? with
  | none =>
    rw [hfields] at h
    cases h
  | some fields =>
    rw [hfields] at h
    simp only [Checked.seq_accepted, Checked.map_accepted] at h
    obtain ⟨_, days, ⟨_, stop, ⟨start, hstart, rfl⟩, hstop, rfl⟩, hdays, rfl⟩ := h
    exact ⟨hbound hstart, hbound hstop⟩

theorem boundOfValue_ofPieces {ps : List Text.Piece} (h : Text.Piece.trim ps = ps) :
    boundOfValue (.ofPieces ps) = .accept ps := by
  rw [Value.ofPieces]
  cases hs : Text.Piece.text? ps with
  | none => exact congrArg Checked.accept h
  | some s =>
    obtain rfl := Text.Piece.eq_ofText_of_text? hs
    exact congrArg Checked.accept h

theorem weekdayOfValue_name (d : Weekday) : weekdayOfValue (.text d.name) = .ok d := by
  cases d <;> decide +kernel

theorem daysOfValue_names (days : List Weekday) :
    daysOfValue (.list (days.map fun d => .text d.name)) = .accept (some days) := by
  have hread : (days.map fun d => Value.text d.name).mapM weekdayOfValue = .ok days := by
    induction days with
    | nil => rfl
    | cons d days ih =>
      rw [List.map_cons, List.mapM_cons, weekdayOfValue_name, ih]
      rfl
  simp only [daysOfValue, Value.parts?, hread]

/-- A window in normal form is read from its own fields as it is. -/
theorem ofValue_toValue {w : Window} (h : w.Normal) : ofValue w.toValue = .accept w := by
  rcases w with ⟨start, stop, days⟩
  rw [ofValue, Schema.asModel, toValue, Value.fields?]
  cases days with
  | none =>
    simp only [Schema.optional, Value.lookup, Entries.find?_cons, String.reduceEq, reduceIte,
      boundOfValue_ofPieces h.start, boundOfValue_ofPieces h.stop]
    rfl
  | some days =>
    simp only [Schema.optional, Value.lookup, Entries.find?_cons, String.reduceEq, reduceIte,
      boundOfValue_ofPieces h.start, boundOfValue_ofPieces h.stop, daysOfValue_names]
    rfl

end Window

/-! ### Templates -/

namespace Template

/-- The words of the label string are joined by single spaces, the bounds of the windows are
trimmed, and neither the name nor the image is empty. -/
structure Normal (t : Template) : Prop where
  name : t.name ≠ ""
  imageId : t.imageId ≠ ""
  windows : ∀ w ∈ t.windows, w.Normal
  labelString : unwords (words t.labelString) = t.labelString

/-- The text that a value gives for the labels of a template. -/
def givenLabels (v : Value) : String :=
  ((v.field? "label_string").filter Value.isTruthy).elim "" Value.display

variable [Conversions] [LawfulConversions]

theorem reads_of_ofValue {v : Value} {t : Template} (h : (ofValue v).verdict = .accepted t) :
    t.name ≠ "" ∧ t.imageId ≠ "" ∧ (∀ w ∈ t.windows, w.Normal) ∧
      t.labelString = unwords (words (givenLabels v)) := by
  rw [ofValue, Schema.asModel] at h
  cases hfields : v.fields? with
  | none =>
    rw [hfields] at h
    cases h
  | some fields =>
    rw [hfields] at h
    simp only [Checked.seq_accepted, Checked.map_accepted] at h
    obtain ⟨_, tags, ⟨_, subnetId, ⟨_, securityGroupIds, ⟨_, keyName, ⟨_, spotMaxPrice, ⟨_, spot,
      ⟨_, idleMinutes, ⟨_, labelString, ⟨_, windows, ⟨_, primed, ⟨_, instanceCap, ⟨_, executors,
      ⟨_, instanceType, ⟨_, imageId, ⟨name, hname, rfl⟩, himage, rfl⟩, -, rfl⟩, -, rfl⟩, -, rfl⟩, -,
      rfl⟩, hwindows, rfl⟩, hlabels, rfl⟩, -, rfl⟩, -, rfl⟩, -, rfl⟩, -, rfl⟩, -, rfl⟩, -, rfl⟩, -,
      rfl⟩ := h
    obtain ⟨_, -, hname⟩ := Schema.required_accepted.mp hname
    obtain ⟨_, -, himage⟩ := Schema.required_accepted.mp himage
    refine ⟨asNonemptyText_accepted hname, asNonemptyText_accepted himage, ?_, ?_⟩
    · rw [Schema.optional_accepted] at hwindows
      cases hv : Value.lookup "primed_windows" fields with
      | none =>
        rw [hv] at hwindows
        cases hwindows
        exact fun w hw => absurd hw List.not_mem_nil
      | some v =>
        rw [hv] at hwindows
        intro w hw
        obtain ⟨_, hread⟩ := asList_accepted hwindows w hw
        exact Window.normal_of_ofValue hread
    · rw [Schema.optional_accepted] at hlabels
      rw [givenLabels, Value.field?, hfields, Option.bind_some]
      cases hv : Value.lookup "label_string" fields with
      | none =>
        rw [hv] at hlabels
        cases hlabels
        rfl
      | some v =>
        rw [hv] at hlabels
        cases hlabels
        cases hv : v.isTruthy with
        | true => rw [Option.filter_some_pos hv]; rfl
        | false => rw [Option.filter_some_neg (by simp [hv])]; rfl

theorem normal_of_ofValue {v : Value} {t : Template} (h : (ofValue v).verdict = .accepted t) :
    t.Normal := by
  obtain ⟨hname, himage, hwindows, hlabels⟩ := reads_of_ofValue h
  refine ⟨hname, himage, hwindows, ?_⟩
  rw [hlabels, Text.words_unwords_words]

theorem optionalText_read (s : Option String) :
    Schema.asOptional Schema.asText (optionalText s) = .accept s := by
  cases s with
  | none => rfl
  | some s =>
    show some <$> Schema.asText (.text s) = _
    rw [asText_text]
    rfl

omit [Conversions] [LawfulConversions] in
theorem labelsOfValue_text (s : String) :
    labelsOfValue (.text s) = .accept (unwords (words s)) := by
  rw [labelsOfValue]
  by_cases hs : s = ""
  · subst hs
    rfl
  · have htruthy : (Value.text s).isTruthy = true := by simp [Value.isTruthy, hs]
    rw [htruthy]
    rfl

/-- A template in normal form is read from its own fields as it is. -/
theorem ofValue_toValue {t : Template} (h : t.Normal) : ofValue t.toValue = .accept t := by
  have hlabels : labelsOfValue (.text t.labelString) = .accept t.labelString := by
    rw [labelsOfValue_text, h.labelString]
  have hwindows : Schema.asList Window.ofValue (.list (t.windows.map Window.toValue)) =
      .accept t.windows :=
    asList_list fun w hw => Window.ofValue_toValue (h.windows w hw)
  have hgroups : Schema.asList Schema.asText (.list (t.securityGroupIds.map .text)) =
      .accept t.securityGroupIds :=
    asList_list fun s _ => asText_text s
  have htags : ∀ fields, fields = t.tags.map (fun a => (a.1, Value.text a.2)) →
      Schema.asFields Schema.asText (.object fields) = .accept t.tags := by
    rintro _ rfl
    exact asFields_object fun a _ => asText_text a.2
  have hcap : capOfValue (.int t.instanceCap) = .accept t.instanceCap := Schema.asNat_ofNat _
  have hidle : idleOfValue (.int t.idleMinutes) = .accept t.idleMinutes := Schema.asNat_ofNat _
  rw [ofValue, Schema.asModel, toValue, Value.fields?]
  simp only [Schema.required, Schema.optional, Value.lookup, Entries.find?_cons, String.reduceEq,
    reduceIte, asNonemptyText_text h.name, asNonemptyText_text h.imageId, asText_text,
    Schema.asPositive_ofPositive, hcap, Schema.asNat_ofNat, hwindows, hlabels, hidle, asBool_bool,
    optionalText_read, hgroups, Checked.accept_under, Checked.map_accept, Checked.accept_seq]
  rw [htags _ rfl]
  rfl

omit [Conversions] [LawfulConversions] in
theorem serves_of_trim {t : Template} {label : String} (h : trim label = label)
    (hlabel : label = t.labelString ∨ label ∈ t.labels) {before behind : List Char}
    (hbefore : ∀ c ∈ before, isBlank c = true) (hbehind : ∀ c ∈ behind, isBlank c = true) :
    t.serves (some (String.ofList (before ++ label.toList ++ behind))) = true := by
  simp only [serves, Text.trim_between hbefore hbehind, h, Bool.or_eq_true, decide_eq_true_eq,
    List.contains_iff_mem]
  exact hlabel

end Template

/-- **A template that has been read is read again as it is**, field for field and window for window,
without a word in the log.  Its label string holds the pieces between the blanks of what was given,
in order and joined by single spaces, and it serves its label string and each of the pieces with any
blanks around them. -/
theorem template_settles [Conversions] [LawfulConversions] {v : Value} {t : Template}
    (h : (Template.ofValue v).verdict = .accepted t) :
    Template.ofValue t.toValue = .accept t ∧
      t.labelString = " ".intercalate (Text.tokens (Template.givenLabels v)) ∧
      ∀ label, label = t.labelString ∨ label ∈ Text.tokens (Template.givenLabels v) →
        ∀ before behind : List Char, (∀ c ∈ before, isBlank c = true) →
          (∀ c ∈ behind, isBlank c = true) →
          t.serves (some (String.ofList (before ++ label.toList ++ behind))) = true := by
  have hnormal := Template.normal_of_ofValue h
  obtain ⟨-, -, -, hlabels⟩ := Template.reads_of_ofValue h
  refine ⟨Template.ofValue_toValue hnormal, ?_, ?_⟩
  · rw [hlabels, Text.unwords_eq_intercalate, Text.words_eq_tokens]
  · intro label hlabel before behind hbefore hbehind
    rw [← Text.words_eq_tokens] at hlabel
    have htrim : trim label = label := by
      rcases hlabel with rfl | hword
      · rw [hlabels]
        exact Text.trim_unwords_words _
      · exact Text.trim_of_mem_words hword
    have hlabel' : label = t.labelString ∨ label ∈ t.labels := by
      rw [Template.labels, hlabels, Text.words_unwords_words, ← hlabels]
      exact hlabel
    exact Template.serves_of_trim htrim hlabel' hbefore hbehind

/-- A template with every value in an unusual spelling. -/
def untidyTemplate : Value :=
  .object
    [("name", .text "builder"), ("image_id", .text "ami-1"), ("num_executors", .bool true),
     ("instance_cap", .text " 007\t"), ("num_primed_instances", .text "+2.00"),
     ("primed_windows", .list [.object
       [("start_time", .text "\u2003 22:00"), ("end_time", .int 6),
        ("days", .list [.int 0, .bool true, .text " SUNDAY"])]]),
     ("label_string", .text "\tlinux \u00a0docker\n"),
     ("idle_termination_minutes", .text "soon"), ("spot", .text "Yes")]

theorem template_settles_untidy : ∃ t, (Template.ofValue untidyTemplate).verdict = .accepted t ∧
    Template.ofValue t.toValue = .accept t ∧ t.labelString = "linux docker" ∧
    t.idleMinutes = 30 ∧ t.serves (some "\tdocker ") = true := by
  obtain ⟨t, ht, hidle⟩ : ∃ t, (Template.ofValue untidyTemplate).verdict = .accepted t ∧
      t.idleMinutes = 30 := by
    have hread : (Template.ofValue untidyTemplate).toExcept.toOption.map (·.idleMinutes) =
        some 30 := by decide +kernel
    cases h : (Template.ofValue untidyTemplate).toExcept with
    | error failure =>
      rw [h] at hread
      cases hread
    | ok t =>
      rw [h] at hread
      exact ⟨t, Checked.toExcept_eq_ok.mp h, Option.some.inj hread⟩
  obtain ⟨hagain, hlabels, hserves⟩ := template_settles ht
  have hgiven : Text.tokens (Template.givenLabels untidyTemplate) = ["linux", "docker"] := by
    decide +kernel
  rw [hgiven] at hlabels hserves
  have hblank : ∀ b ∈ ['\t', ' '], isBlank b = true := List.all_eq_true.mp (by decide)
  have hdocker := hserves "docker" (.inr (by decide)) ['\t'] [' ']
    (fun c hc => hblank c (by simp_all)) (fun c hc => hblank c (by simp_all))
  exact ⟨t, ht, hagain, hlabels.trans (by decide +kernel), hidle, hdocker⟩

end BuildFleet
