/-
Blank characters, trimming and words.

Two sets of blank characters are in use, and they differ in six characters:

* **`isWhiteSpace`** — the Unicode property White_Space, which bounds numbers inside JSON values
  and settings;
* **`isBlank`** — White_Space together with the four information separators `U+001C`–`U+001F`,
  which bounds everything a person types: labels, times of day, caps.

`trim` and `words` work with `isBlank`.  A text made of words without blanks, joined by single
spaces, has exactly these words (`words_unwords`).
-/
namespace BuildFleet.Text

/-- The characters with the Unicode property White_Space. -/
def isWhiteSpace (c : Char) : Bool :=
  let n := c.toNat
  (9 ≤ n && n ≤ 13) || n == 0x20 || n == 0x85 || n == 0xA0 || n == 0x1680 ||
    (0x2000 ≤ n && n ≤ 0x200A) || n == 0x2028 || n == 0x2029 || n == 0x202F || n == 0x205F ||
    n == 0x3000

/-- White space or one of the four information separators. -/
def isBlank (c : Char) : Bool :=
  isWhiteSpace c || (0x1C ≤ c.toNat && c.toNat ≤ 0x1F)

/-- `cs` without the elements of the class `p` at its two ends. -/
def stripWhile {α : Type} (p : α → Bool) (cs : List α) : List α :=
  ((cs.dropWhile p).reverse.dropWhile p).reverse

/-- `cs` without the blanks at its two ends. -/
def trimChars (cs : List Char) : List Char :=
  stripWhile isBlank cs

/-- `s` without the blanks at its two ends. -/
def trim (s : String) : String :=
  String.ofList (trimChars s.toList)

/-- The maximal runs of characters that are not blank, where `run` is the run being read, in
reverse. -/
def wordsAux (run : List Char) : List Char → List (List Char)
  | [] => if run.isEmpty then [] else [run.reverse]
  | c :: cs =>
    if isBlank c then
      if run.isEmpty then wordsAux [] cs else run.reverse :: wordsAux [] cs
    else wordsAux (c :: run) cs

/-- The maximal runs of characters that are not blank. -/
def wordsChars (cs : List Char) : List (List Char) :=
  wordsAux [] cs

/-- The words of `s`: its maximal runs of characters that are not blank, in order. -/
def words (s : String) : List String :=
  (wordsChars s.toList).map String.ofList

/-- Words joined by single spaces. -/
def unwordsChars : List (List Char) → List Char
  | [] => []
  | [w] => w
  | w :: v :: ws => w ++ ' ' :: unwordsChars (v :: ws)

/-- Words joined by single spaces. -/
def unwords (ws : List String) : String :=
  String.ofList (unwordsChars (ws.map String.toList))

/-- `cs` cut at each `sep`; there is one piece more than there are separators. -/
def splitChars (sep : Char) : List Char → List (List Char)
  | [] => [[]]
  | c :: cs =>
    if c = sep then [] :: splitChars sep cs
    else
      match splitChars sep cs with
      | [] => [[c]]
      | piece :: pieces => (c :: piece) :: pieces

/-! ### Pieces -/

theorem splitChars_ne_nil (sep : Char) (cs : List Char) : splitChars sep cs ≠ [] := by
  cases cs with
  | nil => exact List.cons_ne_nil _ _
  | cons c cs =>
    rw [splitChars]
    split
    · exact List.cons_ne_nil _ _
    · split <;> exact List.cons_ne_nil _ _

theorem splitChars_of_notMem {sep : Char} {cs : List Char} (h : sep ∉ cs) :
    splitChars sep cs = [cs] := by
  induction cs with
  | nil => rfl
  | cons c cs ih =>
    have hc : c ≠ sep := fun he => h (he ▸ List.mem_cons_self)
    rw [splitChars, if_neg hc, ih fun hmem => h (List.mem_cons_of_mem c hmem)]

theorem splitChars_append {sep : Char} {a : List Char} (h : sep ∉ a) (cs : List Char) :
    splitChars sep (a ++ sep :: cs) = a :: splitChars sep cs := by
  induction a with
  | nil => rw [List.nil_append, splitChars, if_pos rfl]
  | cons c a ih =>
    have hc : c ≠ sep := fun he => h (he ▸ List.mem_cons_self)
    rw [List.cons_append, splitChars, if_neg hc, ih fun hmem => h (List.mem_cons_of_mem c hmem)]

/-- Two pieces are what stands before and behind the only separator. -/
theorem splitChars_eq_pair {sep : Char} {cs a b : List Char} :
    splitChars sep cs = [a, b] ↔ cs = a ++ sep :: b ∧ sep ∉ a ∧ sep ∉ b := by
  constructor
  · intro h
    by_cases hcs : sep ∈ cs
    · obtain ⟨before, behind, rfl, hbefore⟩ := List.eq_append_cons_of_mem hcs
      rw [splitChars_append hbefore] at h
      by_cases hbehind : sep ∈ behind
      · -- Another separator makes a third piece.
        obtain ⟨middle, rest, rfl, hmiddle⟩ := List.eq_append_cons_of_mem hbehind
        rw [splitChars_append hmiddle] at h
        exact absurd (List.cons.inj (List.cons.inj h).2).2 (splitChars_ne_nil sep rest)
      · rw [splitChars_of_notMem hbehind] at h
        obtain ⟨rfl, hb⟩ := List.cons.inj h
        obtain rfl := (List.cons.inj hb).1
        exact ⟨rfl, hbefore, hbehind⟩
    · rw [splitChars_of_notMem hcs] at h
      cases (List.cons.inj h).2
  · rintro ⟨rfl, ha, hb⟩
    rw [splitChars_append ha, splitChars_of_notMem hb]

/-! ### Words -/

/-- Reading the characters of a word extends the run. -/
theorem wordsAux_append {w : List Char} (hw : ∀ c ∈ w, isBlank c = false) (run cs : List Char) :
    wordsAux run (w ++ cs) = wordsAux (w.reverse ++ run) cs := by
  induction w generalizing run with
  | nil => rfl
  | cons c w ih =>
    have hc : isBlank c = false := hw c (by simp)
    have hrest : ∀ d ∈ w, isBlank d = false := fun d hd => hw d (by simp [hd])
    simp [wordsAux, hc, ih hrest]

/-- A text of words joined by single spaces has exactly these words. -/
theorem wordsChars_unwordsChars {ws : List (List Char)} (hne : ∀ w ∈ ws, w ≠ [])
    (hws : ∀ w ∈ ws, ∀ c ∈ w, isBlank c = false) : wordsChars (unwordsChars ws) = ws := by
  induction ws with
  | nil => rfl
  | cons w ws ih =>
    have hw : w ≠ [] := hne w (by simp)
    have hwb : ∀ c ∈ w, isBlank c = false := hws w (by simp)
    cases ws with
    | nil =>
      have := wordsAux_append hwb [] []
      simp only [List.append_nil] at this
      simp [wordsChars, unwordsChars, this, wordsAux, hw]
    | cons v vs =>
      have hspace : isBlank ' ' = true := by decide
      have htail : wordsChars (unwordsChars (v :: vs)) = v :: vs :=
        ih (fun x hx => hne x (by simp [hx])) (fun x hx => hws x (by simp [hx]))
      have := wordsAux_append hwb [] (' ' :: unwordsChars (v :: vs))
      simp only [List.append_nil] at this
      rw [wordsChars, unwordsChars, this, wordsAux, if_pos hspace]
      simp only [List.isEmpty_iff, List.reverse_eq_nil_iff, hw, if_false, List.reverse_reverse]
      rw [← wordsChars, htail]

/-- Every word of a text is a nonempty run without blanks. -/
theorem wordsAux_mem {run cs : List Char} (hrun : ∀ c ∈ run, isBlank c = false)
    {w : List Char} (h : w ∈ wordsAux run cs) : w ≠ [] ∧ ∀ c ∈ w, isBlank c = false := by
  have closed : ∀ r : List Char, (∀ c ∈ r, isBlank c = false) → r ≠ [] →
      r.reverse ≠ [] ∧ ∀ c ∈ r.reverse, isBlank c = false := fun r hr hne =>
    ⟨fun he => hne (List.reverse_eq_nil_iff.1 he), fun c hc => hr c (List.mem_reverse.1 hc)⟩
  induction cs generalizing run with
  | nil =>
    by_cases hne : run = []
    · simp [wordsAux, hne] at h
    · have he : w = run.reverse := by simpa [wordsAux, hne] using h
      exact he ▸ closed run hrun hne
  | cons c cs ih =>
    by_cases hc : isBlank c = true
    · by_cases hne : run = []
      · exact @ih [] (fun _ h => nomatch h) (by simpa [wordsAux, hc, hne] using h)
      · have h' : w = run.reverse ∨ w ∈ wordsAux [] cs := by simpa [wordsAux, hc, hne] using h
        rcases h' with he | h'
        · exact he ▸ closed run hrun hne
        · exact @ih [] (fun _ h => nomatch h) h'
    · have hc' : isBlank c = false := by simpa using hc
      refine @ih (c :: run) (fun x hx => ?_) (by simpa [wordsAux, hc'] using h)
      rcases List.mem_cons.1 hx with rfl | hx
      · exact hc'
      · exact hrun x hx

theorem mem_wordsChars {w cs : List Char} (h : w ∈ wordsChars cs) :
    w ≠ [] ∧ ∀ c ∈ w, isBlank c = false :=
  wordsAux_mem (fun _ hc => absurd hc List.not_mem_nil) h

theorem map_toList_words (s : String) : (words s).map String.toList = wordsChars s.toList := by
  rw [words, List.map_map]
  exact (List.map_congr_left fun cs _ => String.toList_ofList).trans (List.map_id _)

/-- A run that is being read becomes a word. -/
theorem wordsAux_ne_nil {run cs : List Char} (h : run ≠ []) : wordsAux run cs ≠ [] := by
  induction cs generalizing run with
  | nil => simp [wordsAux, h]
  | cons c cs ih =>
    rw [wordsAux]
    split
    · simp [h]
    · exact ih (List.cons_ne_nil c run)

/-! ### Words and trimming -/

/-- Blanks in front of a text belong to none of its words. -/
theorem wordsChars_dropWhile (cs : List Char) :
    wordsChars (cs.dropWhile isBlank) = wordsChars cs := by
  induction cs with
  | nil => rfl
  | cons c cs ih =>
    by_cases hc : isBlank c = true
    · rw [List.dropWhile_cons_of_pos hc, ih]
      simp [wordsChars, wordsAux, hc]
    · rw [List.dropWhile_cons_of_neg hc]

/-- Blanks behind a text belong to none of its words. -/
theorem wordsAux_append_blanks {bs : List Char} (hbs : ∀ c ∈ bs, isBlank c = true)
    (run cs : List Char) : wordsAux run (cs ++ bs) = wordsAux run cs := by
  induction cs generalizing run with
  | nil =>
    induction bs generalizing run with
    | nil => rfl
    | cons b bs ih =>
      have hb : isBlank b = true := hbs b List.mem_cons_self
      have hrest : wordsAux [] bs = [] :=
        ih (fun c hc => hbs c (List.mem_cons_of_mem b hc)) []
      simp [wordsAux, hb, hrest]
  | cons c cs ih => simp only [List.cons_append, wordsAux, ih]

theorem wordsChars_trimChars (cs : List Char) : wordsChars (trimChars cs) = wordsChars cs := by
  -- What trimming takes off at the end is a run of blanks.
  have hsplit : ∀ ds : List Char, ∃ bs, (∀ c ∈ bs, isBlank c = true) ∧
      ds = (ds.reverse.dropWhile isBlank).reverse ++ bs := by
    intro ds
    refine ⟨(ds.reverse.takeWhile isBlank).reverse, fun c hc => ?_, ?_⟩
    · have hall := List.all_takeWhile (l := ds.reverse) (p := isBlank)
      exact List.all_eq_true.mp hall c (List.mem_reverse.mp hc)
    · rw [← List.reverse_append, List.takeWhile_append_dropWhile, List.reverse_reverse]
  obtain ⟨bs, hbs, hds⟩ := hsplit (cs.dropWhile isBlank)
  rw [← wordsChars_dropWhile cs, hds, trimChars, stripWhile]
  exact (wordsAux_append_blanks hbs [] _).symm

/-- Trimming changes no word. -/
theorem words_trim (s : String) : words (trim s) = words s := by
  simp [words, trim, wordsChars_trimChars]

/-- A word has no word but itself. -/
theorem words_of_mem {w s : String} (h : w ∈ words s) : words w = [w] := by
  obtain ⟨cs, hcs, rfl⟩ := List.mem_map.1 h
  obtain ⟨hne, hblank⟩ := mem_wordsChars hcs
  have hone : wordsChars (unwordsChars [cs]) = [cs] :=
    wordsChars_unwordsChars (by simpa using hne) (by simpa using hblank)
  rw [unwordsChars] at hone
  simp [words, hone]

theorem ne_nil_of_mem_words {w s : String} (h : w ∈ words s) : w ≠ "" := by
  rintro rfl
  exact absurd (words_of_mem h) (by decide)

/-- A text without words is blank. -/
theorem trim_of_words_eq_nil {s : String} (h : words s = []) : trim s = "" := by
  have hblank : ∀ {run cs : List Char}, wordsAux run cs = [] → ∀ c ∈ cs, isBlank c = true := by
    intro run cs
    induction cs generalizing run with
    | nil => exact fun _ c hc => nomatch hc
    | cons c cs ih =>
      intro hnil
      by_cases hc : isBlank c = true
      · rw [wordsAux, if_pos hc] at hnil
        have hrun : run = [] := by
          by_cases hr : run = []
          · exact hr
          · simp [hr] at hnil
        rw [hrun] at hnil
        exact List.forall_mem_cons.2 ⟨hc, ih hnil⟩
      · -- A character that is not blank opens a word, which does not go away any more.
        rw [wordsAux, if_neg hc] at hnil
        exact absurd hnil (wordsAux_ne_nil (List.cons_ne_nil c run))
  have hchars : wordsChars s.toList = [] := List.map_eq_nil_iff.1 h
  have hdrop : (s.toList ++ []).dropWhile isBlank = [] :=
    List.dropWhile_append_of_pos (hblank hchars)
  rw [List.append_nil] at hdrop
  simp [trim, trimChars, stripWhile, hdrop]

theorem dropWhile_eq_self {α : Type} {p : α → Bool} {cs : List α}
    (h : ∀ c, cs.head? = some c → p c = false) : cs.dropWhile p = cs := by
  cases cs with
  | nil => rfl
  | cons c cs => rw [List.dropWhile_cons_of_neg (by simp [h c rfl])]

/-- A text of words joined by single spaces has no blanks at its ends. -/
theorem trimChars_unwordsChars {ws : List (List Char)} (hne : ∀ w ∈ ws, w ≠ [])
    (hws : ∀ w ∈ ws, ∀ c ∈ w, isBlank c = false) :
    trimChars (unwordsChars ws) = unwordsChars ws := by
  have hhead : ∀ c, (unwordsChars ws).head? = some c → isBlank c = false := by
    intro c hc
    match ws with
    | [] => cases hc
    | [w] => exact hws w List.mem_cons_self c (List.mem_of_head? hc)
    | w :: v :: ws =>
      obtain ⟨d, ds, rfl⟩ := List.exists_cons_of_ne_nil (hne w List.mem_cons_self)
      obtain rfl : d = c := Option.some.inj hc
      exact hws _ List.mem_cons_self d List.mem_cons_self
  have hlast : ∀ c, (unwordsChars ws).getLast? = some c → isBlank c = false := by
    intro c hc
    clear hhead
    induction ws with
    | nil => cases hc
    | cons w ws ih =>
      cases ws with
      | nil => exact hws w List.mem_cons_self c (List.mem_of_getLast? hc)
      | cons v ws =>
        have hv : v ≠ [] := hne v (by simp)
        have hrest : unwordsChars (v :: ws) ≠ [] := by
          cases ws <;> simp [unwordsChars, hv]
        obtain ⟨d, ds, hd⟩ := List.exists_cons_of_ne_nil hrest
        refine ih (fun x hx => hne x (List.mem_cons_of_mem w hx))
          (fun x hx => hws x (List.mem_cons_of_mem w hx)) ?_
        rw [unwordsChars, hd, List.getLast?_append, List.getLast?_cons_cons, List.getLast?_cons,
          Option.some_or] at hc
        rw [hd, List.getLast?_cons]
        exact hc
  rw [trimChars, stripWhile, dropWhile_eq_self hhead,
    dropWhile_eq_self (by simpa using hlast), List.reverse_reverse]

theorem trim_unwords_words (s : String) : trim (unwords (words s)) = unwords (words s) := by
  rw [trim, unwords, map_toList_words, String.toList_ofList,
    trimChars_unwordsChars (fun w hw => (mem_wordsChars hw).1) fun w hw => (mem_wordsChars hw).2]

end BuildFleet.Text
