import Mathlib.Data.List.DropRight
import LabelQuery.Selector.Rule
/-!
# Trimming and tokens

`trimChars` drops the blanks at the front of a list of characters and then those at its back:
it is `rdropWhile isBlank ∘ dropWhile isBlank`. Everything here follows from two facts about
that form: what is left starts and ends with a character that is not blank, and what was dropped
is blank. So a text that starts and ends with a non-blank character is its own trim, trimming
twice is trimming once, and every text is its trim with a run of blanks on each side.

A token has no blank at all (blanks are reserved), so a token is its own trim. This is what
makes a rule's key and values read back unchanged through `Rule.new`.

## Main statements

* `trimChars_blanks_append`: trimming `w ++ x ++ w'`, where `w` and `w'` are blank and `x`
  does not start or end with a blank, gives `x`.
* `trimChars_eq_nil_iff`: a text trims to nothing exactly when it is blank.
* `trimChars_trimChars`: trimming is idempotent.
* `eq_blanks_append_trimChars`: every text is its trim with blanks on both sides.
* `trim_of_isToken`: a token is its own trim.
-/

namespace LabelQuery

namespace Text

/-- A run of blanks, possibly empty. -/
def Blanks (w : List Char) : Prop := ∀ c ∈ w, isBlank c = true

theorem Blanks.append {w w' : List Char} (hw : Blanks w) (hw' : Blanks w') : Blanks (w ++ w') := by
  intro c hc
  rcases List.mem_append.mp hc with hc | hc
  · exact hw c hc
  · exact hw' c hc

theorem blanks_nil : Blanks [] := fun _ h ↦ absurd h List.not_mem_nil

theorem trimChars_eq_rdropWhile (cs : List Char) :
    trimChars cs = (cs.dropWhile isBlank).rdropWhile isBlank := rfl

/-! ### What is left starts and ends with a non-blank character -/

/-- Dropping leading blanks changes nothing when the text does not start with one. -/
theorem dropWhile_isBlank_of_head {cs : List Char} (h : ∀ c ∈ cs.head?, isBlank c = false) :
    cs.dropWhile isBlank = cs := by
  cases cs with
  | nil => rfl
  | cons c cs => exact List.dropWhile_cons_of_neg (by simpa using h)

/-- After the leading blanks comes a character that is not blank, if any. -/
theorem head?_dropWhile_isBlank (cs : List Char) :
    ∀ c ∈ (cs.dropWhile isBlank).head?, isBlank c = false := by
  intro c hc
  have h := List.head?_dropWhile_not isBlank cs
  rw [Option.mem_def.mp hc] at h
  exact h

theorem head?_trimChars (cs : List Char) : ∀ c ∈ (trimChars cs).head?, isBlank c = false := by
  intro c hc
  obtain ⟨rest, hrest⟩ := List.rdropWhile_prefix (p := isBlank) (l := cs.dropWhile isBlank)
  have hd : (cs.dropWhile isBlank).head? = some c := by
    rw [← hrest, List.head?_append, ← trimChars_eq_rdropWhile, Option.mem_def.mp hc]
    rfl
  exact head?_dropWhile_isBlank cs c hd

theorem getLast?_trimChars (cs : List Char) :
    ∀ c ∈ (trimChars cs).getLast?, isBlank c = false := by
  intro c hc
  rw [trimChars, List.getLast?_reverse] at hc
  exact head?_dropWhile_isBlank _ c hc

/-! ### Trimming a text with known ends -/

/-- Dropping trailing blanks of `x ++ w'` with blank `w'` gives `x` when `x` does not end with
a blank. -/
theorem rdropWhile_isBlank_append {x w' : List Char} (hw' : Blanks w')
    (hx : ∀ c ∈ x.getLast?, isBlank c = false) :
    (x ++ w').rdropWhile isBlank = x := by
  have hrev : ∀ c ∈ x.reverse.head?, isBlank c = false := by
    rw [List.head?_reverse]
    exact hx
  rw [List.rdropWhile, List.reverse_append,
    List.dropWhile_append_of_pos (fun c hc ↦ hw' c (List.mem_reverse.mp hc)),
    dropWhile_isBlank_of_head hrev, List.reverse_reverse]

/-- **Trimming removes exactly the blank runs at the two ends.** -/
theorem trimChars_blanks_append {w x w' : List Char} (hw : Blanks w) (hw' : Blanks w')
    (hx : ∀ c ∈ x.head?, isBlank c = false) (hx' : ∀ c ∈ x.getLast?, isBlank c = false) :
    trimChars (w ++ x ++ w') = x := by
  rw [trimChars_eq_rdropWhile, List.append_assoc, List.dropWhile_append_of_pos hw]
  cases x with
  | nil =>
    rw [List.nil_append, List.dropWhile_eq_nil_iff.mpr hw']
    rfl
  | cons c x =>
    rw [dropWhile_isBlank_of_head (by simpa using hx)]
    exact rdropWhile_isBlank_append hw' hx'

theorem trimChars_of_forall {cs : List Char} (h : ∀ c ∈ cs, isBlank c = false) :
    trimChars cs = cs := by
  have hb : Blanks [] := blanks_nil
  have hx : ∀ c ∈ cs.head?, isBlank c = false := fun c hc ↦ h c (List.mem_of_mem_head? hc)
  have hx' : ∀ c ∈ cs.getLast?, isBlank c = false := fun c hc ↦ h c (List.mem_of_mem_getLast? hc)
  simpa using trimChars_blanks_append hb hb hx hx'

/-! ### Blank texts, idempotence, and the decomposition -/

/-- **A text trims to nothing exactly when it is blank.** -/
theorem trimChars_eq_nil_iff {cs : List Char} : trimChars cs = [] ↔ Blanks cs := by
  rw [trimChars_eq_rdropWhile, List.rdropWhile_eq_nil_iff]
  constructor
  · intro h
    -- what is left after the leading blanks starts with a non-blank, so nothing is left
    cases hd : cs.dropWhile isBlank with
    | nil => exact List.dropWhile_eq_nil_iff.mp hd
    | cons c rest =>
      have hc := head?_dropWhile_isBlank cs c (by simp [hd])
      have hc' := h c (by simp [hd])
      simp [hc] at hc'
  · intro h c hc
    rw [List.dropWhile_eq_nil_iff.mpr h] at hc
    exact absurd hc List.not_mem_nil

/-- The test the code makes for a blank text: trimming leaves nothing. -/
theorem isEmpty_trimChars {cs : List Char} : (trimChars cs).isEmpty = true ↔ Blanks cs := by
  rw [List.isEmpty_iff, trimChars_eq_nil_iff]

/-- **Trimming twice is trimming once.** -/
theorem trimChars_trimChars (cs : List Char) : trimChars (trimChars cs) = trimChars cs := by
  have hb : Blanks [] := blanks_nil
  simpa using trimChars_blanks_append hb hb (head?_trimChars cs) (getLast?_trimChars cs)

/-- **Every text is its trim with a run of blanks on each side.** -/
theorem eq_blanks_append_trimChars (cs : List Char) :
    ∃ w w', Blanks w ∧ Blanks w' ∧ cs = w ++ trimChars cs ++ w' := by
  refine ⟨cs.takeWhile isBlank, (cs.dropWhile isBlank).rtakeWhile isBlank,
    fun c hc ↦ List.mem_takeWhile_imp hc, fun c hc ↦ List.mem_rtakeWhile_imp hc, ?_⟩
  rw [trimChars_eq_rdropWhile, List.append_assoc, List.rdropWhile_append_rtakeWhile,
    List.takeWhile_append_dropWhile]

/-! ### Tokens -/

/-- A token is a non-empty text whose characters are all unreserved. -/
theorem isToken_eq_true_iff {s : String} :
    isToken s = true ↔ s.toList ≠ [] ∧ ∀ c ∈ s.toList, isReserved c = false := by
  simp [isToken]

theorem isBlank_of_isReserved_eq_false {c : Char} (h : isReserved c = false) :
    isBlank c = false := by
  simp only [isReserved, Bool.or_eq_false_iff] at h
  exact h.1.1.1.1.1.1.1

/-- **A token is its own trim.** -/
theorem trim_of_isToken {s : String} (h : isToken s = true) : trim s = s := by
  have hchars := (isToken_eq_true_iff.mp h).2
  rw [trim, trimChars_of_forall fun c hc ↦ isBlank_of_isReserved_eq_false (hchars c hc),
    String.ofList_toList]

theorem map_trim_of_isToken {vs : List String} (hv : ∀ v ∈ vs, isToken v = true) :
    vs.map trim = vs :=
  (List.map_congr_left fun v hm ↦ trim_of_isToken (hv v hm)).trans (List.map_id _)

end Text

end LabelQuery
