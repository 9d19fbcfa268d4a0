import LabelQuery.Proofs.Trim
import LabelQuery.Selector.Lexeme
/-!
# Where a fragment's lexemes lie in its text

The scanner cuts the characters of a fragment into lexemes and drops the blanks between them.
This module says exactly how the lexemes lie in the text: a text is read as the lexemes `ts`
when it is `w₀ t₁ w₁ ⋯ tₙ wₙ`, the texts of the lexemes in order with runs of blanks `wᵢ`
between them, where the run between two words is not empty (`Gaps`). A gap between two
words cannot be empty because a word is a longest run of unreserved characters.

Both directions are proved. Whatever the text, the lexemes the scanner reads lie in it so
(`gaps_scan`). Conversely a text laid out so is scanned into exactly these pieces, provided
each piece is a word or the text of another lexeme and no `=` or `!` stands right before a
piece that could join it into `==` or `!=` (`scan_of_gaps`).

Everything rests on one description of a single lexeme (`readLexeme_cases`): a mark of one
character, a two-character symbol that takes the `=` after it, or a word with the
unreserved characters after it. Blanks do not matter for the lexemes at either end: leading
blanks only move the offsets, and trailing blanks are dropped (`scan_append_blanks`).

## Main statements

* `gaps_scan`: every text lies around its lexemes' texts as `Gaps` says.
* `scan_of_gaps`: a text laid out as `Gaps` says is scanned into its pieces.
* `scan_append_blanks`: blanks at the end of a text give no lexeme.
* `map_lexeme_scan`: the lexemes do not depend on the offset the scan starts at.
-/

namespace LabelQuery

open Text

/-! ### Pieces with blank gaps -/

/-- `Gaps p ts cs`: the text `cs` is `w₀ t₁ w₁ ⋯ tₙ wₙ`, the pieces `ts` in order with a run of
blanks `wᵢ` before, between and after them, where the run between two words (tokens) is not
empty. `p` says whether a word stands right before `cs`; then the first run must not be empty
either when `t₁` is a word. -/
inductive Gaps : Bool → List String → List Char → Prop
  /-- The run of blanks after the last piece. -/
  | last {p : Bool} {w : List Char} : Blanks w → Gaps p [] w
  /-- A run of blanks, a piece, and what follows it. -/
  | piece {p : Bool} {w : List Char} {t : String} {ts : List String} {cs : List Char} :
      Blanks w → (p = true → isToken t = true → w ≠ []) → Gaps (isToken t) ts cs →
      Gaps p (t :: ts) (w ++ t.toList ++ cs)

/-- **The text `e` writes the pieces `ts` with blanks around them**: runs of blanks before,
between and after the pieces, the run between two words not empty. -/
def Spaced (ts : List String) (e : String) : Prop :=
  Gaps false ts e.toList

namespace Gaps

/-- A blank in front of a text lengthens its first gap, which is then not empty. -/
theorem cons_blank {p q : Bool} {c : Char} {ts : List String} {cs : List Char}
    (hc : isBlank c = true) (h : Gaps q ts cs) : Gaps p ts (c :: cs) := by
  have hcw : ∀ {w : List Char}, Blanks w → Blanks (c :: w) := fun hw d hd ↦ by
    rcases List.mem_cons.mp hd with rfl | hd
    · exact hc
    · exact hw d hd
  cases h with
  | last hw => exact .last (hcw hw)
  | piece hw _ hrest => exact .piece (w := c :: _) (hcw hw) (fun _ _ ↦ List.cons_ne_nil _ _) hrest

theorem blanks_append {p : Bool} {ts : List String} {w cs : List Char} (hw : Blanks w)
    (h : Gaps p ts cs) : Gaps p ts (w ++ cs) := by
  induction w with
  | nil => exact h
  | cons c w ih =>
    exact cons_blank (q := p) (hw c (by simp)) (ih fun d hd ↦ hw d (by simp [hd]))

theorem append_blanks {p : Bool} {ts : List String} {cs w : List Char} (hw : Blanks w)
    (h : Gaps p ts cs) : Gaps p ts (cs ++ w) := by
  induction h with
  | last hw' => exact .last (hw'.append hw)
  | piece hw' hsep _ ih =>
    rw [List.append_assoc]
    exact .piece hw' hsep ih

/-- What a laid-out text starts with: a blank of its first gap, or the first character of its
first piece, which is then not a word if a word stands before the text. -/
theorem head_cases {q : Bool} {ts : List String} {cs : List Char} (h : Gaps q ts cs)
    (hne : ∀ t ∈ ts, t.toList ≠ []) {d : Char} (hd : cs.head? = some d) :
    isBlank d = true ∨ ∃ t ts', ts = t :: ts' ∧ t.toList.head? = some d ∧
      (q = true → isToken t = false) := by
  cases h with
  | last hw => exact .inl (hw d (List.mem_of_mem_head? hd))
  | @piece _ w t ts' rest hw hsep _ =>
    cases w with
    | cons c w =>
      simp only [List.cons_append, List.head?_cons, Option.some.injEq] at hd
      exact .inl (hd ▸ hw c (by simp))
    | nil =>
      obtain ⟨c, t', hct⟩ := List.exists_cons_of_ne_nil (hne t (by simp))
      rw [List.nil_append, hct] at hd
      refine .inr ⟨t, ts', rfl, by rw [hct]; exact hd, fun hq ↦ ?_⟩
      cases ht : isToken t
      · rfl
      · exact absurd rfl (hsep hq ht)

end Gaps

/-! ### The pieces a scan can produce -/

/-- The texts of the lexemes that are not words. -/
def marks : List String := ["(", ")", ",", ">", "<", "=", "==", "!=", "!"]

/-- A piece of a fragment: a word, or the text of another lexeme. -/
def IsPiece (t : String) : Prop := isToken t = true ∨ t ∈ marks

/-- No `=` and no `!` stands right before a piece that is not a word, so neither can join the
next piece into `==` or `!=`. -/
def Unmerged : List String → Prop
  | t :: t' :: ts => (t = "=" ∨ t = "!" → isToken t' = true) ∧ Unmerged (t' :: ts)
  | _ => True

theorem Unmerged.tail {t : String} {ts : List String} (h : Unmerged (t :: ts)) : Unmerged ts := by
  cases ts with
  | nil => trivial
  | cons t' ts => exact h.2

/-- A lexeme as the scanner makes it: a word is a token. -/
def Lexeme.Scanned (l : Lexeme) : Prop := ∀ w, l = .word w → isToken w = true

theorem isReserved_of_isBlank {c : Char} (h : isBlank c = true) : isReserved c = true := by
  simp [isReserved, h]

/-- The sign `=` is not blank, so a blank never joins a preceding `=` or `!`. -/
theorem isBlank_equals : isBlank '=' = false := by decide +kernel

theorem ne_equals_of_isBlank {c : Char} (h : isBlank c = true) : c ≠ '=' := by
  rintro rfl
  rw [isBlank_equals] at h
  cases h

/-- Every mark starts with a reserved character that is not blank. -/
theorem head_of_mem_marks {t : String} (ht : t ∈ marks) :
    ∃ c t', t.toList = c :: t' ∧ isReserved c = true ∧ isBlank c = false := by
  simp only [marks, List.mem_cons, List.not_mem_nil, or_false] at ht
  rcases ht with rfl | rfl | rfl | rfl | rfl | rfl | rfl | rfl | rfl <;>
    simp [isReserved] <;> decide +kernel

/-- No mark is a token: each starts with a reserved character. -/
theorem isToken_of_mem_marks {t : String} (ht : t ∈ marks) : isToken t = false := by
  obtain ⟨c, t', hct, hres, -⟩ := head_of_mem_marks ht
  cases htok : isToken t with
  | false => rfl
  | true =>
    have hc := (isToken_eq_true_iff.mp htok).2 c (by simp [hct])
    rw [hres] at hc
    cases hc

/-- A piece is not empty and does not start with a blank. -/
theorem head_of_isPiece {t : String} (ht : IsPiece t) :
    ∃ c t', t.toList = c :: t' ∧ isBlank c = false := by
  rcases ht with ht | ht
  · obtain ⟨hne, hall⟩ := isToken_eq_true_iff.mp ht
    obtain ⟨c, t', hct⟩ := List.exists_cons_of_ne_nil hne
    exact ⟨c, t', hct, isBlank_of_isReserved_eq_false (hall c (by simp [hct]))⟩
  · obtain ⟨c, t', hct, -, hc⟩ := head_of_mem_marks ht
    exact ⟨c, t', hct, hc⟩

/-- The lexeme a piece is read as: the lexeme of a mark, or else a word. -/
def Lexeme.ofText (t : String) : Lexeme :=
  if t = "(" then .openParen else if t = ")" then .closeParen else if t = "," then .comma
  else if t = ">" then .symbol .gt else if t = "<" then .symbol .lt
  else if t = "=" then .symbol .eq else if t = "==" then .symbol .eqEq
  else if t = "!=" then .symbol .ne else if t = "!" then .bang else .word t

/-- **A scanned lexeme is known by its text.** A word is a token, so its text is no mark. -/
theorem Lexeme.ofText_text {l : Lexeme} (hl : l.Scanned) : Lexeme.ofText l.text = l := by
  rcases l with w | s | _ | _ | _ | _
  · have hw : w ∉ marks := fun hm ↦ by
      have h := hl w rfl
      rw [isToken_of_mem_marks hm] at h
      cases h
    simp only [marks, List.mem_cons, List.not_mem_nil, or_false, not_or] at hw
    obtain ⟨h1, h2, h3, h4, h5, h6, h7, h8, h9⟩ := hw
    simp [Lexeme.ofText, Lexeme.text, h1, h2, h3, h4, h5, h6, h7, h8, h9]
  · cases s <;> rfl
  all_goals rfl

/-- One test of `Lexeme.ofText`: the lexeme it picks for the text `s` has that text. -/
theorem Lexeme.text_ite {t s : String} {l e : Lexeme} (hl : l.text = s)
    (he : t ≠ s → e.text = t) : (if t = s then l else e).text = t := by
  by_cases h : t = s
  · rw [if_pos h, hl, h]
  · rw [if_neg h, he h]

theorem Lexeme.text_ofText (t : String) : (Lexeme.ofText t).text = t := by
  unfold Lexeme.ofText
  repeat refine Lexeme.text_ite rfl fun _ ↦ ?_
  rfl

/-- The punctuation of a value list and the negation mark are read as their lexemes. -/
@[simp] theorem Lexeme.ofText_punctuation :
    Lexeme.ofText "(" = .openParen ∧ Lexeme.ofText ")" = .closeParen ∧
      Lexeme.ofText "," = .comma ∧ Lexeme.ofText "!" = .bang :=
  ⟨Lexeme.ofText_text (l := .openParen) (fun _ h ↦ nomatch h),
    Lexeme.ofText_text (l := .closeParen) (fun _ h ↦ nomatch h),
    Lexeme.ofText_text (l := .comma) (fun _ h ↦ nomatch h),
    Lexeme.ofText_text (l := .bang) (fun _ h ↦ nomatch h)⟩

theorem Lexeme.ofText_of_isToken {t : String} (ht : isToken t = true) : Lexeme.ofText t = .word t :=
  Lexeme.ofText_text (l := .word t) fun _ h ↦ by cases h; exact ht

/-- Scanned lexemes are given by their texts. -/
theorem map_lexeme_of_map_text {toks : List Token} (hs : ∀ t ∈ toks, t.lexeme.Scanned)
    {ts : List String} (h : toks.map (·.lexeme.text) = ts) :
    toks.map (·.lexeme) = ts.map Lexeme.ofText := by
  rw [← h, List.map_map]
  exact List.map_congr_left fun t ht ↦ (Lexeme.ofText_text (hs t ht)).symm

/-! ### One lexeme -/

/-- **What one lexeme can be.** Read at a character `c` that is not blank, a lexeme is a mark of
the one reserved character `c` (an `=` or a `!` then not followed by `=`), a symbol `==` or
`!=` that takes the `=` after `c`, or a word made of `c` and the unreserved characters after
it. -/
theorem readLexeme_cases {c : Char} (hc : isBlank c = false) (cs : List Char) :
    (isReserved c = true ∧ (readLexeme c cs).1.text.toList = [c] ∧ (readLexeme c cs).2.1 = cs ∧
        (c = '=' ∨ c = '!' → cs.head? ≠ some '=') ∧ ∀ w, (readLexeme c cs).1 ≠ .word w) ∨
      (∃ cs', cs = '=' :: cs' ∧ (c = '=' ∨ c = '!') ∧
        (readLexeme c cs).1.text.toList = [c, '='] ∧ (readLexeme c cs).2.1 = cs' ∧
        ∀ w, (readLexeme c cs).1 ≠ .word w) ∨
      (isReserved c = false ∧ (readLexeme c cs).1 = .word (String.ofList (c :: wordRun cs)) ∧
        (readLexeme c cs).2.1 = afterWordRun cs) := by
  -- the branches of `readLexeme`, one character at a time
  unfold readLexeme
  by_cases h1 : c = '('
  · subst h1; left; simp [Lexeme.text, isReserved]
  rw [if_neg h1]
  by_cases h2 : c = ')'
  · subst h2; left; simp [Lexeme.text, isReserved]
  rw [if_neg h2]
  by_cases h3 : c = ','
  · subst h3; left; simp [Lexeme.text, isReserved]
  rw [if_neg h3]
  by_cases h4 : c = '>'
  · subst h4; left; simp [Lexeme.text, Symbol.text, isReserved]
  rw [if_neg h4]
  by_cases h5 : c = '<'
  · subst h5; left; simp [Lexeme.text, Symbol.text, isReserved]
  rw [if_neg h5]
  by_cases h6 : c = '='
  · subst h6
    by_cases h7 : cs.head? = some '='
    · obtain ⟨cs', rfl⟩ := List.head?_eq_some_iff.mp h7
      exact .inr (.inl ⟨cs', rfl, by simp, by simp [Lexeme.text, Symbol.text], rfl, by simp⟩)
    · left; simp [Lexeme.text, Symbol.text, isReserved, h7]
  rw [if_neg h6]
  by_cases h8 : c = '!'
  · subst h8
    by_cases h9 : cs.head? = some '='
    · obtain ⟨cs', rfl⟩ := List.head?_eq_some_iff.mp h9
      exact .inr (.inl ⟨cs', rfl, by simp, by simp [Lexeme.text, Symbol.text], rfl, by simp⟩)
    · left; simp [Lexeme.text, isReserved, h9]
  rw [if_neg h8]
  right; right
  refine ⟨?_, rfl, rfl⟩
  simp [isReserved, hc, h1, h2, h3, h4, h5, h6, h8]

/-- The lexeme's text and what follows it make up the characters read. -/
theorem readLexeme_text_append {c : Char} (hc : isBlank c = false) (cs : List Char) :
    (readLexeme c cs).1.text.toList ++ (readLexeme c cs).2.1 = c :: cs := by
  rcases readLexeme_cases hc cs with ⟨-, ht, hr, -, -⟩ | ⟨cs', rfl, -, ht, hr, -⟩ | ⟨-, hl, hr⟩
  · rw [ht, hr]; rfl
  · rw [ht, hr]; rfl
  · rw [hl, hr]
    simp [Lexeme.text, wordRun_append_afterWordRun]

/-- A word is a token. -/
theorem readLexeme_scanned {c : Char} (hc : isBlank c = false) (cs : List Char) :
    (readLexeme c cs).1.Scanned := by
  intro w hw
  rcases readLexeme_cases hc cs with ⟨-, -, -, -, hne⟩ | ⟨-, -, -, -, -, hne⟩ | ⟨hres, hl, -⟩
  · exact absurd hw (hne w)
  · exact absurd hw (hne w)
  · rw [hl, Lexeme.word.injEq] at hw
    subst hw
    refine isToken_eq_true_iff.mpr ⟨by simp, fun d hd ↦ ?_⟩
    rw [String.toList_ofList] at hd
    rcases List.mem_cons.mp hd with rfl | hd
    · exact hres
    · simpa using List.mem_takeWhile_imp hd

/-- **A word is a longest run**: a lexeme whose text is a token starts with an unreserved
character and is followed by a reserved one, or by nothing. -/
theorem readLexeme_munch {c : Char} (hc : isBlank c = false) (cs : List Char)
    (ht : isToken (readLexeme c cs).1.text = true) :
    isReserved c = false ∧ ∀ d ∈ (readLexeme c cs).2.1.head?, isReserved d = true := by
  have hmark : ∀ {xs : List Char}, (readLexeme c cs).1.text.toList = c :: xs →
      isReserved c = true → False := fun hxs hres ↦ by
    have := (isToken_eq_true_iff.mp ht).2 c (by rw [hxs]; simp)
    simp [hres] at this
  rcases readLexeme_cases hc cs with ⟨hres, htext, -⟩ | ⟨-, -, heq, htext, -⟩ | ⟨hres, -, hr⟩
  · exact absurd hres (fun h ↦ hmark htext h)
  · rcases heq with rfl | rfl <;> exact absurd (by simp [isReserved]) (fun h ↦ hmark htext h)
  · refine ⟨hres, fun d hd ↦ ?_⟩
    rw [hr] at hd
    have := List.head?_dropWhile_not (fun d ↦ !isReserved d) cs
    rw [afterWordRun, Option.mem_def.mp hd] at *
    simpa using this

/-- Reading a mark: its text is taken whole, and nothing after it joins it. -/
theorem readLexeme_mark {t : String} (ht : t ∈ marks) {c : Char} {t' : List Char}
    (hct : t.toList = c :: t') {rest : List Char}
    (hr : t = "=" ∨ t = "!" → rest.head? ≠ some '=') :
    (readLexeme c (t' ++ rest)).1.text = t ∧ (readLexeme c (t' ++ rest)).2.1 = rest := by
  simp only [marks, List.mem_cons, List.not_mem_nil, or_false] at ht
  rcases ht with rfl | rfl | rfl | rfl | rfl | rfl | rfl | rfl | rfl <;>
    simp only [String.reduceToList, List.cons.injEq] at hct <;> obtain ⟨rfl, rfl⟩ := hct <;>
    simp_all [readLexeme, Lexeme.text, Symbol.text]

/-- Reading a word: it runs to the first reserved character. -/
theorem readLexeme_token {t : String} (ht : isToken t = true) {c : Char} {t' : List Char}
    (hct : t.toList = c :: t') {rest : List Char}
    (hr : ∀ d ∈ rest.head?, isReserved d = true) :
    (readLexeme c (t' ++ rest)).1 = .word t ∧ (readLexeme c (t' ++ rest)).2.1 = rest := by
  have hall := (isToken_eq_true_iff.mp ht).2
  have hc : isReserved c = false := hall c (by simp [hct])
  have ht' : ∀ d ∈ t', (!isReserved d) = true := fun d hd ↦ by simp [hall d (by simp [hct, hd])]
  have hstop : ∀ d ∈ rest.head?, (!isReserved d) = false := fun d hd ↦ by simp [hr d hd]
  rcases readLexeme_cases (isBlank_of_isReserved_eq_false hc) (t' ++ rest) with
    ⟨hres, -⟩ | ⟨-, -, heq, -⟩ | ⟨-, hl, hrest⟩
  · simp [hres] at hc
  · rcases heq with rfl | rfl <;> simp [isReserved] at hc
  · have hrun : wordRun (t' ++ rest) = t' := by
      rw [wordRun, List.takeWhile_append_of_pos ht']
      cases rest with
      | nil => simp
      | cons d rest => simp [hstop d rfl]
    have hafter : afterWordRun (t' ++ rest) = rest := by
      rw [afterWordRun, List.dropWhile_append_of_pos ht']
      cases rest with
      | nil => rfl
      | cons d rest => exact List.dropWhile_cons_of_neg (by simp [hstop d rfl])
    rw [hl, hrun, ← hct, String.ofList_toList]
    exact ⟨rfl, hrest.trans hafter⟩

/-- Blanks after the characters read change neither the lexeme nor what is left but the blanks. -/
theorem readLexeme_append_blanks (c : Char) (cs : List Char) {w : List Char} (hw : Blanks w) :
    (readLexeme c (cs ++ w)).1 = (readLexeme c cs).1 ∧
      (readLexeme c (cs ++ w)).2.1 = (readLexeme c cs).2.1 ++ w := by
  have hw' : ∀ d ∈ w.head?, isReserved d = true ∧ d ≠ '=' := fun d hd ↦ by
    have hb := hw d (List.mem_of_mem_head? hd)
    exact ⟨isReserved_of_isBlank hb, ne_equals_of_isBlank hb⟩
  have hrun : wordRun (cs ++ w) = wordRun cs ∧ afterWordRun (cs ++ w) = afterWordRun cs ++ w := by
    induction cs with
    | nil =>
      cases w with
      | nil => simp [wordRun, afterWordRun]
      | cons d w => simp [wordRun, afterWordRun, (hw' d rfl).1]
    | cons d cs ih =>
      simp only [wordRun, afterWordRun] at ih
      by_cases hd : isReserved d = true <;> simp [wordRun, afterWordRun, hd, ih]
  have hhead : (cs ++ w).head? = some '=' ↔ cs.head? = some '=' := by
    cases cs with
    | nil => cases w with
      | nil => simp
      | cons d w => simpa using (hw' d rfl).2
    | cons d cs => simp
  have htail : cs.head? = some '=' → (cs ++ w).tail = cs.tail ++ w := by
    cases cs with
    | nil => simp
    | cons d cs => simp
  -- both sides take the same branch of `readLexeme`
  unfold readLexeme
  by_cases h1 : c = '('
  · rw [if_pos h1, if_pos h1]; exact ⟨rfl, rfl⟩
  rw [if_neg h1, if_neg h1]
  by_cases h2 : c = ')'
  · rw [if_pos h2, if_pos h2]; exact ⟨rfl, rfl⟩
  rw [if_neg h2, if_neg h2]
  by_cases h3 : c = ','
  · rw [if_pos h3, if_pos h3]; exact ⟨rfl, rfl⟩
  rw [if_neg h3, if_neg h3]
  by_cases h4 : c = '>'
  · rw [if_pos h4, if_pos h4]; exact ⟨rfl, rfl⟩
  rw [if_neg h4, if_neg h4]
  by_cases h5 : c = '<'
  · rw [if_pos h5, if_pos h5]; exact ⟨rfl, rfl⟩
  rw [if_neg h5, if_neg h5]
  by_cases h6 : c = '='
  · rw [if_pos h6, if_pos h6]
    by_cases h7 : cs.head? = some '='
    · rw [if_pos (hhead.mpr h7), if_pos h7]; exact ⟨rfl, htail h7⟩
    · rw [if_neg (mt hhead.mp h7), if_neg h7]; exact ⟨rfl, rfl⟩
  rw [if_neg h6, if_neg h6]
  by_cases h8 : c = '!'
  · rw [if_pos h8, if_pos h8]
    by_cases h9 : cs.head? = some '='
    · rw [if_pos (hhead.mpr h9), if_pos h9]; exact ⟨rfl, htail h9⟩
    · rw [if_neg (mt hhead.mp h9), if_neg h9]; exact ⟨rfl, rfl⟩
  rw [if_neg h8, if_neg h8]
  exact ⟨by rw [hrun.1], hrun.2⟩

/-! ### The scanner -/

theorem scan_cons_blank (o : Nat) {c : Char} (cs : List Char) (hc : isBlank c = true) :
    scan o (c :: cs) = scan (o + c.utf8Size) cs := by
  rw [scan.eq_2, if_pos hc]

theorem scan_cons_of_not_blank (o : Nat) {c : Char} (cs : List Char) (hc : isBlank c = false) :
    scan o (c :: cs) = ⟨(readLexeme c cs).1, o⟩ ::
      scan (o + byteLength (readLexeme c cs).1.text.toList) (readLexeme c cs).2.1 := by
  rw [scan.eq_2, if_neg (by simp [hc])]

/-- Leading blanks only move the offsets. -/
theorem scan_blanks_append (o : Nat) {w : List Char} (hw : Blanks w) (cs : List Char) :
    scan o (w ++ cs) = scan (o + byteLength w) cs := by
  induction w generalizing o with
  | nil => simp
  | cons c w ih =>
    rw [List.cons_append, scan_cons_blank o _ (hw c (by simp)), ih _ fun d hd ↦ hw d (by simp [hd])]
    simp [Nat.add_assoc]

theorem scan_of_blanks (o : Nat) {w : List Char} (hw : Blanks w) : scan o w = [] := by
  have h := scan_blanks_append o hw []
  rwa [List.append_nil, scan_nil] at h

/-- **Blanks at the end of a text give no lexeme.** -/
theorem scan_append_blanks (o : Nat) (cs : List Char) {w : List Char} (hw : Blanks w) :
    scan o (cs ++ w) = scan o cs := by
  induction o, cs using scan.induct with
  | case1 o => rw [List.nil_append, scan_of_blanks o hw, scan_nil]
  | case2 o c cs hc ih => rw [List.cons_append, scan_cons_blank o _ hc, scan_cons_blank o _ hc, ih]
  | case3 o c cs hc l rest _ hread ih =>
    have hc' : isBlank c = false := by simpa using hc
    obtain ⟨hl, hr⟩ := readLexeme_append_blanks c cs hw
    rw [List.cons_append, scan_cons_of_not_blank o _ hc', scan_cons_of_not_blank o _ hc', hl, hr,
      hread]
    exact congrArg _ ih

/-- The lexemes of a text do not depend on the offset the scan starts at. -/
theorem map_lexeme_scan (o o' : Nat) (cs : List Char) :
    (scan o cs).map (·.lexeme) = (scan o' cs).map (·.lexeme) := by
  induction o, cs using scan.induct generalizing o' with
  | case1 o => rw [scan_nil, scan_nil]
  | case2 o c cs hc ih => rw [scan_cons_blank o _ hc, scan_cons_blank o' _ hc, ih]
  | case3 o c cs hc l rest _ hread ih =>
    have hc' : isBlank c = false := by simpa using hc
    rw [scan_cons_of_not_blank o _ hc', scan_cons_of_not_blank o' _ hc', hread]
    simp only [List.map_cons]
    rw [ih]

/-- Every word the scanner reads is a token. -/
theorem scanned_of_mem_scan (o : Nat) (cs : List Char) : ∀ t ∈ scan o cs, t.lexeme.Scanned := by
  induction o, cs using scan.induct with
  | case1 o => simp [scan_nil]
  | case2 o c cs hc ih => rwa [scan_cons_blank o _ hc]
  | case3 o c cs hc l rest _ hread ih =>
    have hc' : isBlank c = false := by simpa using hc
    rw [scan_cons_of_not_blank o _ hc', hread]
    intro t ht
    rcases List.mem_cons.mp ht with rfl | ht
    · have := readLexeme_scanned hc' cs
      rwa [hread] at this
    · exact ih t ht

/-! ### Both directions -/

/-- **Every text lies around its lexemes as `Gaps` says.** The scan is followed through the text;
after a word the next character is reserved, so a word right after a word is preceded by a
blank. -/
theorem gaps_scan (o : Nat) (cs : List Char) (p : Bool)
    (hp : p = true → ∀ d ∈ cs.head?, isReserved d = true) :
    Gaps p ((scan o cs).map (·.lexeme.text)) cs := by
  induction o, cs using scan.induct generalizing p with
  | case1 o => rw [scan_nil]; exact .last blanks_nil
  | case2 o c cs hc ih =>
    rw [scan_cons_blank o _ hc]
    exact Gaps.cons_blank hc (ih false (by simp))
  | case3 o c cs hc l rest _ hread ih =>
    have hc' : isBlank c = false := by simpa using hc
    have htext := readLexeme_text_append hc' cs
    have hmunch := readLexeme_munch hc' cs
    rw [hread] at htext hmunch
    rw [scan_cons_of_not_blank o _ hc', hread, List.map_cons, ← htext, ← List.nil_append l.text.toList]
    refine .piece blanks_nil (fun hq ht ↦ ?_) (ih _ fun ht d hd ↦ (hmunch ht).2 d hd)
    -- a word cannot start right after a word: `c` is reserved then
    have hres := hp hq c (by simp)
    simp [(hmunch ht).1] at hres

/-- What follows a piece in a laid-out text does not continue it: after a word comes a reserved
character or nothing, and after `=` or `!` comes no `=`. -/
theorem Gaps.follows {t : String} {ts : List String} {cs : List Char}
    (h : Gaps (isToken t) ts cs) (hp : ∀ t ∈ ts, IsPiece t) (hu : Unmerged (t :: ts)) :
    (isToken t = true → ∀ d ∈ cs.head?, isReserved d = true) ∧
      (t = "=" ∨ t = "!" → cs.head? ≠ some '=') := by
  have hne : ∀ t ∈ ts, t.toList ≠ [] := fun t ht ↦ by
    obtain ⟨c, t', hct, -⟩ := head_of_isPiece (hp t ht)
    simp [hct]
  constructor
  · intro ht d hd
    rcases h.head_cases hne hd with hb | ⟨t₂, ts', rfl, hd₂, hword⟩
    · exact isReserved_of_isBlank hb
    · -- the next piece is not a word, so it is a mark
      have hmark : t₂ ∈ marks := (hp t₂ (by simp)).resolve_left (by simp [hword ht])
      obtain ⟨c, t', hct, hres, -⟩ := head_of_mem_marks hmark
      rw [hct] at hd₂
      simp only [List.head?_cons, Option.some.injEq] at hd₂
      exact hd₂ ▸ hres
  · intro hmerge hd
    rcases h.head_cases hne hd with hb | ⟨t₂, ts', rfl, hd₂, -⟩
    · exact ne_equals_of_isBlank hb rfl
    · -- the next piece is a word, which cannot start with `=`
      have hword : isToken t₂ = true := hu.1 hmerge
      have := (isToken_eq_true_iff.mp hword).2 '=' (List.mem_of_mem_head? hd₂)
      simp [isReserved] at this

/-- **A text laid out as `Gaps` says is scanned into its pieces.** By induction on the layout:
the gap is skipped, the piece is read whole, and the rest is scanned on. -/
theorem scan_of_gaps {p : Bool} {ts : List String} {cs : List Char} (h : Gaps p ts cs)
    (hp : ∀ t ∈ ts, IsPiece t) (hu : Unmerged ts) (o : Nat) :
    (scan o cs).map (·.lexeme.text) = ts := by
  induction h generalizing o with
  | last hw => rw [scan_of_blanks o hw]; rfl
  | @piece q w t ts cs hw _ hrest ih =>
    have htp : IsPiece t := hp t (by simp)
    have hts : ∀ t ∈ ts, IsPiece t := fun t' ht' ↦ hp t' (by simp [ht'])
    obtain ⟨c, t', hct, hc⟩ := head_of_isPiece htp
    obtain ⟨hafterWord, hafterMark⟩ := hrest.follows hts hu
    have hread : (readLexeme c (t' ++ cs)).1.text = t ∧ (readLexeme c (t' ++ cs)).2.1 = cs := by
      rcases htp with htok | hmark
      · obtain ⟨hl, hr⟩ := readLexeme_token htok hct (hafterWord htok)
        exact ⟨by rw [hl]; rfl, hr⟩
      · exact readLexeme_mark hmark hct hafterMark
    rw [List.append_assoc, scan_blanks_append o hw, hct, List.cons_append,
      scan_cons_of_not_blank _ _ hc, List.map_cons, hread.1, hread.2, ih hts hu.tail]

end LabelQuery
