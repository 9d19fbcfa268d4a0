import LabelQuery.Proofs.ErrorOffsets
/-!
# The scanner loses nothing but blanks

The lexemes of a text, read in order, spell the text with its blanks deleted
(`flatMap_text_scan`); each lexeme's offset is the byte at which its text starts, and the texts
follow one another without overlapping (`scan_offsets_ordered`). What stands around a lexeme is
what the scanner needed to stop where it did (`Token.LiesIn`): a word has a reserved character,
or nothing, on either side, and a lone `=` or `!` is not followed by `=`.

The proofs follow the scan one character at a time, like `scan_split`. For the character before
a word, the scan carries what lies behind it: after a word comes a reserved character
(`readLexeme_munch`), and every other lexeme and every blank ends in a reserved character, so a
word never starts right after an unreserved one.

## Main statements

* `flatMap_text_scan`: the lexemes' texts are the characters that are not blank.
* `scan_offsets_ordered`: each lexeme's text ends before the next one's starts.
* `liesIn_of_mem_scan`: every lexeme lies in the text as `Token.LiesIn` says.
* `tokenize_lossless`: all of these for the lexemes of a fragment.
-/

namespace LabelQuery

open Text

/-! ### One lexeme -/

/-- A lexeme takes at least the character it starts at. -/
theorem readLexeme_text_ne_nil {c : Char} (hc : isBlank c = false) (cs : List Char) :
    (readLexeme c cs).1.text.toList ≠ [] := by
  intro hnil
  have htext := readLexeme_text_append hc cs
  have hle := (readLexeme c cs).2.2
  rw [hnil, List.nil_append] at htext
  rw [htext, List.length_cons] at hle
  omega

theorem byteLength_pos {cs : List Char} (h : cs ≠ []) : 0 < byteLength cs := by
  obtain ⟨c, cs', rfl⟩ := List.exists_cons_of_ne_nil h
  rw [byteLength_cons]
  have := Char.utf8Size_pos c
  omega

/-- The text of a lexeme as the scanner makes it is not empty. -/
theorem Lexeme.text_ne_nil_of_scanned {l : Lexeme} (hl : l.Scanned) : l.text.toList ≠ [] := by
  cases l with
  | word w => exact (isToken_eq_true_iff.mp (hl w rfl)).1
  | symbol s => cases s <;> simp [Lexeme.text, Symbol.text]
  | _ => simp [Lexeme.text]

/-- **A lexeme stops where it must**: when it ends in an unreserved character, a reserved
character or nothing follows it. Only a word ends so, and a word runs to the first reserved
character; every other lexeme ends in a reserved one. -/
theorem readLexeme_stops {c : Char} (hc : isBlank c = false) (cs : List Char) :
    ∀ d ∈ (readLexeme c cs).1.text.toList.getLast?, isReserved d = false →
      ∀ e ∈ (readLexeme c cs).2.1.head?, isReserved e = true := by
  intro d hd hd'
  rcases readLexeme_cases hc cs with ⟨hres, ht, -⟩ | ⟨-, -, -, ht, -⟩ | ⟨-, hl, -⟩
  · rw [ht, List.getLast?_singleton, Option.mem_some_iff] at hd
    rw [← hd, hres] at hd'
    cases hd'
  · rw [ht] at hd
    simp only [List.getLast?_cons_cons, List.getLast?_singleton, Option.mem_some_iff] at hd
    simp [← hd, isReserved] at hd'
  · exact (readLexeme_munch hc cs (by rw [hl]; exact readLexeme_scanned hc cs _ hl)).2

/-! ### The texts of the lexemes -/

/-- **The lexemes spell the text without its blanks.** -/
theorem flatMap_text_scan (o : Nat) (cs : List Char) :
    (scan o cs).flatMap (·.lexeme.text.toList) = cs.filter fun c ↦ !isBlank c := by
  induction o, cs using scan.induct with
  | case1 o => rw [scan_nil]; rfl
  | case2 o c cs hc ih =>
    rw [scan_cons_blank o _ hc, ih, List.filter_cons_of_neg (by simp [hc])]
  | case3 o c cs hc l rest _ hread ih =>
    have hc' : isBlank c = false := by simpa using hc
    have htext := readLexeme_text_append hc' cs
    have hnb := readLexeme_text_not_blank hc' cs
    rw [hread] at htext hnb
    dsimp only at htext hnb
    rw [scan_cons_of_not_blank o _ hc', hread, List.flatMap_cons, ih, ← htext, List.filter_append,
      (List.filter_eq_self (l := l.text.toList)).mpr (by simpa using hnb)]

/-! ### Offsets -/

/-- No lexeme of a scan starts before the scan does. -/
theorem le_offset_of_mem_scan {o : Nat} {cs : List Char} {t : Token} (h : t ∈ scan o cs) :
    o ≤ t.offset := by
  induction o, cs using scan.induct with
  | case1 o => simp [scan_nil] at h
  | case2 o c cs hc ih =>
    rw [scan_cons_blank o _ hc] at h
    have := ih h
    omega
  | case3 o c cs hc l rest _ hread ih =>
    have hc' : isBlank c = false := by simpa using hc
    rw [scan_cons_of_not_blank o _ hc', hread] at h
    rcases List.mem_cons.mp h with rfl | h
    · exact Nat.le_refl _
    · have := ih h
      omega

/-- **The lexemes' texts follow one another**: each one ends before the next one starts. -/
theorem scan_offsets_ordered (o : Nat) (cs : List Char) :
    (scan o cs).Pairwise fun t u ↦ t.offset + byteLength t.lexeme.text.toList ≤ u.offset := by
  induction o, cs using scan.induct with
  | case1 o => rw [scan_nil]; exact List.Pairwise.nil
  | case2 o c cs hc ih => rwa [scan_cons_blank o _ hc]
  | case3 o c cs hc l rest _ hread ih =>
    have hc' : isBlank c = false := by simpa using hc
    rw [scan_cons_of_not_blank o _ hc', hread]
    exact List.Pairwise.cons (fun u hu ↦ le_offset_of_mem_scan hu) ih

/-! ### What stands around a lexeme -/

/-- The lexeme `t` lies in the characters `cs` as the scanner reads it: its text starts at byte
`t.offset`; a word has a reserved character, or nothing, on either side; and a lone `=` or `!`
is not followed by `=`, which the scanner would have joined to it. -/
def Token.LiesIn (t : Token) (cs : List Char) : Prop :=
  ∃ c₁ c₂, cs = c₁ ++ t.lexeme.text.toList ++ c₂ ∧ byteLength c₁ = t.offset ∧
    (∀ w, t.lexeme = .word w →
      (∀ d ∈ c₁.getLast?, isReserved d = true) ∧ ∀ d ∈ c₂.head?, isReserved d = true) ∧
    (t.lexeme = .symbol .eq ∨ t.lexeme = .bang → c₂.head? ≠ some '=')

/-- The lexeme read first lies in the text, after whatever was read before it. -/
theorem liesIn_readLexeme (before : List Char) {c : Char} (hc : isBlank c = false)
    (cs : List Char)
    (hb : ∀ d ∈ before.getLast?, isReserved d = false → isReserved c = true) :
    Token.LiesIn ⟨(readLexeme c cs).1, byteLength before⟩ (before ++ c :: cs) := by
  refine ⟨before, (readLexeme c cs).2.1, ?_, rfl, fun w (hw : (readLexeme c cs).1 = .word w) ↦ ?_,
    fun (hsingle : (readLexeme c cs).1 = .symbol .eq ∨ (readLexeme c cs).1 = .bang) ↦ ?_⟩
  · rw [List.append_assoc, readLexeme_text_append hc cs]
  · -- a word starts at an unreserved character, so what came before it is reserved
    have hword : isToken w = true := readLexeme_scanned hc cs w hw
    have hmunch := readLexeme_munch hc cs (by rw [hw]; exact hword)
    refine ⟨fun d hd ↦ ?_, hmunch.2⟩
    cases hd' : isReserved d
    · simpa [hmunch.1] using hb d hd hd'
    · rfl
  · rcases readLexeme_cases hc cs with ⟨-, ht, hr, hnext, -⟩ | ⟨-, -, -, ht, -, -⟩ | ⟨-, hl, -⟩
    · -- one character, which is the `=` or `!` read
      rw [hr]
      apply hnext
      rcases hsingle with hs | hs <;> rw [hs] at ht <;> simp [Lexeme.text, Symbol.text] at ht
      · exact .inl ht.symm
      · exact .inr ht.symm
    · rcases hsingle with hs | hs <;> rw [hs] at ht <;> simp [Lexeme.text, Symbol.text] at ht
    · rcases hsingle with hs | hs <;> rw [hs] at hl <;> cases hl

/-- **Every lexeme of a scan lies in the text.** The scan of `cs` is followed with the characters
`before` read so far; it keeps the fact that an unreserved character at the end of `before` is
the end of a word, so `cs` starts with a reserved character or is empty. -/
theorem liesIn_of_mem_scan (o : Nat) (cs : List Char) (before : List Char)
    (ho : byteLength before = o)
    (hb : ∀ d ∈ before.getLast?, isReserved d = false → ∀ e ∈ cs.head?, isReserved e = true) :
    ∀ t ∈ scan o cs, t.LiesIn (before ++ cs) := by
  induction o, cs using scan.induct generalizing before with
  | case1 o => simp [scan_nil]
  | case2 o c cs hc ih =>
    rw [scan_cons_blank o _ hc]
    have hb' : ∀ d ∈ (before ++ [c]).getLast?, isReserved d = false →
        ∀ e ∈ cs.head?, isReserved e = true := by
      intro d hd hd'
      simp only [List.getLast?_append, List.getLast?_singleton, Option.some_or,
        Option.mem_def, Option.some.injEq] at hd
      rw [← hd, isReserved_of_isBlank hc] at hd'
      cases hd'
    intro t ht
    have := ih (before ++ [c]) (by rw [byteLength_append, ho]; simp) hb' t ht
    rwa [List.append_assoc, List.singleton_append] at this
  | case3 o c cs hc l rest _ hread ih =>
    have hc' : isBlank c = false := by simpa using hc
    have htext := readLexeme_text_append hc' cs
    have hne := readLexeme_text_ne_nil hc' cs
    have hstops := readLexeme_stops hc' cs
    have hfirst := liesIn_readLexeme before hc' cs fun d hd hd' ↦ hb d hd hd' c rfl
    rw [hread] at htext hne hstops hfirst
    dsimp only at htext hne hstops hfirst
    -- what the scan reads after the first lexeme: the first lexeme stopped where it must
    have hb' : ∀ d ∈ (before ++ l.text.toList).getLast?, isReserved d = false →
        ∀ e ∈ rest.head?, isReserved e = true := by
      rw [List.getLast?_append_of_ne_nil _ hne]
      exact hstops
    rw [scan_cons_of_not_blank o _ hc', hread]
    intro t ht
    rcases List.mem_cons.mp ht with rfl | ht
    · rw [← ho]
      exact hfirst
    · have := ih (before ++ l.text.toList) (by rw [byteLength_append, ho]) hb' t ht
      rwa [List.append_assoc, htext] at this

/-- **The scanner loses nothing but blanks.** The lexemes of a fragment spell it with its blanks
deleted; their offsets increase; each lexeme's text starts at its offset, so the bytes from the
offset to the end of the text are whole characters; every word is a token with a reserved
character or nothing on either side, so a longest run; and a lone `=` or `!` is never followed
by `=`, which `==` and `!=` take. -/
theorem tokenize_lossless (s : String) :
    (tokenize s).flatMap (·.lexeme.text.toList) = s.toList.filter (fun c ↦ !isBlank c) ∧
      (tokenize s).Pairwise (·.offset < ·.offset) ∧
      ∀ t ∈ tokenize s, t.LiesIn s.toList ∧ ∀ w, t.lexeme = .word w → isToken w = true := by
  refine ⟨flatMap_text_scan 0 s.toList, ?_, fun t ht ↦ ⟨?_, scanned_of_mem_scan 0 s.toList t ht⟩⟩
  · -- a lexeme's text is not empty, so the next offset is larger
    refine (scan_offsets_ordered 0 s.toList).imp_of_mem fun {t u} ht _ hle ↦ ?_
    have hpos := byteLength_pos (Lexeme.text_ne_nil_of_scanned (scanned_of_mem_scan 0 _ t ht))
    omega
  · exact liesIn_of_mem_scan 0 s.toList [] rfl (by simp) t ht

/-- In `café!=x` the symbol `!=` starts at byte 5, after the two bytes of `é`. -/
theorem tokenize_lossless_sample :
    (⟨.symbol .ne, 5⟩ : Token) ∈ tokenize "café!=x" ∧
      Token.LiesIn ⟨.symbol .ne, 5⟩ "café!=x".toList := by
  have ht : (⟨.symbol .ne, 5⟩ : Token) ∈ tokenize "café!=x" := by decide +kernel
  exact ⟨ht, ((tokenize_lossless "café!=x").2.2 _ ht).1⟩

end LabelQuery
