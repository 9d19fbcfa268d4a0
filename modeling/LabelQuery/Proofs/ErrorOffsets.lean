import LabelQuery.Proofs.ParseFaults
/-!
# Where a parse error points

The reasons of a failed reading that end in `near byte N` give a byte of the text the error
names. There are two ways of counting: the cut counts over the whole selector text, and the
scanner over the trimmed fragment it reads. Each reason is counted in the text its error names.

* The cut's reasons name the whole text. A `)` that closes no parenthesis is reported at its
  byte, and it is the first `)` that closes more than was opened (`cut_error`). A blank fragment
  is reported where it starts (`BlankPieceAt`).
* A fragment's reasons name the trimmed fragment, and the lexeme they name starts at the byte
  given (`Token.In`): the scanner records where each lexeme starts, and the text in front of a
  lexeme is the lexemes before it with blanks between them (`scan_split`).
* A `)` left over after a whole rule is the first that closes more than was opened: the rule's
  lexemes open as many parentheses as they close (`unopenedAt_of_leftover`). Reading whole
  selector text never leaves one over, since the cut hands over fragments that open as many
  parentheses as they close (`cut_balanced`).

Which reason a text reports is read back from its last digits: a number in decimal after a
character that is no digit is determined by the text it ends (`eq_of_suffix_toString`).

## Main statements

* `scan_split`: where a lexeme lies in the text scanned.
* `unopenedAt_of_leftover`: a `)` left over is the first unopened one.
* `Fragment.cut_balanced`: the fragments of a cut are balanced.
* `ParseReason.offset?_of_suffix`: the byte a reason names is the number its text ends in.
* `error_offsets_locate`: every byte offset in a parse error is a place in the text it names.
-/

namespace LabelQuery

open Text Fragment

/-! ### Bytes of a text -/

namespace Text

/-- Byte `n` of a text falls between two of its characters, or at one of its ends. -/
def IsBoundary (cs : List Char) (n : Nat) : Prop :=
  ∃ c₁ c₂, cs = c₁ ++ c₂ ∧ byteLength c₁ = n

theorem IsBoundary.le {cs : List Char} {n : Nat} (h : IsBoundary cs n) : n ≤ byteLength cs := by
  obtain ⟨c₁, c₂, rfl, rfl⟩ := h
  simp

end Text

/-! ### Where a lexeme lies -/

/-- The text of a lexeme holds no blank. -/
theorem readLexeme_text_not_blank {c : Char} (hc : isBlank c = false) (cs : List Char) :
    ∀ d ∈ (readLexeme c cs).1.text.toList, isBlank d = false := by
  rcases readLexeme_cases hc cs with ⟨-, ht, -⟩ | ⟨_, -, -, ht, -⟩ | ⟨-, hl, -⟩
  · rw [ht]
    simpa using hc
  · rw [ht]
    intro d hd
    rcases List.mem_pair.mp hd with rfl | rfl
    · exact hc
    · exact isBlank_equals
  · -- a word continues with unreserved characters, and these are not blank
    rw [hl]
    intro d hd
    simp only [Lexeme.text, String.toList_ofList, List.mem_cons] at hd
    rcases hd with rfl | hd
    · exact hc
    · exact isBlank_of_isReserved_eq_false (by simpa using List.mem_takeWhile_imp hd)

/-- **Where a lexeme lies in the text scanned.** Its text starts at its offset, counted from
`o`; the text in front of it, blanks deleted, is the texts of the lexemes in front of it. -/
theorem scan_split {o : Nat} {cs : List Char} {pre post : List Token} {t : Token}
    (h : scan o cs = pre ++ t :: post) :
    ∃ c₁ c₂, cs = c₁ ++ t.lexeme.text.toList ++ c₂ ∧ t.offset = o + byteLength c₁ ∧
      c₁.filter (fun c ↦ !isBlank c) = pre.flatMap (·.lexeme.text.toList) := by
  induction o, cs using scan.induct generalizing pre with
  | case1 o =>
    rw [scan_nil] at h
    simp at h
  | case2 o c cs hc ih =>
    rw [scan_cons_blank o _ hc] at h
    obtain ⟨c₁, c₂, rfl, hoff, hfil⟩ := ih h
    refine ⟨c :: c₁, c₂, rfl, by rw [hoff, byteLength_cons]; omega, ?_⟩
    rw [List.filter_cons_of_neg (by simp [hc]), hfil]
  | case3 o c cs hc l rest _ hread ih =>
    have hc' : isBlank c = false := by simpa using hc
    have htext := readLexeme_text_append hc' cs
    have hnb := readLexeme_text_not_blank hc' cs
    rw [hread] at htext hnb
    dsimp only at htext hnb
    rw [scan_cons_of_not_blank o _ hc', hread] at h
    dsimp only at h
    -- the lexeme read first is `t`, or `t` comes in the scan of the rest
    cases pre with
    | nil =>
      obtain ⟨rfl, -⟩ := List.cons.inj h
      exact ⟨[], rest, by rw [List.nil_append, htext], by simp, rfl⟩
    | cons p pre =>
      obtain ⟨rfl, hrest⟩ := List.cons.inj h
      obtain ⟨c₁, c₂, rfl, hoff, hfil⟩ := ih hrest
      refine ⟨l.text.toList ++ c₁, c₂, ?_, ?_, ?_⟩
      · rw [← htext]
        simp only [List.append_assoc]
      · rw [hoff, byteLength_append]
        omega
      · rw [List.filter_append, List.filter_eq_self.mpr (by simpa using hnb), hfil]
        rfl

/-- The lexeme `t` is one of the lexemes of `x`, and its text starts at byte `t.offset` of `x`. -/
def Token.In (t : Token) (x : String) : Prop :=
  t ∈ tokenize x ∧ ∃ c₁ c₂, x.toList = c₁ ++ t.lexeme.text.toList ++ c₂ ∧ byteLength c₁ = t.offset

/-- Every lexeme of a text lies in it at its offset. -/
theorem Token.in_of_mem {x : String} {t : Token} (h : t ∈ tokenize x) : t.In x := by
  obtain ⟨pre, post, hsplit⟩ := List.append_of_mem h
  obtain ⟨c₁, c₂, hx, hoff, -⟩ := scan_split hsplit
  exact ⟨h, c₁, c₂, hx, by rw [hoff, Nat.zero_add]⟩

theorem Token.In.isBoundary {t : Token} {x : String} (h : t.In x) :
    IsBoundary x.toList t.offset := by
  obtain ⟨-, c₁, c₂, hx, hoff⟩ := h
  exact ⟨c₁, t.lexeme.text.toList ++ c₂, by rw [hx, List.append_assoc], hoff⟩

/-! ### Parentheses -/

namespace Fragment

/-- Blanks do not count. -/
theorem openAfter_filter_not_blank (d : Nat) (cs : List Char) :
    openAfter d (cs.filter fun c ↦ !isBlank c) = openAfter d cs := by
  induction cs generalizing d with
  | nil => rfl
  | cons c cs ih =>
    by_cases hc : isBlank c = true
    · have h1 : c ≠ '(' := fun h ↦ by rw [h, isBlank_punctuation.1] at hc; cases hc
      have h2 : c ≠ ')' := fun h ↦ by rw [h, isBlank_punctuation.2.1] at hc; cases hc
      rw [List.filter_cons_of_neg (by simp [hc]), ih, openAfter_cons_of_ne h1 h2]
    · rw [List.filter_cons_of_pos (by simpa using hc), openAfter, openAfter]
      split_ifs <;> simp only [ih]

/-- Where the depth is followed to the end, so is the count of open parentheses. -/
theorem openAfter_of_depthAfter {d d' : Nat} {cs : List Char} (h : depthAfter d cs = some d') :
    openAfter d cs = some d' := by
  induction cs generalizing d with
  | nil => exact h
  | cons c cs ih =>
    rw [depthAfter] at h
    rw [openAfter]
    by_cases h1 : c = '('
    · rw [if_pos h1] at h ⊢
      exact ih h
    rw [if_neg h1] at h ⊢
    by_cases h2 : c = ')'
    · rw [if_pos h2] at h ⊢
      by_cases hd : d = 0
      · rw [if_pos hd] at h
        cases h
      · rw [if_neg hd] at h ⊢
        exact ih h
    rw [if_neg h2] at h ⊢
    by_cases h3 : c = ',' ∧ d = 0
    · rw [if_pos h3] at h
      cases h
    · rw [if_neg h3] at h
      exact ih h

theorem openAfter_of_blanks {w : List Char} (hw : Blanks w) (d : Nat) : openAfter d w = some d :=
  openAfter_of_depthAfter (depthAfter_of_blanks hw d)

/-- Trimming does not change the count. -/
theorem openAfter_trimChars (d : Nat) (cs : List Char) :
    openAfter d (trimChars cs) = openAfter d cs := by
  obtain ⟨w, w', hw, hw', hcs⟩ := eq_blanks_append_trimChars cs
  conv_rhs => rw [hcs]
  rw [openAfter_append, openAfter_append, openAfter_of_blanks hw, Option.bind_some]
  cases openAfter d (trimChars cs) with
  | none => rfl
  | some d' => exact (openAfter_of_blanks hw' d').symm

theorem UnopenedAt.isBoundary {cs : List Char} {n : Nat} (h : UnopenedAt cs n) :
    IsBoundary cs n := by
  obtain ⟨c₁, c₂, rfl, hn, -⟩ := h
  exact ⟨c₁, ')' :: c₂, rfl, hn⟩

/-- A text with an unopened `)` closes more parentheses than it opens. -/
theorem UnopenedAt.openAfter_eq_none {cs : List Char} {n : Nat} (h : UnopenedAt cs n) :
    openAfter 0 cs = none := by
  obtain ⟨c₁, c₂, rfl, -, hd⟩ := h
  rw [openAfter_append, hd, Option.bind_some, openAfter, if_neg (by decide), if_pos rfl, if_pos rfl]

theorem BlankPieceAt.isBoundary {cs : List Char} {n : Nat} (h : BlankPieceAt cs n) :
    IsBoundary cs n := by
  obtain ⟨c₁, w, c₂, rfl, hn, -⟩ := h
  exact ⟨c₁, w ++ c₂, by rw [List.append_assoc], hn⟩

/-- A piece closed into a fragment counts as its fragment does. -/
theorem openAfter_of_close {start : Nat} {piece : List Char} {f : String}
    (h : close start piece = .ok f) : openAfter 0 f.toList = openAfter 0 piece := by
  obtain ⟨-, rfl⟩ := close_eq_ok_iff.mp h
  rw [String.toList_ofList, openAfter_trimChars]

/-- **Every fragment of a successful cut opens as many parentheses as it closes.** The current
piece has left `depth` parentheses open, and a piece is closed only at a comma outside
parentheses or at the end with none open. -/
theorem cutFrom_balanced {depth start offset : Nat} {piece cs : List Char} {fs : List String}
    (h : cutFrom depth start offset piece cs = .ok fs) (hp : openAfter 0 piece = some depth) :
    ∀ f ∈ fs, openAfter 0 f.toList = some 0 := by
  induction depth, start, offset, piece, cs using cutFrom.induct generalizing fs with
  | case1 depth start offset piece hd =>
    rw [cutFrom, if_pos hd] at h
    cases h
  | case2 depth start offset piece hd =>
    rw [cutFrom, if_neg hd] at h
    obtain ⟨f, hf, h⟩ := bind_eq_ok.mp h
    obtain rfl := pure_eq_ok.mp h
    intro f' hf'
    rw [List.mem_singleton.mp hf', openAfter_of_close hf, hp]
    congr 1
    omega
  | case3 depth start offset piece cs ih =>
    rw [cutFrom, if_pos rfl] at h
    exact ih h (by rw [openAfter_append, hp]; rfl)
  | case4 start offset piece cs hne =>
    rw [cutFrom, if_neg hne, if_pos rfl, if_pos rfl] at h
    cases h
  | case5 depth start offset piece cs hd hne ih =>
    rw [cutFrom, if_neg hne, if_pos rfl, if_neg hd] at h
    have hp' : openAfter 0 (piece ++ [')']) = some (depth - 1) := by
      rw [openAfter_append, hp, Option.bind_some, openAfter, if_neg hne, if_pos rfl, if_neg hd]
      rfl
    exact ih h hp'
  | case6 depth start offset piece c cs h1 h2 h3 ih =>
    rw [cutFrom, if_neg h1, if_neg h2, if_pos h3] at h
    obtain ⟨rfl, rfl⟩ := h3
    obtain ⟨f, hf, h⟩ := bind_eq_ok.mp h
    obtain ⟨fs', hfs', h⟩ := bind_eq_ok.mp h
    obtain rfl := pure_eq_ok.mp h
    intro f' hf'
    rcases List.mem_cons.mp hf' with rfl | hf'
    · rw [openAfter_of_close hf, hp]
    · exact ih hfs' rfl f' hf'
  | case7 depth start offset piece c cs h1 h2 h3 ih =>
    rw [cutFrom, if_neg h1, if_neg h2, if_neg h3] at h
    exact ih h (by rw [openAfter_append, hp, Option.bind_some, openAfter_cons_of_ne h1 h2]; rfl)

theorem cut_balanced {s : String} {fs : List String} (h : cut s = .ok fs) :
    ∀ f ∈ fs, openAfter 0 f.toList = some 0 :=
  cutFrom_balanced h rfl

/-- The fragments of a cut are their own trims. -/
theorem trim_of_mem_cut {s f : String} {fs : List String} (h : cut s = .ok fs) (hf : f ∈ fs) :
    trim f = f := by
  obtain ⟨raws, -, -, rfl⟩ := cutFrom_sound h
  obtain ⟨raw, -, rfl⟩ := List.mem_map.mp hf
  rw [trim_ofList, trimChars_trimChars]

end Fragment

/-- **A `)` left over after a rule is the first that closes more than was opened.** The lexemes
the rule was read from spell it, a spelling opens as many parentheses as it closes, and the
blanks between the lexemes do not count. -/
theorem unopenedAt_of_leftover {x : String} {r : Rule} {tok : Token} {rest : List Token}
    (h : Rule.read (tokenize x) = .ok (r, tok :: rest)) (hp : tok.lexeme = .closeParen) :
    UnopenedAt x.toList tok.offset := by
  obtain ⟨pre, hpre, hsp⟩ := Rule.spells_of_read_prefix h (scanned_of_mem_scan 0 _)
  obtain ⟨c₁, c₂, hx, hoff, hfil⟩ := scan_split hpre
  obtain ⟨hk, -, hv⟩ := r.wellFormed
  have hbal := hsp.depthAfter_eq hk hv
  rw [List.flatMap_map] at hbal
  refine ⟨c₁, c₂, by rw [hx, hp]; simp [Lexeme.text], by rw [hoff, Nat.zero_add], ?_⟩
  rw [← openAfter_filter_not_blank, hfil]
  exact openAfter_of_depthAfter hbal

/-! ### The byte a reason names -/

/-- A number in decimal ends in a digit. -/
theorem getLast?_toString (n : Nat) :
    ∃ c, (toString n).toList.getLast? = some c ∧ c.isDigit = true := by
  have hne : Nat.toDigits 10 n ≠ [] := Nat.toDigits_ne_nil
  refine ⟨(Nat.toDigits 10 n).getLast hne, ?_,
    Nat.isDigit_of_mem_toDigits (by decide) (by decide) (List.getLast_mem hne)⟩
  rw [Nat.toString_eq_repr, Nat.toList_repr, List.getLast?_eq_some_getLast hne]

/-- Runs of digits, each followed by a character that is no digit, one starting the other, are
equal. -/
theorem eq_of_digits_prefix {x y : Char} (hx : x.isDigit = false) (hy : y.isDigit = false)
    {ds es l₁ l₂ : List Char} (hds : ∀ c ∈ ds, c.isDigit = true)
    (hes : ∀ c ∈ es, c.isDigit = true) (h : ds ++ x :: l₁ <+: es ++ y :: l₂) : ds = es := by
  induction ds generalizing es with
  | nil =>
    cases es with
    | nil => rfl
    | cons e es =>
      -- `x` would be the digit `e`
      obtain ⟨hxe, -⟩ := List.cons_prefix_cons.mp h
      rw [hxe, hes e (by simp)] at hx
      cases hx
  | cons d ds ih =>
    cases es with
    | nil =>
      obtain ⟨hdy, -⟩ := List.cons_prefix_cons.mp h
      rw [← hdy, hds d (by simp)] at hy
      cases hy
    | cons e es =>
      obtain ⟨rfl, hrest⟩ := List.cons_prefix_cons.mp h
      rw [ih (fun c hc ↦ hds c (by simp [hc])) (fun c hc ↦ hes c (by simp [hc])) hrest]

/-- **A text that ends in a number after a character that is no digit ends so for that number
only.** -/
theorem eq_of_suffix_toString {a b : List Char} {x y : Char} {m n : Nat}
    (ha : a.getLast? = some x) (hx : x.isDigit = false)
    (hb : b.getLast? = some y) (hy : y.isDigit = false)
    (h : a ++ (toString m).toList <:+ b ++ (toString n).toList) : m = n := by
  obtain ⟨a', rfl⟩ := List.getLast?_eq_some_iff.mp ha
  obtain ⟨b', rfl⟩ := List.getLast?_eq_some_iff.mp hb
  -- read backwards, the digits come first
  rw [← List.reverse_prefix] at h
  simp only [List.reverse_append, List.reverse_cons, List.singleton_append, List.append_assoc] at h
  have hdigits : ∀ k, ∀ c ∈ (toString k).toList.reverse, c.isDigit = true := fun k c hc ↦
    Nat.isDigit_of_mem_toDigits (b := 10) (by decide) (by decide)
      (by rwa [List.mem_reverse, Nat.toString_eq_repr, Nat.toList_repr] at hc)
  have hrev := eq_of_digits_prefix hx hy (hdigits m) (hdigits n) h
  rw [List.reverse_inj, Nat.toString_eq_repr, Nat.toString_eq_repr, Nat.toList_repr,
    Nat.toList_repr] at hrev
  rw [← Nat.ofDigitChars_ten_toDigits (n := m), hrev, Nat.ofDigitChars_ten_toDigits]

/-- A text whose last character is no digit does not end in a number. -/
theorem not_suffix_toString {a l : List Char} {y : Char} (n : Nat) (hl : l.getLast? = some y)
    (hy : y.isDigit = false) : ¬ a ++ (toString n).toList <:+ l := by
  rintro ⟨t, rfl⟩
  obtain ⟨c, hc, hd⟩ := getLast?_toString n
  rw [← List.append_assoc, List.getLast?_append, hc, Option.some_or, Option.some_inj] at hl
  rw [hl, hy] at hd
  cases hd

namespace ParseReason

/-- The byte a reason gives after `near byte`. -/
def offset? : ParseReason → Option Nat
  | .emptyAt n | .unopened n => some n
  | .leftover t | .unknownOperator t | .expected _ (some t) => some t.offset
  | _ => none

/-- Every text that ends in `near byte N` puts it after a blank. -/
theorem getLast?_near_byte (p : String) : (p ++ " near byte ").toList.getLast? = some ' ' := by
  simp

/-- **The byte a reason names is the number its text ends in.** -/
theorem offset?_of_suffix {r : ParseReason} {N : Nat} (hr : ∀ re, r ≠ .invalidRule re)
    (h : ("near byte " ++ toString N).toList <:+ r.text.toList) : r.offset? = some N := by
  have hnear : "near byte ".toList.getLast? = some ' ' := by simp
  have hnum : ∀ {p : String} {n : Nat},
      ("near byte " ++ toString N).toList <:+ (p ++ " near byte " ++ toString n).toList →
        some n = some N := fun h ↦ by
    rw [String.toList_append, String.toList_append] at h
    exact congrArg some (eq_of_suffix_toString hnear rfl (getLast?_near_byte _) rfl h).symm
  have hne : ∀ {l : List Char} {y : Char}, l.getLast? = some y → y.isDigit = false →
      ¬ ("near byte " ++ toString N).toList <:+ l := fun hl hy ↦ by
    rw [String.toList_append]
    exact not_suffix_toString N hl hy
  -- each text ends in `near byte` and its number, or in a character that is no digit
  rw [text.eq_def] at h
  cases r with
  | emptyAt n => exact hnum (p := "empty expression") h
  | unopened n => exact hnum (p := "unexpected ')'") h
  | leftover t => exact hnum h
  | unknownOperator t => exact hnum h
  | expected what found =>
    cases found with
    | some t => exact hnum h
    | none => exact absurd h (hne (y := 'n') (by simp [List.getLast?_cons]) rfl)
  | empty => exact absurd h (hne (y := 'n') (by simp) rfl)
  | unclosed => exact absurd h (hne (y := '\'') (by simp) rfl)
  | noValueList => exact absurd h (hne (y := 't') (by simp) rfl)
  | emptyValueList => exact absurd h (hne (y := 'y') (by simp) rfl)
  | badValueListSeparator => exact absurd h (hne (y := 't') (by simp) rfl)
  | invalidRule re => exact absurd rfl (hr re)

/-- A reason of the reader that gives a byte names a lexeme there. -/
theorem ByReader.token?_of_offset? {r : ParseReason} (hr : r.ByReader) {N : Nat}
    (h : r.offset? = some N) : ∃ t, r.token? = some t ∧ t.offset = N := by
  cases r with
  | unknownOperator t => exact ⟨t, rfl, Option.some.inj h⟩
  | expected what found =>
    cases found with
    | some t => exact ⟨t, rfl, Option.some.inj h⟩
    | none => cases h
  | noValueList | emptyValueList | badValueListSeparator => cases h
  | _ => cases hr

end ParseReason

/-! ### Every offset is a place in the text named -/

/-- **Where a failed reading of a rule points**: at a lexeme of the trimmed text, starting at the
byte given; and a `)` left over is the first that closes more than was opened. -/
theorem Rule.parse_error_located {s x : String} {reason : ParseReason} {N : Nat}
    (h : Rule.parse s = .error ⟨x, reason⟩) (hN : reason.offset? = some N) :
    x = trim s ∧ (∃ t, reason.token? = some t ∧ t.offset = N ∧ t.In x) ∧
      ∀ t, reason = .leftover t → t.lexeme = .closeParen → UnopenedAt x.toList N := by
  rcases Rule.parse_eq_error h with ⟨he, -⟩ | ⟨hx, hread | ⟨r, tok, rest, hread, hleft⟩⟩
  · -- blank text gives no byte
    cases he
    cases hN
  · -- the reader's reasons name one of the lexemes read
    have hx : x = trim s := hx
    subst hx
    have hf := Rule.read_fault hread (scanned_of_mem_scan 0 _)
    obtain ⟨t, ht, htN⟩ := hf.byReader.token?_of_offset? hN
    refine ⟨rfl, ⟨t, ht, htN, Token.in_of_mem (hf.token_mem t ht)⟩, ?_⟩
    rintro t' rfl -
    exact (hf.byReader : False).elim
  · -- the lexeme left over after the rule
    have hx : x = trim s := hx
    have hleft : reason = .leftover tok := hleft
    subst hx hleft
    have htN : tok.offset = N := Option.some.inj hN
    obtain ⟨pre, hpre, -⟩ := Rule.spells_of_read_prefix hread (scanned_of_mem_scan 0 _)
    refine ⟨rfl, ⟨tok, rfl, htN, Token.in_of_mem (by rw [hpre]; simp)⟩, ?_⟩
    rintro t' ht' hp
    cases ht'
    rw [← htN]
    exact unopenedAt_of_leftover hread hp

/-- **Every byte offset in a parse error is a place in the text it names.** Let the reason of a
failed reading end in `near byte N`. Then `N` falls between two characters of the text named, or
at its end, and:

* reading selector text, a `)` that closes no parenthesis is reported with the whole text, at
  the first `)` that closes more than was opened; a blank fragment is reported with the whole
  text, where the fragment starts, at the start or right after a comma outside parentheses; a
  reason that names a lexeme is reported with a fragment of the cut, which is trimmed, and the
  lexeme starts at byte `N` of it; no `)` is ever left over after a rule;
* reading a rule, the error names the trimmed text, the reason names a lexeme, that lexeme starts
  at byte `N` of the trimmed text, and a `)` left over is the first there that closes more than
  was opened. -/
theorem error_offsets_locate (s x : String) (reason : ParseReason) (N : Nat)
    (hN : ("near byte " ++ toString N).toList <:+ reason.text.toList) :
    (Selector.parseRules s = .error ⟨x, reason⟩ →
      IsBoundary x.toList N ∧ N ≤ byteLength x.toList ∧
        (reason = .unopened N → x = s ∧ UnopenedAt s.toList N) ∧
        (reason = .emptyAt N → x = s ∧ BlankPieceAt s.toList N) ∧
        (∀ t, reason.token? = some t →
          (∃ fs, cut s = .ok fs ∧ x ∈ fs) ∧ trim x = x ∧ t.offset = N ∧ t.In x) ∧
        ∀ t, reason = .leftover t → t.lexeme ≠ .closeParen) ∧
    (Rule.parse s = .error ⟨x, reason⟩ →
      IsBoundary x.toList N ∧ N ≤ byteLength x.toList ∧ x = trim s ∧
        (∃ t, reason.token? = some t ∧ t.offset = N ∧ t.In x) ∧
        ∀ t, reason = .leftover t → t.lexeme = .closeParen → UnopenedAt x.toList N) := by
  constructor
  · intro h
    have hoff := reason.offset?_of_suffix (Selector.parseRules_error_not_refused h) hN
    rcases Selector.parseRules_eq_error h with ⟨hx, hcut⟩ | ⟨fs, hcut, f, hf, hparse⟩
    · -- the cut failed, and the error names the whole text
      have hx : x = s := hx
      subst hx
      rcases cut_error hcut with ⟨n, hn, hu⟩ | ⟨n, hn, hb⟩ | hn <;> subst hn
      · obtain rfl : n = N := Option.some.inj hoff
        exact ⟨hu.isBoundary, hu.isBoundary.le, fun _ ↦ ⟨rfl, hu⟩, nofun, nofun, nofun⟩
      · obtain rfl : n = N := Option.some.inj hoff
        exact ⟨hb.isBoundary, hb.isBoundary.le, nofun, fun _ ↦ ⟨rfl, hb⟩, nofun, nofun⟩
      · cases hoff
    · -- a fragment failed to read, and the error names that fragment
      obtain ⟨hxf, ⟨t, ht, htN, hin⟩, hleft⟩ := Rule.parse_error_located hparse hoff
      have hfx : x = f := by rw [hxf, trim_of_mem_cut hcut hf]
      subst hfx
      refine ⟨htN ▸ hin.isBoundary, htN ▸ hin.isBoundary.le, ?_, ?_, ?_, ?_⟩
      case refine_1 | refine_2 =>
        -- the cut's reasons name no lexeme
        rintro rfl
        cases ht
      · intro t' ht'
        obtain rfl : t = t' := Option.some.inj (ht.symm.trans ht')
        exact ⟨⟨fs, hcut, hf⟩, trim_of_mem_cut hcut hf, htN, hin⟩
      · -- a fragment opens as many parentheses as it closes, so none is left over
        intro t' hl hp
        have hnone := (hleft t' hl hp).openAfter_eq_none
        rw [cut_balanced hcut x hf] at hnone
        cases hnone
  · intro h
    have hoff := reason.offset?_of_suffix (Rule.parse_error_not_refused h) hN
    obtain ⟨hx, ⟨t, ht, htN, hin⟩, hleft⟩ := Rule.parse_error_located h hoff
    exact ⟨htN ▸ hin.isBoundary, htN ▸ hin.isBoundary.le, hx, ⟨t, ht, htN, hin⟩, hleft⟩

/-- A `)` that closes no parenthesis, in selector text and in the text of one rule. -/
theorem error_offsets_locate_samples :
    (("near byte " ++ toString 6).toList <:+ (ParseReason.unopened 6).text.toList ∧
      Selector.parseRules " a = b)" = .error ⟨" a = b)", .unopened 6⟩ ∧
      UnopenedAt " a = b)".toList 6) ∧
    (("near byte " ++ toString 5).toList <:+
        (ParseReason.leftover ⟨.closeParen, 5⟩).text.toList ∧
      Rule.parse " a = b)" = .error ⟨"a = b)", .leftover ⟨.closeParen, 5⟩⟩ ∧
      UnopenedAt "a = b)".toList 5) := by
  have hN₁ : ("near byte " ++ toString 6).toList <:+ (ParseReason.unopened 6).text.toList := by
    decide +kernel
  have hN₂ : ("near byte " ++ toString 5).toList <:+
      (ParseReason.leftover ⟨.closeParen, 5⟩).text.toList := by
    decide +kernel
  have h₁ : Selector.parseRules " a = b)" = .error ⟨" a = b)", .unopened 6⟩ := by decide +kernel
  have h₂ : Rule.parse " a = b)" = .error ⟨"a = b)", .leftover ⟨.closeParen, 5⟩⟩ := by
    decide +kernel
  exact ⟨⟨hN₁, h₁, ((error_offsets_locate _ _ _ _ hN₁).1 h₁).2.2.1 rfl |>.2⟩,
    ⟨hN₂, h₂, ((error_offsets_locate _ _ _ _ hN₂).2 h₂).2.2.2.2 _ rfl rfl⟩⟩

/-- Reading one rule reports a `)` left over in the trimmed text, not in the text given: with a
blank in front, the error names the text without it, and the byte is counted there. -/
theorem parse_leftover_names_trim :
    Rule.parse " a = b)" = .error ⟨"a = b)", .leftover ⟨.closeParen, 5⟩⟩ ∧ "a = b)" ≠ " a = b)" := by
  constructor
  · decide +kernel
  · decide

end LabelQuery
