import LabelQuery.Proofs.Fragments
/-!
# What a failed reading reports

Reading selector text fails in two places. The cut into fragments fails at a `)` that closes no
parenthesis, at a blank fragment, or at a `(` left open. Reading one fragment fails in the reader
of its lexemes, or at a lexeme left over after a whole rule.

A failure of the reader names at most one lexeme, and that lexeme is one of those read
(`ReadFault`). The reader never fails by a refusal of `Rule.new`: everything it hands over is a
word, and a word is a token (`Lexeme.Scanned`), so the key and values are their own trims and
pass the checks; and each shape of rule brings as many values as its operator takes: none after
`!` or alone, one after a comparison, and a non-empty list after `in` or `notin`. So the reason
of a failure never starts with `Invalid rule:`.

The cut is followed through the text with the number of parentheses open before each
character (`openAfter`, which unlike `depthAfter` passes commas). A `)` fails the cut where the
count before it is zero, which makes it the first `)` that closes more parentheses than were
opened; a blank fragment fails it where it starts, at the start of the text or right after a
comma outside parentheses (`cutFrom_error`).

## Main statements

* `Rule.read_fault`: what the reader of lexemes reports when it fails.
* `Fragment.cut_error`: where the cut fails.
* `Selector.parseRules_eq_error`: a failure of selector text is one of the cut or one of a
  fragment.
* `Rule.parse_never_refuses_rule`: no reason of a failed reading is a refusal of a rule.
-/

namespace LabelQuery

open Text Fragment

/-! ### Failures through `Except` -/

theorem bind_eq_error {ε α β : Type} {x : Except ε α} {f : α → Except ε β} {e : ε} :
    x >>= f = .error e ↔ x = .error e ∨ ∃ a, x = .ok a ∧ f a = .error e := by
  cases x <;> simp [bind, Except.bind]

/-- A traversal fails at the first element that fails, which is one of the elements. -/
theorem mapM_eq_error {ε α β : Type} {f : α → Except ε β} {e : ε} :
    ∀ {xs : List α}, xs.mapM f = .error e → ∃ x ∈ xs, f x = .error e
  | [], h => by simp [pure, Except.pure] at h
  | x :: xs, h => by
    rw [List.mapM_cons] at h
    rcases bind_eq_error.mp h with hx | ⟨_, -, h⟩
    · exact ⟨x, by simp, hx⟩
    rcases bind_eq_error.mp h with hxs | ⟨_, -, h⟩
    · obtain ⟨x', hx', he⟩ := mapM_eq_error hxs
      exact ⟨x', by simp [hx'], he⟩
    · simp [pure, Except.pure] at h

/-! ### Faults of the reader -/

namespace ParseReason

/-- The lexeme a reason names: the one left over after a rule, the one in place of an operator,
or the one found where a word was expected. -/
def token? : ParseReason → Option Token
  | .leftover t => some t
  | .unknownOperator t => some t
  | .expected _ (some t) => some t
  | _ => none

/-- A reason the reader of lexemes gives: about the lexeme in place of an operator or of a word,
or about a value list. The cut's reasons, the blank text, a lexeme left over and a refused rule
are not among them. -/
def ByReader : ParseReason → Prop
  | .unknownOperator _ | .expected _ _ => True
  | .noValueList | .emptyValueList | .badValueListSeparator => True
  | _ => False

end ParseReason

/-- **What a reader may report when it fails on the lexemes `ts`**: one of the reader's reasons,
and the lexeme it names, if any, is one of `ts`. -/
structure ReadFault (ts : List Token) (e : ParseReason) : Prop where
  /-- The lexeme named is one of those read. -/
  token_mem : ∀ t ∈ e.token?, t ∈ ts
  /-- The reason is one of the reader's. -/
  byReader : e.ByReader

namespace ReadFault

/-- No rule was refused. -/
theorem not_refused {ts : List Token} {e : ParseReason} (h : ReadFault ts e) :
    ∀ re, e ≠ .invalidRule re := by
  rintro re rfl
  exact h.byReader

theorem mono {ts ts' : List Token} {e : ParseReason} (h : ReadFault ts e)
    (hsub : ∀ t ∈ ts, t ∈ ts') : ReadFault ts' e :=
  ⟨fun t ht ↦ hsub t (h.token_mem t ht), h.byReader⟩

/-- A fault of the lexemes after some others is a fault of all of them. -/
theorem append {ts : List Token} {e : ParseReason} (h : ReadFault ts e) (pre : List Token) :
    ReadFault (pre ++ ts) e :=
  h.mono fun _ ht ↦ List.mem_append_right _ ht

/-- A reason of the reader that names no lexeme is a fault of any lexemes. -/
theorem of_none {ts : List Token} {e : ParseReason} (he : e.token? = none) (hr : e.ByReader) :
    ReadFault ts e :=
  ⟨fun t ht ↦ (by rw [he] at ht; cases ht), hr⟩

/-- A reason of the reader that names one of the lexemes read. -/
theorem of_mem {ts : List Token} {e : ParseReason} {t : Token} (he : e.token? = some t)
    (ht : t ∈ ts) (hr : e.ByReader) : ReadFault ts e :=
  ⟨fun t' ht' ↦ (by rw [he, Option.mem_some_iff] at ht'; exact ht' ▸ ht), hr⟩

end ReadFault

namespace Rule

theorem expectWord_fault {what : Expected} {ts : List Token} {e : ParseReason}
    (h : expectWord what ts = .error e) : ReadFault ts e := by
  rcases ts with _ | ⟨⟨l, o⟩, ts⟩
  · cases h
    exact .of_none rfl trivial
  · cases l with
    | word w => cases h
    | _ => cases h; exact .of_mem rfl (by simp) trivial

theorem valuesAfterFirst_fault {ts : List Token} {e : ParseReason}
    (h : valuesAfterFirst ts = .error e) : ReadFault ts e := by
  induction ts using valuesAfterFirst.induct with
  | case1 o rest => rw [valuesAfterFirst.eq_1] at h; cases h
  | case2 o v o' rest vs rest' hrec _ => rw [valuesAfterFirst.eq_2, hrec] at h; cases h
  | case3 o v o' rest e' hrec ih =>
    rw [valuesAfterFirst.eq_2, hrec] at h
    cases h
    exact (ih hrec).append [⟨.comma, o⟩, ⟨.word v, o'⟩]
  | case4 o t tail hne =>
    rw [valuesAfterFirst.eq_3 _ _ _ hne] at h
    cases h
    exact .of_mem rfl (by simp) trivial
  | case5 o =>
    rw [valuesAfterFirst.eq_4] at h
    cases h
    exact .of_none rfl trivial
  | case6 t h1 h2 h3 h4 =>
    rw [valuesAfterFirst.eq_5 _ h1 h2 h3 h4] at h
    cases h
    exact .of_none rfl trivial

theorem valueList_fault {ts : List Token} {e : ParseReason} (h : valueList ts = .error e) :
    ReadFault ts e := by
  rw [valueList.eq_def] at h
  split at h
  · cases h
    exact .of_none rfl trivial
  · next o rest _ =>
    rcases bind_eq_error.mp h with hv | ⟨⟨v, rest'⟩, hv, h⟩
    · exact (expectWord_fault hv).append [⟨.openParen, o⟩]
    rcases bind_eq_error.mp h with hvs | ⟨_, -, h⟩
    · obtain ⟨o', rfl⟩ := expectWord_eq_ok.mp hv
      exact (valuesAfterFirst_fault hvs).append [⟨.openParen, o⟩, ⟨.word v, o'⟩]
    · cases h
  · cases h
    exact .of_none rfl trivial

/-- **Words are built into a rule** when the operator takes that many of them as values. -/
theorem build_of_tokens {k : String} {op : Operator} {vs : List String} (hk : isToken k = true)
    (ha : op.arity.Admits vs.length) (hv : ∀ v ∈ vs, isToken v = true) :
    ∃ r, build k op vs = .ok r := by
  refine ⟨_, build_eq_ok.mpr (new_of_wellFormed ?_)⟩
  rw [trim_of_isToken hk, map_trim_of_isToken hv]
  exact ⟨hk, ha, hv⟩

/-- Once the rule is built, the last step of a reader cannot fail. -/
theorem build_bind_ne_error {k : String} {op : Operator} {vs : List String} {rest : List Token}
    {e : ParseReason} (hb : ∃ r, build k op vs = .ok r) :
    (build k op vs >>= fun r ↦ pure (r, rest)) ≠ .error e := by
  obtain ⟨r, hr⟩ := hb
  rw [hr]
  intro h
  cases h

/-- An operator written between a key and its values takes values. -/
theorem arity_ne_unary_of_operator? {l : Lexeme} {op : Operator} (h : l.operator? = some op) :
    op.arity ≠ .unary := by
  have hs := Lexeme.operator?_eq_some_iff.mp h
  cases op <;> simp_all [Operator.spellings, Operator.arity]

/-- **What the reader reports when it fails**: a lexeme among those it reads, if it names one,
and never a refusal of the rule. Every shape of rule hands words to `Rule.new`, as many as its
operator takes, so building the rule cannot fail. -/
theorem read_fault {toks : List Token} {e : ParseReason} (h : read toks = .error e)
    (hs : ∀ t ∈ toks, t.lexeme.Scanned) : ReadFault toks e := by
  rcases toks with _ | ⟨⟨l, o⟩, toks⟩
  · rw [read.eq_2 _ (by intro _ _ h; cases h)] at h
    rcases bind_eq_error.mp h with hk | ⟨_, hk, -⟩
    · exact expectWord_fault hk
    · cases hk
  by_cases hl : l = .bang
  · -- `! k`
    subst hl
    rw [read.eq_1] at h
    rcases bind_eq_error.mp h with hk | ⟨⟨k, rest⟩, hk, hb⟩
    · exact (expectWord_fault hk).append [⟨.bang, o⟩]
    obtain ⟨o', rfl⟩ := expectWord_eq_ok.mp hk
    exact absurd hb (build_bind_ne_error
      (build_of_tokens (hs ⟨.word k, o'⟩ (by simp) k rfl) rfl (by simp)))
  rw [read.eq_2 _ (by intro _ _ h; cases h; exact hl rfl)] at h
  rcases bind_eq_error.mp h with hk | ⟨⟨k, rest⟩, hk, hr⟩
  · exact expectWord_fault hk
  obtain ⟨o', heq⟩ := expectWord_eq_ok.mp hk
  cases heq
  have hkt : isToken k = true := hs ⟨.word k, o⟩ (by simp) k rfl
  rcases toks with _ | ⟨t, toks⟩
  · -- `k`
    exact absurd hr (build_bind_ne_error (build_of_tokens hkt rfl (by simp)))
  dsimp only at hr
  cases hop : t.lexeme.operator? with
  | none =>
    rw [hop] at hr
    cases hr
    exact .of_mem rfl (by simp) trivial
  | some op =>
    rw [hop] at hr
    dsimp only at hr
    split at hr
    · next hset =>
      rcases bind_eq_error.mp hr with hvl | ⟨⟨vs, rest⟩, hvl, hb⟩
      · exact (valueList_fault hvl).append [⟨.word k, o⟩, t]
      obtain ⟨v, vs', rfl, -, -, -, hv⟩ := valueList_sound hvl fun t' ht' ↦ hs t' (by simp [ht'])
      refine absurd hb (build_bind_ne_error (build_of_tokens hkt ?_ hv))
      rw [hset]
      exact Nat.succ_pos _
    · next hset =>
      rcases bind_eq_error.mp hr with hv | ⟨⟨v, rest⟩, hv, hb⟩
      · exact (expectWord_fault hv).append [⟨.word k, o⟩, t]
      obtain ⟨o'', rfl⟩ := expectWord_eq_ok.mp hv
      -- a comparison takes exactly one value
      have ha : op.arity.Admits [v].length := by
        cases hop' : op.arity with
        | unary => exact absurd hop' (arity_ne_unary_of_operator? hop)
        | single => rfl
        | set => exact absurd hop' hset
      exact absurd hb (build_bind_ne_error
        (build_of_tokens hkt ha (by simpa using hs ⟨.word v, o''⟩ (by simp) v rfl)))

/-- **How reading a rule fails**: the text is blank; or the reader fails on the lexemes of its
trim, and the error is about the trim; or a lexeme is left over after a whole rule. -/
theorem parse_eq_error {s : String} {err : ParseError} (h : Rule.parse s = .error err) :
    (err = ⟨s, .empty⟩ ∧ (trim s).toList = []) ∨
      (err.expression = trim s ∧ (read (tokenize (trim s)) = .error err.reason ∨
        ∃ r tok rest, read (tokenize (trim s)) = .ok (r, tok :: rest) ∧
          err.reason = .leftover tok)) := by
  rw [Rule.parse] at h
  by_cases he : (trim s).toList = []
  · rw [if_pos (by simp [he])] at h
    cases h
    exact .inl ⟨rfl, he⟩
  rw [if_neg (by simpa using he)] at h
  right
  cases hr : read (tokenize (trim s)) with
  | error e =>
    rw [hr] at h
    obtain rfl := Except.error.inj h
    exact ⟨rfl, .inl rfl⟩
  | ok p =>
    obtain ⟨r, rest⟩ := p
    rw [hr] at h
    cases rest with
    | nil => cases h
    | cons tok rest =>
      obtain rfl := Except.error.inj h
      exact ⟨rfl, .inr ⟨r, tok, rest, rfl, rfl⟩⟩

end Rule

/-! ### Where the cut fails -/

namespace Fragment

/-- The number of parentheses open after a text, counted from `d` open before it, or `none`
once a `)` closes none. Unlike `depthAfter`, commas do not stop the count. -/
def openAfter : Nat → List Char → Option Nat
  | d, [] => some d
  | d, c :: cs =>
    if c = '(' then openAfter (d + 1) cs
    else if c = ')' then (if d = 0 then none else openAfter (d - 1) cs)
    else openAfter d cs

theorem openAfter_append (d : Nat) (xs ys : List Char) :
    openAfter d (xs ++ ys) = (openAfter d xs).bind fun d' ↦ openAfter d' ys := by
  induction xs generalizing d with
  | nil => rfl
  | cons c xs ih =>
    simp only [List.cons_append, openAfter]
    split_ifs <;> simp [ih]

/-- A character that is not a parenthesis leaves the count as it is. -/
theorem openAfter_cons_of_ne {c : Char} (h1 : c ≠ '(') (h2 : c ≠ ')') (d : Nat)
    (cs : List Char) : openAfter d (c :: cs) = openAfter d cs := by
  rw [openAfter, if_neg h1, if_neg h2]

/-- Byte `n` of a text is a `)` that closes more parentheses than were opened before it, and
no `)` before it does. -/
def UnopenedAt (cs : List Char) (n : Nat) : Prop :=
  ∃ c₁ c₂, cs = c₁ ++ ')' :: c₂ ∧ byteLength c₁ = n ∧ openAfter 0 c₁ = some 0

/-- Byte `n` of a text starts a blank fragment: it is the start of the text or right after a
comma outside parentheses, and only blanks follow up to the next comma or the end. -/
def BlankPieceAt (cs : List Char) (n : Nat) : Prop :=
  ∃ c₁ w c₂, cs = c₁ ++ w ++ c₂ ∧ byteLength c₁ = n ∧ Blanks w ∧
    (c₁ = [] ∨ ∃ c₀, c₁ = c₀ ++ [','] ∧ openAfter 0 c₀ = some 0) ∧ ∀ c ∈ c₂.head?, c = ','

/-- A piece is refused only when it is blank, at the byte where it starts. -/
theorem close_eq_error {start : Nat} {piece : List Char} {e : ParseReason}
    (h : close start piece = .error e) : e = .emptyAt start ∧ Blanks piece := by
  unfold close at h
  dsimp only at h
  split at h
  · next hb =>
    cases h
    exact ⟨rfl, isEmpty_trimChars.mp hb⟩
  · cases h

/-- **Where the cut fails**, reading on from `depth` open parentheses with the current piece
started at byte `start` and holding `piece`, and the next character at byte `offset`: at a `)`
that closes none; at the current piece, blank up to a comma outside parentheses or the end; at
a later piece, blank and right after a comma outside parentheses; or at the end with a
parenthesis open. -/
theorem cutFrom_error {depth start offset : Nat} {piece cs : List Char} {e : ParseReason}
    (h : cutFrom depth start offset piece cs = .error e) :
    (∃ c₁ c₂, cs = c₁ ++ ')' :: c₂ ∧ openAfter depth c₁ = some 0 ∧
        e = .unopened (offset + byteLength c₁)) ∨
      (depth = 0 ∧ Blanks piece ∧ ∃ w c₂, cs = w ++ c₂ ∧ Blanks w ∧
        (∀ c ∈ c₂.head?, c = ',') ∧ e = .emptyAt start) ∨
      (∃ c₁ w c₂, cs = c₁ ++ ',' :: (w ++ c₂) ∧ openAfter depth c₁ = some 0 ∧ Blanks w ∧
        (∀ c ∈ c₂.head?, c = ',') ∧ e = .emptyAt (offset + byteLength c₁ + 1)) ∨
      e = .unclosed := by
  induction depth, start, offset, piece, cs using cutFrom.induct with
  | case1 depth start offset piece hd =>
    rw [cutFrom, if_pos hd] at h
    cases h
    exact .inr (.inr (.inr rfl))
  | case2 depth start offset piece hd =>
    rw [cutFrom, if_neg hd] at h
    rcases bind_eq_error.mp h with hc | ⟨_, -, h⟩
    · -- the last piece is blank
      obtain ⟨rfl, hb⟩ := close_eq_error hc
      exact .inr (.inl ⟨by omega, hb, [], [], rfl, blanks_nil, by simp, rfl⟩)
    · cases h
  | case3 depth start offset piece cs ih =>
    rw [cutFrom, if_pos rfl] at h
    rcases ih h with ⟨c₁, c₂, rfl, hd, rfl⟩ | ⟨hd, -⟩ | ⟨c₁, w, c₂, rfl, hd, hw, hc₂, rfl⟩ | hu
    · refine .inl ⟨'(' :: c₁, c₂, rfl, by rw [openAfter, if_pos rfl, hd], ?_⟩
      congr 1
      rw [byteLength_cons, show '('.utf8Size = 1 from rfl]
      omega
    · omega
    · refine .inr (.inr (.inl ⟨'(' :: c₁, w, c₂, rfl, by rw [openAfter, if_pos rfl, hd], hw,
        hc₂, ?_⟩))
      congr 1
      rw [byteLength_cons, show '('.utf8Size = 1 from rfl]
      omega
    · exact .inr (.inr (.inr hu))
  | case4 start offset piece cs hne =>
    rw [cutFrom, if_neg hne, if_pos rfl, if_pos rfl] at h
    cases h
    exact .inl ⟨[], cs, rfl, rfl, rfl⟩
  | case5 depth start offset piece cs hd hne ih =>
    rw [cutFrom, if_neg hne, if_pos rfl, if_neg hd] at h
    have hstep : ∀ c₁, openAfter depth (')' :: c₁) = openAfter (depth - 1) c₁ := fun c₁ ↦ by
      rw [openAfter, if_neg hne, if_pos rfl, if_neg hd]
    rcases ih h with ⟨c₁, c₂, rfl, hd', rfl⟩ | ⟨-, hb, -⟩ | ⟨c₁, w, c₂, rfl, hd', hw, hc₂, rfl⟩ | hu
    · refine .inl ⟨')' :: c₁, c₂, rfl, by rw [hstep, hd'], ?_⟩
      congr 1
      rw [byteLength_cons, show ')'.utf8Size = 1 from rfl]
      omega
    · -- a piece holding `)` is not blank
      have := hb ')' (by simp)
      rw [isBlank_punctuation.2.1] at this
      cases this
    · refine .inr (.inr (.inl ⟨')' :: c₁, w, c₂, rfl, by rw [hstep, hd'], hw, hc₂, ?_⟩))
      congr 1
      rw [byteLength_cons, show ')'.utf8Size = 1 from rfl]
      omega
    · exact .inr (.inr (.inr hu))
  | case6 depth start offset piece c cs h1 h2 h3 ih =>
    rw [cutFrom, if_neg h1, if_neg h2, if_pos h3] at h
    obtain ⟨rfl, rfl⟩ := h3
    rcases bind_eq_error.mp h with hc | ⟨_, -, h⟩
    · -- the piece the comma ends is blank
      obtain ⟨rfl, hb⟩ := close_eq_error hc
      exact .inr (.inl ⟨rfl, hb, [], ',' :: cs, rfl, blanks_nil, by simp, rfl⟩)
    rcases bind_eq_error.mp h with hrest | ⟨_, -, h⟩
    swap
    · cases h
    have hcomma : ∀ c₁, openAfter 0 (',' :: c₁) = openAfter 0 c₁ :=
      openAfter_cons_of_ne (by decide) (by decide) 0
    rcases ih hrest with ⟨c₁, c₂, rfl, hd, rfl⟩ | ⟨-, -, w, c₂, rfl, hw, hc₂, rfl⟩ |
        ⟨c₁, w, c₂, rfl, hd, hw, hc₂, rfl⟩ | hu
    · refine .inl ⟨',' :: c₁, c₂, rfl, by rw [hcomma, hd], ?_⟩
      congr 1
      rw [byteLength_cons, show ','.utf8Size = 1 from rfl]
      omega
    · -- the piece after the comma is blank
      exact .inr (.inr (.inl ⟨[], w, c₂, rfl, rfl, hw, hc₂, by simp⟩))
    · refine .inr (.inr (.inl ⟨',' :: c₁, w, c₂, rfl, by rw [hcomma, hd], hw, hc₂, ?_⟩))
      congr 1
      rw [byteLength_cons, show ','.utf8Size = 1 from rfl]
      omega
    · exact .inr (.inr (.inr hu))
  | case7 depth start offset piece c cs h1 h2 h3 ih =>
    rw [cutFrom, if_neg h1, if_neg h2, if_neg h3] at h
    have hstep : ∀ c₁, openAfter depth (c :: c₁) = openAfter depth c₁ :=
      openAfter_cons_of_ne h1 h2 depth
    rcases ih h with ⟨c₁, c₂, rfl, hd, rfl⟩ | ⟨hd, hb, w, c₂, rfl, hw, hc₂, rfl⟩ |
        ⟨c₁, w, c₂, rfl, hd, hw, hc₂, rfl⟩ | hu
    · refine .inl ⟨c :: c₁, c₂, rfl, by rw [hstep, hd], ?_⟩
      congr 1
      rw [byteLength_cons]
      omega
    · -- the blank current piece takes `c`, which is then blank too
      have hc : isBlank c = true := hb c (by simp)
      refine .inr (.inl ⟨hd, fun d hd' ↦ hb d (by simp [hd']), c :: w, c₂, rfl, ?_, hc₂, rfl⟩)
      intro d hd'
      rcases List.mem_cons.mp hd' with rfl | hd'
      · exact hc
      · exact hw d hd'
    · refine .inr (.inr (.inl ⟨c :: c₁, w, c₂, rfl, by rw [hstep, hd], hw, hc₂, ?_⟩))
      congr 1
      rw [byteLength_cons]
      omega
    · exact .inr (.inr (.inr hu))

/-- **Where the cut of a text fails**: at the first `)` that closes more parentheses than were
opened, at the start of a blank fragment, or at the end with a parenthesis open. -/
theorem cut_error {s : String} {e : ParseReason} (h : cut s = .error e) :
    (∃ n, e = .unopened n ∧ UnopenedAt s.toList n) ∨
      (∃ n, e = .emptyAt n ∧ BlankPieceAt s.toList n) ∨ e = .unclosed := by
  rcases cutFrom_error h with ⟨c₁, c₂, hs, hd, rfl⟩ | ⟨-, -, w, c₂, hs, hw, hc₂, rfl⟩ |
      ⟨c₁, w, c₂, hs, hd, hw, hc₂, rfl⟩ | hu
  · exact .inl ⟨_, rfl, c₁, c₂, hs, by simp, hd⟩
  · exact .inr (.inl ⟨0, rfl, [], w, c₂, hs, rfl, hw, .inl rfl, hc₂⟩)
  · refine .inr (.inl ⟨_, rfl, c₁ ++ [','], w, c₂, by simp [hs], ?_, hw, .inr ⟨c₁, rfl, hd⟩, hc₂⟩)
    rw [byteLength_append, byteLength_cons, byteLength_nil, show ','.utf8Size = 1 from rfl]
    omega
  · exact .inr (.inr hu)

end Fragment

namespace Selector

/-- **How selector text fails to read**: the cut fails, and the error is about the whole text;
or a fragment of the cut fails to read as a rule, with that error. -/
theorem parseRules_eq_error {s : String} {err : ParseError} (h : parseRules s = .error err) :
    (err.expression = s ∧ cut s = .error err.reason) ∨
      ∃ fs, cut s = .ok fs ∧ ∃ f ∈ fs, Rule.parse f = .error err := by
  rw [parseRules] at h
  split at h
  · cases h
  cases hcut : cut s with
  | error e =>
    rw [hcut] at h
    cases h
    exact .inl ⟨rfl, rfl⟩
  | ok fs =>
    rw [hcut] at h
    exact .inr ⟨fs, rfl, mapM_eq_error h⟩

end Selector

/-! ### No refusal -/

namespace ParseReason

/-- Only a refusal of a rule has a reason that starts with `Invalid rule:`. -/
theorem eq_invalidRule_of_prefix {e : ParseReason} (h : "Invalid rule:".toList <+: e.text.toList) :
    ∃ re, e = .invalidRule re := by
  have hhead : e.text.toList.head? = some 'I' := by
    obtain ⟨t, ht⟩ := h
    rw [← ht]
    simp
  -- every other reason starts with a lower-case word
  rw [text.eq_def] at hhead
  cases e with
  | invalidRule re => exact ⟨re, rfl⟩
  | expected what found => cases found <;> simp at hhead
  | _ => simp at hhead

end ParseReason

namespace Rule

/-- A failed reading of a rule is not a refusal of it. -/
theorem parse_error_not_refused {f : String} {err : ParseError} (h : Rule.parse f = .error err) :
    ∀ re, err.reason ≠ .invalidRule re := by
  rcases parse_eq_error h with ⟨rfl, -⟩ | ⟨-, hread | ⟨_, _, _, -, hleft⟩⟩
  · exact fun _ h ↦ by cases h
  · exact (read_fault hread (scanned_of_mem_scan 0 _)).not_refused
  · rw [hleft]
    exact fun _ h ↦ by cases h

end Rule

/-- A failed reading of selector text is not a refusal of a rule: the cut refuses none, and a
fragment fails as a rule does. -/
theorem Selector.parseRules_error_not_refused {s : String} {err : ParseError}
    (h : Selector.parseRules s = .error err) : ∀ re, err.reason ≠ .invalidRule re := by
  rcases Selector.parseRules_eq_error h with ⟨-, hcut⟩ | ⟨fs, -, f, -, hf⟩
  · rcases cut_error hcut with ⟨n, hn, -⟩ | ⟨n, hn, -⟩ | hn <;> rw [hn] <;>
      exact fun _ h ↦ by cases h
  · exact Rule.parse_error_not_refused hf

namespace Rule

/-- **Reading never refuses a rule.** Reading a fragment, or whole selector text, fails for a
reason of its own and never because `Rule.new` refused what was read: what the reader hands over
is words, as many as the operator takes. So no reason of a failure starts with `Invalid rule:`. -/
theorem parse_never_refuses_rule (e : String) :
    (∀ err, Rule.parse e = .error err →
      (∀ re, err.reason ≠ .invalidRule re) ∧ ¬ "Invalid rule:".toList <+: err.reason.text.toList) ∧
    (∀ err, Selector.parseRules e = .error err →
      (∀ re, err.reason ≠ .invalidRule re) ∧ ¬ "Invalid rule:".toList <+: err.reason.text.toList) := by
  -- a reason that is no refusal does not start as one
  have hnot : ∀ r : ParseReason, (∀ re, r ≠ .invalidRule re) →
      (∀ re, r ≠ .invalidRule re) ∧ ¬ "Invalid rule:".toList <+: r.text.toList :=
    fun r hr ↦ ⟨hr, fun hp ↦ by
      obtain ⟨re, hre⟩ := ParseReason.eq_invalidRule_of_prefix hp
      exact hr re hre⟩
  exact ⟨fun err h ↦ hnot _ (parse_error_not_refused h),
    fun err h ↦ hnot _ (Selector.parseRules_error_not_refused h)⟩

/-- A value list that is empty, and an unknown operator in the second fragment of a selector, are
reported as such and not as refused rules. -/
theorem parse_never_refuses_rule_samples :
    (Rule.parse "a in ()" = .error ⟨"a in ()", .emptyValueList⟩ ∧
      (∀ re, ParseReason.emptyValueList ≠ .invalidRule re) ∧
      ¬ "Invalid rule:".toList <+: ParseReason.emptyValueList.text.toList) ∧
    (Selector.parseRules "a = 1, b ~ 2" =
        .error ⟨"b ~ 2", .unknownOperator ⟨.word "~", 2⟩⟩ ∧
      (∀ re, ParseReason.unknownOperator ⟨.word "~", 2⟩ ≠ .invalidRule re) ∧
      ¬ "Invalid rule:".toList <+: (ParseReason.unknownOperator ⟨.word "~", 2⟩).text.toList) := by
  have h₁ : Rule.parse "a in ()" = .error ⟨"a in ()", .emptyValueList⟩ := by decide +kernel
  have h₂ : Selector.parseRules "a = 1, b ~ 2" =
      .error ⟨"b ~ 2", .unknownOperator ⟨.word "~", 2⟩⟩ := by decide +kernel
  exact ⟨⟨h₁, (parse_never_refuses_rule "a in ()").1 _ h₁⟩,
    ⟨h₂, (parse_never_refuses_rule "a = 1, b ~ 2").2 _ h₂⟩⟩

end Rule

end LabelQuery
