import LabelQuery.Proofs.Layout
import LabelQuery.Proofs.RuleValidation
import LabelQuery.Selector.Expression
/-!
# The grammar of a rule's text

A fragment of selector text holds one rule, and `Rule.parse` accepts exactly the texts that the
grammar of rules allows. A rule with key `k` and values `v₁, …, vₘ` is spelled by one of these
lists of pieces, according to its operator:

* `k` for a presence test, and `! k` for an absence test;
* `k sym v` for a comparison, where `sym` is a spelling of the operator: `=` or `==`, `!=`,
  `>`, `<`;
* `k sym ( v₁ , … , vₘ )` with `m ≥ 1` for a membership test, where `sym` is `in` or `notin`.

The text is the pieces with runs of blanks before, between and after them, and the run between
two words (keys, values, `in`, `notin`) is not empty (`Spaced`). So `env notin(a,b)` and
`! env` are rules, while `! =`, `= =`, `a notin`, `!!a` and `a in ()` are not.

The proof goes through the lexemes. `Layout` says how the lexemes lie in the text; here the
reader is matched against the spellings: a list of lexemes is read as a whole rule exactly when
it is the lexemes of a spelling of it (`spells_of_read`, `read_of_spells`); a rule read
from the front of lexemes is read from a spelling of it (`spells_of_read_prefix`). The words of a
spelling are tokens, and a token is its own trim, so `Rule.new` builds the rule back unchanged.

## Main statements

* `Operator.ofSymbol?_eq_some_iff`: the reader's table of operator symbols is the list of
  spellings.
* `spelled_of_parse`, `parse_of_spelled`: the two directions of the grammar.
* `Rule.parse_eq_ok_iff_spelled`: a text is read as a rule exactly when it spells it.
-/

namespace LabelQuery

open Text

/-! ### Spellings -/

namespace Operator

/-- The ways selector text writes an operator between a key and its values. The two presence
tests are written without one. -/
def spellings : Operator → List String
  | .equals => ["=", "=="]
  | .notEquals => ["!="]
  | .greaterThan => [">"]
  | .lessThan => ["<"]
  | .isIn => ["in"]
  | .notIn => ["notin"]
  | .present | .absent => []

/-- **The reader's table of symbols is the list of spellings.** -/
theorem ofSymbol?_eq_some_iff {s : String} {op : Operator} :
    ofSymbol? s = some op ↔ s ∈ op.spellings := by
  unfold ofSymbol?
  split_ifs with h1 h2 h3 h4 h5 h6
  · rcases h1 with rfl | rfl <;> cases op <;> simp [spellings]
  · subst h2; cases op <;> simp [spellings]
  · subst h3; cases op <;> simp [spellings]
  · subst h4; cases op <;> simp [spellings]
  · subst h5; cases op <;> simp [spellings]
  · subst h6; cases op <;> simp [spellings]
  · simp only [not_or] at h1
    cases op <;> simp_all [spellings]

/-- Every spelling is a piece: `in` and `notin` are words, the other spellings are marks. -/
theorem isPiece_of_mem_spellings {op : Operator} {s : String} (h : s ∈ op.spellings) :
    IsPiece s := by
  have hin : isToken "in" = true := by decide +kernel
  have hnotin : isToken "notin" = true := by decide +kernel
  cases op <;> simp only [spellings, List.mem_cons, List.not_mem_nil, or_false] at h
  · rcases h with rfl | rfl <;> exact .inr (by simp [marks])
  · subst h; exact .inr (by simp [marks])
  · subst h; exact .inl hin
  · subst h; exact .inl hnotin
  · subst h; exact .inr (by simp [marks])
  · subst h; exact .inr (by simp [marks])

end Operator

/-- The operator a lexeme names after a key is the one it spells. -/
theorem Lexeme.operator?_eq_some_iff {l : Lexeme} {op : Operator} :
    l.operator? = some op ↔ l.text ∈ op.spellings := by
  cases l with
  | word w => exact Operator.ofSymbol?_eq_some_iff
  | symbol s => exact Operator.ofSymbol?_eq_some_iff
  | _ => cases op <;> simp [Lexeme.operator?, Lexeme.text, Operator.spellings]

theorem Lexeme.operator?_ofText {sym : String} {op : Operator} (hs : sym ∈ op.spellings) :
    (Lexeme.ofText sym).operator? = some op := by
  rw [Lexeme.operator?_eq_some_iff, Lexeme.text_ofText]
  exact hs

/-- The pieces after the first value of a value list: `,` and a value for each further value,
then `)`. -/
def valueTail : List String → List String
  | [] => [")"]
  | v :: vs => "," :: v :: valueTail vs

/-- **The pieces `ts` spell a rule** with key `k`, operator `op` and values `vs`. -/
inductive Spells : String → Operator → List String → List String → Prop
  /-- `k` -/
  | present (k : String) : Spells k .present [] [k]
  /-- `! k` -/
  | absent (k : String) : Spells k .absent [] ["!", k]
  /-- `k sym v` -/
  | single {k : String} {op : Operator} {sym v : String} :
      op.arity = .single → sym ∈ op.spellings → Spells k op [v] [k, sym, v]
  /-- `k sym ( v₁ , … , vₘ )` -/
  | set {k : String} {op : Operator} {sym v : String} {vs : List String} :
      op.arity = .set → sym ∈ op.spellings →
      Spells k op (v :: vs) (k :: sym :: "(" :: v :: valueTail vs)

theorem isPiece_of_mem_valueTail {vs : List String} (hv : ∀ v ∈ vs, isToken v = true) :
    ∀ t ∈ valueTail vs, IsPiece t := by
  induction vs with
  | nil =>
    intro t ht
    rw [valueTail, List.mem_singleton] at ht
    exact .inr (by simp [marks, ht])
  | cons v vs ih =>
    intro t ht
    simp only [valueTail, List.mem_cons] at ht
    rcases ht with rfl | rfl | ht
    · exact .inr (by simp [marks])
    · exact .inl (hv t (by simp))
    · exact ih (fun v' hv' ↦ hv v' (by simp [hv'])) t ht

theorem ne_of_isToken {t : String} (ht : isToken t = true) : t ≠ "=" ∧ t ≠ "!" := by
  constructor <;> rintro rfl <;> simp [isToken, isReserved] at ht

/-- A piece that is neither `=` nor `!` can stand before anything. -/
theorem Unmerged.cons {t : String} {ts : List String} (ht : t ≠ "=" ∧ t ≠ "!")
    (h : Unmerged ts) : Unmerged (t :: ts) := by
  cases ts with
  | nil => trivial
  | cons t' ts => exact ⟨fun h' ↦ absurd h' (by simp [ht.1, ht.2]), h⟩

/-- Any piece can stand before a word. -/
theorem Unmerged.cons_word {t t' : String} {ts : List String} (ht' : isToken t' = true)
    (h : Unmerged (t' :: ts)) : Unmerged (t :: t' :: ts) :=
  ⟨fun _ ↦ ht', h⟩

theorem unmerged_valueTail {vs : List String} (hv : ∀ v ∈ vs, isToken v = true) :
    Unmerged (valueTail vs) := by
  induction vs with
  | nil => trivial
  | cons v vs ih =>
    have hv' : isToken v = true := hv v (by simp)
    exact Unmerged.cons_word hv'
      (Unmerged.cons (ne_of_isToken hv') (ih fun v' hm ↦ hv v' (by simp [hm])))

namespace Spells

variable {k : String} {op : Operator} {vs ts : List String}

/-- The pieces of a spelling with token key and values are words and marks. -/
theorem isPiece (h : Spells k op vs ts) (hk : isToken k = true) (hv : ∀ v ∈ vs, isToken v = true) :
    ∀ t ∈ ts, IsPiece t := by
  have hbang : IsPiece "!" := .inr (by simp [marks])
  have hopen : IsPiece "(" := .inr (by simp [marks])
  cases h with
  | present => simpa using .inl hk
  | absent => simpa using ⟨hbang, .inl hk⟩
  | single _ hs => simpa using ⟨.inl hk, Operator.isPiece_of_mem_spellings hs, .inl (hv _ (by simp))⟩
  | set _ hs =>
    intro t ht
    simp only [List.mem_cons] at ht
    rcases ht with rfl | rfl | rfl | rfl | ht
    · exact .inl hk
    · exact Operator.isPiece_of_mem_spellings hs
    · exact hopen
    · exact .inl (hv t (by simp))
    · exact isPiece_of_mem_valueTail (fun v hm ↦ hv v (by simp [hm])) t ht

/-- A spelling has at least one piece. -/
theorem ne_nil (h : Spells k op vs ts) : ts ≠ [] := by
  cases h <;> simp

/-- In a spelling, `!` and `=` are followed by a word. -/
theorem unmerged (h : Spells k op vs ts) (hk : isToken k = true)
    (hv : ∀ v ∈ vs, isToken v = true) : Unmerged ts := by
  have hparen : "(" ≠ "=" ∧ "(" ≠ "!" := by simp
  cases h with
  | present => trivial
  | absent => exact Unmerged.cons_word hk trivial
  | single _ _ => exact Unmerged.cons (ne_of_isToken hk) (Unmerged.cons_word (hv _ (by simp)) trivial)
  | @set _ sym v vs hset hs =>
    -- a membership operator is spelled `in` or `notin`
    have hsym : sym ≠ "=" ∧ sym ≠ "!" := by
      cases op <;> simp_all [Operator.spellings, Operator.arity]
    have hv' : isToken v = true := hv v (by simp)
    exact Unmerged.cons (ne_of_isToken hk) (Unmerged.cons hsym (Unmerged.cons hparen
      (Unmerged.cons (ne_of_isToken hv') (unmerged_valueTail fun v' hm ↦ hv v' (by simp [hm])))))

end Spells

/-! ### Reading through `Except` -/

theorem bind_eq_ok {ε α β : Type} {x : Except ε α} {f : α → Except ε β} {b : β} :
    x >>= f = .ok b ↔ ∃ a, x = .ok a ∧ f a = .ok b := by
  cases x <;> simp [bind, Except.bind]

theorem pure_eq_ok {ε α : Type} {a b : α} : (pure a : Except ε α) = .ok b ↔ a = b := by
  simp [pure, Except.pure]

namespace Rule

theorem expectWord_eq_ok {what : Expected} {ts : List Token} {w : String} {rest : List Token} :
    expectWord what ts = .ok (w, rest) ↔ ∃ o, ts = ⟨.word w, o⟩ :: rest := by
  rcases ts with _ | ⟨⟨l, o⟩, ts⟩
  · simp [expectWord]
  · cases l <;> simp [expectWord, and_comm, eq_comm]

theorem build_eq_ok {k : String} {op : Operator} {vs : List String} {r : Rule} :
    build k op vs = .ok r ↔ Rule.new k op vs = .ok r := by
  unfold build
  cases Rule.new k op vs <;> simp [Except.mapError]

/-- The last step of every reader: build the rule and return it with the lexemes after it. -/
theorem build_bind_eq_ok {k : String} {op : Operator} {vs : List String} {r : Rule}
    {rest rest' : List Token} :
    (build k op vs >>= fun r ↦ pure (r, rest)) = .ok (r, rest') ↔
      Rule.new k op vs = .ok r ∧ rest = rest' := by
  rw [bind_eq_ok]
  constructor
  · rintro ⟨r', hr, h⟩
    obtain ⟨rfl, rfl⟩ := Prod.mk.inj (pure_eq_ok.mp h)
    exact ⟨build_eq_ok.mp hr, rfl⟩
  · rintro ⟨hr, rfl⟩
    exact ⟨r, build_eq_ok.mpr hr, rfl⟩

/-! ### Value lists -/

/-- **What the rest of a value list reads**: the lexemes `, v` for each further value, then
`)`, and the values are words of the text. -/
theorem valuesAfterFirst_sound {ts : List Token} {vs : List String} {rest : List Token}
    (h : valuesAfterFirst ts = .ok (vs, rest)) (hs : ∀ t ∈ ts, t.lexeme.Scanned) :
    ∃ pre, ts = pre ++ rest ∧ pre.map (·.lexeme.text) = valueTail vs ∧
      ∀ v ∈ vs, isToken v = true := by
  induction ts using valuesAfterFirst.induct generalizing vs rest with
  | case1 o rest' =>
    rw [valuesAfterFirst.eq_1] at h
    obtain ⟨rfl, rfl⟩ := Prod.mk.inj (Except.ok.inj h)
    exact ⟨[⟨.closeParen, o⟩], rfl, rfl, by simp⟩
  | case2 o v o' rest' vs' rest'' hrec ih =>
    rw [valuesAfterFirst.eq_2, hrec] at h
    obtain ⟨rfl, rfl⟩ := Prod.mk.inj (Except.ok.inj h)
    obtain ⟨pre, rfl, htext, htok⟩ := ih hrec fun t ht ↦ hs t (by simp [ht])
    refine ⟨⟨.comma, o⟩ :: ⟨.word v, o'⟩ :: pre, rfl, ?_, ?_⟩
    · rw [List.map_cons, List.map_cons, htext]
      rfl
    · intro v' hv'
      rcases List.mem_cons.mp hv' with rfl | hv'
      · exact hs ⟨.word v', o'⟩ (by simp) v' rfl
      · exact htok v' hv'
  | case3 o v o' rest' e hrec => rw [valuesAfterFirst.eq_2, hrec] at h; cases h
  | case4 o t tail hne => rw [valuesAfterFirst.eq_3 _ _ _ hne] at h; cases h
  | case5 o => rw [valuesAfterFirst.eq_4] at h; cases h
  | case6 t h1 h2 h3 h4 => rw [valuesAfterFirst.eq_5 _ h1 h2 h3 h4] at h; cases h

/-- **The lexemes of the rest of a value list are read as its values.** -/
theorem valuesAfterFirst_complete {vs : List String} (hv : ∀ v ∈ vs, isToken v = true)
    {pre : List Token} (hpre : pre.map (·.lexeme) = (valueTail vs).map Lexeme.ofText)
    (rest : List Token) :
    valuesAfterFirst (pre ++ rest) = .ok (vs, rest) := by
  induction vs generalizing pre with
  | nil =>
    simp only [valueTail, List.map_cons, List.map_nil, Lexeme.ofText_punctuation,
      List.map_eq_singleton_iff] at hpre
    obtain ⟨⟨l, o⟩, rfl, rfl⟩ := hpre
    rfl
  | cons v vs ih =>
    have hvw : Lexeme.ofText v = .word v := Lexeme.ofText_of_isToken (hv v (by simp))
    simp only [valueTail, List.map_cons, Lexeme.ofText_punctuation, hvw, List.map_eq_cons_iff] at hpre
    obtain ⟨⟨l₁, o₁⟩, _, rfl, rfl, ⟨l₂, o₂⟩, pre', rfl, rfl, hpre'⟩ := hpre
    rw [List.cons_append, List.cons_append, valuesAfterFirst.eq_2,
      ih (fun v' hm ↦ hv v' (by simp [hm])) hpre']

/-- **What a value list reads**: `(`, its first value, and the rest of the list. -/
theorem valueList_sound {ts : List Token} {vs : List String} {rest : List Token}
    (h : valueList ts = .ok (vs, rest)) (hs : ∀ t ∈ ts, t.lexeme.Scanned) :
    ∃ v vs', vs = v :: vs' ∧ ∃ pre, ts = pre ++ rest ∧
      pre.map (·.lexeme.text) = "(" :: v :: valueTail vs' ∧ ∀ v ∈ vs, isToken v = true := by
  rw [valueList.eq_def] at h
  split at h
  · cases h
  · next o ts' _ =>
    obtain ⟨⟨v, rest'⟩, hv, h⟩ := bind_eq_ok.mp h
    obtain ⟨⟨vs', rest''⟩, hvs, h⟩ := bind_eq_ok.mp h
    obtain ⟨rfl, rfl⟩ := Prod.mk.inj (pure_eq_ok.mp h)
    obtain ⟨o', rfl⟩ := expectWord_eq_ok.mp hv
    obtain ⟨pre, rfl, htext, htok⟩ :=
      valuesAfterFirst_sound hvs fun t ht ↦ hs t (by simp [ht])
    refine ⟨v, vs', rfl, ⟨.openParen, o⟩ :: ⟨.word v, o'⟩ :: pre, rfl, ?_, ?_⟩
    · rw [List.map_cons, List.map_cons, htext]
      rfl
    · exact List.forall_mem_cons.mpr ⟨hs ⟨.word v, o'⟩ (by simp) v rfl, htok⟩
  · cases h

/-- **The lexemes of a value list are read as its values.** -/
theorem valueList_complete {v : String} {vs : List String}
    (hv : ∀ v' ∈ v :: vs, isToken v' = true) {pre : List Token}
    (hpre : pre.map (·.lexeme) = ("(" :: v :: valueTail vs).map Lexeme.ofText)
    (rest : List Token) :
    valueList (pre ++ rest) = .ok (v :: vs, rest) := by
  have hvw : Lexeme.ofText v = .word v := Lexeme.ofText_of_isToken (hv v (by simp))
  simp only [List.map_cons, Lexeme.ofText_punctuation, hvw, List.map_eq_cons_iff] at hpre
  obtain ⟨⟨l₁, o₁⟩, _, rfl, rfl, ⟨l₂, o₂⟩, pre', rfl, rfl, hpre'⟩ := hpre
  rw [List.cons_append, List.cons_append, valueList.eq_2 _ _ (by intro _ _ h; cases h)]
  simp only [expectWord, valuesAfterFirst_complete (fun v' hm ↦ hv v' (by simp [hm])) hpre' rest,
    bind, Except.bind, pure, Except.pure]

/-! ### Reading a rule -/

/-- A rule built from words is built from them unchanged. -/
theorem eq_of_new_tokens {k : String} {op : Operator} {vs : List String} {r : Rule}
    (h : Rule.new k op vs = .ok r) (hk : isToken k = true) (hv : ∀ v ∈ vs, isToken v = true) :
    r.key = k ∧ r.op = op ∧ r.values = vs := by
  obtain ⟨-, hrk, hro, hrv⟩ := new_eq_ok_iff.mp h
  exact ⟨hrk.trans (trim_of_isToken hk), hro, hrv.trans (map_trim_of_isToken hv)⟩

/-- **What a rule is read from**: lexemes at the front that spell it; the reader returns the
lexemes after them. -/
theorem spells_of_read_prefix {toks rest : List Token} {r : Rule}
    (h : read toks = .ok (r, rest)) (hs : ∀ t ∈ toks, t.lexeme.Scanned) :
    ∃ pre, toks = pre ++ rest ∧ Spells r.key r.op r.values (pre.map (·.lexeme.text)) := by
  rcases toks with _ | ⟨⟨l, o⟩, toks⟩
  · rw [read.eq_2 _ (by intro _ _ h; cases h)] at h
    cases h
  by_cases hl : l = .bang
  · -- `! k`
    subst hl
    rw [read.eq_1] at h
    obtain ⟨⟨k, rest'⟩, hk, h⟩ := bind_eq_ok.mp h
    obtain ⟨hr, rfl⟩ := build_bind_eq_ok.mp h
    obtain ⟨o', rfl⟩ := expectWord_eq_ok.mp hk
    obtain ⟨hrk, hro, hrv⟩ := eq_of_new_tokens hr (hs ⟨.word k, o'⟩ (by simp) k rfl) (by simp)
    refine ⟨[⟨.bang, o⟩, ⟨.word k, o'⟩], rfl, ?_⟩
    rw [hrk, hro, hrv]
    exact .absent k
  rw [read.eq_2 _ (by intro _ _ h; cases h; exact hl rfl)] at h
  obtain ⟨⟨k, rest'⟩, hk, h⟩ := bind_eq_ok.mp h
  obtain ⟨o', heq⟩ := expectWord_eq_ok.mp hk
  cases heq
  have hkt : isToken k = true := hs ⟨.word k, o⟩ (by simp) k rfl
  rcases toks with _ | ⟨⟨l, o'⟩, toks⟩
  · -- `k`
    obtain ⟨hr, rfl⟩ := build_bind_eq_ok.mp h
    obtain ⟨hrk, hro, hrv⟩ := eq_of_new_tokens hr hkt (by simp)
    refine ⟨[⟨.word k, o⟩], rfl, ?_⟩
    rw [hrk, hro, hrv]
    exact .present k
  dsimp only at h
  cases hop : l.operator? with
  | none => rw [hop] at h; cases h
  | some op =>
    rw [hop] at h
    dsimp only at h
    have hsym := Lexeme.operator?_eq_some_iff.mp hop
    split at h
    · next hset =>
      obtain ⟨⟨vs, rest'⟩, hvl, h⟩ := bind_eq_ok.mp h
      obtain ⟨hr, rfl⟩ := build_bind_eq_ok.mp h
      obtain ⟨v, vs', rfl, pre, rfl, htext, hv⟩ :=
        valueList_sound hvl fun t ht ↦ hs t (by simp [ht])
      obtain ⟨hrk, hro, hrv⟩ := eq_of_new_tokens hr hkt hv
      refine ⟨⟨.word k, o⟩ :: ⟨l, o'⟩ :: pre, rfl, ?_⟩
      rw [hrk, hro, hrv, List.map_cons, List.map_cons, htext]
      exact .set hset hsym
    · next hset =>
      obtain ⟨⟨v, rest'⟩, hv, h⟩ := bind_eq_ok.mp h
      obtain ⟨hr, rfl⟩ := build_bind_eq_ok.mp h
      obtain ⟨o'', rfl⟩ := expectWord_eq_ok.mp hv
      have hvt : isToken v = true := hs ⟨.word v, o''⟩ (by simp) v rfl
      -- a comparison takes one value, so its arity is single
      have hsingle : op.arity = .single := by
        have ha : op.arity.Admits 1 := by
          simpa using (new_eq_ok_iff.mp hr).1.2.1
        cases hop' : op.arity with
        | unary => rw [hop'] at ha; exact absurd ha (by decide)
        | single => rfl
        | set => exact absurd hop' hset
      obtain ⟨hrk, hro, hrv⟩ := eq_of_new_tokens hr hkt (by simpa using hvt)
      refine ⟨[⟨.word k, o⟩, ⟨l, o'⟩, ⟨.word v, o''⟩], rfl, ?_⟩
      rw [hrk, hro, hrv]
      exact .single hsingle hsym

/-- **A list of lexemes read as a whole rule is a spelling of it.** -/
theorem spells_of_read {toks : List Token} {r : Rule} (h : read toks = .ok (r, []))
    (hs : ∀ t ∈ toks, t.lexeme.Scanned) :
    Spells r.key r.op r.values (toks.map (·.lexeme.text)) := by
  obtain ⟨pre, rfl, hsp⟩ := spells_of_read_prefix h hs
  rwa [List.append_nil]

/-- **The lexemes of a spelling are read as the rule.** -/
theorem read_of_spells {k : String} {op : Operator} {vs ts : List String} {toks : List Token}
    {r : Rule} (hsp : Spells k op vs ts) (hk : isToken k = true)
    (hv : ∀ v ∈ vs, isToken v = true) (hr : Rule.new k op vs = .ok r)
    (htoks : toks.map (·.lexeme) = ts.map Lexeme.ofText) :
    read toks = .ok (r, []) := by
  have hkw : Lexeme.ofText k = .word k := Lexeme.ofText_of_isToken hk
  have hb : build k op vs = .ok r := build_eq_ok.mpr hr
  cases hsp with
  | present =>
    simp only [List.map_cons, List.map_nil, hkw, List.map_eq_singleton_iff] at htoks
    obtain ⟨⟨l, o⟩, rfl, rfl⟩ := htoks
    rw [read.eq_2 _ (by intro _ _ h; cases h)]
    simp only [expectWord, hb, bind, Except.bind, pure, Except.pure]
  | absent =>
    simp only [List.map_cons, List.map_nil, hkw, Lexeme.ofText_punctuation, List.map_eq_cons_iff,
      List.map_eq_nil_iff] at htoks
    obtain ⟨⟨l₁, o₁⟩, _, rfl, rfl, ⟨l₂, o₂⟩, _, rfl, rfl, rfl⟩ := htoks
    rw [read.eq_1]
    simp only [expectWord, hb, bind, Except.bind, pure, Except.pure]
  | @single _ sym v ha hs =>
    have hop := Lexeme.operator?_ofText hs
    have hvw : Lexeme.ofText v = .word v := Lexeme.ofText_of_isToken (hv v (by simp))
    simp only [List.map_cons, List.map_nil, hkw, hvw, List.map_eq_cons_iff,
      List.map_eq_nil_iff] at htoks
    obtain ⟨⟨l₁, o₁⟩, _, rfl, rfl, ⟨l₂, o₂⟩, _, rfl, rfl, ⟨l₃, o₃⟩, _, rfl, rfl, rfl⟩ := htoks
    rw [read.eq_2 _ (by intro _ _ h; cases h)]
    simp only [expectWord, hop, ha, hb, bind, Except.bind, pure, Except.pure]
  | @set _ sym v vs ha hs =>
    have hop := Lexeme.operator?_ofText hs
    rw [List.map_cons, List.map_cons, hkw] at htoks
    obtain ⟨⟨l₁, o₁⟩, _, rfl, rfl, htail⟩ := List.map_eq_cons_iff.mp htoks
    obtain ⟨⟨l₂, o₂⟩, pre, rfl, rfl, hpre⟩ := List.map_eq_cons_iff.mp htail
    rw [read.eq_2 _ (by intro _ _ h; cases h)]
    simp only [expectWord, hop, ha, bind, Except.bind]
    rw [← List.append_nil pre, valueList_complete hv hpre []]
    simp only [hb, pure, Except.pure]

/-- A text is read as a rule exactly when its trim is not empty and its lexemes are read as
that rule with nothing left over. -/
theorem parse_eq_ok_iff_read {e : String} {r : Rule} :
    Rule.parse e = .ok r ↔ (trim e).toList ≠ [] ∧ read (tokenize (trim e)) = .ok (r, []) := by
  rw [Rule.parse]
  by_cases he : (trim e).toList = []
  · simp [he]
  rw [if_neg (by simpa using he)]
  cases hr : read (tokenize (trim e)) with
  | error => simp
  | ok p =>
    obtain ⟨r', rest⟩ := p
    cases rest <;> simp [he, -trim_toList]

end Rule

/-! ### The grammar -/

/-- **A text read as a rule spells it.** -/
theorem spelled_of_parse {e : String} {r : Rule} (h : Rule.parse e = .ok r) :
    ∃ ts, Spells r.key r.op r.values ts ∧ Spaced ts e := by
  obtain ⟨-, hread⟩ := Rule.parse_eq_ok_iff_read.mp h
  refine ⟨_, Rule.spells_of_read hread (scanned_of_mem_scan 0 _), ?_⟩
  -- the lexemes lie in the trimmed text, and what trimming dropped is blank
  obtain ⟨w, w', hw, hw', he⟩ := eq_blanks_append_trimChars e.toList
  rw [Spaced, tokenize, trim_toList]
  generalize trimChars e.toList = x at he ⊢
  rw [he]
  exact ((gaps_scan 0 x false (by simp)).blanks_append hw).append_blanks hw'

/-- **A text that spells a rule is read as it.** -/
theorem parse_of_spelled {e : String} {r : Rule} {ts : List String}
    (hsp : Spells r.key r.op r.values ts) (he : Spaced ts e) : Rule.parse e = .ok r := by
  obtain ⟨hk, -, hv⟩ := r.wellFormed
  obtain ⟨w, w', hw, hw', hsplit⟩ := eq_blanks_append_trimChars e.toList
  generalize hx : trimChars e.toList = x at hsplit
  -- the lexemes of the text are those of its trim, at other offsets
  have htext : (scan (byteLength w) x).map (·.lexeme.text) = ts := by
    have h := scan_of_gaps he (hsp.isPiece hk hv) (hsp.unmerged hk hv) 0
    rwa [hsplit, scan_append_blanks _ _ hw', scan_blanks_append 0 hw, Nat.zero_add] at h
  have hlex : (tokenize (trim e)).map (·.lexeme) = ts.map Lexeme.ofText := by
    rw [tokenize, trim_toList, hx, map_lexeme_scan 0 (byteLength w)]
    exact map_lexeme_of_map_text (scanned_of_mem_scan _ _) htext
  have hne : (trim e).toList ≠ [] := by
    intro hnil
    rw [trim_toList, hx] at hnil
    rw [hnil, scan_nil] at htext
    exact hsp.ne_nil htext.symm
  exact Rule.parse_eq_ok_iff_read.mpr
    ⟨hne, Rule.read_of_spells hsp hk hv (Rule.new_self r) hlex⟩

/-- **A text is read as a rule exactly when it spells it**: when it is, up to runs of blanks
around and between its pieces, `k`, `! k`, `k sym v` or `k sym ( v₁ , … , vₘ )` for the rule's
key, operator and values, with a blank between any two words. -/
theorem Rule.parse_eq_ok_iff_spelled (e : String) (r : Rule) :
    Rule.parse e = .ok r ↔ ∃ ts, Spells r.key r.op r.values ts ∧ Spaced ts e :=
  ⟨spelled_of_parse, fun ⟨_, hsp, he⟩ ↦ parse_of_spelled hsp he⟩

end LabelQuery
