import Mathlib.Data.List.Forall2
import LabelQuery.Proofs.ExpressionGrammar
import LabelQuery.Selector.Basic
/-!
# Selector text is the texts of its rules joined by commas

`Selector.parseRules` cuts the text at the commas outside parentheses, trims each piece and
reads each piece as a rule. It reads rules `r₁, …, rₙ` exactly when the text is blank and there
are no rules, or `n ≥ 1` and the text is `e₁,e₂,…,eₙ` for texts `eᵢ` that are read as `rᵢ`. So
the cut never falls inside a value list and never joins two rules, and one piece that is not a
rule fails the whole selector.

The cut only counts parentheses. `depthAfter` is the count after a text that the cut passes
without cutting or failing, and `cutFrom_append` says that the cut adds such a text to the
current piece as a whole. The text of a rule is such a text, from depth 0 back to depth 0: its
only parentheses and commas are those of its value list. The other direction needs no depth:
whatever the cut returns is the trims of the pieces between the commas where it cut.

## Main statements

* `Fragment.cutFrom_append`: the cut passes a text that leaves it a depth.
* `Fragment.depthAfter_of_parse`: the text of a rule takes the depth from 0 back to 0.
* `Fragment.cutFrom_sound`, `Fragment.cutFrom_intercalate`: the two directions of the cut.
* `Selector.parseRules_eq_ok_iff`: selector text is read as the rules of its comma-separated
  pieces.
-/

namespace LabelQuery

open Text

/-! ### Reading a list through `Except` -/

theorem mapM_eq_ok_iff {ε α β : Type} {f : α → Except ε β} {xs : List α} {ys : List β} :
    xs.mapM f = .ok ys ↔ List.Forall₂ (fun x y ↦ f x = .ok y) xs ys := by
  induction xs generalizing ys with
  | nil => cases ys <;> simp [pure, Except.pure, List.forall₂_nil_left_iff]
  | cons x xs ih =>
    rw [List.mapM_cons, bind_eq_ok]
    cases ys with
    | nil => simp [bind_eq_ok, pure, Except.pure, List.forall₂_nil_right_iff]
    | cons y ys =>
      simp only [bind_eq_ok, pure_eq_ok, List.forall₂_cons, ← ih]
      constructor
      · rintro ⟨a, ha, as, has, hyy⟩
        obtain ⟨rfl, rfl⟩ := List.cons.inj hyy
        exact ⟨ha, has⟩
      · rintro ⟨ha, has⟩
        exact ⟨y, ha, ys, has, rfl⟩

namespace Fragment

/-! ### Depth of nesting -/

/-- The number of parentheses open once the cut has passed `cs` from depth `d`, or `none` when
it cuts there (at a comma outside parentheses) or fails (at a `)` with none open). -/
def depthAfter : Nat → List Char → Option Nat
  | d, [] => some d
  | d, c :: cs =>
    if c = '(' then depthAfter (d + 1) cs
    else if c = ')' then (if d = 0 then none else depthAfter (d - 1) cs)
    else if c = ',' ∧ d = 0 then none
    else depthAfter d cs

theorem depthAfter_append (d : Nat) (xs ys : List Char) :
    depthAfter d (xs ++ ys) = (depthAfter d xs).bind fun d' ↦ depthAfter d' ys := by
  induction xs generalizing d with
  | nil => rfl
  | cons c xs ih =>
    simp only [List.cons_append, depthAfter]
    split_ifs <;> simp [ih]

/-- A text without parentheses and commas leaves the depth as it is. -/
theorem depthAfter_of_forall {cs : List Char} (h : ∀ c ∈ cs, c ≠ '(' ∧ c ≠ ')' ∧ c ≠ ',')
    (d : Nat) : depthAfter d cs = some d := by
  induction cs with
  | nil => rfl
  | cons c cs ih =>
    obtain ⟨h1, h2, h3⟩ := h c (by simp)
    rw [depthAfter, if_neg h1, if_neg h2, if_neg fun h ↦ h3 h.1]
    exact ih fun c' hc ↦ h c' (by simp [hc])

theorem isBlank_punctuation : isBlank '(' = false ∧ isBlank ')' = false ∧ isBlank ',' = false := by
  decide +kernel

theorem depthAfter_of_blanks {w : List Char} (hw : Blanks w) (d : Nat) : depthAfter d w = some d := by
  refine depthAfter_of_forall (fun c hc ↦ ?_) d
  obtain ⟨h1, h2, h3⟩ := isBlank_punctuation
  refine ⟨?_, ?_, ?_⟩ <;> rintro rfl <;> simp_all [hw _ hc]

theorem depthAfter_of_isToken {t : String} (ht : isToken t = true) (d : Nat) :
    depthAfter d t.toList = some d := by
  refine depthAfter_of_forall (fun c hc ↦ ?_) d
  have hc' := (isToken_eq_true_iff.mp ht).2 c hc
  refine ⟨?_, ?_, ?_⟩ <;> rintro rfl <;> simp [isReserved] at hc'

end Fragment

open Fragment

/-- The blanks of a text do not change the depth: only its pieces do. -/
theorem Gaps.depthAfter_eq {p : Bool} {ts : List String} {cs : List Char} (h : Gaps p ts cs)
    (d : Nat) : depthAfter d cs = depthAfter d (ts.flatMap String.toList) := by
  induction h generalizing d with
  | last hw => exact depthAfter_of_blanks hw d
  | piece hw _ _ ih =>
    simp only [List.flatMap_cons, depthAfter_append, depthAfter_of_blanks hw, Option.bind_some, ih]

/-- The spellings of operators hold no parentheses and no commas. -/
theorem Operator.depthAfter_spelling {op : Operator} {sym : String} (hs : sym ∈ op.spellings)
    (d : Nat) : depthAfter d sym.toList = some d := by
  cases op <;> simp only [spellings, List.mem_cons, List.not_mem_nil, or_false] at hs <;>
    rcases hs with rfl | rfl <;> simp [depthAfter]

/-- The rest of a value list closes the parenthesis that opened it. -/
theorem depthAfter_valueTail {vs : List String} (hv : ∀ v ∈ vs, isToken v = true) :
    depthAfter 1 ((valueTail vs).flatMap String.toList) = some 0 := by
  induction vs with
  | nil => simp [valueTail, depthAfter]
  | cons v vs ih =>
    have hcomma : depthAfter 1 ",".toList = some 1 := by simp [depthAfter]
    simp only [valueTail, List.flatMap_cons, depthAfter_append, hcomma, Option.bind_some,
      depthAfter_of_isToken (hv v (by simp)), ih fun v' hm ↦ hv v' (by simp [hm])]

/-- **A spelling takes the depth from 0 back to 0** without a comma outside parentheses. -/
theorem Spells.depthAfter_eq {k : String} {op : Operator} {vs ts : List String}
    (h : Spells k op vs ts) (hk : isToken k = true) (hv : ∀ v ∈ vs, isToken v = true) :
    depthAfter 0 (ts.flatMap String.toList) = some 0 := by
  have hk' := depthAfter_of_isToken hk
  cases h with
  | present => simpa using hk' 0
  | absent => simp [hk', depthAfter]
  | single _ hs =>
    simp [depthAfter_append, hk', Operator.depthAfter_spelling hs,
      depthAfter_of_isToken (hv _ (List.mem_singleton_self _))]
  | set _ hs =>
    have hv' := depthAfter_of_isToken (hv _ List.mem_cons_self) 1
    simp only [List.flatMap_cons, depthAfter_append, hk', Operator.depthAfter_spelling hs,
      Option.bind_some]
    simp [depthAfter, hv',
      depthAfter_valueTail fun v' hm ↦ hv v' (List.mem_cons_of_mem _ hm)]

namespace Fragment

/-- **The text of a rule takes the depth from 0 back to 0**, so the cut passes it whole. -/
theorem depthAfter_of_parse {e : String} {r : Rule} (h : Rule.parse e = .ok r) :
    depthAfter 0 e.toList = some 0 := by
  obtain ⟨ts, hsp, he⟩ := spelled_of_parse h
  obtain ⟨hk, -, hv⟩ := r.wellFormed
  rw [Gaps.depthAfter_eq he, hsp.depthAfter_eq hk hv]

/-! ### The cut -/

theorem close_eq_ok_iff {start : Nat} {piece : List Char} {f : String} :
    close start piece = .ok f ↔ trimChars piece ≠ [] ∧ String.ofList (trimChars piece) = f := by
  unfold close
  cases trimChars piece <;> simp

/-- **The cut passes a text that leaves it a depth**, adding the text to the current piece. -/
theorem cutFrom_append {d d' : Nat} {cs : List Char} (h : depthAfter d cs = some d')
    (start offset : Nat) (piece rest : List Char) :
    cutFrom d start offset piece (cs ++ rest) =
      cutFrom d' start (offset + byteLength cs) (piece ++ cs) rest := by
  induction cs generalizing d offset piece with
  | nil =>
    cases h
    simp
  | cons c cs ih =>
    have hpiece : piece ++ [c] ++ cs = piece ++ c :: cs := by simp
    rw [depthAfter] at h
    rw [List.cons_append, cutFrom, byteLength]
    by_cases h1 : c = '('
    · subst h1
      rw [if_pos rfl] at h ⊢
      rw [ih h, hpiece, Nat.add_assoc]
      rfl
    rw [if_neg h1] at h ⊢
    by_cases h2 : c = ')'
    · subst h2
      rw [if_pos rfl] at h ⊢
      by_cases hd : d = 0
      · rw [if_pos hd] at h
        cases h
      rw [if_neg hd] at h ⊢
      rw [ih h, hpiece, Nat.add_assoc]
      rfl
    rw [if_neg h2] at h ⊢
    by_cases h3 : c = ',' ∧ d = 0
    · rw [if_pos h3] at h
      cases h
    rw [if_neg h3] at h ⊢
    rw [ih h, hpiece, Nat.add_assoc]

/-- **What the cut returns** is the trims of the pieces between the commas where it cut; the
first piece starts with what the current piece holds. -/
theorem cutFrom_sound {depth start offset : Nat} {piece cs : List Char} {fs : List String}
    (h : cutFrom depth start offset piece cs = .ok fs) :
    ∃ raws, raws ≠ [] ∧ piece ++ cs = [','].intercalate raws ∧
      fs = raws.map fun raw ↦ String.ofList (trimChars raw) := by
  induction depth, start, offset, piece, cs using cutFrom.induct generalizing fs with
  | case1 depth start offset piece hd =>
    rw [cutFrom, if_pos hd] at h
    cases h
  | case2 depth start offset piece hd =>
    rw [cutFrom, if_neg hd] at h
    obtain ⟨f, hf, h⟩ := bind_eq_ok.mp h
    obtain ⟨-, rfl⟩ := close_eq_ok_iff.mp hf
    exact ⟨[piece], by simp, by simp, (pure_eq_ok.mp h).symm⟩
  | case3 depth start offset piece cs ih =>
    rw [cutFrom, if_pos rfl] at h
    simpa using ih h
  | case4 start offset piece cs hne =>
    rw [cutFrom, if_neg hne, if_pos rfl, if_pos rfl] at h
    cases h
  | case5 depth start offset piece cs hd hne ih =>
    rw [cutFrom, if_neg hne, if_pos rfl, if_neg hd] at h
    simpa using ih h
  | case6 depth start offset piece c cs h1 h2 h3 ih =>
    rw [cutFrom, if_neg h1, if_neg h2, if_pos h3] at h
    obtain ⟨f, hf, h⟩ := bind_eq_ok.mp h
    obtain ⟨fs', hfs', h⟩ := bind_eq_ok.mp h
    obtain ⟨-, rfl⟩ := close_eq_ok_iff.mp hf
    obtain ⟨raws, hne, hcs, rfl⟩ := ih hfs'
    refine ⟨piece :: raws, by simp, ?_, (pure_eq_ok.mp h).symm⟩
    rw [h3.1, List.intercalate_cons_of_ne_nil hne, ← hcs, List.nil_append, List.append_assoc]
    rfl
  | case7 depth start offset piece c cs h1 h2 h3 ih =>
    rw [cutFrom, if_neg h1, if_neg h2, if_neg h3] at h
    simpa using ih h

/-- **The cut of texts joined by commas** that each take the depth from 0 back to 0 and are not
blank returns their trims. -/
theorem cutFrom_intercalate {es : List (List Char)} (hne : es ≠ [])
    (hd : ∀ e ∈ es, depthAfter 0 e = some 0) (ht : ∀ e ∈ es, trimChars e ≠ [])
    (start offset : Nat) :
    cutFrom 0 start offset [] ([','].intercalate es) =
      .ok (es.map fun e ↦ String.ofList (trimChars e)) := by
  induction es generalizing start offset with
  | nil => exact absurd rfl hne
  | cons e es ih =>
    have hclose : close start e = .ok (String.ofList (trimChars e)) :=
      close_eq_ok_iff.mpr ⟨ht e (by simp), rfl⟩
    cases es with
    | nil =>
      rw [List.intercalate_singleton, ← List.append_nil e, cutFrom_append (hd e (by simp)),
        List.nil_append, cutFrom, if_neg (by decide), List.append_nil, hclose]
      rfl
    | cons e' es =>
      rw [List.intercalate_cons_of_ne_nil (by simp), List.append_assoc,
        cutFrom_append (hd e (by simp)), List.nil_append, List.singleton_append, cutFrom,
        if_neg (by decide), if_neg (by decide), if_pos ⟨rfl, rfl⟩, hclose,
        ih (by simp) (fun e hm ↦ hd e (by simp [hm])) (fun e hm ↦ ht e (by simp [hm]))]
      rfl

end Fragment

/-! ### Reading selector text -/

/-- Reading a text as a rule only looks at its trim. -/
theorem Rule.parse_trim_eq_ok_iff {e : String} {r : Rule} :
    Rule.parse (trim e) = .ok r ↔ Rule.parse e = .ok r := by
  have htt : trim (trim e) = trim e := by
    rw [trim, trim_toList, trimChars_trimChars]
    rfl
  rw [Rule.parse_eq_ok_iff_read, Rule.parse_eq_ok_iff_read, htt]

theorem trim_ofList (cs : List Char) : trim (String.ofList cs) = String.ofList (trimChars cs) := by
  rw [trim, String.toList_ofList]

/-- The first of texts joined by a separator is a prefix of the whole. -/
theorem prefix_intercalate (sep e : List Char) (es : List (List Char)) :
    e <+: sep.intercalate (e :: es) := by
  cases es with
  | nil => exact ⟨[], by rw [List.append_nil, List.intercalate_singleton]⟩
  | cons e' es =>
    rw [List.intercalate_cons_cons, List.append_assoc]
    exact List.prefix_append _ _

namespace Selector

/-- **What selector text that is not blank is read as**: some rules, read from the pieces between
the commas where the text was cut. -/
theorem parseRules_sound {s : String} {rs : List Rule} (h : parseRules s = .ok rs)
    (hs : trimChars s.toList ≠ []) :
    rs ≠ [] ∧ ∃ es : List String, s = ",".intercalate es ∧
      List.Forall₂ (fun e r ↦ Rule.parse e = .ok r) es rs := by
  rw [parseRules, if_neg (by simpa using hs)] at h
  cases hcut : Fragment.cut s with
  | error e =>
    rw [hcut] at h
    cases h
  | ok fs =>
    rw [hcut] at h
    obtain ⟨raws, hne, hsr, rfl⟩ := cutFrom_sound hcut
    have hall := List.forall₂_map_left_iff.mp (mapM_eq_ok_iff.mp h)
    refine ⟨?_, raws.map String.ofList, ?_, ?_⟩
    · intro hrs
      subst hrs
      exact hne (List.forall₂_nil_right_iff.mp hall)
    · rw [← String.toList_inj, String.toList_intercalate, List.map_map]
      simpa [Function.comp_def] using hsr
    · rw [List.forall₂_map_left_iff]
      exact hall.imp fun raw r h ↦ by rwa [← trim_ofList, Rule.parse_trim_eq_ok_iff] at h

/-- **Texts of rules joined by commas are read as the rules.** -/
theorem parseRules_intercalate {es : List String} {rs : List Rule} (hne : es ≠ [])
    (hall : List.Forall₂ (fun e r ↦ Rule.parse e = .ok r) es rs) :
    parseRules (",".intercalate es) = .ok rs := by
  have hparsed : ∀ e ∈ es, ∃ r, Rule.parse e = .ok r := by
    clear hne
    induction hall with
    | nil => simp
    | cons h _ ih => exact List.forall_mem_cons.mpr ⟨⟨_, h⟩, ih⟩
  have hchars : (",".intercalate es).toList = [','].intercalate (es.map String.toList) := by
    simp
  have hcut : Fragment.cut (",".intercalate es) = .ok (es.map trim) := by
    rw [Fragment.cut, hchars, cutFrom_intercalate (by simpa using hne)]
    · simp [Function.comp_def, trim]
    · simp only [List.mem_map]
      rintro _ ⟨e, he, rfl⟩
      obtain ⟨r, hr⟩ := hparsed e he
      exact depthAfter_of_parse hr
    · simp only [List.mem_map]
      rintro _ ⟨e, he, rfl⟩
      obtain ⟨r, hr⟩ := hparsed e he
      simpa using (Rule.parse_eq_ok_iff_read.mp hr).1
  -- the first rule's text is not blank, so neither is the whole
  have hs : trimChars (",".intercalate es).toList ≠ [] := by
    obtain ⟨e, es', rfl⟩ := List.exists_cons_of_ne_nil hne
    obtain ⟨r, hr⟩ := hparsed e (by simp)
    have he := (Rule.parse_eq_ok_iff_read.mp hr).1
    rw [trim_toList, Ne, trimChars_eq_nil_iff] at he
    rw [Ne, trimChars_eq_nil_iff, hchars, List.map_cons]
    exact fun hblank ↦ he fun c hc ↦ hblank c ((prefix_intercalate _ _ _).subset hc)
  rw [parseRules, if_neg (by simpa using hs), hcut]
  rw [mapM_eq_ok_iff, List.forall₂_map_left_iff]
  exact hall.imp fun e r h ↦ Rule.parse_trim_eq_ok_iff.mpr h

/-- **Selector text is read as the rules of its comma-separated pieces.** It is read as the
rules `rs` exactly when it is blank and there are none, or there are some and the text is
texts joined by commas that are read, in order, as the rules. -/
theorem parseRules_eq_ok_iff (s : String) (rs : List Rule) :
    parseRules s = .ok rs ↔
      (trim s = "" ∧ rs = []) ∨
        (rs ≠ [] ∧ ∃ es : List String, s = ",".intercalate es ∧
          List.Forall₂ (fun e r ↦ Rule.parse e = .ok r) es rs) := by
  have hblank : trim s = "" ↔ trimChars s.toList = [] := by
    rw [← String.toList_eq_nil_iff, trim_toList]
  constructor
  · intro h
    by_cases hs : trimChars s.toList = []
    · rw [parseRules, if_pos (by simp [hs])] at h
      cases h
      exact .inl ⟨hblank.mpr hs, rfl⟩
    · exact .inr (parseRules_sound h hs)
  · rintro (⟨hs, rfl⟩ | ⟨hne, es, rfl, hall⟩)
    · rw [parseRules, if_pos (by simp [hblank.mp hs])]
    · refine parseRules_intercalate (fun hes ↦ hne ?_) hall
      subst hes
      exact List.forall₂_nil_left_iff.mp hall

end Selector

end LabelQuery
