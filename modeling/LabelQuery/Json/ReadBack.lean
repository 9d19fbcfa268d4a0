import Mathlib.Data.List.Forall2
import LabelQuery.Json.ReaderLaws
import LabelQuery.Json.Value
import LabelQuery.Text.Utf8Laws
/-!
# Reading back what was written

Every document `JsonValue.write` produces is read back by the readers of the matching shape:
a string as the string, an array item by item, an object member by member.

A reader **reads exactly** some bytes and returns a value (`JsonReader.Reads`) when, from every
cursor whose bytes still to read are those bytes followed by a rest that it allows, it succeeds
with that value and stops right after them. The rest matters only where a reader looks past what
it reads: the loop over the members of an object stops at the `}` it finds and leaves it, so it
allows only a rest that starts with `}`. Readers in sequence read their bytes one after the
other (`Reads.bind`), and each reader of `Json.Reader` gets one lemma that says what it reads.

Strings are read character by character: the bytes `escapeChar` writes for a character are
read as the character's own UTF-8 bytes (`stringBody_escapeChar`), and lossy decoding of those
gives the text back. The loops take as fuel the number of bytes left, and every round reads at
least a byte, so the fuel suffices.

## Main statements

* `JsonReader.Reads.bind`: the rule for sequencing readers.
* `JsonReader.reads_string`: a string reads back.
* `JsonReader.reads_members`, `JsonReader.reads_items`: the loops over an object and an array.
* `JsonReader.document_of_reads`: a reader that reads a whole written document returns its value.
-/

namespace LabelQuery

open Text

/-! ### The bytes of written text -/

namespace Text

@[simp] theorem encodeUtf8_append (a b : String) :
    encodeUtf8 (a ++ b) = encodeUtf8 a ++ encodeUtf8 b := by
  simp [encodeUtf8]

@[simp] theorem encodeUtf8_ofList (cs : List Char) :
    encodeUtf8 (String.ofList cs) = cs.flatMap String.utf8EncodeChar := by
  simp [encodeUtf8]

@[simp] theorem encodeUtf8_comma : encodeUtf8 "," = [0x2C] := rfl

@[simp] theorem encodeUtf8_colon : encodeUtf8 ":" = [0x3A] := rfl

@[simp] theorem encodeUtf8_openBrace : encodeUtf8 "\x7b" = [0x7B] := rfl

@[simp] theorem encodeUtf8_closeBrace : encodeUtf8 "\x7d" = [0x7D] := rfl

@[simp] theorem encodeUtf8_openBracket : encodeUtf8 "[" = [0x5B] := rfl

@[simp] theorem encodeUtf8_closeBracket : encodeUtf8 "]" = [0x5D] := rfl

/-- The bytes of a character from U+0080 on are all at least `0x80`. -/
theorem le_of_mem_utf8EncodeChar {c : Char} (h : 0x80 ≤ c.toNat) :
    ∀ b ∈ String.utf8EncodeChar c, 0x80 ≤ b.toNat := by
  simp only [String.utf8EncodeChar, Char.toNat_val]
  rw [if_neg (by omega)]
  split
  · simp
    omega
  split
  · simp
    omega
  · simp
    omega

end Text

namespace JsonReader

/-! ### Reading exactly some bytes -/

/-- The reader **reads exactly** the bytes `bs` and returns `a`: from any cursor whose bytes
still to read are `bs` followed by a rest with `F`, it succeeds with `a` and stops right after
`bs`. -/
def Reads {α : Type} (r : JsonReader α) (bs : List UInt8) (a : α) (F : List UInt8 → Prop) :
    Prop :=
  ∀ done rest, F rest → r.run.run ⟨done, bs ++ rest⟩ = (.ok a, ⟨bs.reverse ++ done, rest⟩)

section Rules

variable {α β : Type} {r : JsonReader α} {bs cs : List UInt8} {a : α} {F G : List UInt8 → Prop}

theorem Reads.mono (h : r.Reads bs a F) (hGF : ∀ rest, G rest → F rest) : r.Reads bs a G :=
  fun done rest hG ↦ h done rest (hGF rest hG)

theorem reads_pure : (pure a : JsonReader α).Reads [] a F :=
  fun _ _ _ ↦ rfl

/-- **Sequencing**: the first reader reads its bytes, and the rest it sees is the second
reader's bytes followed by what the second reader allows. -/
theorem Reads.bind {f : α → JsonReader β} {b : β} (hr : r.Reads bs a F)
    (hf : (f a).Reads cs b G) (hGF : ∀ rest, G rest → F (cs ++ rest)) :
    (r >>= f).Reads (bs ++ cs) b G := by
  intro done rest hG
  rw [ExceptT.run_bind, StateT.run_bind, List.append_assoc, hr done _ (hGF rest hG),
    List.reverse_append, List.append_assoc]
  exact hf _ rest hG

/-- Sequencing with a second reader that reads nothing. -/
theorem Reads.bind_nil {f : α → JsonReader β} {b : β} (hr : r.Reads bs a F)
    (hf : (f a).Reads [] b G) (hGF : ∀ rest, G rest → F rest) : (r >>= f).Reads bs b G := by
  have h := hr.bind hf hGF
  rwa [List.append_nil] at h

/-- Running a reader after one that reads its bytes. -/
theorem Reads.run_bind {f : α → JsonReader β} (hr : r.Reads bs a F) (done : List UInt8)
    {rest : List UInt8} (hF : F rest) :
    (r >>= f).run.run ⟨done, bs ++ rest⟩ = (f a).run.run ⟨bs.reverse ++ done, rest⟩ := by
  rw [ExceptT.run_bind, StateT.run_bind, hr done rest hF]
  rfl

theorem Reads.map {f : α → β} (hr : r.Reads bs a F) : (f <$> r).Reads bs (f a) F := by
  intro done rest hF
  rw [ExceptT.run_map, StateT.run_map, hr done rest hF]
  rfl

/-- A reader that runs with its errors placed reads what it reads. -/
theorem Reads.placing (hr : r.Reads bs a F) : (placing r).Reads bs a F := by
  intro done rest hF
  rw [JsonReader.placing, ExceptT.run_tryCatch, StateT.run_bind, hr done rest hF]
  rfl

/-- An attempt that succeeds returns the success. -/
theorem Reads.attempt (hr : r.Reads bs a F) : (attempt r).Reads bs (.ok a) F := by
  intro done rest hF
  rw [JsonReader.attempt, ExceptT.run_tryCatch, StateT.run_bind, ExceptT.run_map,
    StateT.run_map, hr done rest hF]
  rfl

theorem reads_scan {f : Cursor → Except JsonError (α × Cursor)}
    (h : ∀ done rest, F rest → f ⟨done, bs ++ rest⟩ = .ok (a, ⟨bs.reverse ++ done, rest⟩)) :
    (scan f).Reads bs a F := by
  intro done rest hF
  have hget : (ExceptT.run (get : JsonReader Cursor)).run ⟨done, bs ++ rest⟩ =
      pure (.ok ⟨done, bs ++ rest⟩, ⟨done, bs ++ rest⟩) := rfl
  rw [scan, ExceptT.run_bind, StateT.run_bind, hget, pure_bind]
  simp only [h done rest hF]
  rfl

/-- A loop that takes the bytes left as fuel gets more than the bytes it reads. -/
theorem Reads.fuel_bind {f : Nat → JsonReader α} (hf : ∀ n, bs.length < n → (f n).Reads bs a F) :
    (fuel >>= f).Reads bs a F := by
  intro done rest hF
  rw [ExceptT.run_bind, StateT.run_bind]
  exact hf _ (by simp only [List.length_append]; omega) done rest hF

theorem reads_eat {b : UInt8} : eat.Reads [b] () F :=
  fun _ _ _ ↦ rfl

theorem Reads.eat_bind {f : Unit → JsonReader α} {b : UInt8} (hf : (f ()).Reads cs a F) :
    (eat >>= f).Reads (b :: cs) a F :=
  (reads_eat (F := fun _ ↦ True)).bind hf fun _ _ ↦ trivial

/-- Looking at a byte that is no blank reads nothing. -/
theorem reads_peekBlank {b : UInt8} (hb : Cursor.isBlankByte b = false) :
    peekBlank.Reads [] (some b) fun rest ↦ rest.head? = some b := by
  intro done rest hrest
  obtain ⟨rest', rfl⟩ := List.head?_eq_some_iff.mp hrest
  show (Except.ok (Cursor.skipBlanksFrom done (b :: rest')).peek?,
    Cursor.skipBlanksFrom done (b :: rest')) = _
  rw [Cursor.skipBlanksFrom, if_neg (by simp [hb])]
  rfl

theorem reads_peekBlank_end : peekBlank.Reads [] none fun rest ↦ rest = [] := by
  rintro done _ rfl
  rfl

/-- A reader that looks at the next byte and goes on by it. -/
theorem Reads.peek_bind {f : Option UInt8 → JsonReader α} {b : UInt8}
    (hb : Cursor.isBlankByte b = false) (hf : (f (some b)).Reads (b :: cs) a F) :
    (peekBlank >>= f).Reads (b :: cs) a F :=
  (reads_peekBlank hb).bind hf fun _ _ ↦ rfl

/-- The contents of a bracketed value and then its closing byte: both attempts succeed, and
the contents' value is returned. -/
theorem Reads.firstOf_close {close : JsonReader Unit} {b : UInt8}
    (hr : r.Reads bs a fun rest ↦ rest.head? = some b) (hclose : close.Reads [b] () F) :
    (JsonReader.attempt r >>= fun got ↦
      JsonReader.attempt close >>= fun closed ↦ firstOf got closed).Reads (bs ++ [b]) a F :=
  (Reads.attempt hr).bind ((Reads.attempt hclose).bind_nil reads_pure fun _ h ↦ h) fun _ _ ↦ rfl

end Rules

/-! ### Punctuation -/

section Punctuation

variable {α : Type} {r : JsonReader α} {bs : List UInt8} {a : α} {F : List UInt8 → Prop}

theorem reads_colon : colon.Reads [0x3A] () F :=
  Reads.peek_bind rfl reads_eat

theorem Reads.value (hr : r.Reads bs a F) : (value r).Reads (0x3A :: bs) a F :=
  (reads_colon (F := fun _ ↦ True)).bind hr fun _ _ ↦ trivial

theorem reads_closeObject : closeObject.Reads [0x7D] () F :=
  Reads.peek_bind rfl reads_eat

theorem reads_closeArray : closeArray.Reads [0x5D] () F :=
  Reads.peek_bind rfl reads_eat

/-- Only blanks, here none, follow the value. -/
theorem reads_finish : finish.Reads [] () fun rest ↦ rest = [] :=
  reads_peekBlank_end.bind reads_pure fun _ h ↦ h

end Punctuation

end JsonReader

/-! ### Strings -/

namespace Cursor

/-- Bytes that stand for themselves inside a string are read one by one. -/
theorem stringBody_plain (more : List UInt8) {bs : List UInt8}
    (h : ∀ b ∈ bs, 0x20 ≤ b.toNat ∧ b ≠ 0x22 ∧ b ≠ 0x5C) (done acc : List UInt8) :
    stringBody done acc (bs ++ more) =
      stringBody (bs.reverse ++ done) (bs.reverse ++ acc) more := by
  induction bs generalizing done acc with
  | nil => rfl
  | cons b bs ih =>
    obtain ⟨hlo, hq, hbs⟩ := h b List.mem_cons_self
    have hctl : ¬ b < 32 := by
      rw [UInt8.lt_iff_toNat_lt]
      simp only [UInt8.reduceToNat]
      omega
    rw [List.cons_append, stringBody.eq_7 done acc b _ hq (fun _ _ _ _ _ h _ ↦ hbs h)
      (fun _ h _ ↦ hbs h) (fun _ _ h _ ↦ hbs h) (fun h _ ↦ hbs h), if_neg hctl,
      ih fun b' hb' ↦ h b' (List.mem_cons_of_mem _ hb')]
    simp

/-- Each hexadecimal digit as written is one byte, read as its value. -/
theorem hexDigit_bytes : ∀ k : Fin 16,
    (String.utf8EncodeChar (JsonValue.hexDigit k)).map hexDigitValue? = [some k.val] := by
  decide

theorem exists_hexDigit_byte {k : Nat} (hk : k < 16) :
    ∃ u, String.utf8EncodeChar (JsonValue.hexDigit k) = [u] ∧ hexDigitValue? u = some k := by
  obtain ⟨u, hu, hv⟩ := List.map_eq_singleton_iff.mp (hexDigit_bytes ⟨k, hk⟩)
  exact ⟨u, hu, hv⟩

/-- A character that `escapeChar` writes as itself has bytes that stand for themselves. -/
theorem plain_of_mem_utf8EncodeChar {c : Char} (h20 : 0x20 ≤ c.toNat) (hq : c ≠ '"')
    (hs : c ≠ '\\') : ∀ b ∈ String.utf8EncodeChar c, 0x20 ≤ b.toNat ∧ b ≠ 0x22 ∧ b ≠ 0x5C := by
  by_cases hascii : c.toNat < 0x80
  · -- one byte, the code point itself
    have hbytes : String.utf8EncodeChar c = [UInt8.ofNat c.toNat] := by
      simp [String.utf8EncodeChar, show c.toNat ≤ 127 by omega]
    have hval : (UInt8.ofNat c.toNat).toNat = c.toNat := by
      simp only [UInt8.toNat_ofNat', Nat.reducePow]
      omega
    rw [hbytes]
    intro b hb
    rw [List.mem_singleton.mp hb]
    refine ⟨by omega, fun h ↦ hq ?_, fun h ↦ hs ?_⟩
    · have := congrArg UInt8.toNat h
      rw [hval] at this
      exact Char.toNat_inj.mp this
    · have := congrArg UInt8.toNat h
      rw [hval] at this
      exact Char.toNat_inj.mp this
  · -- several bytes, none below `0x80`
    intro b hb
    have h80 := le_of_mem_utf8EncodeChar (by omega) b hb
    refine ⟨by omega, fun h ↦ ?_, fun h ↦ ?_⟩ <;> (rw [h] at h80; simp at h80)

/-- **One written character reads back**: the bytes `escapeChar` writes for a character are read
as the character's own bytes. -/
theorem stringBody_escapeChar (c : Char) (more done acc : List UInt8) :
    stringBody done acc ((JsonValue.escapeChar c).flatMap String.utf8EncodeChar ++ more) =
      stringBody (((JsonValue.escapeChar c).flatMap String.utf8EncodeChar).reverse ++ done)
        ((String.utf8EncodeChar c).reverse ++ acc) more := by
  unfold JsonValue.escapeChar
  -- the characters with an escape of their own
  by_cases h1 : c = '"'
  · subst h1
    rfl
  rw [if_neg h1]
  by_cases h2 : c = '\\'
  · subst h2
    rfl
  rw [if_neg h2]
  by_cases h3 : c = '\x08'
  · subst h3
    rfl
  rw [if_neg h3]
  by_cases h4 : c = '\x0c'
  · subst h4
    rfl
  rw [if_neg h4]
  by_cases h5 : c = '\n'
  · subst h5
    rfl
  rw [if_neg h5]
  by_cases h6 : c = '\r'
  · subst h6
    rfl
  rw [if_neg h6]
  by_cases h7 : c = '\t'
  · subst h7
    rfl
  rw [if_neg h7]
  by_cases hctl : c.toNat < 0x20
  · -- other control characters are written as `\u00` and two hexadecimal digits
    rw [if_pos hctl]
    obtain ⟨u₁, hu₁, hv₁⟩ := exists_hexDigit_byte (k := c.toNat / 16) (by omega)
    obtain ⟨u₂, hu₂, hv₂⟩ := exists_hexDigit_byte (k := c.toNat % 16) (by omega)
    have hbytes : (['\\', 'u', '0', '0', JsonValue.hexDigit (c.toNat / 16),
        JsonValue.hexDigit (c.toNat % 16)].flatMap String.utf8EncodeChar) =
        [0x5C, 0x75, 0x30, 0x30, u₁, u₂] := by
      simp only [List.flatMap_cons, List.flatMap_nil, hu₁, hu₂]
      rfl
    have hhex : hex4Value? 0x30 0x30 u₁ u₂ = some c.toNat := by
      have h0 : hexDigitValue? 0x30 = some 0 := rfl
      simp only [hex4Value?, h0, hv₁, hv₂]
      show some (((0 * 16 + 0) * 16 + c.toNat / 16) * 16 + c.toNat % 16) = some c.toNat
      congr 1
      omega
    have htrail : isTrailingSurrogate c.toNat = false := by
      simp [isTrailingSurrogate]
      omega
    have hlead : (!isLeadingSurrogate c.toNat) = true := by
      simp [isLeadingSurrogate]
      omega
    rw [hbytes, List.cons_append, List.cons_append, List.cons_append, List.cons_append,
      List.cons_append, List.singleton_append, stringBody.eq_3, hhex]
    simp only [htrail, hlead, Bool.false_eq_true, if_false, if_true, utf8Bytes, Char.ofNat_toNat]
    simp
  · -- every other character stands for itself
    rw [if_neg hctl, List.flatMap_singleton]
    exact stringBody_plain more (plain_of_mem_utf8EncodeChar (by omega) h1 h2) done acc

/-- **A written string reads back**, up to its closing quote, as the bytes of its characters. -/
theorem stringBody_escaped (more : List UInt8) (cs : List Char) (done acc : List UInt8) :
    stringBody done acc
        ((cs.flatMap JsonValue.escapeChar).flatMap String.utf8EncodeChar ++ 0x22 :: more) =
      .ok (acc.reverse ++ cs.flatMap String.utf8EncodeChar,
        ⟨0x22 :: ((cs.flatMap JsonValue.escapeChar).flatMap String.utf8EncodeChar).reverse ++ done,
          more⟩) := by
  induction cs generalizing done acc with
  | nil => simp [stringBody]
  | cons c cs ih =>
    rw [List.flatMap_cons, List.flatMap_append, List.append_assoc, stringBody_escapeChar, ih]
    simp

end Cursor

theorem encodeUtf8_quoteString (s : String) :
    encodeUtf8 (JsonValue.quoteString s) =
      0x22 :: ((s.toList.flatMap JsonValue.escapeChar).flatMap String.utf8EncodeChar ++
        [0x22]) := by
  have hq : encodeUtf8 "\"" = [0x22] := rfl
  simp [JsonValue.quoteString, hq]

/-- An array is written as its items between brackets. -/
theorem encodeUtf8_write_array (items : List JsonValue) :
    encodeUtf8 (JsonValue.array items).write =
      0x5B :: (encodeUtf8 (JsonValue.writeItems items) ++ [0x5D]) := by
  simp [JsonValue.write]

/-- An object is written as its members between braces. -/
theorem encodeUtf8_write_object (fields : List (String × JsonValue)) :
    encodeUtf8 (JsonValue.object fields).write =
      0x7B :: (encodeUtf8 (JsonValue.writeFields fields) ++ [0x7D]) := by
  simp [JsonValue.write]

namespace JsonReader

section Strings

variable {F : List UInt8 → Prop}

/-- The text of a string after its opening quote reads back. -/
theorem reads_stringBody (s : String) :
    (scan Cursor.readStringBody).Reads
      ((s.toList.flatMap JsonValue.escapeChar).flatMap String.utf8EncodeChar ++ [0x22]) s F := by
  refine reads_scan fun done rest _ ↦ ?_
  have hs := stringOfUtf8Lossy_encodeUtf8 s
  rw [encodeUtf8] at hs
  rw [Cursor.readStringBody, List.append_assoc, List.singleton_append, Cursor.stringBody_escaped]
  simp only [Except.map, List.reverse_nil, List.nil_append, hs]
  simp

/-- **A string reads back.** -/
theorem reads_string (s : String) : string.Reads (encodeUtf8 (JsonValue.quoteString s)) s F := by
  rw [encodeUtf8_quoteString]
  exact Reads.placing (Reads.peek_bind rfl (Reads.eat_bind (reads_stringBody s)))

/-- The key of the first member of an object. -/
theorem reads_nextKey_first (k : String) :
    (nextKey true).Reads (encodeUtf8 (JsonValue.quoteString k)) (some k) F := by
  rw [encodeUtf8_quoteString]
  exact Reads.peek_bind rfl ((reads_pure (F := fun _ ↦ True)).bind
    (Reads.eat_bind (reads_stringBody k).map) fun _ _ ↦ trivial)

/-- The key of a later member, after its comma. -/
theorem reads_nextKey_after (k : String) :
    (nextKey false).Reads (0x2C :: encodeUtf8 (JsonValue.quoteString k)) (some k) F := by
  rw [encodeUtf8_quoteString]
  exact Reads.peek_bind rfl (Reads.eat_bind (Reads.peek_bind rfl
    (Reads.eat_bind (reads_stringBody k).map)))

/-- At the closing brace there is no key, and the brace is left. -/
theorem reads_nextKey_close (first : Bool) :
    (nextKey first).Reads [] none fun rest ↦ rest.head? = some 0x7D :=
  (reads_peekBlank rfl).bind reads_pure fun _ h ↦ h

end Strings

/-! ### Objects -/

/-- The text of a member of an object: its key, a colon and its value. -/
def fieldText (f : String × JsonValue) : String :=
  JsonValue.quoteString f.1 ++ ":" ++ f.2.write

/-- The members of an object are written one after another, with commas between. -/
theorem encodeUtf8_writeFields_cons (f : String × JsonValue) (rest : List (String × JsonValue)) :
    encodeUtf8 (JsonValue.writeFields (f :: rest)) =
      encodeUtf8 (fieldText f) ++ rest.flatMap fun g ↦ 0x2C :: encodeUtf8 (fieldText g) := by
  induction rest generalizing f with
  | nil => simp [JsonValue.writeFields, fieldText]
  | cons g rest ih =>
    obtain ⟨k, v⟩ := f
    rw [JsonValue.writeFields.eq_3 _ _ _ (List.cons_ne_nil _ _), encodeUtf8_append, ih]
    simp [fieldText]

section Member

variable {α β : Type} {r : JsonReader α} {a : α} {F : List UInt8 → Prop} {v : JsonValue}
  {g : α → β}

/-- A member's value, read after its colon and stored in the state. -/
theorem Reads.stored (hr : r.Reads (encodeUtf8 v.write) a fun _ ↦ True) :
    (JsonReader.value r >>= fun a ↦ pure (g a)).Reads (encodeUtf8 (":" ++ v.write)) (g a) F := by
  rw [encodeUtf8_append, encodeUtf8_colon, List.singleton_append]
  exact (Reads.value hr).bind_nil reads_pure fun _ _ ↦ trivial

/-- **A member read for the first time.** A member's reader refuses a member it has read
before; one it has not read has its value read after the colon and stored in the state. -/
theorem Reads.fresh_member {c : Bool} {dup : JsonReader β} (hc : c = false)
    (hr : r.Reads (encodeUtf8 v.write) a fun _ ↦ True) :
    (if c = true then dup else JsonReader.value r >>= fun a ↦ pure (g a)).Reads
      (encodeUtf8 (":" ++ v.write)) (g a) F := by
  rw [hc, if_neg Bool.false_ne_true]
  exact hr.stored

end Member

/-- `onKey` reads the members `fields`, each after its key, taking the state from `st` to
`st'`. -/
def MembersRead {σ : Type} (onKey : String → σ → JsonReader σ) :
    List (String × JsonValue) → σ → σ → Prop
  | [], st, st' => st' = st
  | f :: rest, st, st' => ∃ st₁,
    (onKey f.1 st).Reads (encodeUtf8 (":" ++ f.2.write)) st₁ (fun _ ↦ True) ∧
      MembersRead onKey rest st₁ st'

section Members

variable {σ : Type} {onKey : String → σ → JsonReader σ}

/-- The members after the first, each after its comma, up to the closing brace. -/
theorem reads_members_after :
    ∀ {fields : List (String × JsonValue)} {st st' : σ} {n : Nat},
      MembersRead onKey fields st st' →
      (fields.flatMap fun g ↦ 0x2C :: encodeUtf8 (fieldText g)).length < n →
      (members onKey n false st).Reads (fields.flatMap fun g ↦ 0x2C :: encodeUtf8 (fieldText g))
        st' fun rest ↦ rest.head? = some 0x7D
  | _, _, _, 0, _, hn => absurd hn (Nat.not_lt_zero _)
  | [], st, st', n + 1, hm, _ => by
    subst hm
    exact (reads_nextKey_close false).bind reads_pure fun _ h ↦ h
  | g :: rest, st, st', n + 1, ⟨st₁, hg, hm⟩, hn => by
    have hrest : (rest.flatMap fun g ↦ 0x2C :: encodeUtf8 (fieldText g)).length < n := by
      simp only [List.flatMap_cons, List.length_append, List.length_cons] at hn
      omega
    have hbytes : (g :: rest).flatMap (fun g ↦ 0x2C :: encodeUtf8 (fieldText g)) =
        (0x2C :: encodeUtf8 (JsonValue.quoteString g.1)) ++ (encodeUtf8 (":" ++ g.2.write) ++
          rest.flatMap fun g ↦ 0x2C :: encodeUtf8 (fieldText g)) := by
      simp [fieldText]
    rw [hbytes]
    exact (reads_nextKey_after (F := fun _ ↦ True) g.1).bind
      (hg.bind (reads_members_after hm hrest) fun _ _ ↦ trivial) fun _ _ ↦ trivial

/-- **The loop over the members of an object** reads them all, up to the closing brace, which
it leaves. -/
theorem reads_members {fields : List (String × JsonValue)} {st st' : σ} {n : Nat}
    (hm : MembersRead onKey fields st st')
    (hn : (encodeUtf8 (JsonValue.writeFields fields)).length < n) :
    (members onKey n true st).Reads (encodeUtf8 (JsonValue.writeFields fields)) st'
      fun rest ↦ rest.head? = some 0x7D := by
  obtain ⟨n, rfl⟩ : ∃ m, n = m + 1 := ⟨n - 1, by omega⟩
  cases fields with
  | nil =>
    subst hm
    exact (reads_nextKey_close true).bind reads_pure fun _ h ↦ h
  | cons g rest =>
    obtain ⟨st₁, hg, hm⟩ := hm
    rw [encodeUtf8_writeFields_cons] at hn ⊢
    have hrest : (rest.flatMap fun g ↦ 0x2C :: encodeUtf8 (fieldText g)).length < n := by
      have hpos : 0 < (encodeUtf8 (fieldText g)).length := by
        simp [fieldText, encodeUtf8_quoteString]
      simp only [List.length_append] at hn
      omega
    have hbytes : encodeUtf8 (fieldText g) ++
        (rest.flatMap fun g ↦ 0x2C :: encodeUtf8 (fieldText g)) =
        encodeUtf8 (JsonValue.quoteString g.1) ++ (encodeUtf8 (":" ++ g.2.write) ++
          rest.flatMap fun g ↦ 0x2C :: encodeUtf8 (fieldText g)) := by
      simp [fieldText]
    rw [hbytes]
    exact (reads_nextKey_first (F := fun _ ↦ True) g.1).bind
      (hg.bind (reads_members_after hm hrest) fun _ _ ↦ trivial) fun _ _ ↦ trivial

end Members

/-! ### Arrays -/

/-- A written document opens with a quote, a bracket or a brace. -/
theorem encodeUtf8_write_head (v : JsonValue) :
    ∃ b cs, encodeUtf8 v.write = b :: cs ∧ (b = 0x22 ∨ b = 0x5B ∨ b = 0x7B) := by
  cases v with
  | string s => exact ⟨_, _, by rw [JsonValue.write, encodeUtf8_quoteString], .inl rfl⟩
  | array items => exact ⟨_, _, encodeUtf8_write_array items, .inr (.inl rfl)⟩
  | object fields => exact ⟨_, _, encodeUtf8_write_object fields, .inr (.inr rfl)⟩

/-- The items of an array are written one after another, with commas between. -/
theorem encodeUtf8_writeItems_cons (v : JsonValue) (rest : List JsonValue) :
    encodeUtf8 (JsonValue.writeItems (v :: rest)) =
      encodeUtf8 v.write ++ rest.flatMap fun w ↦ 0x2C :: encodeUtf8 w.write := by
  induction rest generalizing v with
  | nil => simp [JsonValue.writeItems]
  | cons w rest ih =>
    rw [JsonValue.writeItems.eq_3 _ _ (List.cons_ne_nil _ _), encodeUtf8_append, ih]
    simp

/-- `r` reads each written item as the value beside it. -/
def ItemsRead {α : Type} (r : JsonReader α) (vs : List JsonValue) (as : List α) : Prop :=
  List.Forall₂ (fun v a ↦ r.Reads (encodeUtf8 v.write) a fun _ ↦ True) vs as

section Items

variable {α : Type} {r : JsonReader α} {F : List UInt8 → Prop}

/-- The first item of an array. -/
theorem reads_nextItem_first {v : JsonValue} {a : α}
    (hr : r.Reads (encodeUtf8 v.write) a fun _ ↦ True) :
    (nextItem true r).Reads (encodeUtf8 v.write) (some a) F := by
  obtain ⟨b, cs, hbytes, hb⟩ := encodeUtf8_write_head v
  rw [hbytes] at hr ⊢
  -- a quote, a bracket or a brace: each is handed to the item's reader
  rcases hb with rfl | rfl | rfl <;>
    exact (Reads.peek_bind rfl ((reads_pure (F := fun _ ↦ True)).bind (hr.map (f := some))
      fun _ _ ↦ trivial)).mono fun _ _ ↦ trivial

/-- A later item of an array, after its comma. -/
theorem reads_nextItem_after {v : JsonValue} {a : α}
    (hr : r.Reads (encodeUtf8 v.write) a fun _ ↦ True) :
    (nextItem false r).Reads (0x2C :: encodeUtf8 v.write) (some a) F := by
  obtain ⟨b, cs, hbytes, hb⟩ := encodeUtf8_write_head v
  rw [hbytes] at hr ⊢
  rcases hb with rfl | rfl | rfl <;>
    exact (Reads.peek_bind rfl (Reads.eat_bind (Reads.peek_bind rfl (hr.map (f := some))))).mono
      fun _ _ ↦ trivial

/-- At the closing bracket there is no item, and the bracket is left. -/
theorem reads_nextItem_close (first : Bool) :
    (nextItem first r).Reads [] none fun rest ↦ rest.head? = some 0x5D :=
  (reads_peekBlank rfl).bind reads_pure fun _ h ↦ h

/-- The items after the first, each after its comma, up to the closing bracket. -/
theorem reads_items_after {vs : List JsonValue} {as : List α} (h : ItemsRead r vs as) :
    ∀ (acc : List α) {n : Nat}, (vs.flatMap fun v ↦ 0x2C :: encodeUtf8 v.write).length < n →
      (items r n false acc).Reads (vs.flatMap fun v ↦ 0x2C :: encodeUtf8 v.write)
        (acc.reverse ++ as) fun rest ↦ rest.head? = some 0x5D := by
  induction h with
  | nil =>
    intro acc n hn
    obtain ⟨n, rfl⟩ : ∃ m, n = m + 1 := ⟨n - 1, by omega⟩
    rw [List.append_nil]
    exact (reads_nextItem_close false).bind reads_pure fun _ h ↦ h
  | @cons v a vs as hva _ ih =>
    intro acc n hn
    obtain ⟨n, rfl⟩ : ∃ m, n = m + 1 := ⟨n - 1, by omega⟩
    have hrest : (vs.flatMap fun v ↦ 0x2C :: encodeUtf8 v.write).length < n := by
      simp only [List.flatMap_cons, List.length_append, List.length_cons] at hn
      omega
    rw [List.flatMap_cons]
    refine (reads_nextItem_after (F := fun _ ↦ True) hva).bind ?_ fun _ _ ↦ trivial
    have hrest := ih (a :: acc) hrest
    rwa [List.reverse_cons, List.append_assoc, List.singleton_append] at hrest

/-- **The loop over the items of an array** reads them all, up to the closing bracket, which it
leaves. -/
theorem reads_items {vs : List JsonValue} {as : List α} (h : ItemsRead r vs as) {n : Nat}
    (hn : (encodeUtf8 (JsonValue.writeItems vs)).length < n) :
    (items r n true []).Reads (encodeUtf8 (JsonValue.writeItems vs)) as
      fun rest ↦ rest.head? = some 0x5D := by
  obtain ⟨n, rfl⟩ : ∃ m, n = m + 1 := ⟨n - 1, by omega⟩
  cases h with
  | nil => exact (reads_nextItem_close true).bind reads_pure fun _ h ↦ h
  | @cons v a vs as hva hrest =>
    rw [encodeUtf8_writeItems_cons] at hn ⊢
    have hpos : 0 < (encodeUtf8 v.write).length := by
      obtain ⟨b, cs, hbytes, -⟩ := encodeUtf8_write_head v
      simp [hbytes]
    simp only [List.length_append] at hn
    exact (reads_nextItem_first (F := fun _ ↦ True) hva).bind
      (reads_items_after hrest [a] (by omega)) fun _ _ ↦ trivial

/-- **An array reads back** as the values its items read as. -/
theorem reads_array {vs : List JsonValue} {as : List α} (h : ItemsRead r vs as) :
    (array r).Reads (encodeUtf8 (JsonValue.array vs).write) as F := by
  rw [encodeUtf8_write_array]
  exact Reads.placing (Reads.peek_bind rfl (Reads.eat_bind
    (Reads.firstOf_close (Reads.fuel_bind fun _ hn ↦ reads_items h hn) reads_closeArray)))

end Items

/-! ### Objects, maps and names -/

section Structured

variable {α : Type} {F : List UInt8 → Prop}

/-- A structure given as an object reads back as what its members read as. -/
theorem Reads.struct_object {name : String} {inOrder byName : JsonReader α}
    {fields : List (String × JsonValue)} {a : α}
    (h : byName.Reads (encodeUtf8 (JsonValue.writeFields fields)) a
      fun rest ↦ rest.head? = some 0x7D) :
    (struct name inOrder byName).Reads (encodeUtf8 (JsonValue.object fields).write) a F := by
  rw [encodeUtf8_write_object]
  exact Reads.placing
    (Reads.peek_bind rfl (Reads.eat_bind (Reads.firstOf_close h reads_closeObject)))

/-- **An object of string values reads back** as its entries, in order. -/
theorem reads_stringMap (es : List (String × String)) :
    stringMap.Reads (encodeUtf8 (JsonValue.object (es.map fun e ↦ (e.1, .string e.2))).write)
      es F := by
  -- each member puts its entry in front of those read, so the loop ends with them reversed
  have hm : ∀ acc : List (String × String), MembersRead
      (fun k acc ↦ do let v ← value string; pure ((k, v) :: acc))
      (es.map fun e ↦ (e.1, .string e.2)) acc (es.reverse ++ acc) := by
    induction es with
    | nil => intro acc; rfl
    | cons e es ih =>
      intro acc
      exact ⟨e :: acc, Reads.stored (reads_string e.2), by simpa using ih (e :: acc)⟩
  rw [encodeUtf8_write_object]
  have hall := hm []
  rw [List.append_nil] at hall
  refine Reads.placing (Reads.peek_bind rfl (Reads.eat_bind
    ((Reads.attempt (Reads.fuel_bind fun _ hn ↦ reads_members hall hn)).bind ?_ fun _ _ ↦ rfl)))
  refine (Reads.attempt reads_closeObject).bind_nil ?_ fun _ _ ↦ trivial
  -- the entries were read last first
  have hrev := (reads_pure (a := es.reverse) (F := F)).map (f := List.reverse)
  rwa [List.reverse_reverse] at hrev

/-- **A name among the names of a variant reads back.** -/
theorem reads_unitVariant {names : List String} {s : String} (h : names.contains s = true) :
    (unitVariant names).Reads (encodeUtf8 (JsonValue.quoteString s)) s F := by
  rw [encodeUtf8_quoteString]
  refine Reads.peek_bind rfl (Reads.placing (Reads.peek_bind rfl (Reads.eat_bind
    ((reads_stringBody s).bind_nil ?_ fun _ _ ↦ trivial))))
  show (if names.contains s = true then pure s else refuse _ : JsonReader String).Reads [] s _
  rw [if_pos h]
  exact reads_pure

end Structured

/-! ### Documents -/

/-- **A reader that reads a whole document** returns its value. -/
theorem document_of_reads {α : Type} {r : JsonReader α} {text : String} {a : α}
    (h : r.Reads (encodeUtf8 text) a fun rest ↦ rest = []) : document r text = .ok a := by
  have hwhole : (r >>= fun a ↦ finish >>= fun _ ↦ pure a).Reads (encodeUtf8 text) a
      fun rest ↦ rest = [] :=
    h.bind_nil (reads_finish.bind_nil reads_pure fun _ h ↦ h) fun _ h ↦ h
  have hrun := hwhole [] [] rfl
  rw [List.append_nil] at hrun
  show ((r >>= fun a ↦ finish >>= fun _ ↦ pure a).run.run ⟨[], encodeUtf8 text⟩).1 = _
  rw [hrun]

/-- A reader that reads a whole document and then refuses its value fails with the refusal. -/
theorem document_bind_refuse {α β : Type} {r : JsonReader α} {f : α → JsonReader β}
    {text : String} {a : α} {p : JsonProblem} (h : r.Reads (encodeUtf8 text) a fun rest ↦ rest = [])
    (hf : f a = refuse p) : document (r >>= f) text = .error ⟨p, none⟩ := by
  have hrun := h.run_bind (f := f) [] rfl
  rw [List.append_nil] at hrun
  show (((r >>= f) >>= fun a ↦ finish >>= fun _ ↦ pure a).run.run ⟨[], encodeUtf8 text⟩).1 = _
  rw [ExceptT.run_bind, StateT.run_bind, hrun, hf]
  rfl

end JsonReader

end LabelQuery
