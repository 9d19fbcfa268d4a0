import Mathlib.Data.List.TakeDrop
import LabelQuery.Search.ParamsLaws
import LabelQuery.Text.PercentLaws
/-!
# Query strings read back, and setting a parameter

Writing parameters as a query string and reading the string back gives the same parameters,
whatever their keys and values are: empty, repeated, or holding `&`, `=`, `+`, `%`, `?`, `#` or
NUL.

Encoded keys and values are ASCII and hold none of `&`, `=`, `+` and `?`
(`ne_of_mem_percentEncode`). So the query string does not start with `?`, it cuts at `&` into
exactly the written pairs, each pair cuts at its one `=`, and no `+` is read as a space; each key
and value is then decoded back by `percentDecode_percentEncode`.

## Main statements

* `QueryParams.decodeComponent_percentEncode`: a key or a value reads back.
* `QueryParams.parse_encode`: parameters read back from their query string.
* `QueryParams.encode_reads_back`: both together.
* `QueryParams.set_replaces_all`: what setting a key does to the pairs and what reads back.

Setting a key is the position, overwrite and counting retain of `QueryParams.set`; what it does
to the pairs is read off `set_cases`, whose proof follows the retain's count.
-/

namespace LabelQuery

open Text

namespace QueryParams

/-! ### Encoded text has no separators -/

/-- Encoded bytes are none of `&`, `=`, `+` and `?`. -/
theorem ne_of_mem_encodeBytes {b : UInt8} {bs : List UInt8} (h : b ∈ encodeBytes bs) :
    b.toNat ≠ 0x26 ∧ b.toNat ≠ 0x3D ∧ b.toNat ≠ 0x2B ∧ b.toNat ≠ 0x3F := by
  have hdigits : ∀ n, n < 16 →
      (hexByte n).toNat ≠ 0x26 ∧ (hexByte n).toNat ≠ 0x3D ∧ (hexByte n).toNat ≠ 0x2B ∧
        (hexByte n).toNat ≠ 0x3F := by
    decide
  rcases mem_encodeBytes h with hu | rfl | ⟨n, hn, rfl⟩
  · simp [isUnreserved, UInt8.le_iff_toNat_le, ← UInt8.toNat_inj] at hu
    omega
  · decide
  · exact hdigits n hn

/-- **Encoded text holds none of `&`, `=`, `+` and `?`.** -/
theorem ne_of_mem_percentEncode {s : String} {c : Char} (h : c ∈ (percentEncode s).toList) :
    c ≠ '&' ∧ c ≠ '=' ∧ c ≠ '+' ∧ c ≠ '?' := by
  rw [percentEncode, String.toList_ofList] at h
  obtain ⟨b, hb, rfl⟩ := List.mem_map.mp h
  -- the character has the byte's code point
  have hcode := toNat_ofNat_of_lt (toNat_lt_of_mem_encodeBytes hb)
  have hne : ∀ d : Char, d.toNat ≠ b.toNat → Char.ofNat b.toNat ≠ d := fun d hd heq ↦
    hd (heq ▸ hcode)
  obtain ⟨h₁, h₂, h₃, h₄⟩ := ne_of_mem_encodeBytes hb
  exact ⟨hne '&' (Ne.symm h₁), hne '=' (Ne.symm h₂), hne '+' (Ne.symm h₃),
    hne '?' (Ne.symm h₄)⟩

/-! ### Reading a query string, step by step -/

/-- **A key or a value reads back.** -/
theorem decodeComponent_percentEncode (s : String) :
    decodeComponent (percentEncode s) = s := by
  -- there is no `+` to read as a space
  have hplus : (percentEncode s).toList.map (fun c ↦ if c = '+' then ' ' else c) =
      (percentEncode s).toList :=
    (List.map_congr_left fun c hc ↦ if_neg (ne_of_mem_percentEncode hc).2.2.1).trans
      (List.map_id _)
  rw [decodeComponent, hplus, String.ofList_toList, percentDecode_percentEncode]

/-- The text written for one pair. -/
def pairText (e : String × String) : List Char :=
  (percentEncode e.1).toList ++ '=' :: (percentEncode e.2).toList

/-- A written pair cuts at its `=`. -/
theorem splitPair_pairText (e : String × String) :
    splitPair (pairText e) = ((percentEncode e.1).toList, (percentEncode e.2).toList) := by
  have hkey : ∀ c ∈ (percentEncode e.1).toList, decide (c ≠ '=') = true := fun c hc ↦
    decide_eq_true (ne_of_mem_percentEncode hc).2.1
  have hspan : (pairText e).span (· ≠ '=') =
      ((percentEncode e.1).toList, '=' :: (percentEncode e.2).toList) := by
    rw [List.span_eq_takeWhile_dropWhile, pairText, List.takeWhile_append_of_pos hkey,
      List.dropWhile_append_of_pos hkey]
    simp
  rw [splitPair, hspan]

/-- A written pair holds no `&`. -/
theorem amp_not_mem_pairText (e : String × String) : '&' ∉ pairText e := by
  intro hmem
  rcases List.mem_append.mp hmem with hk | hv
  · exact (ne_of_mem_percentEncode hk).1 rfl
  · rcases List.mem_cons.mp hv with h | hv
    · exact absurd h (by decide)
    · exact (ne_of_mem_percentEncode hv).1 rfl

theorem encode_toList (pairs : List (String × String)) :
    (encode ⟨pairs⟩).toList = ['&'].intercalate (pairs.map pairText) := by
  simp [encode, String.toList_intercalate, Function.comp_def]
  rfl

/-- A query string with pairs starts with the first written pair, so not with `?`. -/
theorem head_encode (e : String × String) (rest : List (String × String)) :
    ∃ c cs, (encode ⟨e :: rest⟩).toList = c :: cs ∧ c ≠ '?' := by
  have hhead : ∃ tail, (encode ⟨e :: rest⟩).toList = pairText e ++ tail := by
    rw [encode_toList, List.map_cons]
    cases rest with
    | nil => exact ⟨[], by rw [List.map_nil, List.intercalate_singleton, List.append_nil]⟩
    | cons e' rest =>
      exact ⟨_, by rw [List.map_cons, List.intercalate_cons_cons, List.append_assoc]⟩
  obtain ⟨tail, htail⟩ := hhead
  rw [htail, pairText]
  -- the first key, or `=` when it is empty
  cases hk : (percentEncode e.1).toList with
  | nil => exact ⟨'=', _, rfl, by decide⟩
  | cons c cs =>
    have hmem : c ∈ (percentEncode e.1).toList := by
      rw [hk]
      exact List.mem_cons_self
    exact ⟨c, _, rfl, (ne_of_mem_percentEncode hmem).2.2.2⟩

/-- **Parameters read back from their query string.** -/
theorem parse_encode (p : QueryParams) : parse p.encode = p := by
  obtain ⟨pairs⟩ := p
  cases pairs with
  | nil => decide
  | cons e rest =>
    obtain ⟨c, cs, htext, hc⟩ := head_encode e rest
    unfold parse
    simp only [htext]
    split
    · next h => exact absurd (List.cons.inj h).1 hc
    · -- cut at `&` into the written pairs, none of them empty
      have hamp : ∀ t ∈ (e :: rest).map pairText, '&' ∉ t := fun t ht ↦ by
        obtain ⟨e', -, rfl⟩ := List.mem_map.mp ht
        exact amp_not_mem_pairText e'
      have hfull : ∀ t ∈ (e :: rest).map pairText, (!t.isEmpty) = true := fun t ht ↦ by
        obtain ⟨e', -, rfl⟩ := List.mem_map.mp ht
        simp [pairText]
      rw [← htext, encode_toList, List.splitOn_intercalate '&' hamp (List.cons_ne_nil _ _),
        List.filter_eq_self.mpr hfull, List.map_map]
      -- each pair reads back
      congr 1
      conv => rhs; rw [← List.map_id (e :: rest)]
      refine List.map_congr_left fun e' _ ↦ ?_
      simp only [Function.comp_apply, splitPair_pairText, String.ofList_toList,
        decodeComponent_percentEncode]
      rfl

/-- **Decoding undoes encoding for query parameters.** A key or a value reads back from its
percent-encoding, and parameters with any keys and values (empty, repeated, or holding `&`, `=`,
`+`, `%`, `?`, `#` or NUL) read back from their query string. -/
theorem encode_reads_back :
    (∀ s, decodeComponent (percentEncode s) = s) ∧ ∀ p : QueryParams, parse p.encode = p :=
  ⟨decodeComponent_percentEncode, parse_encode⟩

/-! ### Setting a key -/

/-- Setting a key replaces its pairs by one pair in place of the first: the pairs before the
first pair of `k`, then `(k, v)`, then the later pairs without `k`, or `(k, v)` appended when `k`
has no pair. So `k` reads back `v` and only `v`, every other key keeps its values, setting again
changes nothing, and erasing `k` afterwards is erasing it at once. -/
theorem set_replaces_all (p : QueryParams) (k v : String) :
    (p.set k v).pairs =
        (match p.pairs.dropWhile (fun e ↦ e.1 != k) with
          | [] => p.pairs ++ [(k, v)]
          | _ :: post =>
            p.pairs.takeWhile (fun e ↦ e.1 != k) ++ (k, v) :: post.filter (fun e ↦ e.1 != k)) ∧
      (p.set k v).get? k = some v ∧
      (∀ k', (p.set k v).getAll k' = if k' = k then [v] else p.getAll k') ∧
      (p.set k v).set k v = p.set k v ∧
      (p.set k v).erase k = p.erase k :=
  ⟨pairs_set p k v, get?_set p k v, getAll_set p k v, set_set p k v, erase_set p k v⟩

end QueryParams

end LabelQuery
