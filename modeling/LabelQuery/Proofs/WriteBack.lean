import LabelQuery.Search.QueryLaws
/-!
# Writing the search fields over the source parameters

A query writes itself back (`SearchQuery.toParams`) by four writes on its source parameters, one
per search field: the field's parameter is `set` to its value, or erased when it has none. With
four distinct parameter names these writes do not disturb one another, and together they are one
pass over the source (`QueryParams.writeOver`): a pair of any other key stays where it is; the
first pair of a field's key is replaced by the field's pair, or dropped when the field has no
value, and the later pairs of that key are dropped; the fields whose key has no pair are appended
at the end, in field order.

The proof follows the writes. One write is one more field in the pass (`setOrErase_writeOver`,
the step), for a field whose key the pass does not write yet; so writing fields with distinct
keys one after another is writing them all in one pass (`foldl_setOrErase_writeOver`, the run).
What the pass keeps is read off it once: the pairs of other keys in their order
(`filter_writeOver_not_mem`), and for each field only its own pair (`filter_writeOver_key`).

## Main statements

* `SearchQuery.setOrErase_writeOver`: one write adds a field to the pass.
* `SearchQuery.toParams_writes_fields`: writing a query back touches only its four parameters.
-/

namespace LabelQuery

namespace QueryParams

/-- The pairs a field writes: its pair when it has a value, none otherwise. -/
def fieldPairs (k : String) (v? : Option String) : List (String × String) :=
  v?.toList.map (k, ·)

/-- The fields with the field of key `k` left without a value. -/
def clearField (k : String) (fs : List (String × Option String)) :
    List (String × Option String) :=
  fs.map fun f ↦ if f.1 = k then (f.1, none) else f

/-- **The fields `fs` written over the pairs `ps` in one pass.** A pair of a key that is no field
stays. At the first pair of a field's key the field's pair is written instead, or nothing when
the field has no value, and the field is cleared, so that the later pairs of its key write
nothing. The fields never met are appended, in their order. -/
def writeOver (fs : List (String × Option String)) :
    List (String × String) → List (String × String)
  | [] => fs.flatMap fun f ↦ fieldPairs f.1 f.2
  | e :: rest =>
    match fs.lookup e.1 with
    | none => e :: writeOver fs rest
    | some v? => fieldPairs e.1 v? ++ writeOver (clearField e.1 fs) rest

/-! ### Fields -/

theorem key_of_mem_fieldPairs {k : String} {v? : Option String} {x : String × String}
    (h : x ∈ fieldPairs k v?) : x.1 = k := by
  obtain ⟨v, -, rfl⟩ := List.mem_map.mp h
  rfl

theorem filter_fieldPairs (k j : String) (v? : Option String) :
    (fieldPairs k v?).filter (·.1 == j) = if k = j then fieldPairs k v? else [] := by
  cases v? <;> by_cases h : k = j <;> simp [fieldPairs, h]

theorem keys_clearField (k : String) (fs : List (String × Option String)) :
    (clearField k fs).map Prod.fst = fs.map Prod.fst := by
  simp only [clearField, List.map_map]
  congr 1
  funext f
  by_cases h : f.1 = k <;> simp [h]

theorem clearField_of_not_mem {k : String} {fs : List (String × Option String)}
    (h : k ∉ fs.map Prod.fst) : clearField k fs = fs := by
  refine (List.map_congr_left fun f hf ↦ ?_).trans (List.map_id fs)
  have hne : f.1 ≠ k := fun he ↦ h (List.mem_map.mpr ⟨f, hf, he⟩)
  simp [hne]

theorem clearField_append_singleton (j k : String) (fs : List (String × Option String))
    (v? : Option String) :
    clearField j (fs ++ [(k, v?)]) =
      clearField j fs ++ [if k = j then (k, none) else (k, v?)] := by
  simp [clearField]

/-- Clearing one field leaves the others as they are. -/
theorem mem_clearField {j : String} {f : String × Option String}
    {fs : List (String × Option String)} (hf : f ∈ fs) :
    (if f.1 = j then (f.1, none) else f) ∈ clearField j fs :=
  List.mem_map.mpr ⟨f, hf, rfl⟩

theorem lookup_eq_none_of_not_mem {k : String} {fs : List (String × Option String)}
    (h : k ∉ fs.map Prod.fst) : fs.lookup k = none := by
  refine List.lookup_eq_none_iff.mpr fun p hp ↦ ?_
  have hne : k ≠ p.1 := fun he ↦ h (List.mem_map.mpr ⟨p, hp, he.symm⟩)
  simpa using hne

theorem not_mem_of_lookup_eq_none {k : String} {fs : List (String × Option String)}
    (h : fs.lookup k = none) : k ∉ fs.map Prod.fst := by
  intro hk
  obtain ⟨p, hp, rfl⟩ := List.mem_map.mp hk
  simpa using List.lookup_eq_none_iff.mp h p hp

/-- Among fields with distinct keys, a key is looked up as its own field. -/
theorem lookup_eq_some_of_mem {k : String} {v? : Option String} :
    ∀ {fs : List (String × Option String)}, (fs.map Prod.fst).Nodup → (k, v?) ∈ fs →
      fs.lookup k = some v?
  | f :: fs, hnd, hm => by
    rw [List.map_cons, List.nodup_cons] at hnd
    rcases List.mem_cons.mp hm with rfl | hm
    · simp
    · have hne : (k == f.1) = false :=
        beq_eq_false_iff_ne.mpr fun he ↦ hnd.1 (he ▸ List.mem_map.mpr ⟨_, hm, rfl⟩)
      rw [List.lookup_cons, hne]
      exact lookup_eq_some_of_mem hnd.2 hm

theorem lookup_append_singleton {fs : List (String × Option String)} {k k' : String}
    (v? : Option String) (hk : k ∉ fs.map Prod.fst) :
    (fs ++ [(k, v?)]).lookup k' = if k' = k then some v? else fs.lookup k' := by
  rw [List.lookup_append]
  split
  · next h =>
    subst h
    simp [lookup_eq_none_of_not_mem hk]
  · next h =>
    cases fs.lookup k' <;> simp [h]

/-! ### The pass -/

theorem writeOver_cons_of_lookup_none {fs : List (String × Option String)}
    {e : String × String} (rest : List (String × String)) (h : fs.lookup e.1 = none) :
    writeOver fs (e :: rest) = e :: writeOver fs rest := by
  rw [writeOver, h]

theorem writeOver_cons_of_lookup_some {fs : List (String × Option String)}
    {e : String × String} {v? : Option String} (rest : List (String × String))
    (h : fs.lookup e.1 = some v?) :
    writeOver fs (e :: rest) = fieldPairs e.1 v? ++ writeOver (clearField e.1 fs) rest := by
  rw [writeOver, h]

/-- Without fields the pass changes nothing. -/
@[simp] theorem writeOver_nil_fields (ps : List (String × String)) : writeOver [] ps = ps := by
  induction ps with
  | nil => rfl
  | cons e rest ih => rw [writeOver_cons_of_lookup_none rest rfl, ih]

/-- **Other keys are left alone**: the pass keeps the pairs of every key that is no field, in
their order, and adds none. -/
theorem filter_writeOver_not_mem (fs : List (String × Option String))
    (ps : List (String × String)) :
    (writeOver fs ps).filter (fun e ↦ e.1 ∉ fs.map Prod.fst) =
      ps.filter fun e ↦ e.1 ∉ fs.map Prod.fst := by
  induction ps generalizing fs with
  | nil =>
    -- the appended pairs are the fields' own
    refine List.filter_eq_nil_iff.mpr fun x hx ↦ ?_
    obtain ⟨f, hf, hx⟩ := List.mem_flatMap.mp hx
    have hkey : x.1 ∈ fs.map Prod.fst :=
      (key_of_mem_fieldPairs hx).symm ▸ List.mem_map.mpr ⟨f, hf, rfl⟩
    simpa using hkey
  | cons e rest ih =>
    cases hl : fs.lookup e.1 with
    | none =>
      rw [writeOver_cons_of_lookup_none rest hl, List.filter_cons, List.filter_cons, ih]
    | some v? =>
      have hmem : e.1 ∈ fs.map Prod.fst := by
        by_contra hn
        rw [lookup_eq_none_of_not_mem hn] at hl
        cases hl
      have hpairs : (fieldPairs e.1 v?).filter (fun x ↦ x.1 ∉ fs.map Prod.fst) = [] :=
        List.filter_eq_nil_iff.mpr fun x hx ↦ by simpa [key_of_mem_fieldPairs hx] using hmem
      have hrest := ih (clearField e.1 fs)
      rw [keys_clearField] at hrest
      rw [writeOver_cons_of_lookup_some rest hl, List.filter_append, hpairs, hrest,
        List.filter_cons_of_neg (by simpa using hmem), List.nil_append]

/-- The fields' own pairs, filtered by one field's key, are that field's pair. -/
theorem filter_flatMap_fieldPairs {k : String} {v? : Option String} :
    ∀ {fs : List (String × Option String)}, (fs.map Prod.fst).Nodup → (k, v?) ∈ fs →
      (fs.flatMap fun f ↦ fieldPairs f.1 f.2).filter (·.1 == k) = fieldPairs k v?
  | f :: fs, hnd, hm => by
    rw [List.map_cons, List.nodup_cons] at hnd
    rw [List.flatMap_cons, List.filter_append, filter_fieldPairs]
    rcases List.mem_cons.mp hm with rfl | hm
    · -- the field itself, followed by fields of other keys
      have hrest : (fs.flatMap fun f ↦ fieldPairs f.1 f.2).filter (·.1 == k) = [] :=
        List.filter_eq_nil_iff.mpr fun x hx ↦ by
          obtain ⟨f', hf', hx⟩ := List.mem_flatMap.mp hx
          have hne : f'.1 ≠ k := fun he ↦ hnd.1 (he ▸ List.mem_map.mpr ⟨f', hf', rfl⟩)
          simp [key_of_mem_fieldPairs hx, hne]
      rw [if_pos rfl, hrest, List.append_nil]
    · have hne : f.1 ≠ k := fun he ↦ hnd.1 (he ▸ List.mem_map.mpr ⟨_, hm, rfl⟩)
      rw [if_neg hne, List.nil_append, filter_flatMap_fieldPairs hnd.2 hm]

/-- **Each field leaves only its own pair**: among fields with distinct keys, the pass holds for
a field's key just the field's pair, or nothing when the field has no value. -/
theorem filter_writeOver_key {k : String} {v? : Option String} (ps : List (String × String)) :
    ∀ {fs : List (String × Option String)}, (fs.map Prod.fst).Nodup → (k, v?) ∈ fs →
      (writeOver fs ps).filter (·.1 == k) = fieldPairs k v? := by
  induction ps generalizing v? with
  | nil => exact fun hnd hm ↦ filter_flatMap_fieldPairs hnd hm
  | cons e rest ih =>
    intro fs hnd hm
    have hnd' : ((clearField e.1 fs).map Prod.fst).Nodup := by rwa [keys_clearField]
    cases hl : fs.lookup e.1 with
    | none =>
      -- a pair of another key, dropped by the filter
      have hne : e.1 ≠ k := fun he ↦
        not_mem_of_lookup_eq_none hl (he ▸ List.mem_map.mpr ⟨_, hm, rfl⟩)
      rw [writeOver_cons_of_lookup_none rest hl, List.filter_cons_of_neg (by simpa using hne),
        ih hnd hm]
    | some w? =>
      rw [writeOver_cons_of_lookup_some rest hl, List.filter_append, filter_fieldPairs]
      by_cases he : e.1 = k
      · -- the first pair of the field's key: the field's pair, and the field is cleared
        subst he
        have hw : w? = v? := Option.some.inj (hl.symm.trans (lookup_eq_some_of_mem hnd hm))
        have hcleared := mem_clearField (j := e.1) hm
        rw [if_pos rfl] at hcleared
        rw [if_pos rfl, ih hnd' hcleared, hw]
        cases v? <;> rfl
      · have hkept := mem_clearField (j := e.1) hm
        rw [if_neg (Ne.symm he)] at hkept
        rw [if_neg he, ih hnd' hkept, List.nil_append]

end QueryParams

namespace SearchQuery

open QueryParams

/-! ### One write -/

theorem setOrErase_nil (k : String) (v? : Option String) :
    (setOrErase ⟨[]⟩ k v?).pairs = fieldPairs k v? := by
  cases v? <;> rfl

/-- A write at the first pair of its key replaces it and drops the later ones. -/
theorem setOrErase_cons_self {e : String × String} {rest : List (String × String)} {k : String}
    (v? : Option String) (h : e.1 = k) :
    (setOrErase ⟨e :: rest⟩ k v?).pairs = fieldPairs k v? ++ rest.filter (·.1 != k) := by
  cases v? with
  | none => simp [setOrErase, erase, h, fieldPairs]
  | some v =>
    simp only [setOrErase]
    rw [show (⟨e :: rest⟩ : QueryParams) = ⟨[] ++ e :: rest⟩ from rfl,
      set_of_split k v [] e rest (by simp) h]
    rfl

/-- A write passes a pair of another key. -/
theorem setOrErase_cons_of_ne {e : String × String} {rest : List (String × String)} {k : String}
    (v? : Option String) (h : e.1 ≠ k) :
    (setOrErase ⟨e :: rest⟩ k v?).pairs = e :: (setOrErase ⟨rest⟩ k v?).pairs := by
  cases v? with
  | none => simp [setOrErase, erase, h]
  | some v =>
    have hc : (⟨e :: rest⟩ : QueryParams).contains k = (⟨rest⟩ : QueryParams).contains k :=
      by simp [contains, h]
    simp only [setOrErase, set_eq_setFirst, hc]
    split
    · simp [setFirst, h]
    · rfl

theorem setOrErase_append_of_forall_ne {pre l : List (String × String)} {k : String}
    (v? : Option String) (h : ∀ x ∈ pre, x.1 ≠ k) :
    (setOrErase ⟨pre ++ l⟩ k v?).pairs = pre ++ (setOrErase ⟨l⟩ k v?).pairs := by
  induction pre with
  | nil => rfl
  | cons x pre ih =>
    rw [List.cons_append, setOrErase_cons_of_ne v? (h x List.mem_cons_self),
      ih fun y hy ↦ h y (List.mem_cons_of_mem _ hy), List.cons_append]

/-- **The step**: a write of a key that the pass does not write yet adds its field to the pass,
after the others. -/
theorem setOrErase_writeOver (k : String) :
    ∀ (ps : List (String × String)) {fs : List (String × Option String)} (v? : Option String),
      k ∉ fs.map Prod.fst →
        (setOrErase ⟨writeOver fs ps⟩ k v?).pairs = writeOver (fs ++ [(k, v?)]) ps
  | [], fs, v?, hk => by
    -- the fields' own pairs have other keys, so the new field's pair is appended to them
    have hne : ∀ x ∈ fs.flatMap (fun f ↦ fieldPairs f.1 f.2), x.1 ≠ k := by
      intro x hx
      obtain ⟨f, hf, hx⟩ := List.mem_flatMap.mp hx
      rw [key_of_mem_fieldPairs hx]
      exact fun he ↦ hk (List.mem_map.mpr ⟨f, hf, he⟩)
    rw [writeOver, writeOver, ← List.append_nil (fs.flatMap _),
      setOrErase_append_of_forall_ne v? hne, setOrErase_nil, List.flatMap_append,
      List.flatMap_singleton]
  | e :: rest, fs, v?, hk => by
    by_cases he : e.1 = k
    · -- the first pair of the new field's key takes its value; what follows is erased of it
      subst he
      rw [writeOver_cons_of_lookup_none rest (lookup_eq_none_of_not_mem hk),
        setOrErase_cons_self v? rfl,
        writeOver_cons_of_lookup_some rest ((lookup_append_singleton v? hk).trans (if_pos rfl)),
        clearField_append_singleton, clearField_of_not_mem hk, if_pos rfl,
        ← setOrErase_writeOver e.1 rest none hk]
      rfl
    · -- a pair of another key: the new field is looked up after the others
      have hlook : (fs ++ [(k, v?)]).lookup e.1 = fs.lookup e.1 :=
        (lookup_append_singleton v? hk).trans (if_neg he)
      cases hl : fs.lookup e.1 with
      | none =>
        rw [writeOver_cons_of_lookup_none rest hl, setOrErase_cons_of_ne v? he,
          setOrErase_writeOver k rest v? hk, writeOver_cons_of_lookup_none rest (hlook.trans hl)]
      | some w? =>
        have hne : ∀ x ∈ fieldPairs e.1 w?, x.1 ≠ k := fun x hx ↦ by
          rw [key_of_mem_fieldPairs hx]
          exact he
        rw [writeOver_cons_of_lookup_some rest hl, setOrErase_append_of_forall_ne v? hne,
          setOrErase_writeOver k rest v? (by rwa [keys_clearField]),
          writeOver_cons_of_lookup_some rest (hlook.trans hl), clearField_append_singleton,
          if_neg (Ne.symm he)]

/-- **The run**: writing fields with distinct keys one after another writes them in one pass. -/
theorem foldl_setOrErase_writeOver (ps : List (String × String)) :
    ∀ (fs' : List (String × Option String)) {fs : List (String × Option String)},
      ((fs ++ fs').map Prod.fst).Nodup →
        fs'.foldl (fun p f ↦ setOrErase p f.1 f.2) ⟨writeOver fs ps⟩ =
          ⟨writeOver (fs ++ fs') ps⟩
  | [], fs, _ => by simp
  | f :: fs', fs, hnd => by
    have hk : f.1 ∉ fs.map Prod.fst := by
      rw [List.map_append, List.nodup_append] at hnd
      exact fun hm ↦ hnd.2.2 _ hm _ List.mem_cons_self rfl
    have hnd' : (((fs ++ [f]) ++ fs').map Prod.fst).Nodup := by
      rwa [List.append_assoc, List.singleton_append]
    have hstep : setOrErase ⟨writeOver fs ps⟩ f.1 f.2 = ⟨writeOver (fs ++ [f]) ps⟩ :=
      congrArg QueryParams.mk (setOrErase_writeOver f.1 ps f.2 hk)
    rw [List.foldl_cons, hstep,
      foldl_setOrErase_writeOver ps fs' hnd', List.append_assoc, List.singleton_append]

/-! ### Writing a query back -/

/-- The search fields of a query under their parameter names, each with the value it writes: the
name when not empty, the page and the page size in decimal when positive, the labels when not
empty. -/
def fields (q : SearchQuery) : List (String × Option String) :=
  [(q.config.params.name, q.name.filter fun n ↦ !n.isEmpty),
    (q.config.params.page, (q.page.filter (0 < ·)).map toString),
    (q.config.params.pageSize, (q.pageSize.filter (0 < ·)).map toString),
    (q.config.params.labels, if q.labels.isEmpty then none else some q.labels)]

theorem keys_fields (q : SearchQuery) : q.fields.map Prod.fst = q.config.params.toList := rfl

/-- Writing a query back writes its fields in one pass over its source. -/
theorem toParams_pairs (q : SearchQuery) (h : q.config.params.toList.Nodup) :
    q.toParams.pairs = writeOver q.fields q.source.pairs := by
  have hnd : (([] ++ q.fields).map Prod.fst).Nodup := by rwa [List.nil_append, keys_fields]
  have hrun := foldl_setOrErase_writeOver q.source.pairs q.fields hnd
  rw [writeOver_nil_fields] at hrun
  exact congrArg QueryParams.pairs hrun

/-- **Writing a query back touches only its four parameters.** Under four distinct parameter
names, the written parameters are the source with the fields written over it in one pass: every
pair of another key is kept, in its order; each field's parameter holds the field's value once
(the name when not empty, the page and page size in decimal when positive, the labels when not
empty) and nothing otherwise; a field's pair stands at the first pair of its parameter in the
source, or, when the source has none, after all source pairs in field order. -/
theorem toParams_writes_fields (q : SearchQuery) (h : q.config.params.toList.Nodup) :
    q.toParams.pairs = writeOver q.fields q.source.pairs ∧
      (q.toParams.pairs.filter fun e ↦ e.1 ∉ q.config.params.toList) =
        q.source.pairs.filter (fun e ↦ e.1 ∉ q.config.params.toList) ∧
      ∀ f ∈ q.fields, q.toParams.getAll f.1 = f.2.toList := by
  have hpairs := toParams_pairs q h
  refine ⟨hpairs, ?_, fun f hf ↦ ?_⟩
  · rw [hpairs, ← keys_fields, filter_writeOver_not_mem]
  · rw [getAll, hpairs, filter_writeOver_key q.source.pairs (by rwa [keys_fields]) hf]
    cases f.2 <;> rfl

/-- A query over the parameters `page=2&x=1&page=3&name=`, named `web` and on page 2: its name
replaces the empty one in place, the repeated page is kept once at its first position, and the
empty page size and labels are not written. -/
theorem toParams_writes_fields_renamed :
    let q : SearchQuery :=
      { source := ⟨[("page", "2"), ("x", "1"), ("page", "3"), ("name", "")]⟩
        name := some "web"
        page := some 2 }
    q.config.params.toList.Nodup ∧
      q.toParams.pairs = [("page", "2"), ("x", "1"), ("name", "web")] ∧
      (q.toParams.pairs = writeOver q.fields q.source.pairs ∧
        (q.toParams.pairs.filter fun e ↦ e.1 ∉ q.config.params.toList) =
          q.source.pairs.filter (fun e ↦ e.1 ∉ q.config.params.toList) ∧
        ∀ f ∈ q.fields, q.toParams.getAll f.1 = f.2.toList) := by
  intro q
  have hnd : q.config.params.toList.Nodup := by decide
  exact ⟨hnd, by decide, toParams_writes_fields q hnd⟩

end SearchQuery

end LabelQuery
