import LabelQuery.Text.Percent
/-!
# Query parameters

The parameters of a URL query string: an ordered list of key–value pairs in which a key may
repeat. `get?` gives the first value of a key; `set` gives a key one value, at the position of
its first pair, and drops its other pairs with a `retain` that counts them.

A query string is read by dropping one leading `?`, cutting at `&`, dropping empty pieces, and
cutting each piece at its first `=` (a piece without `=` has the empty value). In key and value,
`+` stands for a space and percent escapes are decoded; the bytes are then read as UTF-8,
lossily. Writing percent-encodes keys and values and joins `key=value` pieces with `&`.
-/

namespace LabelQuery

open Text

/-- URL query parameters: pairs in order, keys may repeat. -/
structure QueryParams where
  /-- The pairs, in order. -/
  pairs : List (String × String)
  deriving DecidableEq, Repr

namespace QueryParams

/-- No parameters. -/
def empty : QueryParams := ⟨[]⟩

/-- Decodes a key or a value: `+` is a space, then percent escapes, then lossy UTF-8. -/
def decodeComponent (s : String) : String :=
  percentDecode (String.ofList (s.toList.map fun c ↦ if c = '+' then ' ' else c))

/-- Cuts a piece at its first `=`; without one, the value is empty. -/
def splitPair (piece : List Char) : List Char × List Char :=
  match piece.span (· ≠ '=') with
  | (key, _ :: value) => (key, value)
  | (key, []) => (key, [])

/-- Reads a query string. -/
def parse (query : String) : QueryParams :=
  let cs := match query.toList with
    | '?' :: rest => rest
    | cs => cs
  let pieces := (cs.splitOn '&').filter fun p ↦ !p.isEmpty
  ⟨pieces.map fun p ↦
    let (k, v) := splitPair p
    (decodeComponent (String.ofList k), decodeComponent (String.ofList v))⟩

/-- Writes the parameters as a query string, without a leading `?`. -/
def encode (p : QueryParams) : String :=
  "&".intercalate (p.pairs.map fun (k, v) ↦ percentEncode k ++ "=" ++ percentEncode v)

/-- The first value of a key. -/
def get? (p : QueryParams) (k : String) : Option String :=
  (p.pairs.find? fun e ↦ e.1 == k).map Prod.snd

/-- Every value of a key, in order. -/
def getAll (p : QueryParams) (k : String) : List String :=
  (p.pairs.filter fun e ↦ e.1 == k).map Prod.snd

/-- The key has a pair. -/
def contains (p : QueryParams) (k : String) : Bool :=
  p.pairs.any fun e ↦ e.1 == k

/-- The number of pairs. -/
def size (p : QueryParams) : Nat := p.pairs.length

/-- There are no pairs. -/
def isEmpty (p : QueryParams) : Bool := p.pairs.isEmpty

/-- The pairs a `retain` keeps when its test counts the pairs of `k` it meets, starting from
`seen`: a pair of another key is kept; a pair of `k` raises the count and is kept only when the
count reaches one. -/
def retainFirst (k : String) (seen : Nat) : List (String × String) → List (String × String)
  | [] => []
  | e :: rest =>
    if e.1 != k then e :: retainFirst k seen rest
    else if seen + 1 = 1 then e :: retainFirst k (seen + 1) rest
    else retainFirst k (seen + 1) rest

/-- Gives `k` the single value `v`. The first pair of `k` takes the value in place, and a
`retain` that counts the pairs of `k` keeps only the first of them; a key without pairs gets
`(k, v)` appended. -/
def set (p : QueryParams) (k v : String) : QueryParams :=
  match p.pairs.findIdx? (fun e ↦ e.1 == k) with
  | some i => ⟨retainFirst k 0 (p.pairs.modify i fun e ↦ (e.1, v))⟩
  | none => ⟨p.pairs ++ [(k, v)]⟩

/-- Appends a pair. -/
def append (p : QueryParams) (k v : String) : QueryParams :=
  ⟨p.pairs ++ [(k, v)]⟩

/-- Drops every pair of a key. -/
def erase (p : QueryParams) (k : String) : QueryParams :=
  ⟨p.pairs.filter fun e ↦ e.1 != k⟩

end QueryParams

end LabelQuery
