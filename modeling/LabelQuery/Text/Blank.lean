/-!
# Blank characters

The characters that separate tokens of selector text, and that trimming removes from both ends
of a key, a value, a fragment or a page number. They are exactly the code points with the
Unicode property `White_Space`: twenty-five of them, six in ASCII.

Two look-alikes are deliberately *not* blank: the zero width space U+200B and the byte order
mark U+FEFF. They are format characters, so a key may contain them.

## Main statements

* `isBlank_of_isWhitespace`: every character that core's ASCII class calls whitespace is blank.
* `trim_toList`: trimming drops leading and trailing blanks and keeps the middle.
-/

namespace LabelQuery.Text

/-- **Blank**: the Unicode `White_Space` property, as ranges of code points. It is irreducible
so that definitions that branch on it never compute it on a symbolic character; closed cases
are settled by `decide +kernel`. -/
@[irreducible] def isBlank (c : Char) : Bool :=
  let n := c.toNat
  (0x09 ≤ n && n ≤ 0x0D) || n == 0x20 || n == 0x85 || n == 0xA0 || n == 0x1680 ||
    (0x2000 ≤ n && n ≤ 0x200A) || n == 0x2028 || n == 0x2029 || n == 0x202F ||
    n == 0x205F || n == 0x3000

/-- The characters core's `Char.isWhitespace` accepts (space, tab, carriage return and line
feed) are blank. -/
theorem isBlank_of_isWhitespace {c : Char} (h : c.isWhitespace = true) : isBlank c = true := by
  simp only [Char.isWhitespace, Bool.or_eq_true, decide_eq_true_eq] at h
  rcases h with ((h | h) | h) | h <;> subst h <;> decide +kernel

example : isBlank '\u3000' = true ∧ isBlank '\u200B' = false ∧ isBlank '\uFEFF' = false := by
  decide +kernel

/-- Drops the blanks at both ends of a list of characters. -/
def trimChars (cs : List Char) : List Char :=
  ((cs.dropWhile isBlank).reverse.dropWhile isBlank).reverse

/-- Drops the blanks at both ends of a string. -/
def trim (s : String) : String :=
  String.ofList (trimChars s.toList)

@[simp] theorem trim_toList (s : String) : (trim s).toList = trimChars s.toList := by
  simp [trim]

end LabelQuery.Text
