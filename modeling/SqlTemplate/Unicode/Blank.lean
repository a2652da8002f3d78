/-!
# White space

The `White_Space` property decides what trimming removes, what separates tokens and what a
whitespace run is.
-/

namespace SqlTemplate

/-- The characters of the Unicode property `White_Space`. -/
def isBlank (c : Char) : Bool :=
  let n := c.toNat
  (0x9 ≤ n && n ≤ 0xD) || n == 0x20 || n == 0x85 || n == 0xA0 || n == 0x1680 ||
    (0x2000 ≤ n && n ≤ 0x200A) || n == 0x2028 || n == 0x2029 || n == 0x202F || n == 0x205F ||
    n == 0x3000

/-- The space is a blank. -/
@[simp] theorem isBlank_space : isBlank ' ' = true := by decide

end SqlTemplate
