/-! White space, and text without the white space around it. -/

namespace TemplateFacts.Text

/-- The Unicode white space characters. -/
def isBlank (c : Char) : Bool :=
  -- Tab to carriage return and the space come first, since they are by far the most frequent.
  let n := c.toNat
  (0x9 ≤ n && n ≤ 0xD) || n == 0x20 || n == 0x85 || n == 0xA0 || n == 0x1680 ||
    (0x2000 ≤ n && n ≤ 0x200A) || n == 0x2028 || n == 0x2029 || n == 0x202F ||
    n == 0x205F || n == 0x3000

/-- The characters without those at either end for which the test holds. -/
def stripChars (test : Char → Bool) (cs : List Char) : List Char :=
  -- The end is reached by turning the list around.
  (((cs.dropWhile test).reverse).dropWhile test).reverse

/-- The text without the white space at either end. -/
def trim (s : String) : String :=
  -- Only the ends are touched.
  String.ofList (stripChars isBlank s.toList)

end TemplateFacts.Text
