/-!
White space: every space, line end and separator of Unicode and the four information separators of
ASCII. Texts are trimmed of it at both ends.
-/

namespace ClusterMdns.Text

def isBlank (c : Char) : Bool :=
  let n := c.toNat
  (9 <= n && n <= 13) || (28 <= n && n <= 32) || n == 0x85 || n == 0xA0 || n == 0x1680 ||
    (0x2000 <= n && n <= 0x200A) || n == 0x2028 || n == 0x2029 || n == 0x202F || n == 0x205F ||
    n == 0x3000

/-- Drops the longest run at the end whose members satisfy `p`. -/
def dropTrailing (p : Char → Bool) (cs : List Char) : List Char :=
  (cs.reverse.dropWhile p).reverse

def trimChars (cs : List Char) : List Char :=
  dropTrailing isBlank (cs.dropWhile isBlank)

def trim (s : String) : String :=
  String.ofList (trimChars s.toList)

end ClusterMdns.Text
