/-!
Halves of code pairs that stand by themselves. They are no characters, so a text has private characters of
the last plane in their place. Where such a character itself is meant, a mark stands before it, and before
the mark where that is meant.
-/

namespace ClusterMdns.Text.Surrogate

/-- How far the stand-in of a half is from it. -/
def shift : Nat := 0x100000

def mark : Char := Char.ofNat 0x10FFFF

def isHalf (n : Nat) : Bool :=
  0xD800 <= n && n < 0xE000

/-- Whether a character by itself means another than itself. -/
def isStandIn (c : Char) : Bool :=
  c == mark || (shift <= c.toNat && isHalf (c.toNat - shift))

/-- A character that means itself. -/
def literally (c : Char) : List Char :=
  if isStandIn c then [mark, c] else [c]

/-- The text of a code, which is that of a character or of a half. -/
def ofCode (n : Nat) : List Char :=
  if isHalf n then [Char.ofNat (n + shift)] else literally (Char.ofNat n)

def ofCodes (codes : List Nat) : List Char :=
  codes.flatMap ofCode

/-- The codes that a text stands for; `marked` tells whether a mark has just been read. -/
def codesFrom (marked : Bool) : List Char → List Nat
  | [] => []
  | c :: cs =>
    if marked then c.toNat :: codesFrom false cs
    else if c == mark then codesFrom true cs
    else (if isStandIn c then c.toNat - shift else c.toNat) :: codesFrom false cs

def codes (cs : List Char) : List Nat :=
  codesFrom false cs

theorem codes_literally (c : Char) (cs : List Char) :
    codes (literally c ++ cs) = c.toNat :: codes cs := by
  by_cases h : isStandIn c
  · simp [literally, h, codes, codesFrom]
  · have hm : (c == mark) = false := by
      simp only [isStandIn, Bool.or_eq_true, not_or] at h
      simpa using h.1
    simp [literally, h, codes, codesFrom, hm]

/-- The text of characters that mean themselves. -/
def ofText (s : String) : String :=
  String.ofList (s.toList.flatMap literally)

theorem codes_ofText (s : String) : codes (ofText s).toList = s.toList.map Char.toNat := by
  suffices ∀ cs : List Char, codes (cs.flatMap literally) = cs.map Char.toNat by
    simpa [ofText] using this s.toList
  intro cs
  induction cs with
  | nil => rfl
  | cons c cs ih => simp [codes_literally, ih]

/-- The text of codes of which none is a half. -/
def strict? (codes : List Nat) : Option (List Char) :=
  if codes.any isHalf then none else some (ofCodes codes)

/-- The code of a pair of halves. -/
def joined (high low : Nat) : Nat :=
  0x10000 + (high - 0xD800) * 1024 + (low - 0xDC00)

end ClusterMdns.Text.Surrogate
