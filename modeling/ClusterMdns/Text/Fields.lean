/-!
Cutting a text at a separator and putting the pieces together again. A text always has at least one
piece, and `n` separators give `n + 1` pieces.
-/

namespace ClusterMdns.Text

/-- The pieces of a text between the characters that satisfy `p`. -/
def splitChars (p : Char → Bool) : List Char → List (List Char)
  | [] => [[]]
  | c :: cs =>
    if p c then [] :: splitChars p cs
    else match splitChars p cs with
      | [] => [[c]]
      | piece :: pieces => (c :: piece) :: pieces

def splitOn (sep : Char) (s : String) : List String :=
  (splitChars (· == sep) s.toList).map String.ofList

def joinChars (sep : List Char) : List (List Char) → List Char
  | [] => []
  | [cs] => cs
  | cs :: rest => cs ++ sep ++ joinChars sep rest

def join (sep : String) : List String → String
  | [] => ""
  | [s] => s
  | s :: rest => s ++ sep ++ join sep rest

/-- Line ends of every kind become a single line feed. -/
def unifyLineEnds : List Char → List Char
  | [] => []
  | '\r' :: '\n' :: cs => '\n' :: unifyLineEnds cs
  | '\r' :: cs => '\n' :: unifyLineEnds cs
  | c :: cs => c :: unifyLineEnds cs

/-- Whether `s` ends in `tail`. -/
def endsWith (tail s : String) : Bool :=
  tail.toList.isSuffixOf s.toList

def replaceChar (a b : Char) (s : String) : String :=
  s.map fun c => if c == a then b else c

end ClusterMdns.Text
