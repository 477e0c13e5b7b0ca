import ClusterMdns.Number.Decimal

/-!
Zone text cut into words, blanks, comments and line ends. Words may stand in single or double quotes, with
escapes inside.
-/

namespace ClusterMdns.Dns.Zone

inductive Token where
  | word (s : String)
  | space
  | comment
  | lineEnd
deriving DecidableEq, Repr

def isSpace (c : Char) : Bool :=
  c == ' ' || c == '\t' || c.toNat == 11 || c.toNat == 12

def isLineEnd (c : Char) : Bool :=
  c == '\r' || c == '\n'

def isQuote (c : Char) : Bool :=
  c == '"' || c == '\''

/-- Letters, digits and punctuation of ASCII. -/
def isWordChar (c : Char) : Bool :=
  33 <= c.toNat && c.toNat < 127

/-- What a word without quotes consists of. A double quote ends it, a single one does not. -/
def isInner (c : Char) : Bool :=
  isWordChar c && c != '"' && c != ';'

/-! ### Quotes -/

/-- Text yet to be read. `ahead` characters of it have been looked at; when they are asked for again at
the very end of the text, reading stops there (`spent`) and what is left is dropped. -/
structure Rest where
  text : List Char
  ahead : Nat
  spent : Bool

def plainEscape (c : Char) : Char :=
  if c == 'n' then '\n' else if c == 't' then '\t' else if c == 'r' then '\r' else c

def charOf? (n : Int) : Option Char :=
  if n < 0 then none else some (Char.ofNat n.toNat)

/-- What an escape stands for, and its length behind the backslash: up to three octal digits, an x and a
hexadecimal number of two characters, or a character that is taken as it is. -/
def escape? (three : List Char) : Option (Char × Nat) :=
  match three with
  | [] => none
  | x :: digits =>
    if three.all Text.isDigit then do
      let ds ← Number.digitsOf? 8 false three
      some (Char.ofNat (Number.ofDigits 8 ds), three.length)
    else if x == 'x' then do
      some (← charOf? (← Number.readIntIn? 16 'x' digits), three.length)
    else some (plainEscape x, 1)

/-- Three characters are looked at behind a backslash; the text is over if there are no new ones. -/
def runsOut (ahead : Nat) (text : List Char) : Bool :=
  ahead < 3 && text.length <= ahead

/-- The word up to a closing quote, and the text behind it. -/
def quoted? (quote : Char) (ahead : Nat) : (skip : Nat) → List Char → Option (List Char × Rest)
  | _, [] => none
  | skip + 1, _ :: text => quoted? quote (ahead - 1) skip text
  | 0, c :: text =>
    let ahead := ahead - 1
    if c == '\\' then
      match escape? (text.take 3) with
      | none => none
      | some (x, length) =>
        if runsOut ahead text then some ([x], ⟨text, ahead, true⟩)
        else (quoted? quote (max ahead (min 3 text.length)) length text).map (Prod.map (x :: ·) id)
    else if c == quote then some ([], ⟨text, ahead, false⟩)
    else (quoted? quote ahead 0 text).map (Prod.map (c :: ·) id)

theorem quoted?_length {quote : Char} {ahead skip : Nat} {text : List Char} {found : List Char × Rest}
    (h : quoted? quote ahead skip text = some found) : found.2.text.length < text.length := by
  induction text generalizing ahead skip found with
  | nil => simp [quoted?] at h
  | cons c text ih =>
    have deeper {ahead skip} {f : List Char → List Char} {found : List Char × Rest}
        (h : (quoted? quote ahead skip text).map (Prod.map f id) = some found) :
        found.2.text.length < (c :: text).length := by
      obtain ⟨inner, more, rfl⟩ := Option.map_eq_some_iff.1 h
      have := ih more
      exact Nat.lt_succ_of_lt this
    cases skip with
    | succ skip => exact Nat.lt_succ_of_lt (ih h)
    | zero =>
      rw [quoted?] at h
      split at h
      · split at h
        · simp at h
        · split at h
          · simp only [Option.some.injEq] at h
            simp [← h]
          · exact deeper h
      · split at h
        · simp only [Option.some.injEq] at h
          simp [← h]
        · exact deeper h

/-! ### Words -/

theorem dropWhile_length_le (p : Char → Bool) (cs : List Char) :
    (cs.dropWhile p).length ≤ cs.length := by
  induction cs with
  | nil => simp
  | cons c cs ih =>
    simp only [List.dropWhile]
    split
    · exact Nat.le_succ_of_le ih
    · exact Nat.le_refl _

/-- Blanks that end the text, or stand before anything else, are one token. -/
def blanks (cs : List Char) : List Token :=
  if (cs.takeWhile isSpace).isEmpty then [] else [.space]

/-- A comment counts unless it is blank. -/
def comments (cs : List Char) : List Token :=
  if (cs.takeWhile (· != '\n')).all (fun c => isSpace c || isLineEnd c) then [] else [.comment]

/-- The tokens of a text of which `ahead` characters have been looked at before. -/
def tokensFrom (ahead : Nat) (cs : List Char) : Option (List Token) :=
  match h : cs.dropWhile isSpace with
  | [] => some (blanks cs)
  | c :: rest =>
    have shorter : rest.length < cs.length := by
      have := dropWhile_length_le isSpace cs
      simp only [h, List.length_cons] at this
      omega
    have within (p : Char → Bool) : (rest.dropWhile p).length < cs.length :=
      Nat.lt_of_le_of_lt (dropWhile_length_le p rest) shorter
    let behind (after : List Char) := ahead - (cs.length - after.length)
    if isLineEnd c then
      let after := rest.dropWhile isLineEnd
      have := within isLineEnd
      (tokensFrom (behind after) after).map (blanks cs ++ .lineEnd :: ·)
    else if c == ';' then
      let after := rest.dropWhile (· != '\n')
      have := within (· != '\n')
      (tokensFrom (behind after) after).map (blanks cs ++ comments rest ++ ·)
    else if isQuote c then
      match hq : quoted? c (behind rest) 0 rest with
      | none => none
      | some (word, after) =>
        have : after.text.length < rest.length := quoted?_length hq
        let front := blanks cs ++ [.word (String.ofList word)]
        if after.spent then some front else (tokensFrom after.ahead after.text).map (front ++ ·)
    else if isWordChar c then
      let after := rest.dropWhile isInner
      have := within isInner
      (tokensFrom (behind after) after).map
        (blanks cs ++ .word (String.ofList (c :: rest.takeWhile isInner)) :: ·)
    else none
termination_by cs.length
decreasing_by all_goals first | assumption | omega

def tokens (s : String) : Option (List Token) :=
  tokensFrom 0 s.toList

end ClusterMdns.Dns.Zone
