import ClusterMdns.Document.Yaml.Content
import ClusterMdns.Proofs.Document.Yaml.Source
import ClusterMdns.Proofs.Outcome
import Mathlib.Data.List.TakeWhile

/-! A YAML text of which not all characters can be had is no document. Its last token says why no more can be had, and
a document is read only up to its last token. -/

namespace ClusterMdns.Document.Yaml

/-! ### Tokens -/

theorem Cursor.cut_advance (c : Cursor) : c.advance.cut = c.cut := by
  unfold Cursor.advance
  split
  · rfl
  · dsimp only
    split
    · rfl
    · split <;> rfl

namespace Lexer

variable {l : Lexer} {e : Error}

/-- The text is not over, and no more than what is left of it can be had. -/
structure Cut (e : Error) (l : Lexer) : Prop where
  cut : l.cursor.cut = some e
  unfinished : l.finished = false

theorem Cut.toNextToken (h : l.Cut e) (fuel : Nat) : (l.toNextToken fuel).Cut e := by
  fun_induction Lexer.toNextToken fuel l with
  | case1 => exact h
  | case2 => exact ⟨h.cut, h.unfinished⟩
  | case3 _ _ _ _ _ _ _ _ ih => exact ih ⟨h.cut, h.unfinished⟩

theorem Cut.dropStale (h : l.Cut e) : Ensures (Cut e) l.dropStale :=
  .ite (.error _) (.ok ⟨h.cut, h.unfinished⟩)

theorem cursor_dropStale : Ensures (fun m => m.cursor = l.cursor) l.dropStale :=
  .ite (.error _) (.ok rfl)

theorem Cut.dropCandidate (h : l.Cut e) : Ensures (Cut e) l.dropCandidate := by
  unfold Lexer.dropCandidate
  split
  · exact .ok h
  · exact .ite (.error _) (.ok ⟨h.cut, h.unfinished⟩)

theorem Cut.saveCandidate (h : l.Cut e) : Ensures (Cut e) l.saveCandidate :=
  .ite (h.dropCandidate.bind fun _ h => .ok ⟨h.cut, h.unfinished⟩) (.ok h)

theorem Cut.allowKey (h : l.Cut e) (b : Bool) : (l.allowKey b).Cut e :=
  ⟨h.cut, h.unfinished⟩

theorem Cut.unindent (h : l.Cut e) (column : Int) : (l.unindent column).Cut e := by
  unfold Lexer.unindent
  split
  · exact h
  · exact ⟨h.cut, h.unfinished⟩

theorem cursor_unindent (column : Int) : (l.unindent column).cursor = l.cursor := by
  unfold Lexer.unindent
  split <;> rfl

theorem Cut.indentTo (h : l.Cut e) (column : Nat) : (l.indentTo column).2.Cut e := by
  unfold Lexer.indentTo
  split
  · exact ⟨h.cut, h.unfinished⟩
  · exact h

theorem Cut.openBlock (h : l.Cut e) (t : Token) : Ensures (Cut e) (l.openBlock t) := by
  refine .ite (.ok h) (.ite (.error _) ?_)
  have inside := h.indentTo l.cursor.column
  split
  · rename_i found
    rw [found] at inside
    exact .ok ⟨inside.cut, inside.unfinished⟩
  · rename_i found
    rw [found] at inside
    exact .ok inside

theorem Cut.markKey (h : l.Cut e) (k : Candidate) : (l.markKey k).Cut e := by
  unfold Lexer.markKey
  dsimp only
  split
  · exact ⟨h.cut, h.unfinished⟩
  · have inside (candidates : List (Nat × Candidate)) : ({ l with candidates }.indentTo k.column).2.Cut e :=
      Cut.indentTo (l := { l with candidates }) ⟨h.cut, h.unfinished⟩ _
    exact ⟨(inside _).cut, (inside _).unfinished⟩

theorem Cut.endKey (h : l.Cut e) : Ensures (Cut e) l.endKey := by
  unfold Lexer.endKey
  split
  · exact .ok (h.markKey _)
  · exact (h.openBlock _).bind fun _ h => (h.allowKey _).dropCandidate

/-- Every kind of token leaves the text as it is. -/
theorem Cut.readFrom (h : l.Cut e) (x : Char) : Ensures (Cut e) (l.readFrom x) := by
  have directive : Ensures (Cut e) l.readDirective :=
    (h.unindent _).dropCandidate.bind fun _ h => .after fun _ _ => .ok ⟨h.cut, h.unfinished⟩
  have marker (t : Token) : Ensures (Cut e) (l.readMarker t) :=
    (h.unindent _).dropCandidate.bind fun _ h => .ok ⟨h.cut, h.unfinished⟩
  have openFlow (t : Token) : Ensures (Cut e) (l.openFlow t) :=
    h.saveCandidate.bind fun _ h => .ok ⟨h.cut, h.unfinished⟩
  have closeFlow (t : Token) : Ensures (Cut e) (l.closeFlow t) :=
    h.dropCandidate.bind fun _ h => .ok ⟨h.cut, h.unfinished⟩
  have flowEntry : Ensures (Cut e) l.readFlowEntry :=
    h.dropCandidate.bind fun _ h => .ok ⟨h.cut, h.unfinished⟩
  have blockEntry : Ensures (Cut e) l.readBlockEntry :=
    (h.openBlock _).bind fun _ h => (h.allowKey _).dropCandidate.bind fun _ h => .ok ⟨h.cut, h.unfinished⟩
  have key : Ensures (Cut e) l.readKey :=
    (h.openBlock _).bind fun _ h => (h.allowKey _).dropCandidate.bind fun _ h => .ok ⟨h.cut, h.unfinished⟩
  have value : Ensures (Cut e) l.readValue :=
    h.endKey.bind fun _ h => .ok ⟨h.cut, h.unfinished⟩
  have node (read : Cursor → Except Error (Token × Cursor)) : Ensures (Cut e) (l.readNode read) :=
    h.saveCandidate.bind fun _ h => .after fun _ _ => .ok ⟨h.cut, h.unfinished⟩
  have block (folded : Bool) : Ensures (Cut e) (l.readBlockScalar folded) :=
    (h.allowKey true).dropCandidate.bind fun _ h => .after fun _ _ => .ok ⟨h.cut, h.unfinished⟩
  have plain : Ensures (Cut e) l.readPlain :=
    h.saveCandidate.bind fun _ h => .after fun _ _ => .ok ⟨h.cut, h.unfinished⟩
  exact .ite directive <| .ite (marker _) <| .ite (marker _) <| .ite (openFlow _) <| .ite (openFlow _) <|
    .ite (closeFlow _) <| .ite (closeFlow _) <| .ite flowEntry <| .ite blockEntry <| .ite key <| .ite value <|
    .ite (node _) <| .ite (node _) <| .ite (node _) <| .ite (block _) <| .ite (block _) <| .ite (node _) <|
    .ite (node _) <| .ite plain <| .after fun _ _ => .error _

theorem Cut.readToken (h : l.Cut e) (some_char : l.cursor.peek ≠ none) : Ensures (Cut e) l.readToken := by
  unfold Lexer.readToken
  split
  · exact absurd ‹_› some_char
  · exact .after fun _ _ => h.readFrom _

/-- Where a character is needed there is one. -/
theorem Cut.peek_ne_none (h : l.Cut e) (needed : l.cursor.need 1 = .ok ()) : l.cursor.peek ≠ none := by
  intro nothing
  rw [Cursor.need, h.cut] at needed
  rw [Cursor.peek, List.head?_eq_none_iff] at nothing
  rw [nothing] at needed
  cases needed

theorem Cut.step (h : l.Cut e) : Ensures (Cut e) l.step := by
  unfold Lexer.step
  refine h.dropStale.bind fun l h => ?_
  have passed := h.toNextToken (l.cursor.rest.length + 1)
  refine .after fun _ needed => .after fun m dropped => ?_
  have some_char : (m.unindent m.cursor.column).cursor.peek ≠ none := by
    rw [cursor_unindent, cursor_dropStale m dropped]
    exact passed.peek_ne_none needed
  exact (((passed.dropStale m dropped).unindent _).readToken some_char).bind fun _ h => .after fun _ _ => .ok h

theorem exists_broken (e : Error) (l : Lexer) : ∃ why, (l.broken e).getLast? = some (.broken why) :=
  ⟨e, by rw [broken, List.getLast?_concat]⟩

theorem Cut.run (h : l.Cut e) (fuel : Nat) : ∃ why, (l.run fuel).getLast? = some (.broken why) := by
  induction fuel generalizing l with
  | zero => exact exists_broken _ l
  | succ fuel ih =>
    rw [Lexer.run]
    split
    · exact exists_broken _ l
    · rename_i next stepped
      have h := h.step next stepped
      rw [if_neg (by simp [h.unfinished])]
      exact ih h

end Lexer

/-- The tokens of a text of which not all can be had end with the reason. -/
theorem tokens_of_cut {s : Source} {e : Error} (h : s.cut = some e) :
    ∃ why, (tokens s).getLast? = some (.broken why) := by
  have start : (Lexer.start s).Cut e := by
    unfold Lexer.start
    refine ⟨?_, rfl⟩
    dsimp only
    split
    · rw [Cursor.cut_advance]
      exact h
    · exact h
  exact start.run _

/-! ### Nodes -/

namespace Reader

variable {r : Reader} {t : Token} {α : Type}

/-- The last token is the reason why no more can be had. -/
def Broken (r : Reader) : Prop :=
  ∃ e, r.tokens.getLast? = some (.broken e)

theorem getLast?_of_cons {ts : List Token} {e : Error} (last : (t :: ts).getLast? = some (.broken e))
    (other : ∀ e, t ≠ .broken e) : ts.getLast? = some (.broken e) := by
  rw [List.getLast?_cons] at last
  cases ts with
  | nil => exact absurd (Option.some.inj last) (other e)
  | cons t ts => exact last

/-- Every token but the last may be taken. -/
theorem Broken.drop (h : r.Broken) (next : r.peek = some t) (other : ∀ e, t ≠ .broken e) : r.drop.Broken := by
  obtain ⟨e, last⟩ := h
  obtain ⟨rest, whole⟩ := List.head?_eq_some_iff.mp next
  rw [whole] at last
  refine ⟨e, ?_⟩
  rw [Reader.drop, whole, List.tail_cons]
  exact getLast?_of_cons last other

theorem Broken.next? {s : Reader} (h : r.Broken) (found : r.next? t = some s) (other : ∀ e, t ≠ .broken e) :
    s.Broken := by
  unfold Reader.next? at found
  split at found
  · rename_i next
    cases found
    exact h.drop (beq_iff_eq.mp next) other
  · cases found

theorem Broken.expect (h : r.Broken) (other : ∀ e, t ≠ .broken e) : Ensures Broken (r.expect t) := by
  unfold Reader.expect
  split
  · exact .ok (h.next? ‹_› other)
  · exact .error _

theorem Broken.anchor? (h : r.Broken) : r.anchor?.2.Broken := by
  unfold Reader.anchor?
  split
  · exact h.drop ‹_› (by nofun)
  · exact h

theorem Broken.tag? (h : r.Broken) : r.tag?.2.Broken := by
  unfold Reader.tag?
  split
  · exact h.drop ‹_› (by nofun)
  · exact h

theorem Broken.properties (h : r.Broken) : Ensures (fun p => p.2.2.Broken) r.properties := by
  unfold Reader.properties
  have h := h.anchor?.tag?
  dsimp only
  split
  · exact .ok h
  · refine .ite (.error _) (.after fun _ _ => .ok ?_)
    split
    · exact h
    · exact h.anchor?

/-- A node and the tokens after it, of which the last is still the same. -/
abbrev Keeps (x : Except Error (α × Reader)) : Prop :=
  Ensures (fun p => p.2.Broken) x

theorem Broken.add (h : r.Broken) (name : Option String) (node : Node) : Keeps (r.add name node) := by
  unfold Reader.add
  dsimp only
  split
  · exact .ok h
  · exact .ite (.error _) (.ok h)

theorem Broken.addOpen (h : r.Broken) (depth : Nat) (name : Option String) (node : Node) :
    Keeps (r.addOpen depth name node) :=
  .ite (.error _) (h.add name node)

theorem Broken.complete (h : r.Broken) (id : Nat) (node : Node) : (r.complete id node).2.Broken := h

theorem Broken.missing (h : r.Broken) : Keeps r.missing :=
  h.add _ _

theorem Broken.bare (h : r.Broken) (name tag : Option String) : Keeps (r.bare name tag) :=
  .ite (.error _) (h.add _ _)

theorem Broken.optional (h : r.Broken) (ends : List Token) {read : Reader → Except Error (Nat × Reader)}
    (keeps : Keeps (read r)) : Keeps (r.optional ends read) :=
  .ite h.missing keeps

theorem Broken.entryValue (h : r.Broken) (ends : List Token) {read : Reader → Except Error (Nat × Reader)}
    (keeps : ∀ r : Reader, r.Broken → Keeps (read r)) : Keeps (r.entryValue ends read) := by
  unfold Reader.entryValue
  split
  · have h := h.next? ‹_› (by nofun)
    exact h.optional ends (keeps _ h)
  · exact h.missing

theorem Broken.separator (h : r.Broken) (first : Bool) : Ensures Broken (r.separator first) :=
  .ite (.ok h) (h.expect (by nofun))

/-- No reading of nodes takes the last token. -/
structure KeepsLast (fuel : Nat) : Prop where
  node (block indentless : Bool) (depth : Nat) {r : Reader} (h : r.Broken) :
    Keeps (node block indentless depth fuel r)
  blockItems (depth : Nat) {r : Reader} (h : r.Broken) : Keeps (blockItems depth fuel r)
  indentlessItems (depth : Nat) {r : Reader} (h : r.Broken) : Keeps (indentlessItems depth fuel r)
  blockEntries (depth : Nat) {r : Reader} (h : r.Broken) : Keeps (blockEntries depth fuel r)
  flowItems (depth : Nat) (first : Bool) {r : Reader} (h : r.Broken) : Keeps (flowItems depth first fuel r)
  flowEntries (depth : Nat) (first : Bool) {r : Reader} (h : r.Broken) : Keeps (flowEntries depth first fuel r)

section
variable {fuel : Nat} (ih : KeepsLast fuel) (h : r.Broken)
include ih h

theorem KeepsLast.node_succ (block indentless : Bool) (depth : Nat) :
    Keeps (Reader.node block indentless depth (fuel + 1) r) := by
  rw [Reader.node]
  split
  · split
    · exact .ok (h.drop ‹_› (by nofun))
    · exact .error _
  · refine h.properties.bind ?_
    rintro ⟨name, tag, r⟩ h
    dsimp only at h ⊢
    split
    · exact (h.drop ‹_› (by nofun)).add _ _
    · exact ((h.drop ‹_› (by nofun)).addOpen _ _ _).bind fun _ h => (ih.flowItems _ _ h).bind fun _ h => .ok h
    · exact ((h.drop ‹_› (by nofun)).addOpen _ _ _).bind fun _ h => (ih.flowEntries _ _ h).bind fun _ h => .ok h
    · exact .ite ((h.addOpen _ _ _).bind fun _ h => (ih.indentlessItems _ h).bind fun _ h => .ok h) (h.bare _ _)
    · exact .ite (((h.drop ‹_› (by nofun)).addOpen _ _ _).bind fun _ h => (ih.blockItems _ h).bind fun _ h => .ok h)
        (h.bare _ _)
    · exact .ite (((h.drop ‹_› (by nofun)).addOpen _ _ _).bind fun _ h => (ih.blockEntries _ h).bind fun _ h => .ok h)
        (h.bare _ _)
    · exact h.bare _ _

theorem KeepsLast.blockItems_succ (depth : Nat) : Keeps (Reader.blockItems depth (fuel + 1) r) := by
  rw [Reader.blockItems]
  split
  · have h := h.next? ‹_› (by nofun)
    exact (h.optional _ (ih.node _ _ _ h)).bind fun _ h => (ih.blockItems _ h).bind fun _ h => .ok h
  · exact (h.expect (by nofun)).bind fun _ h => .ok h

theorem KeepsLast.indentlessItems_succ (depth : Nat) : Keeps (Reader.indentlessItems depth (fuel + 1) r) := by
  rw [Reader.indentlessItems]
  split
  · have h := h.next? ‹_› (by nofun)
    exact (h.optional _ (ih.node _ _ _ h)).bind fun _ h => (ih.indentlessItems _ h).bind fun _ h => .ok h
  · exact .ok h

theorem KeepsLast.blockEntries_succ (depth : Nat) : Keeps (Reader.blockEntries depth (fuel + 1) r) := by
  rw [Reader.blockEntries]
  split
  · have h := h.next? ‹_› (by nofun)
    exact (h.optional _ (ih.node _ _ _ h)).bind fun _ h =>
      (h.entryValue _ fun _ h => ih.node _ _ _ h).bind fun _ h => (ih.blockEntries _ h).bind fun _ h => .ok h
  · exact (h.expect (by nofun)).bind fun _ h => .ok h

theorem KeepsLast.flowItems_succ (depth : Nat) (first : Bool) :
    Keeps (Reader.flowItems depth first (fuel + 1) r) := by
  rw [Reader.flowItems]
  split
  · exact .ok (h.next? ‹_› (by nofun))
  · refine (h.separator first).bind fun r h => ?_
    split
    · exact .ok (h.next? ‹_› (by nofun))
    · exact ((h.next? ‹_› (by nofun)).addOpen _ _ _).bind fun _ h => (h.optional _ (ih.node _ _ _ h)).bind fun _ h =>
        (h.entryValue _ fun _ h => ih.node _ _ _ h).bind fun _ h =>
          (ih.flowItems _ _ (h.complete _ _)).bind fun _ h => .ok h
    · exact (ih.node _ _ _ h).bind fun _ h => (ih.flowItems _ _ h).bind fun _ h => .ok h

theorem KeepsLast.flowEntries_succ (depth : Nat) (first : Bool) :
    Keeps (Reader.flowEntries depth first (fuel + 1) r) := by
  rw [Reader.flowEntries]
  split
  · exact .ok (h.next? ‹_› (by nofun))
  · refine (h.separator first).bind fun r h => ?_
    split
    · exact .ok (h.next? ‹_› (by nofun))
    · have h := h.next? ‹_› (by nofun)
      exact (h.optional _ (ih.node _ _ _ h)).bind fun _ h =>
        (h.entryValue _ fun _ h => ih.node _ _ _ h).bind fun _ h => (ih.flowEntries _ _ h).bind fun _ h => .ok h
    · exact (ih.node _ _ _ h).bind fun _ h => h.missing.bind fun _ h =>
        (ih.flowEntries _ _ h).bind fun _ h => .ok h

end

theorem keepsLast (fuel : Nat) : KeepsLast fuel := by
  induction fuel with
  | zero =>
    constructor <;> · intros; exact .error _
  | succ fuel ih =>
    exact {
      node := fun _ _ _ _ h => ih.node_succ h _ _ _
      blockItems := fun _ _ h => ih.blockItems_succ h _
      indentlessItems := fun _ _ h => ih.indentlessItems_succ h _
      blockEntries := fun _ _ h => ih.blockEntries_succ h _
      flowItems := fun _ _ _ h => ih.flowItems_succ h _ _
      flowEntries := fun _ _ _ h => ih.flowEntries_succ h _ _ }

/-! ### Documents -/

theorem directives_keeps {ts : List Token} {e : Error} (h : ts.getLast? = some (.broken e)) (version : Bool)
    (handles : List (String × String)) :
    Ensures (fun p => p.1.getLast? = some (.broken e)) (directives ts version handles) := by
  fun_induction directives ts version handles with
  | case1 => exact .error _
  | case2 _ _ _ _ _ ih => exact ih (getLast?_of_cons h (by nofun))
  | case3 => exact .error _
  | case4 _ _ _ _ _ _ ih => exact ih (getLast?_of_cons h (by nofun))
  | case5 _ _ _ ih => exact ih (getLast?_of_cons h (by nofun))
  | case6 => exact .ok h

theorem opening_keeps {ts : List Token} {e : Error} (h : ts.getLast? = some (.broken e)) :
    Ensures Broken (opening ts) := by
  refine (directives_keeps h false []).bind ?_
  rintro ⟨ts, handles⟩ h
  exact Broken.expect (r := ⟨ts, #[], [], handles ++ usualHandles⟩) ⟨e, h⟩ (by nofun)

/-- Only ends of documents may be left at the end. -/
theorem Broken.ending (h : r.Broken) : Ensures (fun _ => False) r.ending := by
  obtain ⟨e, last⟩ := h
  unfold Reader.ending
  split
  · rename_i none_left
    have ends := List.dropWhile_eq_nil_iff.mp none_left (.broken e) (List.mem_of_getLast? last)
    exact absurd (beq_iff_eq.mp ends) (by nofun)
  · exact .after fun _ _ => .error _

theorem Broken.root (h : r.Broken) (explicit : Bool) : Keeps (r.root explicit) :=
  .ite h.missing ((keepsLast _).node _ _ _ h)

theorem document_of_broken {ts : List Token} {e : Error} (h : ts.getLast? = some (.broken e)) :
    Ensures (fun _ => False) (document ts) := by
  have some_token : ts.isEmpty = false := by
    cases ts with
    | nil => cases h
    | cons t ts => rfl
  have beginning : Ensures Broken (beginning ts) := .ite (opening_keeps h) (.ok ⟨e, h⟩)
  rw [document, some_token]
  exact beginning.bind fun _ h => (h.root _).bind fun _ h => h.ending.bind fun _ never => never.elim

end Reader

/-- A text is a document only if all of its characters can be had. -/
theorem cut_of_read {s : Source} {v : Value} (h : read s = .ok v) : s.cut = none := by
  cases cut : s.cut with
  | none => rfl
  | some e =>
    obtain ⟨why, last⟩ := tokens_of_cut cut
    obtain ⟨found, document, -⟩ := bind_eq_ok.mp h
    exact (Reader.document_of_broken last found document).elim

/-- A file is a document only if it is a text as a whole, and then it is what this text is. -/
theorem text_of_read {content : List UInt8} {v : Value} (h : read (.ofBytes content) = .ok v) :
    ∃ cs, Text.Utf8.decode? content = some cs ∧ read { chars := Text.unifyLineEnds cs } = .ok v := by
  obtain ⟨cs, decoded, whole⟩ := Source.decode?_of_cut (cut_of_read h)
  exact ⟨cs, decoded, whole ▸ h⟩

end ClusterMdns.Document.Yaml
