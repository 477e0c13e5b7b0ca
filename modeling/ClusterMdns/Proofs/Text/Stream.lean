import ClusterMdns.Proofs.Text.Utf8
import ClusterMdns.Text.Stream

/-! Texts that are read in pieces. Whatever bytes are read at once, the pieces make up the text of all bytes, and there
is a piece that cannot be read if the bytes are no text. -/

namespace ClusterMdns.Text

/-! ### Line ends -/

section
variable {cs ds : List Char}

theorem unifyLineEnds_return (h : ds.head? ≠ some '\n') : unifyLineEnds ('\r' :: ds) = '\n' :: unifyLineEnds ds := by
  cases ds with
  | nil => rfl
  | cons d ds =>
    have other : d ≠ '\n' := fun same => h (congrArg some same)
    rw [unifyLineEnds]
    exact fun _ same => other (List.cons.inj same).1

/-- Line ends are unified in parts, unless one of them is divided. -/
theorem unifyLineEnds_append (h : cs.getLast? = some '\r' → ds.head? ≠ some '\n') :
    unifyLineEnds (cs ++ ds) = unifyLineEnds cs ++ unifyLineEnds ds := by
  have later {c : Char} {cs : List Char} (h : cs.getLast? = some '\r') : (c :: cs).getLast? = some '\r' := by
    rw [List.getLast?_cons, h]
    rfl
  fun_induction unifyLineEnds cs with
  | case1 => rfl
  | case2 cs ih =>
    rw [List.cons_append, List.cons_append, unifyLineEnds, ih fun last => h (later (later last))]
    rfl
  | case3 cs single ih =>
    have head : (cs ++ ds).head? ≠ some '\n' := by
      cases cs with
      | nil => exact h rfl
      | cons c cs =>
        intro same
        cases same
        exact single cs rfl
    rw [List.cons_append, unifyLineEnds_return head, ih fun last => h (later last)]
    rfl
  | case4 c cs not_pair not_return ih =>
    rw [List.cons_append, unifyLineEnds, ih fun last => h (later last)]
    · rfl
    · exact fun _ same _ => not_return same
    · exact not_return

theorem length_unifyLineEnds_le (cs : List Char) : (unifyLineEnds cs).length ≤ cs.length := by
  fun_induction unifyLineEnds cs with
  | case1 => exact Nat.le_refl _
  | case2 cs ih => simp only [List.length_cons]; omega
  | case3 cs _ ih => simp only [List.length_cons]; omega
  | case4 c cs _ _ ih => simp only [List.length_cons]; omega

end

namespace Stream

/-- A carriage return that is held back. -/
def returned (afterReturn : Bool) : List Char :=
  if afterReturn then ['\r'] else []

theorem settle_append (afterReturn : Bool) (cs ds : List Char) :
    unifyLineEnds (returned afterReturn ++ (cs ++ ds)) =
      (settle afterReturn cs).1 ++ unifyLineEnds (returned (settle afterReturn cs).2 ++ ds) := by
  have all : returned afterReturn ++ (cs ++ ds) = (if afterReturn then '\r' :: cs else cs) ++ ds := by
    cases afterReturn <;> rfl
  rw [all, settle]
  generalize (if afterReturn then '\r' :: cs else cs) = front
  split
  · rename_i last
    rw [beq_iff_eq] at last
    obtain ⟨init, rfl⟩ := List.getLast?_eq_some_iff.mp last
    rw [List.append_assoc, List.dropLast_concat]
    exact unifyLineEnds_append fun _ => by simp
  · rename_i last
    rw [beq_iff_eq] at last
    exact unifyLineEnds_append fun h => absurd h last

/-- The characters that are yet to be taken, if the bytes that are left make a text. -/
def remaining? (s : Stream) : Option (List Char) :=
  (Utf8.chars? (s.held ++ s.coming)).map fun cs => s.ready ++ unifyLineEnds (returned s.afterReturn ++ cs)

variable {s t : Stream} {n : Nat}

/-! ### Reading -/

theorem remaining?_split (s : Stream) (size : Nat) : s.remaining? =
    if (Utf8.front (s.held ++ s.coming.take size)).1.any Surrogate.isHalf then none
    else (Utf8.chars? ((Utf8.front (s.held ++ s.coming.take size)).2 ++ s.coming.drop size)).map fun cs =>
      s.ready ++ unifyLineEnds (returned s.afterReturn ++
        ((Utf8.front (s.held ++ s.coming.take size)).1.map Char.ofNat ++ cs)) := by
  have whole : s.held ++ s.coming = s.held ++ s.coming.take size ++ s.coming.drop size := by
    rw [List.append_assoc, List.take_append_drop]
  rw [remaining?, whole, Utf8.chars?_append]
  split
  · rfl
  · rw [Option.map_map]
    rfl

/-- Reading loses nothing, and fails only if the bytes are no text. -/
theorem remaining?_refill (s : Stream) (n : Nat) : s.remaining? = (s.refill n).bind remaining? := by
  rw [s.remaining?_split (max chunkLength (s.estimate n))]
  rcases read : Utf8.front (s.held ++ s.coming.take (max chunkLength (s.estimate n))) with ⟨codes, held⟩
  rcases settled : settle s.afterReturn (codes.map Char.ofNat) with ⟨cs, afterReturn⟩
  simp only [refill, read, settled]
  cases halves : codes.any Surrogate.isHalf with
  | true => rfl
  | false =>
    cases isOpen : Utf8.isOpen held with
    | true =>
      have lines (ds : List Char) := settle_append s.afterReturn (codes.map Char.ofNat) ds
      simp only [settled] at lines
      simp only [Bool.false_or, Bool.not_true, Bool.false_eq_true, if_false, Option.bind_some, remaining?, lines,
        List.append_assoc]
    | false =>
      simp only [Bool.false_or, Bool.not_false, Bool.false_eq_true, if_false, if_true, Option.bind_none,
        Option.map_eq_none_iff]
      refine Option.eq_none_iff_forall_ne_some.mpr fun ds text => ?_
      obtain ⟨more, whole, -, -⟩ := Utf8.chars?_eq_some text
      have left : (Utf8.front ((Utf8.front (s.held ++ s.coming.take (max chunkLength (s.estimate n)))).2 ++
          s.coming.drop (max chunkLength (s.estimate n)))).2 = [] := by
        rw [read, whole]
      have opened := Utf8.isOpen_left left
      rw [read, isOpen] at opened
      cases opened

/-- No character that is held back is whole. -/
def Waits (s : Stream) : Prop :=
  Utf8.front s.held = ([], s.held)

theorem waits_refill (h : s.refill n = some t) : t.Waits ∧ t.coming = s.coming.drop (max chunkLength (s.estimate n)) := by
  rcases read : Utf8.front (s.held ++ s.coming.take (max chunkLength (s.estimate n))) with ⟨codes, held⟩
  have stuck := Utf8.front_left (s.held ++ s.coming.take (max chunkLength (s.estimate n)))
  simp only [refill, read, Option.ite_none_left_eq_some] at h stuck
  obtain rfl := Option.some.inj h.2
  exact ⟨stuck, rfl⟩

theorem remaining?_of_ended (coming : s.coming = []) (held : s.held = []) (settled : s.afterReturn = false) :
    s.remaining? = some s.ready := by
  rw [remaining?, held, coming, settled]
  exact congrArg some (List.append_nil _)

/-- At the end of the bytes nothing is lost either, and all characters are ready. -/
theorem remaining?_finish (ended : s.coming = []) (waits : s.Waits) :
    s.remaining? = s.finish.bind remaining? ∧
      ∀ t, s.finish = some t → t.Waits ∧ t.coming = [] ∧ t.remaining? = some t.ready := by
  rw [finish]
  split
  · rename_i whole
    rw [List.isEmpty_iff] at whole
    have line : unifyLineEnds (returned s.afterReturn ++ []) = if s.afterReturn then ['\n'] else [] := by
      cases s.afterReturn <;> rfl
    have left : Utf8.chars? (s.held ++ s.coming) = some [] := by
      rw [whole, ended]
      rfl
    have all (ready : List Char) :
        ({ s with afterReturn := false, ready := ready } : Stream).remaining? = some ready :=
      remaining?_of_ended ended whole rfl
    refine ⟨?_, ?_⟩
    · rw [remaining?, left, Option.map_some, line]
      exact (all _).symm
    · rintro t ⟨⟩
      exact ⟨waits, ended, all _⟩
  · rename_i part
    have left : Utf8.chars? (s.held ++ s.coming) = none := by
      rw [ended, List.append_nil, Utf8.chars?, Utf8.codes?, waits]
      cases held : s.held with
      | nil => exact absurd (List.isEmpty_iff.mpr held) part
      | cons b bytes => rfl
    rw [remaining?, left]
    refine ⟨rfl, fun t h => ?_⟩
    cases h

/-- Reading on loses nothing, and fails only if the bytes are no text. There are as many characters ready as are
wanted, unless these are all. -/
theorem remaining?_fill {fuel : Nat} (waits : s.Waits) (enough : s.coming.length < fuel) :
    s.remaining? = (s.fill n fuel).bind remaining? ∧
      ∀ t, s.fill n fuel = some t → t.Waits ∧ (n ≤ t.ready.length ∨ t.remaining? = some t.ready) := by
  induction fuel generalizing s with
  | zero => exact absurd enough (Nat.not_lt_zero _)
  | succ fuel ih =>
    rw [fill]
    split
    · rename_i ready
      refine ⟨rfl, ?_⟩
      rintro t ⟨⟩
      exact ⟨waits, .inl ready⟩
    · split
      · rename_i ended
        rw [List.isEmpty_iff] at ended
        obtain ⟨same, result⟩ := remaining?_finish ended waits
        exact ⟨same, fun t h => ⟨(result t h).1, .inr (result t h).2.2⟩⟩
      · rename_i some_coming
        rw [remaining?_refill s (n - s.ready.length)]
        cases read : s.refill (n - s.ready.length) with
        | none =>
          refine ⟨rfl, fun t h => ?_⟩
          cases h
        | some t =>
          obtain ⟨waits, coming⟩ := waits_refill read
          have fewer : t.coming.length < fuel := by
            have some_byte : 0 < s.coming.length := by
              rw [List.length_pos_iff]
              simpa using some_coming
            have some_read : 0 < chunkLength := by decide
            rw [coming, List.length_drop]
            omega
          exact ih waits fewer

/-- What it means that some characters are taken: they and what is left are the text, and fewer than are wanted are
taken only at its end. -/
structure Taken (n : Nat) (s : Stream) (cs : List Char) (t : Stream) : Prop where
  waits : t.Waits
  parts : s.remaining? = t.remaining?.map (cs ++ ·)
  short (fewer : cs.length < n) : t.remaining? = some []

theorem taken {cs : List Char} (waits : s.Waits) (h : s.take? n = some (cs, t)) : Taken n s cs t := by
  obtain ⟨same, result⟩ := remaining?_fill (n := n) waits (Nat.lt_succ_self _)
  obtain ⟨u, filled, h⟩ := Option.map_eq_some_iff.mp h
  obtain ⟨waits, enough⟩ := result u filled
  cases h
  refine ⟨waits, ?_, fun fewer => ?_⟩
  · rw [same, filled, Option.bind_some, remaining?, remaining?, Option.map_map]
    refine congrArg (Option.map · _) (funext fun cs => ?_)
    rw [Function.comp, ← List.append_assoc, List.take_append_drop]
  · rw [List.length_take] at fewer
    have all : u.remaining? = some u.ready := enough.resolve_left (by omega)
    have none_left : u.ready.drop n = [] := List.drop_eq_nil_iff.mpr (by omega)
    rw [remaining?, Option.map_eq_some_iff] at all ⊢
    obtain ⟨ds, hds, whole⟩ := all
    rw [none_left]
    exact ⟨ds, hds, List.append_right_eq_self.mp whole⟩

/-- Nothing can be taken only if the bytes are no text. -/
theorem remaining?_of_take_none (waits : s.Waits) (h : s.take? n = none) : s.remaining? = none := by
  rw [(remaining?_fill (n := n) waits (Nat.lt_succ_self _)).1, Option.map_eq_none_iff.mp h]
  rfl

/-- Nothing is read yet. -/
theorem waits_ofBytes (content : List UInt8) : Waits { coming := content } := rfl

theorem remaining?_ofBytes (content : List UInt8) :
    remaining? { coming := content } = (Utf8.chars? content).map unifyLineEnds := rfl

end Stream

end ClusterMdns.Text
