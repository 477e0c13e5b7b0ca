import ClusterMdns.Text.Utf8

/-! Bytes as texts. They are read code by code, so that those of which only a part has come are read as far as they
go, and what is left of them when more have come. -/

namespace ClusterMdns.Text

namespace Utf8

/-! ### Codes -/

theorem tail?_eq_some {b : UInt8} {x : Nat} (h : tail? b = some x) :
    0x80 ≤ b.toNat ∧ b.toNat < 0xC0 ∧ x = b.toNat - 0x80 := by
  rw [tail?, Option.ite_none_right_eq_some, Bool.and_eq_true, decide_eq_true_eq, decide_eq_true_eq] at h
  exact ⟨h.1.1, h.1.2, (Option.some.inj h.2).symm⟩

theorem leads_iff (a b : UInt8) : leads a b = true ↔ 0xE0 ≤ a.toNat ∧ a.toNat < 0xF5 ∧
    0x80 ≤ b.toNat ∧ b.toNat < 0xC0 ∧ (a.toNat = 0xE0 → 0xA0 ≤ b.toNat) ∧ (a.toNat = 0xF0 → 0x90 ≤ b.toNat) ∧
      (a.toNat = 0xF4 → b.toNat < 0x90) := by
  simp only [leads, Bool.and_eq_true, Bool.or_eq_true, decide_eq_true_eq, bne_iff_ne, ne_eq]
  omega

section
variable {a b c d : UInt8} {n : Nat}

theorem code2?_eq_some (h : code2? a b = some n) : 0xC2 ≤ a.toNat ∧ a.toNat < 0xE0 := by
  rw [code2?, Option.ite_none_right_eq_some, Bool.and_eq_true, decide_eq_true_eq, decide_eq_true_eq] at h
  exact h.1

theorem code3?_eq_some (h : code3? a b c = some n) : leads a b = true := by
  rw [code3?, Option.ite_none_right_eq_some, Bool.and_eq_true, decide_eq_true_eq, decide_eq_true_eq] at h
  obtain ⟨first, h⟩ := h
  obtain ⟨x, hx, h⟩ := Option.bind_eq_some_iff.mp h
  obtain ⟨y, hy, h⟩ := Option.bind_eq_some_iff.mp h
  have := tail?_eq_some hx
  have := tail?_eq_some hy
  dsimp only at h
  rw [Option.ite_none_left_eq_some] at h
  rw [leads_iff]
  omega

theorem code4?_eq_some (h : code4? a b c d = some n) :
    0xF0 ≤ a.toNat ∧ leads a b = true ∧ (tail? c).isSome = true := by
  rw [code4?, Option.ite_none_right_eq_some, Bool.and_eq_true, decide_eq_true_eq, decide_eq_true_eq] at h
  obtain ⟨first, h⟩ := h
  obtain ⟨x, hx, h⟩ := Option.bind_eq_some_iff.mp h
  obtain ⟨y, hy, h⟩ := Option.bind_eq_some_iff.mp h
  obtain ⟨z, hz, h⟩ := Option.bind_eq_some_iff.mp h
  have := tail?_eq_some hx
  have := tail?_eq_some hy
  have := tail?_eq_some hz
  dsimp only at h
  rw [Option.ite_none_left_eq_some, Bool.or_eq_true, decide_eq_true_eq, decide_eq_true_eq] at h
  refine ⟨first.1, ?_, by rw [hy]; rfl⟩
  rw [leads_iff]
  omega

end

/-- The bytes that stand for one code. -/
inductive Code : List UInt8 → Nat → Prop
  | one {a : UInt8} (small : a < 0x80) : Code [a] a.toNat
  | two {a b : UInt8} {n : Nat} (wide : ¬ a < 0x80) (read : code2? a b = some n) : Code [a, b] n
  | three {a b c : UInt8} {n : Nat} (wide : ¬ a < 0x80) (not_two : code2? a b = none)
      (read : code3? a b c = some n) : Code [a, b, c] n
  | four {a b c d : UInt8} {n : Nat} (wide : ¬ a < 0x80) (not_two : code2? a b = none)
      (not_three : code3? a b c = none) (read : code4? a b c d = some n) : Code [a, b, c, d] n

theorem Code.front_append {word : List UInt8} {n : Nat} (h : Code word n) (rest : List UInt8) :
    front (word ++ rest) = (front rest).map (n :: ·) id := by
  rw [front.eq_def]
  cases h with
  | one small => exact if_pos small
  | two wide read => simp [wide, read]
  | three wide not_two read => simp [wide, not_two, read]
  | four wide not_two not_three read => simp [wide, not_two, not_three, read]

theorem Code.length_le {word : List UInt8} {n : Nat} (h : Code word n) : word.length ≤ 4 := by
  cases h <;> simp

/-- Bytes are read code by code, up to where there is none. -/
theorem codes_induction {motive : List UInt8 → Prop} (stuck : ∀ bytes, front bytes = ([], bytes) → motive bytes)
    (code : ∀ {word n rest}, Code word n → motive rest → motive (word ++ rest)) (bytes : List UInt8) :
    motive bytes := by
  fun_induction front bytes with
  | case1 => exact stuck _ rfl
  | case2 a rest small ih => exact code (.one small) ih
  | case3 a wide => exact stuck _ (by simp [front, wide])
  | case4 a wide b rest n read ih => exact code (.two wide read) ih
  | case5 a wide b not_two => exact stuck _ (by simp [front, wide, not_two])
  | case6 a wide b not_two c rest n read ih => exact code (.three wide not_two read) ih
  | case7 a wide b not_two c not_three => exact stuck _ (by simp [front, wide, not_two, not_three])
  | case8 a wide b not_two c not_three d rest n read ih => exact code (.four wide not_two not_three read) ih
  | case9 a wide b not_two c not_three d rest not_four =>
    exact stuck _ (by simp [front, wide, not_two, not_three, not_four])

/-- What is left of bytes is read together with those that come. -/
theorem front_append (bytes more : List UInt8) :
    front (bytes ++ more) = (front ((front bytes).2 ++ more)).map ((front bytes).1 ++ ·) id := by
  induction bytes using codes_induction with
  | stuck bytes h =>
    rw [h]
    rfl
  | code word ih =>
    rw [List.append_assoc, word.front_append, word.front_append, ih]
    rfl

/-- What is left cannot be read by itself. -/
theorem front_left (bytes : List UInt8) : front (front bytes).2 = ([], (front bytes).2) := by
  induction bytes using codes_induction with
  | stuck bytes h =>
    rw [h]
    exact h
  | code word ih =>
    rw [word.front_append]
    exact ih

theorem length_front_le (bytes : List UInt8) : (front bytes).1.length ≤ bytes.length := by
  induction bytes using codes_induction with
  | stuck bytes h =>
    rw [h]
    exact Nat.zero_le _
  | code word ih =>
    rw [word.front_append]
    cases word <;> simp <;> omega

theorem isOpen_one {a : UInt8} : isOpen [a] = true ↔ 0xC2 ≤ a.toNat ∧ a.toNat < 0xF5 := by
  rw [isOpen, Bool.and_eq_true, decide_eq_true_eq, decide_eq_true_eq]

/-- The start of a code is open for the bytes that it lacks. -/
theorem Code.isOpen_of_append {left lack : List UInt8} {n : Nat} (h : Code (left ++ lack) n) (some_lack : lack ≠ []) :
    isOpen left = true := by
  match left, h with
  | [], _ => rfl
  | [a], h =>
    rw [isOpen_one]
    cases h with
    | one => exact absurd rfl some_lack
    | two _ read =>
      have := code2?_eq_some read
      omega
    | three _ _ read =>
      have := (leads_iff _ _).mp (code3?_eq_some read)
      omega
    | four _ _ _ read =>
      have := (leads_iff _ _).mp (code4?_eq_some read).2.1
      omega
  | [a, b], h =>
    cases h with
    | two => exact absurd rfl some_lack
    | three _ _ read => exact code3?_eq_some read
    | four _ _ _ read => exact (code4?_eq_some read).2.1
  | [a, b, c], h =>
    cases h with
    | three => exact absurd rfl some_lack
    | four _ _ _ read =>
      obtain ⟨first, second, third⟩ := code4?_eq_some read
      rw [isOpen, second, third]
      simpa using first
  | a :: b :: c :: d :: left, h =>
    have short := h.length_le
    have some_byte := List.length_pos_iff.mpr some_lack
    simp only [List.cons_append, List.length_cons, List.length_append] at short
    omega

/-- What is left of bytes is the start of a code, if it can be read when more have come. -/
theorem isOpen_left {bytes more : List UInt8} (h : (front ((front bytes).2 ++ more)).2 = []) :
    isOpen (front bytes).2 = true := by
  have stuck := front_left bytes
  generalize (front bytes).2 = left at h stuck
  generalize whole : left ++ more = all at h
  induction all using codes_induction with
  | stuck all none =>
    rw [none] at h
    obtain rfl := List.append_eq_nil_iff.mp (whole.trans h) |>.1
    rfl
  | @code word n rest found _ =>
    rcases List.append_eq_append_iff.mp whole with ⟨lack, rfl, -⟩ | ⟨extra, rfl, -⟩
    · by_cases some_lack : lack = []
      · subst some_lack
        have read := found.front_append []
        rw [List.append_nil, List.append_nil] at read
        rw [stuck] at read
        cases read
      · exact found.isOpen_of_append some_lack
    · have read := found.front_append extra
      rw [stuck] at read
      cases read

/-! ### Characters -/

/-- The characters that bytes stand for, each as itself. -/
def chars? (bytes : List UInt8) : Option (List Char) := do
  let codes ← codes? bytes
  if codes.any Surrogate.isHalf then none else some (codes.map Char.ofNat)

theorem decode?_eq_chars (bytes : List UInt8) :
    decode? bytes = (chars? bytes).map (·.flatMap Surrogate.literally) := by
  rw [decode?, chars?]
  cases codes? bytes with
  | none => rfl
  | some codes =>
    simp only [Option.bind_eq_bind, Option.bind_some, Surrogate.strict?]
    split
    · rfl
    · rename_i whole
      have each : ∀ n ∈ codes, Surrogate.ofCode n = Surrogate.literally (Char.ofNat n) := by
        intro n hn
        rw [Surrogate.ofCode, if_neg]
        exact fun half => whole (List.any_eq_true.mpr ⟨n, hn, half⟩)
      rw [Option.map_some, Surrogate.ofCodes, List.flatMap_map, List.flatMap_def,
        List.map_congr_left each, ← List.flatMap_def]

theorem chars?_eq_some {bytes : List UInt8} {cs : List Char} (h : chars? bytes = some cs) :
    ∃ codes, front bytes = (codes, []) ∧ codes.any Surrogate.isHalf = false ∧ cs = codes.map Char.ofNat := by
  obtain ⟨codes, read, h⟩ := Option.bind_eq_some_iff.mp h
  rw [Option.ite_none_left_eq_some, Bool.not_eq_true] at h
  unfold codes? at read
  split at read
  · rename_i found
    cases read
    exact ⟨_, found, h.1, (Option.some.inj h.2).symm⟩
  · cases read

theorem length_chars?_le {bytes : List UInt8} {cs : List Char} (h : chars? bytes = some cs) :
    cs.length ≤ bytes.length := by
  obtain ⟨codes, read, -, rfl⟩ := chars?_eq_some h
  have fewer := length_front_le bytes
  rwa [read, ← List.length_map (f := Char.ofNat)] at fewer

theorem chars?_append (bytes more : List UInt8) : chars? (bytes ++ more) =
    if (front bytes).1.any Surrogate.isHalf then none
    else (chars? ((front bytes).2 ++ more)).map ((front bytes).1.map Char.ofNat ++ ·) := by
  rw [chars?, chars?, codes?, codes?, front_append]
  rcases front ((front bytes).2 ++ more) with ⟨later, _ | ⟨b, left⟩⟩
  · simp only [Prod.map, id, Option.bind_eq_bind, Option.bind_some, List.any_append, List.map_append]
    cases (front bytes).1.any Surrogate.isHalf <;> cases later.any Surrogate.isHalf <;> rfl
  · simp only [Prod.map, id, Option.bind_eq_bind, Option.bind_none, Option.map_none, ite_self]

end Utf8

end ClusterMdns.Text
