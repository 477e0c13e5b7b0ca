import ClusterMdns.Dns.Query
import ClusterMdns.Proofs.Text.Blank
import ClusterMdns.Proofs.Text.Fields
import ClusterMdns.Proofs.Text.LowerCase

/-! Names do not differ by the case of their letters as far as keys are concerned. Texts that differ in the case of
their letters stand for names that differ in no more, whatever characters and escapes they consist of. -/

namespace ClusterMdns.Dns

open Text (toLower_cases toLower_of_not_ascii)

def lowerByte (b : UInt8) : UInt8 :=
  if 65 ≤ b.toNat ∧ b.toNat ≤ 90 then b + 32 else b

/-- The name with small letters for capital ones. -/
def Name.lower (name : Name) : Name :=
  name.map fun label => label.map lowerByte

def Name.SameLetters (m n : Name) : Prop :=
  m.lower = n.lower

/-- The same data, but for letter case in a name that is pointed to. -/
inductive RecordData.SameLetters : RecordData → RecordData → Prop
  | refl (d : RecordData) : SameLetters d d
  | ptr {m n : Name} (h : m.SameLetters n) : SameLetters (.ptr m) (.ptr n)

structure Record.SameLetters (r s : Record) : Prop where
  owner : r.owner.SameLetters s.owner
  data : r.data.SameLetters s.data

structure Question.SameLetters (q s : Question) : Prop where
  name : q.name.SameLetters s.name
  type : q.type = s.type

/-! ### Characters -/

/-- What is the same for a capital letter and the small one is so for any character and what it becomes. -/
theorem apply_toLower {β : Type} {f : Char → β}
    (h : ∀ c d : Char, 65 ≤ c.toNat → c.toNat ≤ 90 → d.toNat = c.toNat + 32 → f d = f c) (c : Char) :
    f c.toLower = f c := by
  rcases toLower_cases c with ⟨low, high, small⟩ | same
  · exact h c _ low high small
  · rw [same]

/-- A sign that is no letter does not change its case. -/
theorem toLower_beq {sign : Char} (h : sign.toNat < 65 ∨ 90 < sign.toNat ∧ sign.toNat < 97) (c : Char) :
    (c.toLower == sign) = (c == sign) := by
  refine apply_toLower (f := (· == sign)) (fun c d low high small => ?_) c
  have capital : c ≠ sign := by
    rintro rfl
    omega
  have other : d ≠ sign := by
    rintro rfl
    omega
  rw [beq_eq_false_iff_ne.mpr capital, beq_eq_false_iff_ne.mpr other]

theorem toLower_beq_dot (c : Char) : (c.toLower == '.') = (c == '.') :=
  toLower_beq (by decide) c

theorem toLower_beq_backslash (c : Char) : (c.toLower == '\\') = (c == '\\') :=
  toLower_beq (by decide) c

theorem toLower_eq_dot_iff (c : Char) : c.toLower = '.' ↔ c = '.' := by
  rw [← beq_iff_eq, toLower_beq_dot, beq_iff_eq]

theorem isDot_toLower (c : Char) : Name.isDot c.toLower = Name.isDot c := by
  have letter {c : Char} (low : 65 ≤ c.toNat) (high : c.toNat ≤ 122) : Name.isDot c = false := by
    simp only [Name.isDot, List.contains_eq_mem, List.mem_cons, List.not_mem_nil, or_false, decide_eq_false_iff_not]
    omega
  refine apply_toLower (fun c d low high small => ?_) c
  rw [letter low (by omega), letter (by omega) (by omega)]

theorem toLower_toLower (c : Char) : c.toLower.toLower = c.toLower := by
  rcases toLower_cases c with ⟨low, high, small⟩ | same
  · exact (toLower_cases c.toLower).resolve_left (by omega)
  · rw [same, same]

theorem lowerByte_toLower (c : Char) : lowerByte c.toLower.toNat.toUInt8 = lowerByte c.toNat.toUInt8 := by
  refine apply_toLower (f := fun c => lowerByte c.toNat.toUInt8) (fun c d low high small => ?_) c
  have byte {n : Nat} (h : n < 256) : n.toUInt8.toNat = n := Nat.mod_eq_of_lt h
  have capital := byte (n := c.toNat) (by omega)
  have letter := byte (n := d.toNat) (by omega)
  rw [lowerByte, lowerByte, if_neg (by omega), if_pos (by omega), small]
  exact UInt8.ofNat_add c.toNat 32

/-! ### Keys -/

theorem map_toLower_byteText (b : UInt8) :
    (Name.byteText (lowerByte b)).map Char.toLower = (Name.byteText b).map Char.toLower := by
  have all : ∀ n < 256, (Name.byteText (lowerByte n.toUInt8)).map Char.toLower =
      (Name.byteText n.toUInt8).map Char.toLower := by decide +kernel
  have h := all b.toNat b.toNat_lt
  rwa [show b.toNat.toUInt8 = b from UInt8.ofNat_toNat] at h

theorem Name.folded_lower (name : Name) : name.lower.folded = name.folded := by
  have labels : (name.lower.flatMap fun label => label.flatMap byteText ++ ['.']).map Char.toLower =
      (name.flatMap fun label => label.flatMap byteText ++ ['.']).map Char.toLower := by
    simp only [lower, List.flatMap_map, List.map_flatMap, List.map_append, map_toLower_byteText]
  have none : name.lower.isEmpty = name.isEmpty := List.isEmpty_map
  unfold folded chars
  rw [none]
  split
  · rfl
  · rw [labels]

theorem Name.SameLetters.folded {m n : Name} (h : m.SameLetters n) : m.folded = n.folded := by
  rw [← m.folded_lower, ← n.folded_lower, h]

theorem RecordData.SameLetters.code {d e : RecordData} (h : d.SameLetters e) : d.code = e.code := by
  cases h <;> rfl

theorem RecordData.SameLetters.folded {d e : RecordData} (h : d.SameLetters e) : d.folded = e.folded := by
  cases h with
  | refl => rfl
  | @ptr m n h =>
    have target (name : Name) : (RecordData.ptr name).folded = name.folded := by
      change name.text.map Char.toLower = _
      rw [← String.toList_inj, String.toList_map, Name.text, Name.folded, String.toList_ofList,
        String.toList_ofList]
    rw [target, target, h.folded]

/-- Records that differ in letter case have one key. -/
theorem Record.SameLetters.key {r s : Record} (h : r.SameLetters s) : r.key = s.key := by
  rw [Record.key, Record.key, h.owner.folded, h.data.code, h.data.folded]

/-! ### Texts -/

/-- The text with small letters for capital ones. -/
def lowerText (s : String) : String :=
  String.ofList (s.toList.map Char.toLower)

theorem toList_lowerText (s : String) : (lowerText s).toList = s.toList.map Char.toLower :=
  String.toList_ofList

def SameText (s t : String) : Prop :=
  lowerText s = lowerText t

theorem SameText.chars {s t : String} (h : SameText s t) :
    s.toList.map Char.toLower = t.toList.map Char.toLower := by
  rw [← toList_lowerText, ← toList_lowerText, h]

theorem lowerText_beq_empty (s : String) : (lowerText s == "") = (s == "") := by
  rw [Bool.eq_iff_iff, beq_iff_eq, beq_iff_eq, ← String.toList_inj, toList_lowerText, ← String.toList_inj]
  exact List.map_eq_nil_iff

/-- A sign that is no letter does not change its case. -/
theorem lowerText_beq_sign {sign : Char} (h : ∀ c : Char, (c.toLower == sign) = (c == sign)) (s : String) :
    (lowerText s == String.ofList [sign]) = (s == String.ofList [sign]) := by
  rw [Bool.eq_iff_iff, beq_iff_eq, beq_iff_eq, ← String.toList_inj, toList_lowerText, ← String.toList_inj,
    String.toList_ofList, List.map_eq_singleton_iff]
  constructor
  · rintro ⟨c, hc, lowered⟩
    rw [hc, beq_iff_eq.mp ((h c).symm.trans (beq_iff_eq.mpr lowered))]
  · intro hs
    exact ⟨sign, hs, beq_iff_eq.mp ((h sign).trans (beq_self_eq_true sign))⟩

theorem lowerText_beq_dot (s : String) : (lowerText s == ".") = (s == ".") :=
  lowerText_beq_sign toLower_beq_dot s

theorem lowerText_beq_at (s : String) : (lowerText s == "@") = (s == "@") :=
  lowerText_beq_sign (toLower_beq (by decide)) s

theorem endsWith_dot_lowerText (s : String) : Text.endsWith "." (lowerText s) = Text.endsWith "." s := by
  rw [Bool.eq_iff_iff, Text.endsWith_dot_iff, Text.endsWith_dot_iff, toList_lowerText, List.getLast?_map]
  cases s.toList.getLast? with
  | none => simp
  | some c => simp [toLower_eq_dot_iff]

/-! ### Labels in any script -/

namespace Name

theorem toNat_toLower_lt_iff (c : Char) : c.toLower.toNat < 0x80 ↔ c.toNat < 0x80 := by
  rcases toLower_cases c with ⟨low, high, small⟩ | same
  · omega
  · rw [same]

/-- Preparing makes small letters of capital ones. -/
theorem prepare?_toLower (cs : List Char) :
    Text.Prepared.prepare? (cs.map Char.toLower) = Text.Prepared.prepare? cs := by
  have letter {n : Nat} (h : n < 173) : Text.Prepared.invisibleRuns.contains n = false := if_pos h
  have visible (c : Char) : (!Text.Prepared.invisibleRuns.contains c.toLower.toNat) =
      !Text.Prepared.invisibleRuns.contains c.toNat := by
    refine apply_toLower (f := fun c => !Text.Prepared.invisibleRuns.contains c.toNat) (fun c d low high small => ?_) c
    rw [letter (n := d.toNat) (by omega), letter (by omega)]
  have once (c : Char) : Text.Prepared.foldOnce c.toLower.toNat = Text.Prepared.foldOnce c.toNat := by
    by_cases ascii : c.toNat < 0x80
    · rw [Text.Prepared.foldOnce, Text.Prepared.foldOnce, if_pos ascii, if_pos ((toNat_toLower_lt_iff c).mpr ascii),
        Char.ofNat_toNat, Char.ofNat_toNat, toLower_toLower]
    · rw [toLower_of_not_ascii ascii]
  have folded (c : Char) : Text.Prepared.fold c.toLower.toNat = Text.Prepared.fold c.toNat := by
    simp only [Text.Prepared.fold, once]
  have characters : (((cs.map Char.toLower).map Char.toNat).filter
        (!Text.Prepared.invisibleRuns.contains ·)).flatMap Text.Prepared.fold =
      ((cs.map Char.toNat).filter (!Text.Prepared.invisibleRuns.contains ·)).flatMap Text.Prepared.fold := by
    induction cs with
    | nil => rfl
    | cons c cs ih =>
      simp only [List.map_cons, List.filter_cons, visible c]
      split
      · rw [List.flatMap_cons, List.flatMap_cons, folded, ih]
      · exact ih
  simp only [Text.Prepared.prepare?, characters]

theorem isPlain_toLower (cs : List Char) : isPlain (cs.map Char.toLower) = isPlain cs := by
  simp only [isPlain, List.all_map, Function.comp_def, toNat_toLower_lt_iff]

theorem isLabel_map (f : Char → Char) (cs : List Char) : isLabel (cs.map f) = isLabel cs := by
  simp only [isLabel, List.length_map]

/-- The plain form of a label keeps the case of its letters, or makes small ones of all. -/
theorem plainLabel?_toLower (cs : List Char) :
    (plainLabel? (cs.map Char.toLower)).map (·.map Char.toLower) = (plainLabel? cs).map (·.map Char.toLower) := by
  rw [plainLabel?, plainLabel?, isPlain_toLower, prepare?_toLower]
  cases plain : isPlain cs with
  | false => rfl
  | true =>
    simp only [if_true, Option.bind_eq_bind, Option.bind_some, isPlain_toLower, plain, isLabel_map]
    split
    · simp only [Option.map_some, List.map_map, Function.comp_def, toLower_toLower]
    · rfl

/-! ### Names -/

theorem labelsOf_toLower (cs : List Char) : (labelsOf (cs.map Char.toLower)).lower = (labelsOf cs).lower := by
  simp only [labelsOf, Text.splitChars_map (p := (· == '.')) toLower_beq_dot, lower, List.map_map, Function.comp_def,
    lowerByte_toLower]

/-- Only the last piece may be empty. -/
theorem getLast?_map_beq (f : Char → Char) (pieces : List (List Char)) :
    ((pieces.map (·.map f)).getLast? == some []) = (pieces.getLast? == some []) := by
  rw [List.getLast?_map]
  cases pieces.getLast? with
  | none => rfl
  | some piece => cases piece <;> rfl

theorem ofPlain?_toLower (cs : List Char) : (ofPlain? (cs.map Char.toLower)).map lower = (ofPlain? cs).map lower := by
  have bytes (labels : List (List Char)) :
      lower ((labels.map (·.map Char.toLower)).map fun label => label.map fun c => c.toNat.toUInt8) =
        lower (labels.map fun label => label.map fun c => c.toNat.toUInt8) := by
    simp only [lower, List.map_map, Function.comp_def, lowerByte_toLower]
  have all (labels : List (List Char)) : (labels.map (·.map Char.toLower)).all isLabel = labels.all isLabel := by
    simp only [List.all_map, Function.comp_def, isLabel_map]
  unfold ofPlain?
  simp only [Text.splitChars_map (p := (· == '.')) toLower_beq_dot, getLast?_map_beq, ← List.map_dropLast,
    ← apply_ite, all]
  generalize Text.splitChars (· == '.') cs = pieces
  generalize (if (pieces.getLast? == some []) = true then pieces.dropLast else pieces) = labels
  split
  · rw [Option.map_some, Option.map_some, bytes]
  · rfl

theorem mapM_map_congr {α β : Type} {f : α → Option α} {small : α → α} {part : α → β}
    (h : ∀ x, (f (small x)).map part = (f x).map part) (xs : List α) :
    ((xs.map small).mapM f).map (·.map part) = (xs.mapM f).map (·.map part) := by
  have parts (x : Option α) (rest : Option (List α)) :
      (x.bind fun y => rest.bind fun ys => some (y :: ys)).map (fun ys : List α => ys.map part) =
        (x.map part).bind fun y => (rest.map fun ys : List α => ys.map part).bind fun ys => some (y :: ys) := by
    cases x <;> cases rest <;> rfl
  induction xs with
  | nil => rfl
  | cons x xs ih =>
    simp only [List.map_cons, List.mapM_cons, Option.pure_def, Option.bind_eq_bind, parts, h, ih]

theorem ofPrepared?_toLower (cs : List Char) :
    (ofPrepared? (cs.map Char.toLower)).map lower = (ofPrepared? cs).map lower := by
  have joined (labels : List (List Char)) :
      (labelsOf (Text.dropTrailing (· == '.') (Text.joinChars ['.'] labels))).lower =
        (labelsOf (Text.dropTrailing (· == '.') (Text.joinChars ['.'] (labels.map (·.map Char.toLower))))).lower := by
    have dots : ['.'].map Char.toLower = ['.'] := rfl
    rw [← labelsOf_toLower, ← Text.dropTrailing_map toLower_beq_dot, ← Text.joinChars_map, dots]
  have named (labels : Option (List (List Char))) :
      (labels.bind fun labels =>
        some (labelsOf (Text.dropTrailing (· == '.') (Text.joinChars ['.'] labels)))).map lower =
      (labels.map (·.map (·.map Char.toLower))).map fun labels =>
        (labelsOf (Text.dropTrailing (· == '.') (Text.joinChars ['.'] labels))).lower := by
    cases labels with
    | none => rfl
    | some labels => exact congrArg some (joined labels)
  unfold ofPrepared?
  simp only [Option.bind_eq_bind, named, Text.splitChars_map isDot_toLower, getLast?_map_beq, ← List.map_dropLast,
    ← apply_ite, mapM_map_congr plainLabel?_toLower]

theorem isDigit_iff (c : Char) : ('0' <= c && c <= '9') = true ↔ 48 ≤ c.toNat ∧ c.toNat ≤ 57 := by
  rw [Bool.and_eq_true, decide_eq_true_eq, decide_eq_true_eq]
  exact Iff.rfl

theorem escaped?_toLower (cs : List Char) : escaped? (cs.map Char.toLower) = escaped? cs := by
  have digit (c : Char) : ('0' <= c.toLower && c.toLower <= '9') = ('0' <= c && c <= '9') := by
    refine apply_toLower (f := fun c => '0' <= c && c <= '9') (fun c d low high small => ?_) c
    rw [Bool.eq_iff_iff, isDigit_iff, isDigit_iff]
    omega
  have same {c : Char} (h : ('0' <= c && c <= '9') = true) : c.toLower = c := by
    rw [isDigit_iff] at h
    exact (toLower_cases c).resolve_left (by omega)
  match cs with
  | [] | [_] | [_, _] | _ :: _ :: _ :: _ :: _ => rfl
  | [a, b, c] =>
    by_cases digits : [a, b, c].all (fun x => '0' <= x && x <= '9') = true
    · have each := List.all_eq_true.mp digits
      rw [List.map_congr_left fun x hx => same (each x hx), List.map_id']
    · have others : ¬ ([a, b, c].map Char.toLower).all (fun x => '0' <= x && x <= '9') = true := by
        simpa only [List.all_map, Function.comp_def, digit] using digits
      exact (if_neg others).trans (if_neg digits).symm

/-- Escapes have no letters, but they may stand for some. -/
theorem unescape_toLower (skip : Nat) (cs : List Char) :
    (unescape skip (cs.map Char.toLower)).map Char.toLower = (unescape skip cs).map Char.toLower := by
  fun_induction unescape skip cs with
  | case1 => rfl
  | case2 skip c cs ih => exact ih
  | case3 c cs x found ih =>
    rw [List.map_cons, unescape, toLower_beq_backslash, ← List.map_take, escaped?_toLower, found]
    exact congrArg (x.toLower :: ·) ih
  | case4 c cs missing ih =>
    rw [List.map_cons, unescape, toLower_beq_backslash, ← List.map_take, escaped?_toLower, missing]
    dsimp only
    rw [List.map_cons, List.map_cons, toLower_toLower, ih]

/-- Texts that differ in letter case stand for names that do not differ in more. -/
theorem ofText?_sameText {s t : String} (h : SameText s t) : (ofText? s).map lower = (ofText? t).map lower := by
  have read (s : String) : (ofText? s).map lower =
      if (lowerText s == "" || lowerText s == ".") = true then some root
      else if isPlain ((unescape 0 s.toList).map Char.toLower) then
        (ofPlain? ((unescape 0 s.toList).map Char.toLower)).map lower
      else (ofPrepared? ((unescape 0 s.toList).map Char.toLower)).map lower := by
    rw [lowerText_beq_empty, lowerText_beq_dot, isPlain_toLower, ofPlain?_toLower, ofPrepared?_toLower]
    unfold ofText?
    dsimp only
    split
    · rfl
    · split <;> rfl
  have chars : (unescape 0 s.toList).map Char.toLower = (unescape 0 t.toList).map Char.toLower := by
    rw [← unescape_toLower, ← unescape_toLower 0 t.toList, h.chars]
  rw [read, read, chars, h]

theorem below?_sameText {s t : String} (h : SameText s t) {origin m : Name} (hm : below? origin s = some m) :
    ∃ n, below? origin t = some n ∧ m.SameLetters n := by
  have names := ofText?_sameText h
  have ends : Text.endsWith "." s = Text.endsWith "." t := by
    rw [← endsWith_dot_lowerText s, ← endsWith_dot_lowerText t, h]
  have append (k o : Name) : (k ++ o).lower = k.lower ++ o.lower := List.map_append
  unfold below? at hm ⊢
  rw [← ends]
  cases he : Text.endsWith "." s with
  | true =>
    rw [he, if_pos rfl] at hm
    rw [hm, Option.map_some] at names
    obtain ⟨n, hn, lowered⟩ := Option.map_eq_some_iff.mp names.symm
    exact ⟨n, hn, lowered.symm⟩
  | false =>
    rw [he, if_neg Bool.false_ne_true] at hm
    obtain ⟨k, hk, rfl⟩ := Option.map_eq_some_iff.mp hm
    rw [hk, Option.map_some] at names
    obtain ⟨n, hn, lowered⟩ := Option.map_eq_some_iff.mp names.symm
    refine ⟨n ++ origin, by rw [hn]; rfl, ?_⟩
    rw [SameLetters, append, append, lowered]

end Name

end ClusterMdns.Dns
