import ClusterMdns.Proofs.Dns.ZoneLine

/-! The words of a record line: an owner, a time to live, the class, a type and one word of data. The data of
the types that are published are addresses and names; both are read as they were meant. -/

namespace ClusterMdns.Dns.Zone

open Number

/-! ### Times to live -/

theorem lt_digitLimit {n : Nat} (h : n ≤ 4294967295) : n < 10 ^ digitLimit := by
  have small : n < 10 ^ 10 := by omega
  exact Nat.lt_of_lt_of_le small (Nat.pow_le_pow_right (by decide) (by decide))

theorem isNumber_natText (n : Nat) : isNumber (natText n) = true := by
  have some_digit : natText n ≠ "" := by
    intro h
    exact natText_ne_nil n (by rw [h]; rfl)
  have digits : (natText n).toList.all (fun c => (Text.digitValue? c).isSome) = true := by
    refine List.all_eq_true.mpr fun c hc => ?_
    rw [digitValue?_of_isDigit (isDigit_of_mem_natText hc)]
    rfl
  rw [isNumber, digits, Bool.and_true, bne_iff_ne]
  exact some_digit

theorem record?_of_words {owner : String} (empty : owner ≠ "") (origin : owner ≠ "@") {ttl : Nat}
    (ht : ttl ≤ 4294967295) (type data : String) :
    ({} : Context).record? [owner, natText ttl, "IN", type, data] = (do
      let name ← Name.below? Name.root owner
      let made ← data? Name.root type [data]
      some ⟨name, ttl, .internet, made⟩) := by
  have named : ({} : Context).ownerOf? owner = Name.below? Name.root owner := by
    rw [Context.ownerOf?, beq_eq_false_iff_ne.mpr empty, beq_eq_false_iff_ne.mpr origin]
    rfl
  have time : ttlOf? (ttl : Int) = some ttl := by
    have within : (0 <= (ttl : Int) && (ttl : Int) <= ttlLimit) = true := by
      rw [Bool.and_eq_true, decide_eq_true_eq, decide_eq_true_eq, ttlLimit]
      omega
    rw [ttlOf?, if_pos within]
    rfl
  simp [Context.record?, Context.body?, named, isNumber_natText, readInt?_natText (lt_digitLimit ht), time,
    Option.bind_assoc]

/-! ### Data -/

theorem dropTrailing_append {p : Char → Bool} {front back : List Char} (hne : back ≠ [])
    (h : ∀ c ∈ back, p c = false) : Text.dropTrailing p (front ++ back) = front ++ back := by
  obtain ⟨init, last, rfl⟩ := (List.eq_nil_or_concat back).resolve_left hne
  have stops : ¬ p last = true := by simp [h last (by simp)]
  rw [Text.dropTrailing, List.concat_eq_append, ← List.append_assoc, List.reverse_append,
    List.reverse_singleton, List.singleton_append, List.dropWhile_cons_of_neg stops, List.reverse_cons,
    List.reverse_reverse]

theorem natText_ne_dot {n : Nat} : ∀ c ∈ (natText n).toList, (c == '.') = false := by
  intro c hc
  refine beq_eq_false_iff_ne.mpr ?_
  rintro rfl
  exact absurd (isDigit_of_mem_natText hc) (by decide)

theorem octet?_toNat (x : UInt8) : octet? (x.toNat : Int) = some x := by
  have := x.toNat_lt
  rw [octet?, if_pos (by simp only [Bool.and_eq_true, decide_eq_true_eq]; omega)]
  simp

theorem toList_address (a : AddressV4) :
    a.text.toList = Text.joinChars ['.'] (a.octets.map fun x => (natText x.toNat).toList) := by
  rw [AddressV4.text, Text.toList_join, AddressV4.pieces, List.map_map]
  rfl

/-- The text of an address is read as this address. -/
theorem addressV4?_text (a : AddressV4) : addressV4? a.text = some a := by
  let texts : List (List Char) := a.octets.map fun x => (natText x.toNat).toList
  have chars : a.text.toList = Text.joinChars ['.'] texts := toList_address a
  have last : Text.joinChars ['.'] texts =
      ((natText a.a.toNat).toList ++ ['.'] ++ ((natText a.b.toNat).toList ++ ['.'] ++
        ((natText a.c.toNat).toList ++ ['.']))) ++ (natText a.d.toNat).toList := by
    simp [texts, AddressV4.octets, Text.joinChars]
  have kept : Text.dropTrailing (· == '.') a.text.toList = Text.joinChars ['.'] texts := by
    rw [chars, last]
    exact dropTrailing_append (natText_ne_nil _) natText_ne_dot
  have split : Text.splitChars (· == '.') (Text.joinChars ['.'] texts) = texts := by
    refine Text.splitChars_joinChars (by simp [texts, AddressV4.octets]) ?_ rfl
    intro cs hcs
    obtain ⟨x, -, rfl⟩ := List.mem_map.mp hcs
    exact natText_ne_dot
  have read (x : UInt8) : readInt? (natText x.toNat) = some (x.toNat : Int) :=
    readInt?_natText (lt_digitLimit (by have := x.toNat_lt; omega))
  have numbers : texts.mapM (fun p => readInt? (String.ofList p)) =
      some [(a.a.toNat : Int), (a.b.toNat : Int), (a.c.toNat : Int), (a.d.toNat : Int)] := by
    simp [texts, AddressV4.octets, read]
  rw [addressV4?]
  simp only [kept, split, numbers, octet?_toNat, Option.bind_eq_bind, Option.bind_some]

theorem data?_address (a : AddressV4) : data? Name.root "A" [a.text] = some (.a a) := by
  have code : RecordType.code? "A" = some 1 := rfl
  simp [data?, code, addressV4?_text]

/-- A pointer leads to the name in its first word. -/
theorem data?_pointer (origin : Name) (s : String) (more : List String) :
    data? origin "PTR" (s :: more) = (Name.below? origin s).map .ptr := by
  have code : RecordType.code? "PTR" = some 12 := rfl
  simp [data?, code]

end ClusterMdns.Dns.Zone
