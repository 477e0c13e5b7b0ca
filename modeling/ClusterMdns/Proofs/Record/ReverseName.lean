import ClusterMdns.Proofs.Record.Addresses

/-! Names for reverse look-ups are read back: the octets, or the hexadecimal digits, of an address in reverse
order give the address. Its text does so too, as long as it has no scope. -/

namespace ClusterMdns

/-! ### Reading -/

namespace AddressV4

def ofPieces? : List (List Char) → Option AddressV4
  | [a, b, c, d] => do some ⟨← octet? a, ← octet? b, ← octet? c, ← octet? d⟩
  | _ => none

end AddressV4

namespace AddressV6

/-- The groups that single digits make, four each. -/
def groupsOfDigits? : List (List Char) → Option (List UInt16)
  | [] => some []
  | [a] :: [b] :: [c] :: [d] :: rest => do some ((← group? [a, b, c, d]) :: (← groupsOfDigits? rest))
  | _ => none

end AddressV6

namespace Address

/-- Four octets under `in-addr.arpa.` or thirty-two hexadecimal digits under `ip6.arpa.`, the last one first. -/
def ofReverseName? (name : String) : Option Address :=
  match (Text.splitChars (· == '.') name.toList).reverse with
  | [] :: top :: zone :: pieces =>
    if top ≠ "arpa".toList then none
    else if zone = "in-addr".toList then (AddressV4.ofPieces? pieces).map v4
    else if zone = "ip6".toList then
      ((AddressV6.groupsOfDigits? pieces).bind (AddressV6.ofGroups? · none)).map v6
    else none
  | _ => none

end Address

/-! ### Octets and digits -/

theorem AddressV4.octet?_natText : ∀ x : UInt8, octet? (Number.natText x.toNat).toList = some x := by
  have all : ∀ n < 256, octet? (Number.natText n).toList = some n.toUInt8 := by decide +kernel
  intro x
  rw [all x.toNat x.toNat_lt]
  simp

theorem AddressV4.ofPieces?_octets (a : AddressV4) :
    ofPieces? (a.octets.map fun x => (Number.natText x.toNat).toList) = some a := by
  simp [octets, ofPieces?, octet?_natText]

theorem hexadecimalDigit?_hexDigit : ∀ d < 16, hexadecimalDigit? (Text.hexDigit d) = some d := by
  decide

theorem length_hexDigits (width n : Nat) : (Text.hexDigits width n).length = width := by
  induction width generalizing n with
  | zero => rfl
  | succ width ih => rw [Text.hexDigits, List.length_append, ih, List.length_singleton]

theorem digitString?_hexDigits (width n : Nat) :
    digitString? 16 hexadecimalDigit? (Text.hexDigits width n) = some (n % 16 ^ width) := by
  induction width generalizing n with
  | zero => simp [Text.hexDigits, digitString?, Nat.mod_one]
  | succ width ih =>
    have front := ih (n / 16)
    unfold digitString? at front ⊢
    rw [Text.hexDigits, List.foldlM_append, front, Option.bind_eq_bind, Option.bind_some, List.foldlM_cons,
      hexadecimalDigit?_hexDigit _ (Nat.mod_lt n (by decide)), Nat.pow_succ, Nat.mul_comm (16 ^ width),
      Nat.mod_mul, Nat.mul_comm, Nat.add_comm]
    rfl

namespace AddressV6

theorem group?_hexDigits (g : UInt16) : group? (Text.hexDigits 4 g.toNat) = some g := by
  have four : ((Text.hexDigits 4 g.toNat).isEmpty || decide ((Text.hexDigits 4 g.toNat).length > 4)) = false := by
    simp [← List.length_eq_zero_iff, length_hexDigits]
  have whole : g.toNat % 16 ^ 4 = g.toNat := Nat.mod_eq_of_lt g.toNat_lt
  rw [group?, four, if_neg Bool.false_ne_true, digitString?_hexDigits, whole]
  simp

theorem groupsOfDigits?_nibbles (gs : List UInt16) :
    groupsOfDigits? ((gs.flatMap fun g => Text.hexDigits 4 g.toNat).map ([·])) = some gs := by
  induction gs with
  | nil => rfl
  | cons g gs ih =>
    obtain ⟨a, b, c, d, four⟩ : ∃ a b c d, Text.hexDigits 4 g.toNat = [a, b, c, d] := ⟨_, _, _, _, rfl⟩
    have first := group?_hexDigits g
    rw [four] at first
    rw [List.flatMap_cons, four, List.map_append]
    simp [groupsOfDigits?, first, ih]

theorem ofGroups?_toList (groups : Vector UInt16 8) (scope : Option String) :
    ofGroups? groups.toList scope = some ⟨groups, scope⟩ := by
  rw [ofGroups?, dif_pos groups.length_toList]
  cases groups
  simp

end AddressV6

namespace Address

theorem scope?_of_reverseName? {a : Address} {reverse : String} (h : a.reverseName? = some reverse) :
    a.scope? = none := by
  by_contra scope
  cases (reverseName?_of_scope scope).symm.trans h

/-- The name for reverse look-ups tells the address. -/
theorem ofReverseName?_reverseName {a : Address} {reverse : String} (h : a.reverseName? = some reverse) :
    ofReverseName? reverse = some a := by
  have scopeless := scope?_of_reverseName? h
  obtain ⟨_, hr, spelled⟩ := spells_reverseName scopeless
  cases h.symm.trans hr
  rw [ofReverseName?, spelled.pieces]
  cases a with
  | v4 a =>
    have octets : (reverseLabels (v4 a) ++ [[]]).reverse = [] :: "arpa".toList :: "in-addr".toList ::
        a.octets.map fun x => (Number.natText x.toNat).toList := by
      simp [reverseLabels, ClusterMdns.reverseLabels]
    simp [octets, AddressV4.ofPieces?_octets]
  | v6 a =>
    obtain ⟨groups, scope⟩ := a
    cases scopeless
    have digits : (reverseLabels (v6 ⟨groups, none⟩) ++ [[]]).reverse = [] :: "arpa".toList :: "ip6".toList ::
        (groups.toList.flatMap fun g => Text.hexDigits 4 g.toNat).map ([·]) := by
      simp [reverseLabels, AddressV6.nibbles]
    simp [digits, AddressV6.groupsOfDigits?_nibbles, AddressV6.ofGroups?_toList]

/-! ### Texts -/

theorem ne_colon_of_mem_text {a : AddressV4} {c : Char} (h : c ∈ a.text.toList) : c ≠ ':' := by
  rw [Dns.Zone.toList_address] at h
  rcases Text.mem_joinChars h with h | ⟨cs, hcs, h⟩
  · rw [List.mem_singleton.mp h]
    decide
  · obtain ⟨x, -, rfl⟩ := List.mem_map.mp hcs
    rintro rfl
    exact absurd (Number.isDigit_of_mem_natText h) (by decide)

theorem text_v4_ne_v6 (a : AddressV4) (b : AddressV6) : a.text ≠ b.text := by
  intro h
  exact ne_colon_of_mem_text (h ▸ AddressV6.colon_mem_text b) rfl

theorem scope_of_text {a : AddressV6} {groups : Vector UInt16 8} (h : a.text = AddressV6.text ⟨groups, none⟩) :
    a.scope = none := by
  cases hs : a.scope with
  | none => rfl
  | some scope =>
    have percent : '%' ∈ a.text.toList := by
      rw [AddressV6.toList_text, hs]
      exact List.mem_append_right _ List.mem_cons_self
    exact absurd ((bareWord_groups groups).2 _ (h ▸ percent)) (by decide)

/-- The text tells the address, as long as it has no scope. -/
theorem eq_of_text {a b : Address} (h : b.scope? = none) (ht : a.text = b.text) : a = b := by
  cases a with
  | v4 a =>
    cases b with
    | v4 b =>
      have read := Dns.Zone.addressV4?_text a
      rw [show a.text = b.text from ht, Dns.Zone.addressV4?_text] at read
      rw [Option.some.inj read]
    | v6 b => exact absurd ht (text_v4_ne_v6 a b)
  | v6 a =>
    cases b with
    | v4 b => exact absurd ht.symm (text_v4_ne_v6 b a)
    | v6 b =>
      obtain ⟨others, _⟩ := b
      cases h
      have scopeless : a.scope = none := scope_of_text ht
      obtain ⟨groups, _⟩ := a
      cases scopeless
      have read := Dns.Zone.groupsV6?_text groups
      rw [show AddressV6.text ⟨groups, none⟩ = AddressV6.text ⟨others, none⟩ from ht,
        Dns.Zone.groupsV6?_text] at read
      rw [Option.some.inj read]

/-- Text and name for reverse look-ups tell the same. -/
theorem text_eq_iff_reverseName {a b : Address} {reverse : String} (h : a.reverseName? = some reverse) :
    a.text = b.text ↔ b.reverseName? = some reverse := by
  constructor
  · intro ht
    rw [eq_of_text (scope?_of_reverseName? h) ht.symm, h]
  · intro hb
    have same : some a = some b := (ofReverseName?_reverseName h).symm.trans (ofReverseName?_reverseName hb)
    rw [Option.some.inj same]

end Address

end ClusterMdns
