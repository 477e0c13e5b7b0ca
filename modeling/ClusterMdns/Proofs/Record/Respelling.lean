import ClusterMdns.Proofs.Address.Spelling
import ClusterMdns.Proofs.Record.Pairs

/-! The text of an address that was read is read as that address again, so that texts are equal exactly where
addresses are. How an address is spelled makes no difference to the lines of a resource. -/

namespace ClusterMdns

open Document

/-! ### Addresses that are read -/

namespace Address

/-- An address of version 6 that stands for none of version 4, with a scope that can be written, or one of
version 4. -/
def Normal : Address → Prop
  | v4 _ => True
  | v6 a => (∀ b, ¬ a.Maps b) ∧ ∀ scope ∈ a.scope, ScopeName scope

variable {s : String} {a b : Address}

/-- The scope is what stands behind the only percent sign, up to the end of the text. -/
theorem scopeName_of_read? {cs : List Char} {a : AddressV6} {scope : String}
    (last : ∀ c ∈ cs.getLast?, Text.isBlank c = false) (h : AddressV6.read? cs = some a)
    (named : a.scope = some scope) : ScopeName scope := by
  have scope_of {groups : List UInt16} {given : Option String} (read : AddressV6.ofGroups? groups given = some a) :
      given = some scope := by
    unfold AddressV6.ofGroups? at read
    split at read
    · rw [← named, ← Option.some.inj read]
    · cases read
  unfold AddressV6.read? at h
  split at h
  · obtain ⟨groups, -, read⟩ := Option.bind_eq_some_iff.mp h
    cases scope_of read
  · rename_i body piece pieces
    split at h
    · cases h
    · rename_i allowed
      obtain ⟨groups, -, read⟩ := Option.bind_eq_some_iff.mp h
      obtain rfl : String.ofList piece = scope := Option.some.inj (scope_of read)
      rw [Bool.or_eq_true, not_or, List.isEmpty_iff, List.contains_iff_mem] at allowed
      have whole : body ++ '%' :: piece = cs := by
        rw [← Text.joinChars_splitChars '%' cs, pieces]
        simp [Text.joinChars]
      have within : piece ∈ Text.splitChars (· == '%') cs := pieces ▸ List.mem_cons_of_mem _ List.mem_cons_self
      have ends : cs.getLast? = piece.getLast? := by
        rw [← whole, List.getLast?_append_of_ne_nil _ (List.cons_ne_nil _ _)]
        obtain ⟨c, rest, hc⟩ := List.exists_cons_of_ne_nil allowed.1
        rw [hc, List.getLast?_cons_cons]
      exact {
        some_char := by rw [String.toList_ofList]; exact allowed.1
        plain := fun c hc => by
          rw [String.toList_ofList] at hc
          refine ⟨beq_eq_false_iff_ne.mp (Text.not_of_mem_splitChars within hc), ?_⟩
          rintro rfl
          exact allowed.2 hc
        last := by rwa [String.toList_ofList, ← ends] }
  · cases h

theorem normal_of_read? (h : read? s = some a) : a.Normal := by
  cases a with
  | v4 a => trivial
  | v6 a =>
    obtain ⟨given, unmapped⟩ := read?_eq_v6_iff.mp h
    refine ⟨unmapped, fun scope named => ?_⟩
    have read : AddressV6.read? (Text.trimChars s.toList) = some a := by
      rw [given?, readChars?] at given
      split at given
      · cases given
      · obtain ⟨b, read, same⟩ := Option.map_eq_some_iff.mp given
        cases same
        exact read
    exact scopeName_of_read? (Text.trimChars_eq_iff.mp rfl).2.2 read named

theorem normalize_of_normal (h : a.Normal) : a.normalize = a := by
  cases a with
  | v4 a => rfl
  | v6 a => rw [normalize, AddressV6.mapped?_eq_none_iff.mpr h.1]

theorem spelling_text (h : a.Normal) : Spelling a.text a := by
  have nothing : ∀ c ∈ ([] : List Char), Text.isBlank c = true := List.forall_mem_nil _
  refine ⟨[], a.text.toList, [], (List.append_nil _).symm, nothing, nothing, ?_⟩
  cases a with
  | v4 a => exact .v4 a
  | v6 a =>
    obtain ⟨groups, scope⟩ := a
    have spelled := AddressV6.spelled_text groups
    rw [text, AddressV6.toList_text]
    cases scope with
    | none =>
      rw [Option.elim_none, List.append_nil]
      exact .v6 spelled
    | some scope => exact .withScope spelled (h.2 scope rfl)

theorem read?_text (h : a.Normal) : read? a.text = some a := by
  rw [read?_of_spelling (spelling_text h), normalize_of_normal h]

theorem text_eq_iff (ha : a.Normal) (hb : b.Normal) : a.text = b.text ↔ a = b := by
  refine ⟨fun same => ?_, congrArg text⟩
  have read := read?_text ha
  rw [same, read?_text hb] at read
  exact (Option.some.inj read).symm

theorem reverseName?_eq_iff (ha : a.scope? = none) :
    a.reverseName? = b.reverseName? ↔ a = b := by
  refine ⟨fun same => ?_, congrArg reverseName?⟩
  obtain ⟨name, hr, -⟩ := spells_reverseName ha
  have read := ofReverseName?_reverseName hr
  rw [ofReverseName?_reverseName (same ▸ hr)] at read
  exact (Option.some.inj read).symm

end Address

/-! ### Lines -/

/-- The same value, or two spellings of one address. -/
inductive Respelled : Value → Value → Prop
  | same (v : Value) : Respelled v v
  | spelled {s t : String} {a : Address} (hs : Address.read? s = some a) (ht : Address.read? t = some a) :
      Respelled (.str s) (.str t)

namespace RecordPolicy

variable (policy : RecordPolicy) (r : Resource)

/-- Of the text only the address is used. -/
theorem linesOf_of_read? {s : String} {a : Address} (h : Address.read? s = some a) :
    policy.linesOf r (.str s) =
      if policy.exposes a then
        match a.reverseName? with
        | some reverse => pure (policy.linesAt r a reverse)
        | none => Logged.fail .badValue
      else pure [] := by
  have text : (Value.str s).asText = .ok s := rfl
  rw [linesOf, text, Logged.lift_ok_bind]
  split
  · rename_i unread
    cases h.symm.trans unread
  · rename_i b read
    cases h.symm.trans read
    rfl

theorem linesOf_respelled {v w : Value} (h : Respelled v w) : policy.linesOf r v = policy.linesOf r w := by
  cases h with
  | same => rfl
  | spelled hs ht => rw [linesOf_of_read? policy r hs, linesOf_of_read? policy r ht]

theorem linesOfAll_respelled {given others : List Value} (h : List.Forall₂ Respelled given others) :
    policy.linesOfAll r given = policy.linesOfAll r others := by
  induction h with
  | nil => rfl
  | cons first _ ih => rw [linesOfAll, linesOfAll, linesOf_respelled policy r first, ih]

/-- The addresses of the resource are not used but one by one. -/
theorem linesOfAll_addresses (given others : List Value) :
    policy.linesOfAll { r with addresses := others } given = policy.linesOfAll r given := by
  induction given with
  | nil => rfl
  | cons first rest ih =>
    rw [linesOfAll, linesOfAll, ih]
    rfl

theorem lines_respelled {others : List Value} (h : List.Forall₂ Respelled r.addresses others) :
    policy.lines { r with addresses := others } = policy.lines r := by
  rw [lines, lines, linesOfAll_addresses, linesOfAll_respelled policy r h]

end RecordPolicy

/-! ### Reading and printing -/

/-- What holds of a text that is read as an address. -/
structure Lossless (s : String) (a : Address) : Prop where
  again : Address.read? a.text = some a
  text_iff {t : String} {b : Address} (ht : Address.read? t = some b) : a.text = b.text ↔ a = b
  reverse_iff {t : String} {b : Address} (ht : Address.read? t = some b) (ha : a.scope? = none)
    (hb : b.scope? = none) : ∃ reverse other, a.reverseName? = some reverse ∧ b.reverseName? = some other ∧
      (reverse = other ↔ a = b)
  /-- Every spelling of the address, or of one that stands for it, is read as the address. -/
  spelled {t : String} {b : Address} (ht : b.Spelling t) (same : b.normalize = a) : Address.read? t = some a
  /-- Such spellings in place of the text, here and there or everywhere, leave all lines and warnings as they are. -/
  lines {policy : RecordPolicy} {r : Resource} {others : List Value}
    (h : List.Forall₂ (fun v w => v = w ∨ v = .str s ∧ ∃ t, w = .str t ∧ Address.read? t = some a)
      r.addresses others) : policy.lines { r with addresses := others } = policy.lines r

theorem printing_lossless {s : String} {a : Address} (h : Address.read? s = some a) : Lossless s a := by
  have normal := Address.normal_of_read? h
  exact {
    again := Address.read?_text normal
    text_iff := fun ht => Address.text_eq_iff normal (Address.normal_of_read? ht)
    reverse_iff := fun {t b} ht ha hb => by
      obtain ⟨reverse, hr, -⟩ := Address.spells_reverseName ha
      obtain ⟨other, ho, -⟩ := Address.spells_reverseName hb
      refine ⟨reverse, other, hr, ho, ?_⟩
      rw [← Address.reverseName?_eq_iff ha, hr, ho, Option.some.injEq]
    spelled := fun ht same => by rw [Address.read?_of_spelling ht, same]
    lines := fun {policy r others} given => by
      refine policy.lines_respelled r (given.imp fun v w each => ?_)
      rcases each with rfl | ⟨rfl, t, rfl, ht⟩
      · exact .same v
      · exact .spelled h ht }

/-! ### An address with all its zeros -/

/-- Upper case, zeros written out and blanks around the text. -/
def spelledOut : Resource where
  source := .service
  action := .added
  names := ["web"]
  namespaceName := .str "default"
  addresses := [.str " 2001:DB8:0000:0:0:0:192.0.2.7\t", .str "::FFFF:192.0.2.7"]

theorem printing_lossless_spelledOut :
    ∃ a, Address.read? " 2001:DB8:0000:0:0:0:192.0.2.7\t" = some a ∧ a.text = "2001:db8::c000:207" ∧
      Lossless " 2001:DB8:0000:0:0:0:192.0.2.7\t" a ∧
      RecordPolicy.lines { exposeV6 := true }
          { spelledOut with addresses := [.str "2001:db8::c000:207", .str "::FFFF:192.0.2.7"] } =
        RecordPolicy.lines { exposeV6 := true } spelledOut := by
  let a : Address := .v6 ⟨#v[0x2001, 0xdb8, 0, 0, 0, 0, 0xc000, 0x207], none⟩
  have read : Address.read? " 2001:DB8:0000:0:0:0:192.0.2.7\t" = some a := by decide +kernel
  have text : a.text = "2001:db8::c000:207" := by decide +kernel
  have lossless := printing_lossless read
  refine ⟨a, read, text, lossless, lossless.lines (.cons (.inr ⟨rfl, _, rfl, ?_⟩) (.cons (.inl rfl) .nil))⟩
  rw [← text]
  exact lossless.again

end ClusterMdns
