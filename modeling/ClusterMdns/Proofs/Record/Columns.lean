import ClusterMdns.Proofs.Record.ReverseName

/-! Owner, kind and data of a line are read back from its text, whatever blanks the names in it contain. -/

namespace ClusterMdns

namespace RecordLine

def kindOf? (word : String) : Option LineKind :=
  [LineKind.a, .aaaa, .ptr].find? (·.name == word)

/-- A line that ends in a dot ends in a name; the name is all that follows the first four words. Any other line
ends in an address; the name is all that comes before the last four words. -/
def columns? (line : String) : Option (String × LineKind × String) :=
  let words := Text.splitOn ' ' line
  if Text.endsWith "." line then
    match words with
    | owner :: _ :: _ :: kind :: data => (kindOf? kind).map (owner, ·, Text.join " " data)
    | _ => none
  else
    match words.reverse with
    | data :: kind :: _ :: _ :: owner => (kindOf? kind).map (Text.join " " owner.reverse, ·, data)
    | _ => none

theorem kindOf?_name (kind : LineKind) : kindOf? kind.name = some kind := by
  cases kind <;> rfl

theorem splitOn_of_bare {s : String} (h : Dns.Zone.BareWord s) : Text.splitOn ' ' s = [s] := by
  have blankless : ∀ c ∈ s.toList, (c == ' ') = false := fun c hc => by
    refine beq_eq_false_iff_ne.mpr ?_
    rintro rfl
    exact absurd (h.2 _ hc) (by decide)
  rw [Text.splitOn, Text.splitChars_single blankless, List.map_singleton, String.ofList_toList]

theorem splitOn_append (s t : String) :
    Text.splitOn ' ' (s ++ " " ++ t) = Text.splitOn ' ' s ++ Text.splitOn ' ' t := by
  have chars : (s ++ " " ++ t).toList = s.toList ++ ' ' :: t.toList := by simp
  rw [Text.splitOn, chars, Text.splitChars_append rfl, List.map_append]
  rfl

theorem join_splitOn (s : String) : Text.join " " (Text.splitOn ' ' s) = s := by
  have chars : (Text.join " " (Text.splitOn ' ' s)).toList = s.toList := by
    rw [Text.toList_join, Text.splitOn, List.map_map]
    simpa [Function.comp_def] using Text.joinChars_splitChars ' ' s.toList
  exact String.toList_inj.mp chars

/-- The words of a line, of which only owner and data may be more than one. -/
theorem splitOn_text (l : RecordLine) : Text.splitOn ' ' l.text =
    Text.splitOn ' ' l.owner ++ [Number.intText l.ttl, "IN", l.kind.name] ++ Text.splitOn ' ' l.data := by
  have internet : Dns.Zone.BareWord "IN" := bareWord_of_all (by decide)
  have kind : Dns.Zone.BareWord l.kind.name := by cases l.kind <;> exact bareWord_of_all (by decide)
  have words : l.text = l.owner ++ " " ++ (Number.intText l.ttl) ++ " " ++ "IN" ++ " " ++ l.kind.name ++ " " ++
      l.data := by
    simp [text, String.ext_iff]
  rw [words, splitOn_append, splitOn_append, splitOn_append, splitOn_append, splitOn_of_bare kind,
    splitOn_of_bare internet, splitOn_of_bare (bareWord_intText l.ttl)]
  simp

theorem endsWith_text {l : RecordLine} (h : l.data.toList ≠ []) :
    Text.endsWith "." l.text = Text.endsWith "." l.data := by
  have last : l.text.toList.getLast? = l.data.toList.getLast? := by
    rw [text, String.toList_append, List.getLast?_append_of_ne_nil _ h]
  rw [Bool.eq_iff_iff, Text.endsWith_dot_iff, Text.endsWith_dot_iff, last]

theorem columns?_of_name {l : RecordLine} (owner : Dns.Zone.BareWord l.owner)
    (name : Text.endsWith "." l.data = true) : columns? l.text = some (l.owner, l.kind, l.data) := by
  have some_data : l.data.toList ≠ [] := by
    intro h
    rw [Text.endsWith_dot_iff, h] at name
    cases name
  simp only [columns?, endsWith_text some_data, name, if_true, splitOn_text, splitOn_of_bare owner]
  simp [kindOf?_name, join_splitOn]

theorem columns?_of_address {l : RecordLine} (bare : Dns.Zone.BareWord l.data)
    (address : Text.endsWith "." l.data = false) : columns? l.text = some (l.owner, l.kind, l.data) := by
  simp only [columns?, endsWith_text bare.1, address, splitOn_text, splitOn_of_bare bare]
  simp [kindOf?_name, join_splitOn]

end RecordLine

/-! ### Written lines -/

theorem Address.endsWith_dot_text {a : Address} (h : a.scope? = none) : Text.endsWith "." a.text = false := by
  rw [Bool.eq_false_iff, Ne, Text.endsWith_dot_iff]
  intro dot
  cases a with
  | v4 a =>
    -- the last octet stands at the end
    have last : a.text.toList.getLast? = (Number.natText a.d.toNat).toList.getLast? := by
      have parts : a.text.toList = ((Number.natText a.a.toNat).toList ++ ['.'] ++
          ((Number.natText a.b.toNat).toList ++ ['.'] ++ ((Number.natText a.c.toNat).toList ++ ['.']))) ++
            (Number.natText a.d.toNat).toList := by
        rw [Dns.Zone.toList_address]
        simp [AddressV4.octets, Text.joinChars]
      rw [parts, List.getLast?_append_of_ne_nil _ (Number.natText_ne_nil _)]
    have digit := Number.isDigit_of_mem_natText (List.mem_of_getLast? (last.symm.trans dot))
    cases digit
  | v6 a =>
    obtain ⟨groups, scope⟩ := a
    cases h
    rcases AddressV6.mem_text_cases (List.mem_of_getLast? dot) with host | colon
    · cases host
    · cases colon

namespace RecordPolicy

variable {policy : RecordPolicy} {r : Resource} {a : Address} {owner reverse : String}

theorem endsWith_dot_of_owner (h : owner ∈ policy.owners r) : Text.endsWith "." owner = true := by
  have name_dot (front : String) : Text.endsWith "." (front ++ ".local.") = true := by
    rw [Text.endsWith_dot_iff, String.toList_append]
    exact List.getLast?_append_of_ne_nil _ (by decide)
  obtain ⟨name, -, rfl | rfl | ⟨-, rfl⟩⟩ := mem_owners.mp h
  · exact name_dot _
  · exact name_dot _
  · exact name_dot _

theorem columns?_forward (h : a.scope? = none) (owner : String) :
    RecordLine.columns? (policy.forward a owner).text = some (owner, lineKind a, a.text) :=
  RecordLine.columns?_of_address (Address.bareWord_text h) (Address.endsWith_dot_text h)

theorem columns?_backward (h : a.reverseName? = some reverse) (ho : owner ∈ policy.owners r) :
    RecordLine.columns? (policy.backward reverse owner).text = some (reverse, .ptr, owner) := by
  obtain ⟨_, hr, spelled⟩ := Address.spells_reverseName (Address.scope?_of_reverseName? h)
  cases h.symm.trans hr
  exact RecordLine.columns?_of_name (bareWord_of_spells spelled) (endsWith_dot_of_owner ho)

end RecordPolicy

end ClusterMdns
