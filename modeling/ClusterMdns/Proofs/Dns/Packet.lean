import ClusterMdns.Dns.Query
import Mathlib.Data.List.Basic
import Mathlib.Tactic.SplitIfs

/-! Which replies can be written into a packet. A pointer never stands for a label that is too long, since
only ends of names that were written are pointed to; so it does not depend on what was written before
whether a name can be written. -/

namespace ClusterMdns.Dns

/-! ### What fits -/

/-- The labels have no more bytes than can be written before a label. -/
def Name.HasShortLabels (name : Name) : Prop :=
  ∀ label ∈ name, label.length ≤ 63

def Name.Fits (name : Name) : Prop :=
  name.size ≤ Writer.sizeLimit ∧ name.HasShortLabels

namespace RecordData

/-- The names in the data. -/
def names : RecordData → List Name
  | a _ | aaaa _ | txt _ | other .. => []
  | cname target | ptr target | ns target | dname target => [target]
  | mx _ exchange => [exchange]
  | srv _ _ _ target => [target]
  | soa primary mailbox _ => [primary, mailbox]

/-- The bytes of the data that belong to no name. -/
def plainBytes : RecordData → List UInt8
  | a address => address.octets
  | aaaa groups => groups.toList.flatMap fun g => Writer.bytes16 g.toNat
  | cname _ | ptr _ | ns _ | dname _ => []
  | mx preference _ => Writer.bytes16 preference.toNat
  | srv priority weight port _ =>
    Writer.bytes16 priority.toNat ++ Writer.bytes16 weight.toNat ++ Writer.bytes16 port.toNat
  | soa _ _ times => times.toList.flatMap fun t => Writer.bytes32 t.toNat
  | txt texts => texts.flatMap Writer.textBytes
  | other _ bytes => bytes

def Fits (d : RecordData) : Prop :=
  (∀ name ∈ d.names, name.Fits) ∧ d.plainBytes.length ≤ Writer.countLimit

end RecordData

def Record.Fits (r : Record) : Prop :=
  r.owner.Fits ∧ r.data.Fits

/-- Everything in the reply fits, and no more of it than can be counted. -/
structure Reply.Fits (r : Reply) : Prop where
  countedQuestions : r.questions.length ≤ Writer.countLimit
  countedAnswers : r.answers.length ≤ Writer.countLimit
  questions : ∀ q ∈ r.questions, q.name.Fits
  answers : ∀ record ∈ r.answers, record.Fits

instance (name : Name) : Decidable name.HasShortLabels :=
  inferInstanceAs (Decidable (∀ label ∈ name, _))

instance (name : Name) : Decidable name.Fits :=
  inferInstanceAs (Decidable (_ ∧ _))

instance (d : RecordData) : Decidable d.Fits :=
  inferInstanceAs (Decidable (_ ∧ _))

instance (r : Record) : Decidable r.Fits :=
  inferInstanceAs (Decidable (_ ∧ _))

instance (r : Reply) : Decidable r.Fits :=
  decidable_of_iff (r.questions.length ≤ Writer.countLimit ∧ r.answers.length ≤ Writer.countLimit ∧
      (∀ q ∈ r.questions, q.name.Fits) ∧ ∀ record ∈ r.answers, record.Fits)
    ⟨fun ⟨qs, as, questions, answers⟩ => ⟨qs, as, questions, answers⟩,
      fun h => ⟨h.countedQuestions, h.countedAnswers, h.questions, h.answers⟩⟩

namespace Writer

/-- Only names with short labels were written. -/
def Short (w : Writer) : Prop :=
  ∀ e ∈ w.places, Name.HasShortLabels e.1

/-- A writer writes exactly what fits, behind what is there, and takes no more than so much room. -/
structure Writes (write : Writer → Option Writer) (Fits : Prop) (room : Nat) : Prop where
  written : Fits → ∀ {w : Writer}, w.Short → ∃ next, write w = some next ∧ next.Short ∧
    w.bytes <+: next.bytes ∧ next.bytes.length ≤ w.bytes.length + room
  refused : ¬ Fits → ∀ {w : Writer}, w.Short → write w = none

theorem writes_put (bs : List UInt8) : Writes (fun w => some (w.put bs)) True bs.length where
  written _ w hw := by
    refine ⟨w.put bs, rfl, hw, List.prefix_append _ _, ?_⟩
    exact Nat.le_of_eq List.length_append
  refused h := absurd trivial h

/-- One after the other. -/
theorem Writes.bind {first later : Writer → Option Writer} {F G : Prop} {m n : Nat}
    (hf : Writes first F m) (hg : Writes later G n) :
    Writes (fun w => first w >>= later) (F ∧ G) (m + n) where
  written := by
    rintro ⟨f, g⟩ w hw
    obtain ⟨mid, hmid, short, front, room⟩ := hf.written f hw
    obtain ⟨next, hnext, short, back, more⟩ := hg.written g short
    refine ⟨next, ?_, short, front.trans back, by omega⟩
    rw [hmid, Option.bind_eq_bind, Option.bind_some, hnext]
  refused := by
    intro h w hw
    by_cases f : F
    · obtain ⟨mid, hmid, short, -⟩ := hf.written f hw
      rw [hmid, Option.bind_eq_bind, Option.bind_some]
      exact hg.refused (fun g => h ⟨f, g⟩) short
    · rw [hf.refused f hw]
      rfl

theorem Writes.mono {write : Writer → Option Writer} {F G : Prop} {m n : Nat} (h : Writes write F m)
    (same : F ↔ G) (room : m ≤ n) : Writes write G n where
  written g w hw := by
    obtain ⟨next, hnext, short, front, bound⟩ := h.written (same.mpr g) hw
    exact ⟨next, hnext, short, front, by omega⟩
  refused g w hw := h.refused (mt same.mp g) hw

/-! ### Names -/

theorem mem_places_of_place? {w : Writer} {name : Name} {place : Nat} (h : w.place? name = some place) :
    (name, place) ∈ w.places := by
  obtain ⟨⟨other, place⟩, he, rfl⟩ := Option.map_eq_some_iff.mp h
  have same : other = name := eq_of_beq (List.find?_some (p := fun e : Name × Nat => e.1 == name) he)
  rw [← same]
  exact List.mem_of_find?_eq_some he

theorem putLabels_written {name : Name} (short : name.HasShortLabels) {w : Writer} (hw : w.Short) :
    ∃ next, putLabels name w = some next ∧ next.Short ∧ w.bytes <+: next.bytes ∧
      next.bytes.length ≤ w.bytes.length + (name.size + 3) := by
  -- a byte for the length of each label, and two for a pointer or one for the root at the end
  suffices h : ∃ next, putLabels name w = some next ∧ next.Short ∧ w.bytes <+: next.bytes ∧
      next.bytes.length ≤ w.bytes.length +
        (name.foldr (fun label n => label.length + n) 0 + name.length + 2) by
    obtain ⟨next, hnext, hs, front, room⟩ := h
    exact ⟨next, hnext, hs, front, by unfold Name.size; omega⟩
  induction name generalizing w with
  | nil =>
    refine ⟨w.put [0], rfl, hw, List.prefix_append _ _, ?_⟩
    simp [put]
  | cons label rest ih =>
    obtain ⟨hlabel, hrest⟩ := List.forall_mem_cons.mp short
    unfold putLabels
    split
    · rename_i place hplace
      refine ⟨w.put16 (0xC000 + place % 0x4000), rfl, hw, List.prefix_append _ _, ?_⟩
      simp [put16, put, bytes16]
    · rw [if_neg (Nat.not_lt.mpr hlabel)]
      have noted : Short { bytes := w.bytes ++ label.length.toUInt8 :: label
                           places := (label :: rest, w.bytes.length) :: w.places } := by
        intro e he
        rcases List.mem_cons.mp he with rfl | he
        · exact short
        · exact hw e he
      obtain ⟨next, hnext, hs, front, room⟩ := ih hrest noted
      refine ⟨next, hnext, hs, (List.prefix_append _ _).trans front, ?_⟩
      simp only [List.length_append, List.length_cons, List.foldr_cons] at room ⊢
      omega

theorem putLabels_refused {name : Name} (long : ¬ name.HasShortLabels) {w : Writer}
    (hw : ∀ e ∈ w.places, Name.HasShortLabels e.1 ∨ name.length < e.1.length) :
    putLabels name w = none := by
  induction name generalizing w with
  | nil => exact absurd nofun long
  | cons label rest ih =>
    have unseen : w.place? (label :: rest) = none := by
      by_contra seen
      obtain ⟨place, hplace⟩ := Option.ne_none_iff_exists'.mp seen
      rcases hw _ (mem_places_of_place? hplace) with short | longer
      · exact long short
      · exact Nat.lt_irrefl _ longer
    unfold putLabels
    rw [unseen]
    dsimp only
    split_ifs with hlabel
    · rfl
    · have later : ¬ Name.HasShortLabels rest := by
        intro hrest
        exact long (List.forall_mem_cons.mpr ⟨Nat.not_lt.mp hlabel, hrest⟩)
      -- the ends noted so far are longer than what is left of the name
      refine ih later fun e he => ?_
      rcases List.mem_cons.mp he with rfl | he
      · exact Or.inr (Nat.lt_succ_self _)
      · exact (hw e he).imp_right (Nat.lt_of_succ_lt)

theorem writes_name (name : Name) : Writes (putName name) name.Fits (sizeLimit + 3) where
  written := by
    rintro ⟨size, short⟩ w hw
    obtain ⟨next, hnext, hs, front, room⟩ := putLabels_written short hw
    refine ⟨next, ?_, hs, front, by omega⟩
    rw [putName, if_neg (Nat.not_lt.mpr size), hnext]
  refused := by
    intro h w hw
    unfold putName
    split_ifs with hsize
    · rfl
    · refine putLabels_refused (fun short => h ⟨Nat.not_lt.mp hsize, short⟩) fun e he => ?_
      exact Or.inl (hw e he)

/-! ### Data -/

/-- Data without names are written as they are. -/
theorem putData_plain {d : RecordData} (h : d.names = []) (w : Writer) :
    putData d w = some (w.put d.plainBytes) := by
  cases d with
  | a | aaaa | txt | other => rfl
  | _ => cases h

theorem plainBytes_length_le {d : RecordData} (h : d.names ≠ []) : d.plainBytes.length ≤ 20 := by
  cases d with
  | a | aaaa | txt | other => exact absurd rfl h
  | _ => simp [RecordData.plainBytes, bytes16, bytes32, List.length_flatMap]

theorem writes_data (d : RecordData) :
    Writes (putData d) (∀ name ∈ d.names, name.Fits) (d.plainBytes.length + 2 * (sizeLimit + 3)) := by
  cases d with
  | a | aaaa | txt | other =>
    refine (writes_put _).mono (iff_of_true trivial ?_) (Nat.le_add_right _ _)
    exact nofun
  | cname target | ptr target | ns target | dname target =>
    refine (writes_name target).mono ?_ (by omega)
    exact List.forall_mem_singleton.symm
  | mx preference exchange =>
    refine ((writes_put (bytes16 preference.toNat)).bind (writes_name exchange)).mono ?_ ?_
    · simp [RecordData.names]
    · simp only [RecordData.plainBytes]
      omega
  | srv priority weight port target =>
    have numbers := ((writes_put (bytes16 priority.toNat)).bind (writes_put (bytes16 weight.toNat))).bind
      (writes_put (bytes16 port.toNat))
    refine (numbers.bind (writes_name target)).mono ?_ ?_
    · simp [RecordData.names]
    · simp only [RecordData.plainBytes, List.length_append]
      omega
  | soa primary mailbox times =>
    have mailbox_and_times := (writes_name mailbox).bind
      (writes_put (times.toList.flatMap fun t => bytes32 t.toNat))
    refine ((writes_name primary).bind mailbox_and_times).mono ?_ ?_
    · simp [RecordData.names]
    · simp only [RecordData.plainBytes]
      omega

/-- Names never make data too long to be counted. -/
theorem length_data_le_iff {d : RecordData} (h : ∀ name ∈ d.names, name.Fits) {w next : Writer}
    (hw : w.Short) (hnext : putData d w = some next) :
    next.bytes.length - w.bytes.length ≤ countLimit ↔ d.plainBytes.length ≤ countLimit := by
  by_cases hnames : d.names = []
  · rw [putData_plain hnames, Option.some.injEq] at hnext
    rw [← hnext, put, List.length_append, Nat.add_sub_cancel_left]
  · obtain ⟨found, hfound, -, -, room⟩ := (writes_data d).written h hw
    have few := plainBytes_length_le hnames
    rw [hnext, Option.some.injEq] at hfound
    subst hfound
    simp only [sizeLimit, countLimit] at room ⊢
    omega

/-! ### Records and replies -/

/-- What stands before the length of the data. -/
def putHeading (r : Record) (w : Writer) : Writer :=
  ((w.put16 r.data.code).put16 r.recordClass.code).put (bytes32 r.ttl)

theorem prefix_putHeading (r : Record) (w : Writer) : w.bytes <+: (w.putHeading r).bytes :=
  ((List.prefix_append _ _).trans (List.prefix_append _ _)).trans (List.prefix_append _ _)

/-- The data `d` with their length before them, in the room behind what `w` holds. -/
def close (w d : Writer) : Writer :=
  { d with bytes := w.bytes ++ bytes16 (d.bytes.length - w.bytes.length - 2) ++
      d.bytes.drop (w.bytes.length + 2) }

/-- The rest of a record behind its owner. -/
def putRest (r : Record) (w : Writer) : Option Writer := do
  let d ← ((w.putHeading r).put16 0).putData r.data
  if d.bytes.length - (w.putHeading r).bytes.length - 2 > countLimit then none
  else some (close (w.putHeading r) d)

theorem putRecord_eq (r : Record) (w : Writer) : putRecord r w = putName r.owner w >>= putRest r :=
  rfl

theorem length_putHeading (r : Record) (w : Writer) : (w.putHeading r).bytes.length = w.bytes.length + 8 := by
  simp [putHeading, put16, put, bytes16, bytes32]

theorem length_put16 (n : Nat) (w : Writer) : (w.put16 n).bytes.length = w.bytes.length + 2 := by
  simp [put16, put, bytes16]

theorem writes_rest (r : Record) : Writes (putRest r) r.data.Fits (countLimit + 10) := by
  constructor
  · rintro ⟨names, few⟩ w hw
    have room : ((w.putHeading r).put16 0).Short := hw
    obtain ⟨d, hd, short, -⟩ := (writes_data r.data).written names room
    have counted := (length_data_le_iff names room hd).mpr few
    rw [length_put16] at counted
    have heading := length_putHeading r w
    refine ⟨close (w.putHeading r) d, ?_, short, ?_, ?_⟩
    · rw [putRest, hd, Option.bind_eq_bind, Option.bind_some]
      exact if_neg (by omega)
    · unfold close
      rw [List.append_assoc]
      exact (prefix_putHeading r w).trans (List.prefix_append _ _)
    · simp only [close, List.length_append, List.length_drop, bytes16, List.length_cons, List.length_nil]
      omega
  · intro h w hw
    have room : ((w.putHeading r).put16 0).Short := hw
    by_cases names : ∀ name ∈ r.data.names, name.Fits
    · obtain ⟨d, hd, -⟩ := (writes_data r.data).written names room
      have many := mt (length_data_le_iff names room hd).mp fun few => h ⟨names, few⟩
      rw [length_put16] at many
      rw [putRest, hd, Option.bind_eq_bind, Option.bind_some]
      exact if_pos (by omega)
    · rw [putRest, (writes_data r.data).refused names room]
      rfl

theorem writes_record (r : Record) : Writes (putRecord r) r.Fits (sizeLimit + countLimit + 13) := by
  have parts : putRecord r = fun w => putName r.owner w >>= putRest r := funext (putRecord_eq r)
  rw [parts]
  refine ((writes_name r.owner).bind (writes_rest r)).mono Iff.rfl ?_
  omega

theorem writes_all {α : Type} {put : α → Writer → Option Writer} {Fits : α → Prop} {room : Nat}
    (h : ∀ x, Writes (put x) (Fits x) room) (xs : List α) :
    Writes (putAll put xs) (∀ x ∈ xs, Fits x) (xs.length * room) := by
  induction xs with
  | nil =>
    constructor
    · intro _ w hw
      refine ⟨w, rfl, hw, List.prefix_refl _, Nat.le_add_right _ _⟩
    · exact fun h => absurd nofun h
  | cons x xs ih =>
    refine ((h x).bind ih).mono List.forall_mem_cons.symm (Nat.le_of_eq ?_)
    rw [List.length_cons, Nat.succ_mul, Nat.add_comm]

theorem writes_question (q : Question) : Writes (putQuestion q) q.name.Fits (sizeLimit + 7) := by
  have codes := (writes_put (bytes16 q.type)).bind (writes_put (bytes16 q.questionClass))
  refine ((writes_name q.name).bind codes).mono ?_ ?_
  · simp
  · simp [bytes16]

end Writer

namespace Reply

/-- Identifier and flags, and the numbers of questions, answers and other records. -/
def header (r : Reply) : List UInt8 :=
  Writer.bytes16 r.id ++ Writer.bytes16 r.flags ++ Writer.bytes16 r.questions.length ++
    Writer.bytes16 r.answers.length ++ Writer.bytes32 0

/-- The questions and the records behind the header. -/
theorem writes_body (r : Reply) :
    Writer.Writes
      (fun w => Writer.putAll Writer.putQuestion r.questions w >>= Writer.putAll Writer.putRecord r.answers)
      ((∀ q ∈ r.questions, q.name.Fits) ∧ ∀ record ∈ r.answers, record.Fits)
      (r.questions.length * (Writer.sizeLimit + 7) +
        r.answers.length * (Writer.sizeLimit + Writer.countLimit + 13)) :=
  (Writer.writes_all Writer.writes_question r.questions).bind
    (Writer.writes_all Writer.writes_record r.answers)

theorem encode?_eq (r : Reply) : r.encode? =
    if r.questions.length > Writer.countLimit || r.answers.length > Writer.countLimit then none
    else ((Writer.putAll Writer.putQuestion r.questions ⟨r.header, []⟩ >>=
      Writer.putAll Writer.putRecord r.answers).map (·.bytes)) := by
  rw [encode?]
  split
  · rfl
  · change Writer.putAll Writer.putQuestion r.questions ⟨r.header, []⟩ >>= _ = _
    cases Writer.putAll Writer.putQuestion r.questions ⟨r.header, []⟩ with
    | none => rfl
    | some w => cases hw : Writer.putAll Writer.putRecord r.answers w <;> simp [hw]

/-- A reply that fits is written behind its header. -/
theorem encode?_of_fits {r : Reply} (h : r.Fits) : ∃ packet, r.encode? = some packet ∧ r.header <+: packet := by
  have counted : ¬ (r.questions.length > Writer.countLimit || r.answers.length > Writer.countLimit) = true := by
    have := h.countedQuestions
    have := h.countedAnswers
    simp only [Bool.or_eq_true, decide_eq_true_eq]
    omega
  obtain ⟨w, hw, -, front, -⟩ :=
    r.writes_body.written ⟨h.questions, h.answers⟩ (w := ⟨r.header, []⟩) nofun
  refine ⟨w.bytes, ?_, front⟩
  rw [encode?_eq, if_neg counted, hw]
  rfl

theorem encode?_of_not_fits {r : Reply} (h : ¬ r.Fits) : r.encode? = none := by
  rw [encode?_eq]
  split_ifs with many
  · rfl
  · simp only [Bool.or_eq_true, decide_eq_true_eq, not_or, Nat.not_lt] at many
    have refused := r.writes_body.refused (fun body => h ⟨many.1, many.2, body.1, body.2⟩)
      (w := ⟨r.header, []⟩) nofun
    rw [refused]
    rfl

theorem encode?_isSome_iff {r : Reply} : r.encode?.isSome = true ↔ r.Fits := by
  constructor
  · intro packed
    by_contra large
    rw [encode?_of_not_fits large] at packed
    cases packed
  · intro fits
    obtain ⟨reply, packed, -⟩ := encode?_of_fits fits
    rw [packed, Option.isSome_some]

theorem header_of_encode? {r : Reply} {reply : List UInt8} (packed : r.encode? = some reply) :
    r.header <+: reply := by
  have fits : r.Fits := encode?_isSome_iff.mp (by rw [packed, Option.isSome_some])
  obtain ⟨other, packed', front⟩ := encode?_of_fits fits
  cases packed.symm.trans packed'
  exact front

end Reply

/-! ### Packets of questions -/

namespace Query.Reader

variable {packet rest : List UInt8} {place : Nat}

/-- A question for the name that stands behind the header: a pointer to it, and the codes of type and class. -/
def again : List UInt8 := [0xC0, 12, 0, 1, 0, 1]

end Query.Reader

/-! ### Identifiers -/

theorem bytes16_number (a b : UInt8) : Writer.bytes16 (Query.Reader.number [a, b]) = [a, b] := by
  have small := b.toNat_lt
  have value : Query.Reader.number [a, b] = a.toNat * 256 + b.toNat := by
    simp [Query.Reader.number]
  have high : (a.toNat * 256 + b.toNat) / 256 = a.toNat := by
    omega
  have low : (a.toNat * 256 + b.toNat).toUInt8 = b := by
    rw [← UInt8.toNat_inj, Nat.toUInt8, UInt8.toNat_ofNat']
    omega
  have byte : a.toNat.toUInt8 = a := UInt8.ofNat_toNat
  rw [Writer.bytes16, value, high, low, byte]

/-- The identifier of a query stands in its first two bytes. -/
theorem Query.bytes16_id {data : List UInt8} {q : Query} (read : Query.decode? data = some q) :
    Writer.bytes16 q.id = data.take 2 := by
  simp only [Query.decode?, Option.bind_eq_bind, Option.bind_eq_some_iff, Option.some.injEq] at read
  obtain ⟨⟨id, r⟩, first, _, -, _, -, _, -, _, -, _, -, _, -, _, -, rfl⟩ := read
  obtain ⟨⟨bs, _⟩, taken, numbered⟩ := Option.bind_eq_some_iff.mp first
  cases numbered
  rw [Query.Reader.take?, List.drop_zero] at taken
  split at taken
  · rename_i two
    cases taken
    match pair : data.take 2 with
    | [] => rw [pair] at two; cases two
    | [_] => rw [pair] at two; cases two
    | [a, b] => exact bytes16_number a b
    | _ :: _ :: _ :: _ => rw [pair] at two; cases two
  · cases taken

end ClusterMdns.Dns
