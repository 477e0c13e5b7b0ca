import ClusterMdns.Proofs.Dns.Packet
import ClusterMdns.Proofs.Dns.ZoneCase
import ClusterMdns.Proofs.Responder.History

/-! A query is answered with the records that stand, as far as they are asked for. What stands is said of the
calls that were made; nothing about the answer is said of the table that the calls filled. -/

namespace ClusterMdns

open Dns Call

/-- The question asks for the record, by its name and by its type or by any. -/
def Dns.Question.AsksFor (q : Question) (record : Record) : Prop :=
  record.owner.folded = q.name.folded ∧ (q.type = Responder.anyType ∨ q.type = record.data.code)

instance (q : Question) (record : Record) : Decidable (q.AsksFor record) :=
  inferInstanceAs (Decidable (_ ∧ (_ ∨ _)))

/-- Which of the records the questions ask for, one question after the other. -/
def asked (questions : List Question) (records : List Record) : List Record :=
  questions.flatMap fun q => records.filter fun record => q.AsksFor record

/-- What the questions of a query ask for, of the records that stand after a history of calls. -/
def due (history : List Call) (q : Query) : List Record :=
  asked q.questions (standing history)

/-- Calls that differ in letter case only. -/
def Call.SameLetters (c d : Call) : Prop :=
  c.operation = d.operation ∧ c.record.SameLetters d.record

/-! ### Letter case -/

theorem Call.SameLetters.key {c d : Call} (h : c.SameLetters d) : c.key = d.key :=
  h.2.key

/-- All that the standing of a key depends on. -/
def Call.mark (c : Call) : RecordKey × Operation :=
  (c.key, c.operation)

namespace Responder

variable {start r : Responder} {history : List Call}

/-- The same call, but for letter case in its line. -/
def Respelled (given other : Operation × String) : Prop :=
  given.1 = other.1 ∧ Zone.Recased given.2 other.2

theorem CalledAs.respelled {given other : Operation × String} {c : Call} (h : CalledAs given c)
    (spelled : Respelled given other) : ∃ d, CalledAs other d ∧ c.SameLetters d := by
  obtain ⟨same, read, letters⟩ := readLine_recased spelled.2 h.2
  exact ⟨⟨c.operation, same⟩, ⟨spelled.1.symm.trans h.1, read⟩, rfl, letters⟩

theorem Holds.matching (h : Holds history r) (q : Question) :
    r.matching q = (standing history).filter fun record => q.AsksFor record := by
  rw [Responder.matching, h, List.filter_map, List.map_map, List.map_id'']
  · refine List.filter_congr fun record _ => ?_
    rw [Bool.eq_iff_iff, decide_eq_true_iff]
    simp only [Function.comp_apply, Record.key, Bool.and_eq_true, Bool.or_eq_true, beq_iff_eq]
    rfl
  · exact fun _ => rfl

/-- The records of an answer, as the calls say. -/
theorem Holds.answer (h : Holds history r) {data : List UInt8} {q : Query} (hq : Query.decode? data = some q)
    (legacy : Bool) : r.answer data legacy =
      if q.isReply = true ∨ due history q = [] then .ok none
      else match (replyTo legacy q (due history q)).encode? with
        | some packet => .ok (some packet)
        | none => .error () := by
  have answers : q.questions.flatMap r.matching = due history q :=
    List.flatMap_congr fun question _ => h.matching question
  unfold Responder.answer
  rw [hq]
  dsimp only
  rw [answers]
  by_cases reply : q.isReply = true
  · rw [if_pos reply, if_pos (Or.inl reply)]
  · by_cases none : due history q = []
    · rw [if_neg reply, if_pos (Or.inr none), none]
      rfl
    · have some : (due history q).isEmpty = false := by
        simpa using none
      rw [if_neg reply, if_neg (not_or.mpr ⟨reply, none⟩), some]
      rfl

/-- Asks for all records of `SHOP.LOCAL`. -/
def shopQuery : List UInt8 :=
  [0, 7, 0, 0, 0, 1, 0, 0, 0, 0, 0, 0, 4, 83, 72, 79, 80, 5, 76, 79, 67, 65, 76, 0, 0, 255, 0, 1]

section
open Query.Reader

end

end Responder

end ClusterMdns
