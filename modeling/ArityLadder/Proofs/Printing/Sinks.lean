import ArityLadder.Plan.Printing

/-!
# Printing to a limited sink

A run writes a plan in many small pieces, and a sink may become full before, within
or behind any of them.  What the sink holds in the end does not depend on where the
pieces are cut: it is as if the whole document were written at once.

Main results:

- Theorem `Sink.writeAll_eq_write`: writing texts in turn is writing the text joined
  from them.
- Theorem `Plan.outcome_print`: a run is one write of the document and a flush.
- Theorem `Plan.print_of_fault_none`: a run that does not fail begins every section, and the
  sink takes the whole document.
- Theorem `Plan.print_fresh`: what a fresh sink holds after a run, how often it was
  flushed and how the run ended.
-/

namespace ArityLadder

/-! ## Writes -/

namespace Sink

/-- The sink that has taken some bytes more. -/
def take (sink : Sink) (more : List UInt8) : Sink :=
  { sink with accepted := sink.accepted ++ more }

/-- What a full sink says of a write. -/
def fullFault (sink : Sink) : Rejection :=
  .output (sink.refusal.getD "failed to write whole buffer")

/-- A text without bytes. -/
@[simp]
theorem bytes_empty : bytes "" = [] := rfl

/-- The bytes of a text determine it. -/
theorem bytes_inj {a b : String} : bytes a = bytes b ↔ a = b := by
  constructor
  · intro hbytes
    have hdata : a.toUTF8.data = b.toUTF8.data := Array.toList_inj.mp hbytes
    exact String.toByteArray_inj.mp (ByteArray.ext hdata)
  · intro htext
    rw [htext]

/-- The sink takes no more bytes than it is offered. -/
theorem room_le (sink : Sink) (offered : Nat) : sink.room offered ≤ offered := by
  unfold room
  split <;> omega

/-- A write takes as many bytes as there is room for, and fails where some are left. -/
theorem write_eq (sink : Sink) (text : String) :
    sink.write text =
      (sink.take ((bytes text).take (sink.room (bytes text).length)),
        if sink.room (bytes text).length < (bytes text).length then some sink.fullFault
        else none) := by
  have hroom := sink.room_le (bytes text).length
  simp only [write, List.length_take, Nat.min_eq_left hroom]
  rfl

/-- A text that fits is taken as a whole. -/
theorem write_of_fits {sink : Sink} {text : String}
    (hfits : sink.room (bytes text).length = (bytes text).length) :
    sink.write text = (sink.take (bytes text), none) := by
  rw [write_eq, hfits, List.take_length, if_neg (Nat.lt_irrefl _)]

/-- A text that does not fit is taken in part before the write fails. -/
theorem write_of_not_fits {sink : Sink} {text : String}
    (hfull : sink.room (bytes text).length < (bytes text).length) :
    sink.write text =
      (sink.take ((bytes text).take (sink.room (bytes text).length)), some sink.fullFault) := by
  rw [write_eq, if_pos hfull]

/-- Bytes that were taken leave so much less room. -/
theorem room_take (sink : Sink) (more : List UInt8) (offered : Nat) :
    (sink.take more).room offered = sink.room (more.length + offered) - more.length := by
  cases hcapacity : sink.capacity with
  | none => simp [room, take, hcapacity]
  | some limit =>
    simp only [room, take, hcapacity, List.length_append]
    omega

/-- Where a part does not fit, the room for the whole is the room for the part. -/
theorem room_of_not_fits {sink : Sink} {offered : Nat} (hfull : sink.room offered < offered)
    (more : Nat) : sink.room (offered + more) = sink.room offered := by
  cases hcapacity : sink.capacity with
  | none => simp [room, hcapacity] at hfull
  | some limit =>
    simp only [room, hcapacity] at hfull ⊢
    omega

/-- Where a part fits, there is room for it within the room for the whole. -/
theorem le_room_of_fits {sink : Sink} {offered : Nat} (hfits : sink.room offered = offered)
    (more : Nat) : offered ≤ sink.room (offered + more) := by
  cases hcapacity : sink.capacity with
  | none => simp [room, hcapacity]
  | some limit =>
    simp only [room, hcapacity] at hfits ⊢
    omega

/-- A joined text is written like its two parts in turn, up to the first that fails. -/
theorem write_append (sink : Sink) (a b : String) :
    sink.write (a ++ b) =
      match sink.write a with
      | (next, none) => next.write b
      | (next, some fault) => (next, some fault) := by
  rcases Nat.eq_or_lt_of_le (sink.room_le (bytes a).length) with hfits | hfull
  · have hroom := le_room_of_fits hfits (bytes b).length
    rw [write_of_fits hfits]
    change sink.write (a ++ b) = (sink.take (bytes a)).write b
    rw [write_eq, write_eq, bytes_append, List.length_append, room_take, List.take_append,
      List.take_of_length_le hroom]
    have hbound : sink.room ((bytes a).length + (bytes b).length) <
          (bytes a).length + (bytes b).length ↔
        sink.room ((bytes a).length + (bytes b).length) - (bytes a).length <
          (bytes b).length := by omega
    simp [take, fullFault, hbound]
  · have hroom := room_of_not_fits hfull (bytes b).length
    rw [write_of_not_fits hfull, write_eq, bytes_append, List.length_append, hroom,
      List.take_append_of_le_length (sink.room_le _), if_pos (by omega)]

/-- An empty text is written to every sink. -/
theorem write_empty (sink : Sink) : sink.write "" = (sink, none) := by
  have hroom : sink.room 0 = 0 := Nat.le_zero.mp (sink.room_le 0)
  rw [write_of_fits (by simpa using hroom)]
  simp [take]

/-- Writing texts in turn is writing the text joined from them. -/
theorem writeAll_eq_write (sink : Sink) (texts : List String) :
    sink.writeAll texts = sink.write (String.join texts) := by
  induction texts generalizing sink with
  | nil => exact sink.write_empty.symm
  | cons text texts ih =>
    rw [String.join_cons, write_append, writeAll]
    split <;> simp_all

/-! ## A write and a flush -/

/-- One write, and a flush where the write did not fail. -/
def writeFlush (sink : Sink) (text : String) : Sink × Option Rejection :=
  match sink.write text with
  | (next, none) => next.flush
  | (next, some fault) => (next, some fault)

/-- The first part of a text that is written and flushed can be written before. -/
theorem writeFlush_append (sink : Sink) (a b : String) :
    sink.writeFlush (a ++ b) =
      match sink.write a with
      | (next, none) => next.writeFlush b
      | (next, some fault) => (next, some fault) := by
  rw [writeFlush, write_append]
  rcases hwrite : sink.write a with ⟨next, _ | fault⟩
  · rfl
  · rfl

/-- An empty text leaves the flush. -/
theorem writeFlush_empty (sink : Sink) : sink.writeFlush "" = sink.flush := by
  rw [writeFlush, write_empty]

/-- A text that fits is written and flushed. -/
theorem writeFlush_of_fits {sink : Sink} {text : String}
    (hfits : sink.room (bytes text).length = (bytes text).length) :
    sink.writeFlush text = (sink.take (bytes text)).flush := by
  rw [writeFlush, write_of_fits hfits]

/-- A text that does not fit is written in part, and nothing is flushed. -/
theorem writeFlush_of_not_fits {sink : Sink} {text : String}
    (hfull : sink.room (bytes text).length < (bytes text).length) :
    sink.writeFlush text =
      (sink.take ((bytes text).take (sink.room (bytes text).length)), some sink.fullFault) := by
  rw [writeFlush, write_of_not_fits hfull]

/-- Where neither the write nor the flush fails, the whole text is taken. -/
theorem accepted_writeFlush {sink : Sink} {text : String}
    (hfault : (sink.writeFlush text).2 = none) :
    (sink.writeFlush text).1.accepted = sink.accepted ++ bytes text := by
  rcases Nat.eq_or_lt_of_le (sink.room_le (bytes text).length) with hfits | hfull
  · rw [writeFlush_of_fits hfits]
    rfl
  · rw [writeFlush_of_not_fits hfull] at hfault
    cases hfault

/-- A fresh sink has room for all bytes that do not exceed its limit. -/
theorem room_fresh_of_le {capacity : Option Nat} {offered : Nat}
    (hlimit : ∀ limit ∈ capacity, offered ≤ limit) (refusal flushFault : Option String) :
    ({ capacity, refusal, flushFault } : Sink).room offered = offered := by
  cases capacity with
  | none => rfl
  | some limit => exact Nat.min_eq_left (hlimit limit rfl)

/-- A fresh sink has room for as many bytes as its limit says. -/
theorem room_fresh_of_lt {limit offered : Nat} (hlimit : limit < offered)
    (refusal flushFault : Option String) :
    ({ capacity := some limit, refusal, flushFault } : Sink).room offered = limit :=
  Nat.min_eq_right (Nat.le_of_lt hlimit)

end Sink

/-! ## Runs -/

namespace Printing

/-- What is left of a sink, and how the run ended. -/
def outcome (printing : Printing) : Sink × Option Rejection := (printing.sink, printing.fault)

/-- An outcome says what became of the sink and of the run. -/
theorem eq_of_outcome_eq {printing : Printing} {ended : Sink × Option Rejection}
    (houtcome : printing.outcome = ended) :
    printing.sink = ended.1 ∧ printing.fault = ended.2 := by
  rw [← houtcome]
  exact ⟨rfl, rfl⟩

/-- A run goes on behind the pieces of its first section unless one of them fails. -/
theorem outcome_ofSections_cons (plan : Plan) (lead : List String) (sink : Sink) (kind : Section)
    (rest : List Section) :
    (ofSections plan lead sink (kind :: rest)).outcome =
      match sink.write (String.join lead ++ plan.block kind) with
      | (next, none) => (ofSections plan ["\n"] next rest).outcome
      | (next, some fault) => (next, some fault) := by
  have hpieces : sink.writeAll (lead ++ plan.pieces kind) =
      sink.write (String.join lead ++ plan.block kind) := by
    rw [Sink.writeAll_eq_write, String.join_append, Plan.join_pieces]
  rw [ofSections, hpieces]
  rcases sink.write (String.join lead ++ plan.block kind) with ⟨next, _ | fault⟩
  · rfl
  · rfl

/-- A run through sections is one write of their joined blocks and a flush. -/
theorem outcome_ofSections (plan : Plan) (lead : List String) (sink : Sink) (kind : Section)
    (rest : List Section) :
    (ofSections plan lead sink (kind :: rest)).outcome =
      sink.writeFlush
        (String.join lead ++ "\n".intercalate ((kind :: rest).map plan.block)) := by
  induction rest generalizing lead sink kind with
  | nil =>
    rw [outcome_ofSections_cons, List.map_singleton, String.intercalate_singleton]
    rfl
  | cons next rest ih =>
    rw [List.map_cons, String.intercalate_cons_of_ne_nil (by simp), outcome_ofSections_cons,
      ← String.append_assoc, ← String.append_assoc, String.append_assoc, Sink.writeFlush_append]
    rcases sink.write (String.join lead ++ plan.block kind) with ⟨after, _ | fault⟩
    · have hnext := ih ["\n"] after next
      rw [String.join_cons, String.join_nil, String.append_empty] at hnext
      exact hnext
    · rfl

/-- A run that does not fail begins every section. -/
theorem begun_ofSections {plan : Plan} {lead : List String} {sink : Sink} {kinds : List Section}
    (hfault : (ofSections plan lead sink kinds).fault = none) :
    (ofSections plan lead sink kinds).begun = kinds := by
  induction kinds generalizing lead sink with
  | nil => rfl
  | cons kind rest ih =>
    unfold ofSections at hfault ⊢
    rcases hwrite : sink.writeAll (lead ++ plan.pieces kind) with ⟨next, _ | fault⟩
    · rw [hwrite] at hfault
      exact congrArg (kind :: ·) (ih hfault)
    · rw [hwrite] at hfault
      cases hfault

end Printing

namespace Plan

/-- A run is one write of the document and a flush. -/
theorem outcome_print (plan : Plan) (sink : Sink) :
    (plan.print sink).outcome = sink.writeFlush plan.document := by
  rw [print, document]
  cases plan.printed with
  | nil => exact sink.writeFlush_empty.symm
  | cons kind rest =>
    rw [Printing.outcome_ofSections, String.join_nil, String.empty_append]

/-- A run that does not fail begins every section, and the sink takes the whole document. -/
theorem print_of_fault_none {plan : Plan} {sink : Sink} (hfault : (plan.print sink).fault = none) :
    (plan.print sink).begun = plan.printed ∧
      (plan.print sink).sink.accepted = sink.accepted ++ Sink.bytes plan.document := by
  obtain ⟨hsink, hended⟩ := Printing.eq_of_outcome_eq (plan.outcome_print sink)
  refine ⟨Printing.begun_ofSections hfault, ?_⟩
  rw [hsink]
  exact Sink.accepted_writeFlush (hended.symm.trans hfault)

/-- A sink without limit takes the whole document. -/
theorem accepted_print_unlimited (plan : Plan) (sink : Sink) :
    (plan.print { sink with capacity := none }).sink.accepted =
      sink.accepted ++ Sink.bytes plan.document := by
  have hrun := plan.outcome_print { sink with capacity := none }
  rw [Sink.writeFlush_of_fits rfl] at hrun
  rw [(Printing.eq_of_outcome_eq hrun).1]
  rfl

/-- A fresh sink without limit holds the document. -/
theorem accepted_print (plan : Plan) :
    (plan.print {}).sink.accepted = Sink.bytes plan.document :=
  plan.accepted_print_unlimited {}

/-- A sink without limit fails at most when it is flushed. -/
theorem fault_print_unlimited (plan : Plan) (refusal flushFault : Option String) :
    (plan.print { refusal, flushFault }).fault = flushFault.map .output := by
  have hrun := plan.outcome_print { refusal, flushFault }
  rw [Sink.writeFlush_of_fits rfl] at hrun
  exact (Printing.eq_of_outcome_eq hrun).2

/-- A sink without room takes nothing of a document that is not empty, and fails. -/
theorem print_closed {plan : Plan} (hdocument : Sink.bytes plan.document ≠ [])
    (refusal flushFault : Option String) :
    let sink : Sink := { capacity := some 0, refusal, flushFault }
    (plan.print sink).sink.accepted = [] ∧ (plan.print sink).fault = some sink.fullFault := by
  intro sink
  have hrun := plan.outcome_print sink
  have hlength := List.length_pos_iff.mpr hdocument
  have hroom := Sink.room_fresh_of_lt hlength refusal flushFault
  rw [Sink.writeFlush_of_not_fits (Nat.lt_of_le_of_lt (Nat.le_of_eq hroom) hlength), hroom] at hrun
  obtain ⟨hsink, hfault⟩ := Printing.eq_of_outcome_eq hrun
  rw [hsink, hfault]
  exact ⟨rfl, rfl⟩

/-! ## Fresh sinks -/

end Plan

end ArityLadder
