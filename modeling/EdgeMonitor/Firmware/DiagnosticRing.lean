import EdgeMonitor.Base.Machine
import EdgeMonitor.Firmware.DeviceConfig

/-!
# The diagnostic ring

Library `Firmware`. The ring of diagnostic records of
`firmware/components/diagnostic_log/diagnostic_ring.c` and a client that reads it in
batches. The ring represents the list of all records pushed since the reset: it stores
the last 64 of them, and the numbers a client passes are each delivered or counted as
lost, once.
-/

namespace EdgeMonitor.Firmware
open EdgeMonitor.Base

/-- `DIAGNOSTIC_LOG_CAPACITY`. -/
abbrev diagnosticLogCapacity : Nat := 64

/-- `DIAGNOSTIC_LOG_BATCH_CAPACITY`. -/
abbrev diagnosticLogBatchCapacity : Nat := 8

/-- `diagnostic_log_record_t`, `diagnostic_log.h:14–20`. -/
structure DiagnosticRecord where
  sequence : UInt64
  relativeMs : UInt64
  level : UInt8
  component : CharArray 24
  message : CharArray 160
  deriving DecidableEq

/-- `UINT64_MAX`. -/
abbrev uint64Max : UInt64 := 18446744073709551615

/-- A record after `memset`. -/
def DiagnosticRecord.zero : DiagnosticRecord where
  sequence := 0
  relativeMs := 0
  level := 0
  component := .replicate _ 0
  message := .replicate _ 0

/-- `diagnostic_log_batch_t`, `diagnostic_log.h:22–31`. The first `count` of its records. -/
structure DiagnosticBatch where
  records : List DiagnosticRecord
  cursor : UInt64
  firstAvailableSequence : UInt64
  nextSequence : UInt64
  overwritten : UInt64
  lostBeforeCursor : UInt64
  hasMore : Bool
  deriving DecidableEq

/-- The number of records in a batch. -/
abbrev DiagnosticBatch.count (batch : DiagnosticBatch) : Nat := batch.records.length

/-- The static variables of `diagnostic_ring.c:5–9`. -/
structure DiagnosticRing where
  records : Vector DiagnosticRecord diagnosticLogCapacity
  head : Fin diagnosticLogCapacity
  count : Nat
  nextSequence : UInt64
  overwritten : UInt64

namespace DiagnosticRing

/-- `diagnostic_ring_reset`. -/
def reset : DiagnosticRing where
  records := .replicate _ .zero
  head := 0
  count := 0
  nextSequence := 1
  overwritten := 0

/-- `diagnostic_ring_push`: the record with its number, and the ring. The addition on
`Fin` is modulo the capacity. -/
def push (ring : DiagnosticRing) (record : DiagnosticRecord) :
    DiagnosticRecord × DiagnosticRing :=
  let record := { record with sequence := ring.nextSequence }
  let ring := { ring with
    nextSequence := ring.nextSequence + 1
    records := ring.records.set ring.head record
    head := ring.head + 1 }
  if ring.count < diagnosticLogCapacity then (record, { ring with count := ring.count + 1 })
  else (record, { ring with overwritten := ring.overwritten + 1 })

/-- The slot of the oldest record. -/
def start (ring : DiagnosticRing) : Nat :=
  (ring.head + diagnosticLogCapacity - ring.count) % diagnosticLogCapacity

/-- The record `index` places after the oldest one. -/
def recordAt (ring : DiagnosticRing) (index : Nat) : DiagnosticRecord :=
  ring.records.get (Fin.ofNat diagnosticLogCapacity (ring.start + index))

/-- The stored records in the order in which `diagnostic_ring_batch` visits them. -/
def visited (ring : DiagnosticRing) : List DiagnosticRecord :=
  (List.range ring.count).map ring.recordAt

/-- The loop of `diagnostic_ring_batch`, `diagnostic_ring.c:56–66`. -/
def collect (afterSequence : UInt64) : List DiagnosticRecord → DiagnosticBatch → DiagnosticBatch
  | [], batch => batch
  | record :: records, batch =>
    if record.sequence > afterSequence then
      if batch.count = diagnosticLogBatchCapacity then { batch with hasMore := true }
      else collect afterSequence records
        { batch with records := batch.records ++ [record], cursor := record.sequence }
    else collect afterSequence records batch

/-- `diagnostic_ring_batch`. -/
def batch (ring : DiagnosticRing) (afterSequence : UInt64) : DiagnosticBatch :=
  let first := if ring.count > 0 then (ring.recordAt 0).sequence else ring.nextSequence
  let lost :=
    if ring.count > 0 ∧ afterSequence ≠ uint64Max ∧ afterSequence + 1 < first then
      first - afterSequence - 1
    else 0
  collect afterSequence ring.visited
    { records := []
      cursor := afterSequence
      firstAvailableSequence := first
      nextSequence := ring.nextSequence
      overwritten := ring.overwritten
      lostBeforeCursor := lost
      hasMore := false }

/-! ### The list of pushed records -/

/-- The records of a log that the ring still stores. -/
def stored (log : List DiagnosticRecord) : List DiagnosticRecord :=
  log.drop (log.length - diagnosticLogCapacity)

/-- The ring represents all records pushed since the reset. -/
structure Represents (ring : DiagnosticRing) (log : List DiagnosticRecord) : Prop where
  numbered : log.map (·.sequence.toNat) = List.range' 1 log.length
  next_eq : ring.nextSequence.toNat = (log.length + 1) % 2 ^ 64
  head_eq : (ring.head : Nat) = log.length % 64
  count_eq : ring.count = min log.length 64
  overwritten_eq : ring.overwritten.toNat = log.length - 64
  slots : ∀ (i : Nat) (h : i < log.length), log.length ≤ i + 64 →
    ring.records.get (Fin.ofNat 64 i) = log[i]

theorem represents_reset : Represents reset [] where
  numbered := rfl
  next_eq := rfl
  head_eq := rfl
  count_eq := rfl
  overwritten_eq := rfl
  slots := fun i h ↦ absurd h (Nat.not_lt_zero i)

theorem push_fst (ring : DiagnosticRing) (record : DiagnosticRecord) :
    (ring.push record).1 = { record with sequence := ring.nextSequence } := by
  rw [push]
  split <;> rfl

theorem push_snd (ring : DiagnosticRing) (record : DiagnosticRecord) :
    (ring.push record).2 =
      { records := ring.records.set ring.head (ring.push record).1
        head := ring.head + 1
        count := if ring.count < 64 then ring.count + 1 else ring.count
        nextSequence := ring.nextSequence + 1
        overwritten := if ring.count < 64 then ring.overwritten else ring.overwritten + 1 } := by
  rw [push]
  split <;> simp only

namespace Represents
variable {ring : DiagnosticRing} {log : List DiagnosticRecord}

/-- Writing at the head stores the next record and keeps the others of the last 64. -/
theorem slots_set (h : Represents ring log) (record : DiagnosticRecord) (i : Nat)
    (hi : i < (log ++ [record]).length) (hstored : (log ++ [record]).length ≤ i + 64) :
    (ring.records.set ring.head record).get (Fin.ofNat 64 i) = (log ++ [record])[i] := by
  rw [Vector.get_eq_getElem, Vector.getElem_set]
  have hhead := h.head_eq
  rw [List.length_append, List.length_singleton] at hstored
  have hlength : i < log.length + 1 := by simpa using hi
  rcases Nat.lt_or_eq_of_le (Nat.le_of_lt_succ hlength) with hold | rfl
  · -- an earlier number among the last 64 uses another slot
    rw [if_neg (by simp only [Fin.val_ofNat, diagnosticLogCapacity]; omega), List.getElem_append_left hold,
      ← Vector.get_eq_getElem]
    exact h.slots i hold (by omega)
  · rw [if_pos (by simp only [Fin.val_ofNat, diagnosticLogCapacity]; omega), List.getElem_concat_length rfl]

/-- A push extends the log by the numbered record. -/
theorem push (h : Represents ring log) (hroom : log.length + 1 < 2 ^ 64)
    (record : DiagnosticRecord) :
    Represents (ring.push record).2 (log ++ [(ring.push record).1]) := by
  have hnext : ring.nextSequence.toNat = log.length + 1 := by
    rw [h.next_eq, Nat.mod_eq_of_lt hroom]
  have hlength : (log ++ [(ring.push record).1]).length = log.length + 1 := by
    rw [List.length_append, List.length_singleton]
  have hcount := h.count_eq
  rw [push_snd]
  constructor
  · rw [hlength, List.map_append, h.numbered, List.range'_concat, List.map_singleton, push_fst,
      hnext, Nat.one_mul, Nat.add_comm 1]
  · rw [hlength, UInt64.toNat_add, hnext, UInt64.toNat_one]
  · have hhead := h.head_eq
    rw [hlength, Fin.val_add, hhead]
    exact Nat.mod_add_mod _ _ _
  · rw [hlength]
    simp only
    split <;> omega
  · have hoverwritten := h.overwritten_eq
    rw [hlength]
    simp only
    split
    · omega
    · rw [UInt64.toNat_add, UInt64.toNat_one]
      omega
  · exact h.slots_set _

/-- The record with index `i` has number `i + 1`. -/
theorem sequence_getElem (h : Represents ring log) (i : Nat) (hi : i < log.length) :
    log[i].sequence.toNat = i + 1 := by
  have hi' : i < (log.map (·.sequence.toNat)).length := by rwa [List.length_map]
  have hrange : i < (List.range' 1 log.length).length := by rwa [List.length_range']
  have hget : (log.map (·.sequence.toNat))[i] = (List.range' 1 log.length)[i] := by
    simp only [h.numbered]
  rw [List.getElem_map, List.getElem_range'] at hget
  omega

/-- The batch visits the stored records, oldest first. -/
theorem visited_eq (h : Represents ring log) : ring.visited = stored log := by
  have hhead := h.head_eq
  have hcount := h.count_eq
  refine List.ext_getElem ?_ ?_
  · simp only [visited, stored, List.length_map, List.length_range, List.length_drop,
      diagnosticLogCapacity]
    omega
  · intro i hi _
    have hindex : i < ring.count := by simpa [visited] using hi
    simp only [visited, List.getElem_map, List.getElem_range, stored, List.getElem_drop, recordAt]
    rw [← h.slots (log.length - 64 + i) (by omega) (by omega)]
    congr 1
    apply Fin.ext
    simp only [start, Fin.val_ofNat, diagnosticLogCapacity]
    omega

/-- The stored records after a number are a suffix of the log. -/
theorem filter_stored (h : Represents ring log) (after : UInt64) :
    (stored log).filter (fun record ↦ decide (after < record.sequence)) =
      log.drop (max (log.length - 64) after.toNat) := by
  have hsplit : stored log = (log.take (max (log.length - 64) after.toNat)).drop
      (log.length - 64) ++ log.drop (max (log.length - 64) after.toNat) := by
    rw [stored, ← List.drop_append_of_le_length]
    · rw [List.take_append_drop]
    · rw [List.length_take]
      omega
  rw [hsplit, List.filter_append, List.filter_eq_nil_iff.mpr, List.nil_append,
    List.filter_eq_self]
  · intro record hmem
    obtain ⟨i, hi, rfl⟩ := List.mem_iff_getElem.mp hmem
    rw [List.length_drop] at hi
    rw [List.getElem_drop, decide_eq_true_eq, UInt64.lt_iff_toNat_lt, h.sequence_getElem]
    omega
  · intro record hmem
    obtain ⟨i, hi, rfl⟩ := List.mem_iff_getElem.mp hmem
    rw [List.length_drop, List.length_take] at hi
    rw [List.getElem_drop, List.getElem_take, decide_eq_true_eq, UInt64.lt_iff_toNat_lt,
      h.sequence_getElem]
    omega

end Represents

/-- The loop adds the first `room` records after the cursor, and tells whether one more
remains. -/
theorem collect_eq (after : UInt64) (records : List DiagnosticRecord) (batch : DiagnosticBatch)
    (room : Nat) (h : batch.count + room = 8) :
    collect after records batch =
      let available := records.filter fun record ↦ decide (after < record.sequence)
      { batch with
        records := batch.records ++ available.take room
        cursor := ((available.take room).getLast?.map (·.sequence)).getD batch.cursor
        hasMore := batch.hasMore || decide (room < available.length) } := by
  induction records generalizing batch room with
  | nil => simp [collect]
  | cons record records ih =>
    rw [collect]
    by_cases hafter : record.sequence > after
    · rw [if_pos hafter, List.filter_cons_of_pos (by simpa using hafter)]
      cases room with
      | zero =>
        rw [if_pos (show batch.count = diagnosticLogBatchCapacity from h)]
        simp
      | succ room =>
        have hcount : (batch.records ++ [record]).length + room = 8 := by
          rw [List.length_append, List.length_singleton, Nat.add_assoc, Nat.add_comm 1]
          exact h
        have hfree : batch.count ≠ diagnosticLogBatchCapacity := by
          simp only [diagnosticLogBatchCapacity]
          omega
        rw [if_neg hfree, ih _ room hcount]
        simp only [List.append_assoc, List.singleton_append, List.take_succ_cons,
          List.length_cons, Nat.add_lt_add_iff_right, List.getLast?_cons, Option.map_some,
          Option.getD_some]
        congr 1
        cases (List.take room
          (records.filter fun record ↦ decide (after < record.sequence))).getLast? <;> rfl
    · rw [if_neg hafter, ih _ room h, List.filter_cons_of_neg (by simpa using hafter)]

namespace Represents
variable {ring : DiagnosticRing} {log : List DiagnosticRecord}

/-- The oldest stored record has the number after those that were overwritten. -/
theorem sequence_recordAt_zero (h : Represents ring log) (hcount : 0 < ring.count) :
    (ring.recordAt 0).sequence.toNat = log.length - 64 + 1 := by
  have hlength := h.count_eq
  have hvisited : 0 < ring.visited.length := by simpa [visited] using hcount
  have hfirst : ring.recordAt 0 = ring.visited[0] := by simp [visited]
  rw [hfirst]
  simp only [h.visited_eq, stored, List.getElem_drop]
  exact h.sequence_getElem (log.length - 64) (by omega)

/-- The cursor of a batch is the last number it covers. -/
theorem sequence_getLast (h : Represents ring log) {after : UInt64}
    (hafter : after.toNat ≤ log.length) :
    let available := log.drop (max (log.length - 64) after.toNat)
    (((available.take 8).getLast?.map (·.sequence)).getD after).toNat =
      max (log.length - 64) after.toNat + (available.take 8).length := by
  intro available
  have hlength : (available.take 8).length =
      min 8 (log.length - max (log.length - 64) after.toNat) := by
    rw [List.length_take, List.length_drop]
  rw [List.getLast?_eq_getElem?]
  rcases Nat.eq_zero_or_pos (available.take 8).length with hzero | hpos
  · rw [List.length_eq_zero_iff.mp hzero, List.getElem?_nil, Option.map_none, Option.getD_none,
      List.length_nil]
    omega
  · have hlast : (available.take 8).length - 1 < (available.take 8).length := by omega
    rw [List.getElem?_eq_getElem hlast, Option.map_some, Option.getD_some, List.getElem_take,
      List.getElem_drop, h.sequence_getElem]
    omega

/-- The numbers that a batch counts as lost are those overwritten after the cursor. -/
theorem lost_eq (h : Represents ring log) (hroom : log.length < 2 ^ 64) {after : UInt64}
    (hafter : after.toNat ≤ log.length) :
    (if ring.count > 0 ∧ after ≠ uint64Max ∧ after + 1 < (ring.recordAt 0).sequence then
      (ring.recordAt 0).sequence - after - 1 else 0).toNat = log.length - 64 - after.toNat := by
  have hcount := h.count_eq
  by_cases hlost : after.toNat < log.length - 64
  · have hfirst := h.sequence_recordAt_zero (by omega)
    have hone : (after + 1).toNat = after.toNat + 1 := by
      rw [UInt64.toNat_add, UInt64.toNat_one]
      omega
    have hmax : after ≠ uint64Max := by
      rintro rfl
      simp only [uint64Max, UInt64.reduceToNat] at hlost
      omega
    have hle : after ≤ (ring.recordAt 0).sequence := by
      rw [UInt64.le_iff_toNat_le]
      omega
    have hsub : ((ring.recordAt 0).sequence - after).toNat = log.length - 64 + 1 - after.toNat := by
      rw [UInt64.toNat_sub_of_le _ _ hle, hfirst]
    have hsub' : (1 : UInt64) ≤ (ring.recordAt 0).sequence - after := by
      rw [UInt64.le_iff_toNat_le, UInt64.toNat_one]
      omega
    rw [if_pos ⟨by omega, hmax, by rw [UInt64.lt_iff_toNat_lt]; omega⟩,
      UInt64.toNat_sub_of_le _ _ hsub', hsub, UInt64.toNat_one]
    omega
  · rw [if_neg, UInt64.toNat_zero]
    · omega
    · rintro ⟨hpos, hmax, hlt⟩
      have hfirst := h.sequence_recordAt_zero hpos
      have hone : (after + 1).toNat = after.toNat + 1 := by
        have hne : after.toNat ≠ 2 ^ 64 - 1 := by
          intro heq
          exact hmax (UInt64.toNat_inj.mp heq)
        rw [UInt64.toNat_add, UInt64.toNat_one]
        omega
      rw [UInt64.lt_iff_toNat_lt] at hlt
      omega

/-- What a batch after a number of the log holds. -/
theorem batch_eq (h : Represents ring log) (hroom : log.length < 2 ^ 64) {after : UInt64}
    (hafter : after.toNat ≤ log.length) :
    let b := ring.batch after
    b.records = (log.drop (max (log.length - 64) after.toNat)).take 8 ∧
    b.cursor.toNat = max (log.length - 64) after.toNat + b.count ∧
    b.lostBeforeCursor.toNat = log.length - 64 - after.toNat ∧
    b.overwritten.toNat = log.length - 64 ∧
    b.hasMore = decide (8 < log.length - max (log.length - 64) after.toNat) := by
  intro b
  have hb : b = ring.batch after := rfl
  rw [batch, collect_eq after _ _ 8 rfl, h.visited_eq, h.filter_stored] at hb
  simp only [List.nil_append, Bool.false_or, List.length_drop] at hb
  have hlost := h.lost_eq hroom hafter
  rw [hb]
  refine ⟨rfl, h.sequence_getLast hafter, ?_, h.overwritten_eq, rfl⟩
  rw [← hlost]
  by_cases hpos : ring.count > 0
  · simp only [hpos, if_true]
  · simp only [hpos, if_false, false_and]

theorem mem_stored_iff (log : List DiagnosticRecord) (record : DiagnosticRecord) :
    record ∈ stored log ↔ ∃ (i : Nat) (hi : i < log.length), log.length ≤ i + 64 ∧
      log[i] = record := by
  rw [stored, List.mem_iff_getElem]
  constructor
  · rintro ⟨i, hi, rfl⟩
    have hlength := hi
    simp only [List.length_drop, diagnosticLogCapacity] at hlength
    exact ⟨log.length - 64 + i, by omega, by omega, List.getElem_drop.symm⟩
  · rintro ⟨i, hi, hlast, rfl⟩
    refine ⟨i - (log.length - 64), ?_, ?_⟩
    · rw [List.length_drop]
      simp only [diagnosticLogCapacity]
      omega
    · rw [List.getElem_drop]
      congr 1
      simp only [diagnosticLogCapacity]
      omega

/-- The batch says that more remains exactly when a stored record has a number after its
cursor. -/
theorem hasMore_iff (h : Represents ring log) (hroom : log.length < 2 ^ 64) {after : UInt64}
    (hafter : after.toNat ≤ log.length) : (ring.batch after).hasMore = true ↔
      ∃ record ∈ stored log, (ring.batch after).cursor < record.sequence := by
  obtain ⟨hrecords, hcursor, -, -, hmore⟩ := h.batch_eq hroom hafter
  have hcount : (ring.batch after).count =
      min 8 (log.length - max (log.length - 64) after.toNat) := by
    rw [DiagnosticBatch.count, hrecords, List.length_take, List.length_drop]
  rw [hmore, decide_eq_true_eq]
  constructor
  · intro hlt
    have hnext : max (log.length - 64) after.toNat + 8 < log.length := by omega
    refine ⟨log[max (log.length - 64) after.toNat + 8],
      (mem_stored_iff _ _).mpr ⟨_, hnext, by omega, rfl⟩, ?_⟩
    rw [UInt64.lt_iff_toNat_lt, hcursor, h.sequence_getElem]
    omega
  · rintro ⟨record, hmem, hlt⟩
    obtain ⟨i, hi, -, rfl⟩ := (mem_stored_iff _ _).mp hmem
    rw [UInt64.lt_iff_toNat_lt, hcursor, h.sequence_getElem] at hlt
    omega

end Represents

/-- Numbers that increase as naturals increase as words. -/
theorem increasing_of_toNat {records : List DiagnosticRecord}
    (h : (records.map (·.sequence.toNat)).Pairwise (· < ·)) :
    (records.map (·.sequence)).Pairwise (· < ·) := by
  rw [List.pairwise_map] at h ⊢
  exact h.imp UInt64.lt_iff_toNat_lt.mpr

/-! ### A client that reads batch after batch -/

/-- The ring and the cursor of a client. -/
structure Client where
  ring : DiagnosticRing
  cursor : UInt64

/-- A record is pushed, or the client asks for a batch after its cursor. -/
inductive RingEvent where
  | push (record : DiagnosticRecord)
  | batch

/-- The record as it was stored, or the batch with the cursor the client passed. -/
inductive RingOutput where
  | pushed (record : DiagnosticRecord)
  | delivered (after : UInt64) (batch : DiagnosticBatch)

/-- Pushes interleaved with the batches of a client, which passes the cursor of its last
batch each time. -/
def clientMachine : Machine Client RingEvent RingOutput where
  step s
    | .push record =>
      let r := s.ring.push record
      ({ s with ring := r.2 }, .pushed r.1)
    | .batch =>
      let b := s.ring.batch s.cursor
      ({ s with cursor := b.cursor }, .delivered s.cursor b)

/-- The events of a run with what each returned. -/
abbrev RingTrace := List (RingEvent × RingOutput)

namespace RingTrace

/-- The records pushed, with their numbers. -/
def pushed (t : RingTrace) : List DiagnosticRecord :=
  t.filterMap fun
    | (_, .pushed record) => some record
    | _ => none

/-- The records delivered to the client, in order. -/
def delivered (t : RingTrace) : List DiagnosticRecord :=
  t.flatMap fun
    | (_, .delivered _ b) => b.records
    | _ => []

/-- The numbers that the batches account for, in order: those counted as lost before the
cursor passed, then those of the records delivered. -/
def accounted (t : RingTrace) : List Nat :=
  t.flatMap fun
    | (_, .delivered after b) =>
      List.range' (after.toNat + 1) b.lostBeforeCursor.toNat ++ b.records.map (·.sequence.toNat)
    | _ => []

@[simp] theorem pushed_append (t u : RingTrace) : pushed (t ++ u) = t.pushed ++ u.pushed :=
  List.filterMap_append

@[simp] theorem accounted_append (t u : RingTrace) :
    accounted (t ++ u) = t.accounted ++ u.accounted := List.flatMap_append

/-- The delivered records appear among the numbers accounted for. -/
theorem delivered_sublist (t : RingTrace) :
    (t.delivered.map (·.sequence.toNat)).Sublist t.accounted := by
  induction t with
  | nil => exact .slnil
  | cons x t ih =>
    obtain ⟨event, output⟩ := x
    simp only [delivered, accounted, List.flatMap_cons, List.map_append] at ih ⊢
    refine List.Sublist.append ?_ ih
    cases output with
    | pushed record => exact .slnil
    | delivered after b => exact List.sublist_append_right _ _

end RingTrace
open RingTrace

/-- The ring represents the pushed records in every run. -/
theorem represents_run (cursor : UInt64) (events : List RingEvent)
    (hroom : (pushed (clientMachine.trace ⟨reset, cursor⟩ events)).length < 2 ^ 64) :
    Represents (clientMachine.run ⟨reset, cursor⟩ events).ring
      (pushed (clientMachine.trace ⟨reset, cursor⟩ events)) := by
  refine clientMachine.invariant_trace
    (fun s t ↦ (pushed t).length < 2 ^ 64 → Represents s.ring (pushed t)) ?_
    (fun _ ↦ represents_reset) events hroom
  intro s t event ih hlen
  rw [pushed_append] at hlen ⊢
  rw [List.length_append] at hlen
  have hrep := ih (by omega)
  cases event with
  | push record => exact hrep.push hlen record
  | batch =>
    rw [show pushed [(RingEvent.batch, (clientMachine.step s .batch).2)] = [] from rfl,
      List.append_nil]
    exact hrep

/-- How far a client has come that started at a cursor. -/
structure Serves (start : UInt64) (s : Client) (t : RingTrace) : Prop where
  start_le : start.toNat ≤ s.cursor.toNat
  cursor_le : s.cursor.toNat ≤ t.pushed.length
  accounted_eq : t.accounted = List.range' (start.toNat + 1) (s.cursor.toNat - start.toNat)

theorem Serves.step {start : UInt64} {s : Client} {t : RingTrace} (h : Serves start s t)
    (hrep : Represents s.ring t.pushed) (event : RingEvent)
    (hroom : (pushed (t ++ [(event, (clientMachine.step s event).2)])).length < 2 ^ 64) :
    Serves start (clientMachine.step s event).1
      (t ++ [(event, (clientMachine.step s event).2)]) := by
  cases event with
  | push record =>
    have hpushed : pushed [(RingEvent.push record, RingOutput.pushed (s.ring.push record).1)] =
      [(s.ring.push record).1] := rfl
    have hnone : accounted [(RingEvent.push record,
      RingOutput.pushed (s.ring.push record).1)] = [] := rfl
    simp only [clientMachine, pushed_append, hpushed, List.length_append,
      List.length_singleton] at hroom ⊢
    constructor
    · exact h.start_le
    · rw [pushed_append, hpushed, List.length_append, List.length_singleton]
      exact Nat.le_succ_of_le h.cursor_le
    · rw [accounted_append, hnone, List.append_nil]
      exact h.accounted_eq
  | batch =>
    have hnone : pushed [(RingEvent.batch,
      RingOutput.delivered s.cursor (s.ring.batch s.cursor))] = [] := rfl
    have hnew : accounted [(RingEvent.batch,
        RingOutput.delivered s.cursor (s.ring.batch s.cursor))] =
        List.range' (s.cursor.toNat + 1) (s.ring.batch s.cursor).lostBeforeCursor.toNat ++
          (s.ring.batch s.cursor).records.map (·.sequence.toNat) := List.append_nil _
    simp only [clientMachine, pushed_append, hnone, List.append_nil] at hroom ⊢
    have hcursor := h.cursor_le
    have hstart := h.start_le
    obtain ⟨hrecords, hnext, hlost, -, -⟩ := hrep.batch_eq hroom h.cursor_le
    have hcount : (s.ring.batch s.cursor).count =
        min 8 (t.pushed.length - max (t.pushed.length - 64) s.cursor.toNat) := by
      rw [DiagnosticBatch.count, hrecords, List.length_take, List.length_drop]
    have hnumbers : (s.ring.batch s.cursor).records.map (·.sequence.toNat) =
        List.range' (max (t.pushed.length - 64) s.cursor.toNat + 1)
          (s.ring.batch s.cursor).count := by
      rw [hcount, hrecords, List.map_take, List.map_drop, hrep.numbered, List.drop_range',
        List.take_eq_take_min, List.length_range', List.take_range'_of_length_ge (by omega),
        Nat.mul_one, Nat.add_comm 1]
    constructor
    · simp only
      omega
    · rw [pushed_append, hnone, List.append_nil]
      simp only
      omega
    · have hmax : max (t.pushed.length - 64) s.cursor.toNat + 1 =
          s.cursor.toNat + 1 + (t.pushed.length - 64 - s.cursor.toNat) := by omega
      have hold : s.cursor.toNat + 1 =
          start.toNat + 1 + (s.cursor.toNat - start.toNat) := by omega
      rw [accounted_append, hnew, hnumbers, hlost, h.accounted_eq, hmax, List.range'_append_1,
        hold, List.range'_append_1, hnext]
      congr 1
      omega

/-- Pushes alone keep the cursor and account for nothing. -/
theorem serves_pushes (cursor : UInt64) (records : List DiagnosticRecord) :
    let t : RingTrace := clientMachine.trace ⟨reset, cursor⟩ (records.map .push)
    t.pushed.length = records.length ∧ t.accounted = [] ∧
      (clientMachine.run ⟨reset, cursor⟩ (records.map .push)).cursor = cursor := by
  induction records using List.reverseRecOn with
  | nil => exact ⟨rfl, rfl, rfl⟩
  | append_singleton records record ih =>
    obtain ⟨hlength, haccounted, hcursor⟩ := ih
    rw [List.map_append, List.map_singleton, Machine.trace_concat, Machine.run_append]
    refine ⟨?_, ?_, hcursor⟩
    · rw [pushed_append, List.length_append, hlength, List.length_append]
      rfl
    · rw [accounted_append, haccounted]
      rfl

/-- The client has accounted for everything after every run that starts at a number of
the log. -/
theorem serves_run (records : List DiagnosticRecord) (cursor : UInt64) (events : List RingEvent)
    (hcursor : cursor < (clientMachine.run ⟨reset, cursor⟩ (records.map .push)).ring.nextSequence)
    (hroom : (pushed (clientMachine.trace ⟨reset, cursor⟩
      (records.map .push ++ events))).length < 2 ^ 64) :
    Serves cursor (clientMachine.run ⟨reset, cursor⟩ (records.map .push ++ events))
      (clientMachine.trace ⟨reset, cursor⟩ (records.map .push ++ events)) := by
  induction events using List.reverseRecOn with
  | nil =>
    obtain ⟨hlength, haccounted, hkept⟩ := serves_pushes cursor records
    rw [List.append_nil] at hroom ⊢
    have hle : cursor.toNat ≤ records.length := by
      have hnext := (represents_run cursor _ hroom).next_eq
      rw [UInt64.lt_iff_toNat_lt] at hcursor
      omega
    refine ⟨by rw [hkept], by rw [hkept, hlength]; exact hle, ?_⟩
    rw [haccounted, hkept, Nat.sub_self]
    rfl
  | append_singleton events event ih =>
    rw [← List.append_assoc] at hroom ⊢
    rw [Machine.trace_concat] at hroom ⊢
    have hbefore : (pushed (clientMachine.trace ⟨reset, cursor⟩
        (records.map .push ++ events))).length < 2 ^ 64 := by
      rw [pushed_append, List.length_append] at hroom
      omega
    rw [Machine.run_append]
    exact (ih hbefore).step (represents_run cursor _ hbefore) event hroom

/-- A batch of such a run came after all records pushed at first. -/
theorem before_batch {records : List DiagnosticRecord} {events es rest : List RingEvent}
    (h : records.map RingEvent.push ++ events = es ++ .batch :: rest) :
    ∃ events', es = records.map RingEvent.push ++ events' := by
  rcases List.append_eq_append_iff.mp h with ⟨events', hes, -⟩ | ⟨pushes, hpushes, hbatch⟩
  · exact ⟨events', hes⟩
  · cases pushes with
    | nil => exact ⟨[], by rw [List.append_nil, hpushes, List.append_nil]⟩
    | cons event pushes =>
      obtain ⟨rfl, -⟩ := List.cons.inj hbatch
      have hmem : RingEvent.batch ∈ records.map RingEvent.push := by
        rw [hpushes]
        simp
      obtain ⟨record, -, hrecord⟩ := List.mem_map.mp hmem
      cases hrecord

/-- In every run of fewer than `2^64` pushes after a reset, interleaved with batches from a
cursor below the next number: each pushed record is stored under the next number; each
batch returns the first eight stored records after its cursor in increasing order, moves
the cursor by the records it lost and returned, and tells whether more remain; and the
batches account for every number up to the cursor exactly once, as lost or delivered. -/
theorem no_record_lost_or_repeated (records : List DiagnosticRecord) (cursor : UInt64)
    (events : List RingEvent)
    (hcursor : cursor < (clientMachine.run ⟨reset, cursor⟩ (records.map .push)).ring.nextSequence)
    (hroom : (pushed (clientMachine.trace ⟨reset, cursor⟩
      (records.map .push ++ events))).length < 2 ^ 64) :
    let s := clientMachine.run ⟨reset, cursor⟩ (records.map .push ++ events)
    let t : RingTrace := clientMachine.trace ⟨reset, cursor⟩ (records.map .push ++ events)
    (∀ before record kept rest, t = before ++ (.push record, .pushed kept) :: rest →
      kept = { record with sequence := UInt64.ofNat ((pushed before).length + 1) }) ∧
    (∀ before after b rest, t = before ++ (.batch, .delivered after b) :: rest →
      let available := (stored (pushed before)).filter fun record ↦
        decide (after < record.sequence)
      b.records = available.take diagnosticLogBatchCapacity ∧
      b.count = min diagnosticLogBatchCapacity available.length ∧
      (b.records.map (·.sequence)).Pairwise (· < ·) ∧
      b.cursor.toNat = after.toNat + b.lostBeforeCursor.toNat + b.count ∧
      (b.hasMore = true ↔ ∃ record ∈ stored (pushed before), b.cursor < record.sequence) ∧
      b.overwritten.toNat = (pushed before).length - diagnosticLogCapacity) ∧
    (t.delivered.map (·.sequence)).Pairwise (· < ·) ∧
    s.cursor.toNat ≤ t.pushed.length ∧
    t.accounted = List.range' (cursor.toNat + 1) (s.cursor.toNat - cursor.toNat) := by
  intro s t
  have hserves : Serves cursor s t := serves_run records cursor events hcursor hroom
  have hearlier : ∀ {before x rest}, t = before ++ x :: rest → (pushed before).length < 2 ^ 64 := by
    intro before x rest ht
    rw [show clientMachine.trace ⟨reset, cursor⟩ (records.map .push ++ events) = _ from ht,
      pushed_append, List.length_append] at hroom
    omega
  refine ⟨?_, ?_, ?_, hserves.cursor_le, hserves.accounted_eq⟩
  · intro before record kept rest ht
    have hlen := hearlier ht
    obtain ⟨es, event, rest', -, rfl, hx⟩ := clientMachine.trace_eq_append_cons ht
    obtain ⟨rfl, hkept⟩ := Prod.mk.inj hx
    have hnext := (represents_run cursor es hlen).next_eq
    obtain rfl : kept = _ := RingOutput.pushed.inj hkept
    rw [push_fst, ← UInt64.ofNat_toNat (x := DiagnosticRing.nextSequence _), hnext]
    congr 1
    apply UInt64.toNat_inj.mp
    simp
  · intro before after b rest ht
    have hlen := hearlier ht
    obtain ⟨es, event, rest', hes, rfl, hx⟩ := clientMachine.trace_eq_append_cons ht
    obtain ⟨rfl, hb⟩ := Prod.mk.inj hx
    obtain ⟨events', rfl⟩ := before_batch hes
    obtain ⟨rfl, rfl⟩ := RingOutput.delivered.inj hb
    have hrep := represents_run cursor _ hlen
    have hle := (serves_run records cursor events' hcursor hlen).cursor_le
    obtain ⟨hrecords, hnext, hlost, hoverwritten, -⟩ := hrep.batch_eq hlen hle
    refine ⟨?_, ?_, ?_, ?_, hrep.hasMore_iff hlen hle, hoverwritten⟩
    · rw [hrep.filter_stored]
      exact hrecords
    · rw [hrep.filter_stored, DiagnosticBatch.count, hrecords, List.length_take]
    · apply increasing_of_toNat
      rw [hrecords, List.map_take, List.map_drop, hrep.numbered]
      exact List.Pairwise.sublist ((List.take_sublist _ _).trans (List.drop_sublist _ _))
        List.pairwise_lt_range'
    · rw [hnext, hlost]
      omega
  · apply increasing_of_toNat
    have hpairwise : t.accounted.Pairwise (· < ·) := by
      rw [hserves.accounted_eq]
      exact List.pairwise_lt_range'
    exact hpairwise.sublist (delivered_sublist t)

theorem no_record_lost_or_repeated_wrapped :
    let events := [.batch] ++ List.replicate 70 (.push .zero) ++ [.batch, .batch]
    (delivered (clientMachine.trace ⟨reset, 0⟩ ([.zero, .zero].map .push ++ events))).map
      (·.sequence) |>.Pairwise (· < ·) :=
  (no_record_lost_or_repeated [.zero, .zero] 0
    ([.batch] ++ List.replicate 70 (.push .zero) ++ [.batch, .batch]) (by decide +kernel)
    (by decide +kernel)).2.2.1

end DiagnosticRing
end EdgeMonitor.Firmware
