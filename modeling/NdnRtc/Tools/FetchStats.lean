/-
The statistics the fetching tool keeps over the slots it is handed (`printStats` in
`tools/stream/fetch.cpp`).

`printStats` is called from one place, the `onSlotReady` handler (`fetch.cpp:180-198`), and
only when the test on the logger's level lets it through; the `onSlotUnfetchable` handler
does not call it. It keeps its counters in function-local statics: the time of the first
call, the numbers of slots it finds assembled and unfetchable (it reads the slot's state
itself), the sample number of the last assembled slot, and `outOfOrder`, the number of
assembled slots whose sample number is below that last one. The statics are the state, one
call is one step, and a run is any sequence of calls, whatever the slots' states.

`printStatsRun_eq` gives the statics after any sequence of calls in closed form. Each
counter wraps at its width (`size_t` taken as 64 bits; `outOfOrder` is a `uint32_t`), by one
lemma over the modulus (`succ_mod_add_mod`). A slot found unfetchable is counted as such
and is otherwise invisible: it is no reference for the order of the next assembled slot.
`outOfOrder` counts the places where the sequence of assembled sample numbers goes down,
the first of them compared with 0.

The average of the slots' longest retrieval delay (`avgEsimtator`) is read only in the
`#if 0` block, which is not compiled, and is left out with it.
-/
import Mathlib.Data.String.Basic

set_option autoImplicit false

namespace NdnRtc.Tools

/-! ## The model -/

/-- What `printStats` reads of the slot it is handed. -/
structure SlotReport where
  /-- `slot->getState() == PipelineSlotState::Unfetchable`. -/
  unfetchable : Bool
  /-- `slot->getNameInfo().sampleNo_`, as the comparison with a `uint64_t` reads it. -/
  sampleNo : UInt64
  deriving DecidableEq, Repr

/-- The function-local statics of `printStats`. -/
structure PrintStats where
  startTime : UInt64
  nAssembled : UInt64
  nUnfetchable : UInt64
  lastPacketNo : UInt64
  outOfOrder : UInt32
  deriving DecidableEq, Repr

/-- Every static starts at 0. -/
def PrintStats.init : PrintStats := ⟨0, 0, 0, 0, 0⟩

/-- One call. `now` is what `clock::millisecondTimestamp()` returns, if it is called. -/
def printStats (st : PrintStats) (now : UInt64) (slot : SlotReport) : PrintStats :=
  let st := if st.startTime = 0 then { st with startTime := now } else st
  if slot.unfetchable then { st with nUnfetchable := st.nUnfetchable + 1 }
  else
    let st := { st with nAssembled := st.nAssembled + 1 }
    let st := if slot.sampleNo < st.lastPacketNo then { st with outOfOrder := st.outOfOrder + 1 }
      else st
    { st with lastPacketNo := slot.sampleNo }

/-- A sequence of calls from a given state, each with the clock reading it would see. -/
def printStatsFrom (st : PrintStats) (calls : List (UInt64 × SlotReport)) : PrintStats :=
  calls.foldl (fun st c => printStats st c.1 c.2) st

/-- The statics after a sequence of calls. -/
def printStatsRun (calls : List (UInt64 × SlotReport)) : PrintStats :=
  printStatsFrom .init calls

/-- **One call, field by field.** -/
theorem printStats_eq (st : PrintStats) (now : UInt64) (slot : SlotReport) :
    printStats st now slot =
      { startTime := if st.startTime = 0 then now else st.startTime,
        nAssembled := if slot.unfetchable then st.nAssembled else st.nAssembled + 1,
        nUnfetchable := if slot.unfetchable then st.nUnfetchable + 1 else st.nUnfetchable,
        lastPacketNo := if slot.unfetchable then st.lastPacketNo else slot.sampleNo,
        outOfOrder := if !slot.unfetchable ∧ slot.sampleNo < st.lastPacketNo then st.outOfOrder + 1
          else st.outOfOrder } := by
  unfold printStats; dsimp only; split_ifs <;> simp_all

@[simp] theorem printStatsFrom_nil (st : PrintStats) : printStatsFrom st [] = st := rfl

@[simp] theorem printStatsFrom_cons (st : PrintStats) (c : UInt64 × SlotReport)
    (calls : List (UInt64 × SlotReport)) :
    printStatsFrom st (c :: calls) = printStatsFrom (printStats st c.1 c.2) calls := rfl

/-! ## The counters in closed form -/

/-- The sample numbers of the assembled slots, in the order they were reported. -/
def assembledSampleNos (slots : List SlotReport) : List UInt64 :=
  (slots.filter (fun s => !s.unfetchable)).map SlotReport.sampleNo

/-- The number of places where `ns`, read after `last`, goes down. -/
def descents (last : UInt64) (ns : List UInt64) : Nat :=
  ((last :: ns).zip ns).countP (fun p => p.2 < p.1)

@[simp] theorem descents_nil (last : UInt64) : descents last [] = 0 := rfl

theorem descents_cons (last n : UInt64) (ns : List UInt64) :
    descents last (n :: ns) = descents n ns + if n < last then 1 else 0 := by
  simp [descents, List.countP_cons]

theorem assembledSampleNos_cons (slot : SlotReport) (slots : List SlotReport) :
    assembledSampleNos (slot :: slots) =
      if slot.unfetchable then assembledSampleNos slots
      else slot.sampleNo :: assembledSampleNos slots := by
  cases h : slot.unfetchable <;> simp [assembledSampleNos, List.filter_cons, h]

/-- One increment of a counter kept modulo `m`, then `n` more, is `n + 1` increments. -/
theorem succ_mod_add_mod (a m n : Nat) : ((a + 1) % m + n) % m = (a + (n + 1)) % m := by
  rw [Nat.mod_add_mod, Nat.add_right_comm, Nat.add_assoc]

theorem printStatsFrom_startTime (calls : List (UInt64 × SlotReport)) (st : PrintStats) :
    (printStatsFrom st calls).startTime =
      if st.startTime = 0 then ((calls.map Prod.fst).find? (· != 0)).getD 0 else st.startTime := by
  induction calls generalizing st with
  | nil => split_ifs with h <;> simp [h]
  | cons c calls ih =>
    rw [printStatsFrom_cons, ih, printStats_eq]
    by_cases h : st.startTime = 0 <;> by_cases hc : c.1 = 0 <;> simp [h, hc]

/-- A counter that a call moves up by one exactly on the slots `P` picks counts those slots,
modulo `2^64`, over any sequence of calls. -/
theorem printStatsFrom_counter (get : PrintStats → UInt64) (P : SlotReport → Bool)
    (hget : ∀ st now slot, get (printStats st now slot) = if P slot then get st + 1 else get st)
    (calls : List (UInt64 × SlotReport)) (st : PrintStats) :
    (get (printStatsFrom st calls)).toNat =
      ((get st).toNat + (calls.filter (fun c => P c.2)).length) % UInt64.size := by
  induction calls generalizing st with
  | nil => simp [Nat.mod_eq_of_lt (get st).toNat_lt_size]
  | cons c calls ih =>
    rw [printStatsFrom_cons, ih, hget]
    cases hc : P c.2 <;> simp [List.filter_cons, hc, UInt64.toNat_add, succ_mod_add_mod, -Nat.mod_add_mod]

theorem printStatsFrom_lastPacketNo (calls : List (UInt64 × SlotReport)) (st : PrintStats) :
    (printStatsFrom st calls).lastPacketNo =
      ((assembledSampleNos (calls.map Prod.snd)).getLast?).getD st.lastPacketNo := by
  induction calls generalizing st with
  | nil => rfl
  | cons c calls ih =>
    rw [printStatsFrom_cons, ih, printStats_eq, List.map_cons, assembledSampleNos_cons]
    cases hc : c.2.unfetchable <;> simp [hc, List.getLast?_cons]

theorem printStatsFrom_outOfOrder (calls : List (UInt64 × SlotReport)) (st : PrintStats) :
    (printStatsFrom st calls).outOfOrder.toNat =
      (st.outOfOrder.toNat + descents st.lastPacketNo (assembledSampleNos (calls.map Prod.snd))) %
        UInt32.size := by
  induction calls generalizing st with
  | nil => simp [assembledSampleNos, Nat.mod_eq_of_lt st.outOfOrder.toNat_lt_size]
  | cons c calls ih =>
    rw [printStatsFrom_cons, ih, printStats_eq, List.map_cons, assembledSampleNos_cons]
    cases hc : c.2.unfetchable
    · by_cases hlt : c.2.sampleNo < st.lastPacketNo <;>
        simp [hc, hlt, descents_cons, UInt32.toNat_add, succ_mod_add_mod, -Nat.mod_add_mod]
    · simp [hc]

/-- **The statics after any sequence of calls.** `startTime` is the first non-zero clock
reading; the two counts are those of the assembled and of the unfetchable slots, modulo
`2^64`; `lastPacketNo` is the sample number of the last assembled slot, 0 before any; and
`outOfOrder` is the number of descents in the assembled sample numbers, the first compared
with 0, modulo `2^32`. -/
theorem printStatsRun_eq (calls : List (UInt64 × SlotReport)) :
    let st := printStatsRun calls
    let ns := assembledSampleNos (calls.map Prod.snd)
    st.startTime = ((calls.map Prod.fst).find? (· != 0)).getD 0 ∧
    st.nAssembled.toNat = (calls.filter (fun c => !c.2.unfetchable)).length % UInt64.size ∧
    st.nUnfetchable.toNat = (calls.filter (fun c => c.2.unfetchable)).length % UInt64.size ∧
    st.lastPacketNo = ns.getLast?.getD 0 ∧
    st.outOfOrder.toNat = descents 0 ns % UInt32.size := by
  refine ⟨?_, ?_, ?_, printStatsFrom_lastPacketNo calls _, ?_⟩
  · simp [printStatsRun, printStatsFrom_startTime, PrintStats.init]
  · simpa [PrintStats.init] using printStatsFrom_counter PrintStats.nAssembled (!·.unfetchable)
      (fun _ _ slot => by rw [printStats_eq]; cases h : slot.unfetchable <;> simp [h]) calls .init
  · simpa [PrintStats.init] using printStatsFrom_counter PrintStats.nUnfetchable (·.unfetchable)
      (fun _ _ _ => by rw [printStats_eq]) calls .init
  · simpa [PrintStats.init] using printStatsFrom_outOfOrder calls PrintStats.init

-- The unfetchable slot 9 is no reference: 2 after 3 is the one descent.
example : (printStatsRun [(5, ⟨false, 3⟩), (6, ⟨true, 9⟩), (7, ⟨false, 2⟩)]).outOfOrder = 1 := by
  decide

end NdnRtc.Tools
