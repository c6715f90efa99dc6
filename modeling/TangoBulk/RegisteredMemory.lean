import TangoBulk.PinnedLedger
import TangoBulk.ProtocolCoord

/-! Registered regions. A region is charged to the ledger before it is mapped, and the charge
follows the length that UCX reports. What UCX answers is an input. -/
namespace TangoBulk

open Transition PinnedLedger

/-- `mapped` is whether there is a memory handle. -/
structure RegisteredMemory where
  mapped : Bool := false
  base : UInt64 := 0
  bytes : UInt64 := 0
  reservation : UInt64 := 0

/-- The text of a failed `ucp_mem_map`, and what `ucp_mem_query` says about the region: its
address and its length. -/
structure UcxAnswers where
  map : Option String := none
  query : Except String (UInt64 × UInt64)

def ucxError (what status origin : String) : BulkError where
  status := .transportFailure
  message := what ++ ": " ++ status
  origin := origin

namespace RegisteredMemory

/-- The total and the object once it is released. -/
def release (total : UInt64) (memory : RegisteredMemory) : UInt64 × RegisteredMemory :=
  (reset total memory.reservation, { memory with mapped := false, reservation := 0, base := 0 })

/-- The message names the total as it is when the attempt was refused. -/
def budgetExceeded (total bytes limit : UInt64) (origin : String) : BulkError where
  status := .resourceExhausted
  message := "pinned memory budget exceeded: this region needs " ++ toString bytes ++
    " bytes, the process already holds " ++ toString total ++ ", limit is " ++ toString limit
  origin := origin

/-- How a factory leaves: the total, the object, and the error it throws. -/
structure Outcome where
  total : UInt64
  memory : RegisteredMemory
  error : Option BulkError

/-- The object is released and the factory throws. -/
def failed (total : UInt64) (memory : RegisteredMemory) (error : BulkError) : Outcome where
  total := (memory.release total).1
  memory := (memory.release total).2
  error := some error

/-- The region is mapped; `length` is what UCX reports. -/
def sized (total : UInt64) (memory : RegisteredMemory) (length limit : UInt64)
    (origin : String) : Outcome :=
  if length < memory.bytes then
    failed total memory
      { status := .internal
        message := "ucp_mem_map returned a shorter region than requested"
        origin }
  else if memory.bytes < length then
    match extend total memory.reservation (length - memory.bytes) limit with
    | none => failed total memory
        { status := .resourceExhausted
          message := "ucp_mem_map returned more bytes than the process budget allows"
          origin }
    | some (total, reservation) =>
      { total, memory := { memory with reservation, bytes := length }, error := none }
  else { total, memory := { memory with bytes := length }, error := none }

def ucxAllocated (total bytes limit : UInt64) (origin : String) (ucx : UcxAnswers) : Outcome :=
  let charged := tryAcquire total bytes limit
  if charged.2 = 0 then
    { total := charged.1
      memory := { bytes }
      error := some (budgetExceeded charged.1 bytes limit origin) }
  else
    let memory : RegisteredMemory := { bytes, reservation := charged.2 }
    match ucx.map with
    | some status => failed charged.1 memory (ucxError "ucp_mem_map" status origin)
    | none =>
      let mapped := { memory with mapped := true }
      match ucx.query with
      | .error status => failed charged.1 mapped (ucxError "ucp_mem_query" status origin)
      | .ok (address, length) => sized charged.1 { mapped with base := address } length limit origin

/-- The caller's buffer at `address` is registered as it is. -/
def adopted (total bytes limit address : UInt64) (ucx : UcxAnswers) : Outcome :=
  let charged := tryAcquire total bytes limit
  if charged.2 = 0 then
    { total := charged.1
      memory := { bytes }
      error := some (budgetExceeded charged.1 bytes limit "subscriber") }
  else
    let memory : RegisteredMemory := { bytes, reservation := charged.2 }
    match ucx.map with
    | some status => failed charged.1 memory
        (ucxError "ucp_mem_map(adopted receive buffer)" status "subscriber")
    | none =>
      { total := charged.1, memory := { memory with mapped := true, base := address }, error := none }

/-- The charge of a region is in the total on top of what was there before. -/
structure Charged (before total : UInt64) (memory : RegisteredMemory) : Prop where
  total : total.toNat = before.toNat + memory.reservation.toNat

variable {before total : UInt64} {memory : RegisteredMemory}

lemma Charged.failed (h : Charged before total memory) (error : BulkError) :
    (RegisteredMemory.failed total memory error).total = before := by
  have hle : memory.reservation ≤ total := by
    rw [UInt64.le_iff_toNat_le, h.total]
    omega
  have hreset := toNat_reset hle
  have htotal := h.total
  refine UInt64.toNat_inj.mp ?_
  change (reset total memory.reservation).toNat = before.toNat
  omega

lemma tryAcquire_cases (total bytes limit : UInt64) :
    tryAcquire total bytes limit = (total, 0) ∨
    ∃ total', tryAcquire total bytes limit = (total', bytes) ∧
      total'.toNat = total.toNat + bytes.toNat := by
  unfold tryAcquire
  cases hreserve : tryReserve total bytes limit with
  | none => exact .inl rfl
  | some total' => exact .inr ⟨total', rfl, (tryReserve_eq_some.mp hreserve).1⟩

/-- Either the total is raised by the region's length, which the object then holds, or it is as
before and nothing is mapped. -/
def Settled (before length : UInt64) (r : Outcome) : Prop :=
  (r.error = none ∧ r.total.toNat = before.toNat + length.toNat ∧ r.memory.bytes = length ∧
    r.memory.reservation = length ∧ r.memory.mapped = true) ∨
  (r.error.isSome ∧ r.total = before ∧ r.memory.reservation = 0 ∧ r.memory.mapped = false)

lemma Charged.settled_failed (h : Charged before total memory) (error : BulkError)
    (length : UInt64) : Settled before length (RegisteredMemory.failed total memory error) :=
  .inr ⟨rfl, h.failed error, rfl, rfl⟩

lemma Charged.settled_sized (h : Charged before total memory)
    (hbytes : memory.reservation = memory.bytes) (hmapped : memory.mapped = true)
    (length limit : UInt64) (origin : String) :
    Settled before length (sized total memory length limit origin) := by
  have htotal := h.total
  unfold sized
  split_ifs with hshort hlong
  · exact h.settled_failed _ length
  · split
    case h_1 => exact h.settled_failed _ length
    case h_2 total' reservation hextend =>
      have hle : memory.bytes ≤ length := UInt64.le_of_lt hlong
      have hmore : length - memory.bytes ≠ 0 := by
        rw [Ne, ← UInt64.toNat_inj, UInt64.toNat_sub_of_le _ _ hle]
        rw [UInt64.lt_iff_toNat_lt] at hlong
        simp only [UInt64.toNat_zero]
        omega
      obtain ⟨hsum, hheld, -⟩ := extend_eq_some hmore hextend
      rw [UInt64.toNat_sub_of_le _ _ hle] at hsum hheld
      rw [UInt64.le_iff_toNat_le] at hle
      rw [hbytes] at htotal hheld
      have hreservation : reservation = length := UInt64.toNat_inj.mp (by omega)
      exact .inl ⟨rfl, by dsimp only; omega, rfl, hreservation, hmapped⟩
  · have hsame : length = memory.bytes :=
      UInt64.le_antisymm (UInt64.not_lt.mp hlong) (UInt64.not_lt.mp hshort)
    refine .inl ⟨rfl, ?_, rfl, hbytes.trans hsame.symm, hmapped⟩
    rw [htotal, hbytes, hsame]


lemma ucxAllocated_settled (total bytes limit : UInt64) (origin : String) (ucx : UcxAnswers) :
    ∃ length, Settled total length (ucxAllocated total bytes limit origin ucx) ∧
      ((ucxAllocated total bytes limit origin ucx).error = none →
        ∃ address, ucx.query = .ok (address, length)) := by
  rcases tryAcquire_cases total bytes limit with hrefused | ⟨total', hgranted, hsum⟩
  · refine ⟨0, .inr ?_, ?_⟩
    all_goals simp [ucxAllocated, hrefused]
  · unfold ucxAllocated
    dsimp only
    rw [hgranted]
    split_ifs with hzero
    · -- an attempt for nothing is granted and still taken for a refusal
      have hsame : total' = total := by
        rw [show bytes = 0 from hzero] at hsum
        exact UInt64.toNat_inj.mp (by simpa using hsum)
      exact ⟨0, .inr ⟨rfl, hsame, rfl, rfl⟩, by simp⟩
    · have hcharged : Charged total total' { bytes, reservation := bytes } := ⟨hsum⟩
      split
      case h_1 status =>
        exact ⟨0, hcharged.settled_failed _ 0, by simp [failed]⟩
      case h_2 =>
        split
        case h_1 status =>
          have hmapped : Charged total total' { mapped := true, bytes, reservation := bytes } := ⟨hsum⟩
          exact ⟨0, hmapped.settled_failed _ 0, by simp [failed]⟩
        case h_2 address length hquery =>
          have hmapped : Charged total total'
            { mapped := true, base := address, bytes, reservation := bytes } := ⟨hsum⟩
          exact ⟨length, hmapped.settled_sized rfl rfl length limit origin,
            fun _ => ⟨address, hquery⟩⟩

end RegisteredMemory

/-- The total of the ledger is what the live reservations hold. No sum wraps, no release
saturates, an attempt or an extension by something that succeeds keeps to the limit it named, and
a refused one changes nothing. A region is charged with the length UCX reports, or not at all. -/
theorem pinned_accounting_exact {trace : List LedgerEvent} {s : PinnedLedger}
    (hreach : ledgerMachine.Reaches anyStep {} trace s) :
    s.total.toNat = charges s.reservations ∧ (∀ e ∈ trace, e.Exact) ∧
    (∀ call s' events, s.step call = some (s', events) → .refused ∈ events → s.Unchanged s') ∧
    (∀ i limit, i < s.reservations.length →
      s.step (.extend i 0 limit) = some (s, [.extended 0 limit s.total])) ∧
    ∀ bytes limit origin ucx,
      let r := RegisteredMemory.ucxAllocated s.total bytes limit origin ucx
      (r.error = none → ∃ address length, ucx.query = .ok (address, length) ∧
        r.total.toNat = s.total.toNat + length.toNat) ∧
      (r.error ≠ none → r.total = s.total) := by
  obtain ⟨hexact, htrace⟩ := Exact.reaches hreach
  refine ⟨hexact, htrace, ?_, ?_, ?_⟩
  · intro call s' events hstep
    exact (hexact.step hstep).2.2
  · intro i limit hi
    simp [PinnedLedger.step, extend, List.getElem?_eq_getElem hi]
  · intro bytes limit origin ucx r
    obtain ⟨length, hsettled, hquery⟩ :=
      RegisteredMemory.ucxAllocated_settled s.total bytes limit origin ucx
    rcases hsettled with ⟨hok, htotal, -⟩ | ⟨hfailed, htotal, -⟩
    · obtain ⟨address, hlength⟩ := hquery hok
      exact ⟨fun _ => ⟨address, length, hlength, htotal⟩, fun hne => absurd hok hne⟩
    · refine ⟨fun hok => ?_, fun _ => htotal⟩
      rw [hok] at hfailed
      cases hfailed

/-- Two reservations, one of them extended and moved onto the other. -/
def ledgerCalls : List LedgerCall :=
  [.tryAcquire 10 100, .tryAcquire 20 100, .tryAcquire 200 100, .extend 1 30 100,
    .moveAssign 0 1, .move 0, .reset 0]

theorem pinned_accounting_exact_moved :
    ∃ trace s, ledgerMachine.Reaches anyStep {} trace s ∧
      (s.total = 50 ∧ s.reservations = [0, 0, 0, 50] ∧ trace.length = 9) ∧
      s.total.toNat = charges s.reservations ∧ (∀ e ∈ trace, e.Exact) := by
  obtain ⟨trace, s, hreach, hs⟩ := ledgerMachine.exists_of_run anyStep {} ledgerCalls
    (P := fun s trace => s.total = 50 ∧ s.reservations = [0, 0, 0, 50] ∧ trace.length = 9)
    (by decide +kernel)
  have hexact := pinned_accounting_exact hreach
  exact ⟨trace, s, hreach, hs, hexact.1, hexact.2.1⟩

/-- An extension by nothing succeeds under a limit that the total exceeds. -/
theorem empty_extension_exceeds :
    ∃ trace s, ledgerMachine.Reaches anyStep {} trace s ∧
      ∃ bytes limit total, .extended bytes limit total ∈ trace ∧ total = s.total ∧ limit < total := by
  obtain ⟨trace, s, hreach, hevent, htotal⟩ := ledgerMachine.exists_of_run anyStep {}
    [.tryAcquire 8 8, .extend 0 0 0]
    (P := fun s trace => .extended 0 0 8 ∈ trace ∧ s.total = 8) (by decide +kernel)
  exact ⟨trace, s, hreach, 0, 0, 8, hevent, htotal.symm, by decide⟩

end TangoBulk
