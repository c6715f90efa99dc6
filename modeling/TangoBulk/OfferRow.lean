import TangoBulk.LibDecimal
import TangoBulk.Subscription

/-! The rows of the `BulkStreams` attribute. A row is a line of text with twelve fields that
carries the offer of a stream from its publisher to a client. -/
namespace TangoBulk

open ByteString

/-! ### Fields -/

def kBulkStreamFieldSeparator : UInt8 := 124

def kBulkStreamVectorSeparator : UInt8 := 44

def kBulkStreamFieldCount : ℕ := 12

def splitBulkStreamRow (row : Bytes) : List Bytes := row.splitOn kBulkStreamFieldSeparator

/-- A field that is a decimal number of the given width and nothing else. -/
def parseBulkStreamInteger (bits : ℕ) (text : Bytes) : Option ℕ :=
  if text = [] then none
  else
    match readDecimal (2 ^ bits) text with
    | some (parsed, []) => some parsed
    | _ => none

def parseBulkStream32 (text : Bytes) : Option UInt32 :=
  (parseBulkStreamInteger 32 text).map UInt32.ofNat

def parseBulkStream64 (text : Bytes) : Option UInt64 :=
  (parseBulkStreamInteger 64 text).map UInt64.ofNat

/-- The loop of `parse_bulk_stream_vector` with the number of entries still to be read. A
separator after the last entry fails, as does an end before it. -/
def parseBulkStreamItems : ℕ → List Bytes → Option (List UInt64)
  | left + 1, item :: rest => do
    let value ← parseBulkStream64 item
    if rest = [] then
      if left = 0 then some [value] else none
    else
      let values ← parseBulkStreamItems left rest
      some (value :: values)
  | _, _ => none

def parseBulkStreamVector (text : Bytes) : Option Dims :=
  (parseBulkStreamItems kMaxRank (text.splitOn kBulkStreamVectorSeparator)).map fun values i =>
    values.getD i 0

def bulkStreamVector (values : Dims) : Bytes :=
  [kBulkStreamVectorSeparator].intercalate ((List.ofFn values).map fun v => decimal v.toNat)

/-! ### Offers -/

namespace StreamOffer

/-- The result of inspecting an offer before the Open. -/
inductive Outcome
  | available | missing | unavailable | malformed | stale | unsafeOffer
  deriving DecidableEq

def outcome (o : StreamOffer) : Outcome :=
  if o.status = .unknownStream then .missing
  else if o.status = .resourceExhausted then .unsafeOffer
  else if o.status = .malformedMessage then .malformed
  else if o.status ≠ .ok then .unavailable
  else if o.version ≠ 1 ∨ !isValidStreamName o.streamName ∨ o.geometry.validate ≠ .ok then
    .malformed
  else if 5000 < o.ageMs then .stale
  else .available

def malformedBulkStreamRow (message : String) : StreamOffer where
  streamName := []
  geometry := .unarmed
  status := .malformedMessage
  message := message

/-- The numbers of the fields, in the order in which they are parsed. -/
def parseFields (field : ℕ → Bytes) : Option StreamOffer := do
  let version ← parseBulkStream32 (field 0)
  let generation ← parseBulkStream32 (field 2)
  let elementType ← parseBulkStream32 (field 3)
  let elementSize ← parseBulkStream32 (field 4)
  let rank ← parseBulkStream32 (field 5)
  let maxFrameBytes ← parseBulkStream64 (field 6)
  let ringDepth ← parseBulkStream32 (field 7)
  let creditWindow ← parseBulkStream32 (field 8)
  let shape ← parseBulkStreamVector (field 9)
  let strides ← parseBulkStreamVector (field 10)
  let ageMs ← parseBulkStream64 (field 11)
  some
    { version, ageMs
      streamName := field 1
      geometry :=
        { generation, elementSize, rank, maxFrameBytes, ringDepth, creditWindow, shape, strides
          elementType := .ofRaw elementType }
      status := .ok }

/-- What `from_bulk_stream_row` says about an offer it could parse. -/
def rowMessage (o : StreamOffer) : String :=
  if o.validate = .ok then ""
  else if o.version ≠ 1 then "BulkStreams row version is not supported"
  else if 5000 < o.ageMs then "BulkStreams row is stale"
  else "BulkStreams row failed validation"

def fromBulkStreamRow (row : Bytes) : StreamOffer :=
  let fields := splitBulkStreamRow row
  if fields.length ≠ kBulkStreamFieldCount then
    malformedBulkStreamRow "BulkStreams row has the wrong field count"
  else
    match parseFields fun i => fields.getD i [] with
    | none => malformedBulkStreamRow "BulkStreams row contains a non-decimal field"
    | some offer => { offer with message := offer.rowMessage }

def rowFields (o : StreamOffer) : List Bytes :=
  [decimal o.version.toNat, o.streamName, decimal o.geometry.generation.toNat,
    decimal o.geometry.elementType.toRaw.toNat, decimal o.geometry.elementSize.toNat,
    decimal o.geometry.rank.toNat, decimal o.geometry.maxFrameBytes.toNat,
    decimal o.geometry.ringDepth.toNat, decimal o.geometry.creditWindow.toNat,
    bulkStreamVector o.geometry.shape, bulkStreamVector o.geometry.strides,
    decimal o.ageMs.toNat]

/-- An offer that is not available has no row. -/
def toBulkStreamRow (o : StreamOffer) : Bytes :=
  if o.status ≠ .ok then [] else [kBulkStreamFieldSeparator].intercalate o.rowFields

lemma validate_eq_ok {o : StreamOffer} :
    o.validate = .ok ↔ o.version = 1 ∧ o.status = .ok ∧ isValidStreamName o.streamName = true ∧
      o.ageMs ≤ 5000 ∧ o.geometry.validate = .ok := by
  have hversion : Status.unsupportedVersion ≠ .ok := by decide
  have hname : Status.malformedMessage ≠ .ok := by decide
  have hage : Status.transportFailure ≠ .ok := by decide
  rw [validate, check_eq_ok hversion, inner_eq_ok, check_eq_ok hname, check_eq_ok hage]
  simp only [ne_eq, not_not, Bool.not_eq_true, Bool.not_eq_false', UInt64.not_lt]

lemma outcome_eq_available {o : StreamOffer} : o.outcome = .available ↔ o.validate = .ok := by
  rw [validate_eq_ok]
  unfold outcome
  split_ifs with hmissing hrefused hmalformed hstatus hinvalid hstale
  · simp [hmissing]
  · simp [hrefused]
  · simp [hmalformed]
  · simp [hstatus]
  · simp only [false_iff]
    rintro ⟨hversion, -, hname, -, hgeometry⟩
    simp [hversion, hname, hgeometry] at hinvalid
  · simp [UInt64.not_le.mpr hstale]
  · simp only [not_or, not_not, ne_eq, Bool.not_eq_true, Bool.not_eq_false'] at hinvalid
    simp [hinvalid, not_not.mp hstatus, UInt64.not_lt.mp hstale]

end StreamOffer

/-! ### The round trip -/

lemma parseBulkStreamInteger_decimal {bits n : ℕ} (h : n < 2 ^ bits) :
    parseBulkStreamInteger bits (decimal n) = some n := by
  have hne : decimal n ≠ [] := by simp [decimal]
  rw [parseBulkStreamInteger, if_neg hne, readDecimal_decimal h]

@[simp] lemma parseBulkStream32_decimal (v : UInt32) :
    parseBulkStream32 (decimal v.toNat) = some v := by
  simp [parseBulkStream32, parseBulkStreamInteger_decimal v.toNat_lt]

@[simp] lemma parseBulkStream64_decimal (v : UInt64) :
    parseBulkStream64 (decimal v.toNat) = some v := by
  simp [parseBulkStream64, parseBulkStreamInteger_decimal v.toNat_lt]

lemma parseBulkStreamItems_decimal {values : List UInt64} (h : values ≠ []) :
    parseBulkStreamItems values.length (values.map fun v => decimal v.toNat) = some values := by
  induction values with
  | nil => exact absurd rfl h
  | cons v rest ih =>
    cases rest with
    | nil => simp [parseBulkStreamItems]
    | cons w rest =>
      have hrest := ih (List.cons_ne_nil w rest)
      rw [List.map_cons, List.length_cons, parseBulkStreamItems, hrest]
      simp

lemma not_mem_decimal {b : UInt8} (h : isDecimalDigit b = false) (n : ℕ) : b ∉ decimal n := by
  intro hb
  rw [isDecimalDigit_of_mem hb] at h
  cases h

@[simp] lemma parseBulkStreamVector_bulkStreamVector (values : Dims) :
    parseBulkStreamVector (bulkStreamVector values) = some values := by
  have hsplit : (bulkStreamVector values).splitOn kBulkStreamVectorSeparator =
      (List.ofFn values).map fun v => decimal v.toNat := by
    refine List.splitOn_intercalate _ ?_ (by simp)
    intro item hitem
    obtain ⟨v, -, rfl⟩ := List.mem_map.mp hitem
    exact not_mem_decimal (by decide) v.toNat
  have hitems : parseBulkStreamItems kMaxRank ((List.ofFn values).map fun v => decimal v.toNat) =
      some (List.ofFn values) := by
    have hsome : List.ofFn values ≠ [] := by simp
    have hread := parseBulkStreamItems_decimal hsome
    rwa [List.length_ofFn] at hread
  rw [parseBulkStreamVector, hsplit, hitems]
  refine congrArg some (funext fun i => ?_)
  have hi : (i : ℕ) < (List.ofFn values).length := by
    rw [List.length_ofFn]
    exact i.isLt
  dsimp only
  rw [List.getD_eq_getElem _ _ hi, List.getElem_ofFn]

lemma separator_not_mem_name {name : Bytes} (h : isValidStreamName name = true) :
    kBulkStreamFieldSeparator ∉ name := by
  simp only [isValidStreamName, decide_eq_true_eq, List.all_eq_true] at h
  intro hmem
  exact absurd (h.2.2 _ hmem) (by decide)

namespace StreamOffer

lemma not_mem_bulkStreamVector (values : Dims) :
    kBulkStreamFieldSeparator ∉ bulkStreamVector values := by
  have hnumber := not_mem_decimal (b := kBulkStreamFieldSeparator) (by decide)
  have hother : kBulkStreamFieldSeparator ≠ kBulkStreamVectorSeparator := by decide
  simp [bulkStreamVector, List.intercalate, hnumber, hother]

lemma rowFields_separated {o : StreamOffer} (hname : kBulkStreamFieldSeparator ∉ o.streamName) :
    ∀ field ∈ o.rowFields, kBulkStreamFieldSeparator ∉ field := by
  have hnumber := not_mem_decimal (b := kBulkStreamFieldSeparator) (by decide)
  simp [rowFields, hname, hnumber, not_mem_bulkStreamVector]

lemma parseFields_rowFields (o : StreamOffer) :
    parseFields (fun i => o.rowFields.getD i []) = some { o with status := .ok, message := "" } := by
  simp [parseFields, rowFields]

lemma fromBulkStreamRow_toBulkStreamRow {o : StreamOffer} (hstatus : o.status = .ok)
    (hname : kBulkStreamFieldSeparator ∉ o.streamName) :
    fromBulkStreamRow o.toBulkStreamRow = { o with message := o.rowMessage } := by
  have hsplit : splitBulkStreamRow o.toBulkStreamRow = o.rowFields := by
    rw [toBulkStreamRow, if_neg (not_not.mpr hstatus)]
    exact List.splitOn_intercalate _ (rowFields_separated hname) (List.cons_ne_nil _ _)
  have hparsed : parseFields (fun i => o.rowFields.getD i []) = some { o with message := "" } := by
    rw [parseFields_rowFields, ← hstatus]
  have hcount : o.rowFields.length = kBulkStreamFieldCount := rfl
  unfold fromBulkStreamRow
  rw [hsplit, if_neg (not_not.mpr hcount), hparsed]
  rfl

end StreamOffer

end TangoBulk
