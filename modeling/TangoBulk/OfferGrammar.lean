import TangoBulk.OfferRow
import TangoBulk.ProtocolShape

/-! Which rows of the `BulkStreams` attribute are accepted: exactly those of twelve fields whose
numbers are decimal and fit, and which describe an offer that validates. -/
namespace TangoBulk

open ByteString

/-! ### Numbers and vectors -/

lemma parseBulkStreamInteger_eq_some {bits n : ℕ} {text : Bytes} :
    parseBulkStreamInteger bits text = some n ↔ IsNumber (2 ^ bits) text n := by
  rw [← readDecimal_eq_some, parseBulkStreamInteger]
  split_ifs with hempty
  · subst hempty
    simp [readDecimal]
  · split
    case h_1 parsed hread => simp [hread]
    case h_2 hread =>
      simp only [reduceCtorEq, false_iff]
      exact hread n

lemma parseBulkStream32_eq_some {text : Bytes} {v : UInt32} :
    parseBulkStream32 text = some v ↔ IsNumber (2 ^ 32) text v.toNat := by
  rw [parseBulkStream32, Option.map_eq_some_iff]
  constructor
  · rintro ⟨n, hn, rfl⟩
    have hnumber := parseBulkStreamInteger_eq_some.mp hn
    rwa [UInt32.toNat_ofNat_of_lt' hnumber.below]
  · intro h
    exact ⟨v.toNat, parseBulkStreamInteger_eq_some.mpr h, UInt32.ofNat_toNat⟩

lemma parseBulkStream64_eq_some {text : Bytes} {v : UInt64} :
    parseBulkStream64 text = some v ↔ IsNumber (2 ^ 64) text v.toNat := by
  rw [parseBulkStream64, Option.map_eq_some_iff]
  constructor
  · rintro ⟨n, hn, rfl⟩
    have hnumber := parseBulkStreamInteger_eq_some.mp hn
    rwa [UInt64.toNat_ofNat_of_lt' hnumber.below]
  · intro h
    exact ⟨v.toNat, parseBulkStreamInteger_eq_some.mpr h, UInt64.ofNat_toNat⟩

/-- The loop reads one number from each item, and as many as it was asked for. -/
lemma parseBulkStreamItems_eq_some {n : ℕ} {items : List Bytes} {values : List UInt64}
    (hne : items ≠ []) :
    parseBulkStreamItems n items = some values ↔
      values.length = n ∧
        List.Forall₂ (fun item v => IsNumber (2 ^ 64) item v.toNat) items values := by
  induction items generalizing n values with
  | nil => exact absurd rfl hne
  | cons item rest ih =>
    cases n with
    | zero =>
      simp only [parseBulkStreamItems, reduceCtorEq, false_iff]
      rintro ⟨hlength, hnumbers⟩
      rw [List.length_eq_zero_iff.mp hlength] at hnumbers
      cases hnumbers
    | succ left =>
      rw [parseBulkStreamItems]
      constructor
      · intro h
        obtain ⟨value, hvalue, h⟩ := Option.bind_eq_some_iff.mp h
        have hnumber := parseBulkStream64_eq_some.mp hvalue
        split_ifs at h with hrest hlast
        · cases h
          exact ⟨by simp [hlast], .cons hnumber (hrest ▸ .nil)⟩
        · obtain ⟨others, hothers, h⟩ := Option.bind_eq_some_iff.mp h
          cases h
          obtain ⟨hlength, hnumbers⟩ := (ih hrest).mp hothers
          exact ⟨by simp [hlength], .cons hnumber hnumbers⟩
      · rintro ⟨hlength, hnumbers⟩
        cases hnumbers with
        | @cons _ value _ others hnumber hnumbers =>
          refine Option.bind_eq_some_iff.mpr ⟨value, parseBulkStream64_eq_some.mpr hnumber, ?_⟩
          have hleft : others.length = left := by simpa using hlength
          split_ifs with hrest hlast
          · subst hrest
            cases hnumbers
            rfl
          · subst hrest
            cases hnumbers
            exact absurd hleft.symm hlast
          · exact Option.bind_eq_some_iff.mpr ⟨others, (ih hrest).mpr ⟨hleft, hnumbers⟩, rfl⟩

/-- Four numbers separated by commas. -/
def IsVector (text : Bytes) (values : Dims) : Prop :=
  ∃ items, Separated kBulkStreamVectorSeparator items text ∧
    List.Forall₂ (fun item v => IsNumber (2 ^ 64) item v.toNat) items (List.ofFn values)

lemma ofFn_eq_of_stored {entries : List UInt64} {values : Dims}
    (hlength : entries.length = kMaxRank) (h : (fun i : Fin 4 => entries.getD i 0) = values) :
    List.ofFn values = entries := by
  subst h
  refine List.ext_getElem (by rw [List.length_ofFn, hlength, kMaxRank]) ?_
  intro i _ hi
  rw [List.getElem_ofFn, List.getD_eq_getElem _ _ hi]

lemma parseBulkStreamVector_eq_some {text : Bytes} {values : Dims} :
    parseBulkStreamVector text = some values ↔ IsVector text values := by
  rw [parseBulkStreamVector, Option.map_eq_some_iff]
  constructor
  · rintro ⟨entries, hentries, hstored⟩
    have hne := List.splitOn_ne_nil kBulkStreamVectorSeparator text
    obtain ⟨hlength, hnumbers⟩ := (parseBulkStreamItems_eq_some hne).mp hentries
    refine ⟨_, (splitOn_eq hne).mp rfl, ?_⟩
    rwa [ofFn_eq_of_stored hlength hstored]
  · rintro ⟨items, hseparated, hnumbers⟩
    have hcount : items.length = 4 := by rw [hnumbers.length_eq, List.length_ofFn]
    have hne : items ≠ [] := by
      rintro rfl
      cases hcount
    rw [(splitOn_eq hne).mpr hseparated]
    refine ⟨List.ofFn values, (parseBulkStreamItems_eq_some hne).mpr ⟨?_, hnumbers⟩, ?_⟩
    · rw [List.length_ofFn, kMaxRank]
    · funext i
      have hi : (i : ℕ) < (List.ofFn values).length := by
        rw [List.length_ofFn]
        exact i.isLt
      rw [List.getD_eq_getElem _ _ hi, List.getElem_ofFn]

/-! ### Rows -/

namespace StreamOffer

/-- The fields of a row give the numbers and the name of the offer. -/
structure Reads (o : StreamOffer) (field : ℕ → Bytes) : Prop where
  version : IsNumber (2 ^ 32) (field 0) o.version.toNat
  streamName : field 1 = o.streamName
  generation : IsNumber (2 ^ 32) (field 2) o.geometry.generation.toNat
  elementType : IsNumber (2 ^ 32) (field 3) o.geometry.elementType.toRaw.toNat
  elementSize : IsNumber (2 ^ 32) (field 4) o.geometry.elementSize.toNat
  rank : IsNumber (2 ^ 32) (field 5) o.geometry.rank.toNat
  maxFrameBytes : IsNumber (2 ^ 64) (field 6) o.geometry.maxFrameBytes.toNat
  ringDepth : IsNumber (2 ^ 32) (field 7) o.geometry.ringDepth.toNat
  creditWindow : IsNumber (2 ^ 32) (field 8) o.geometry.creditWindow.toNat
  shape : IsVector (field 9) o.geometry.shape
  strides : IsVector (field 10) o.geometry.strides
  ageMs : IsNumber (2 ^ 64) (field 11) o.ageMs.toNat

variable {field : ℕ → Bytes} {o : StreamOffer}

lemma parseFields_eq_some :
    parseFields field = some o ↔ o.Reads field ∧ o.status = .ok ∧ o.message = "" := by
  simp only [parseFields, Option.bind_eq_bind, Option.bind_eq_some_iff, Option.some.injEq,
    parseBulkStream32_eq_some, parseBulkStream64_eq_some, parseBulkStreamVector_eq_some]
  constructor
  · rintro ⟨_, h0, _, h2, _, h3, _, h4, _, h5, _, h6, _, h7, _, h8, _, h9, _, h10, _, h11, hmade⟩
    cases hmade
    exact ⟨⟨h0, rfl, h2, by rwa [ElementType.toRaw_ofRaw], h4, h5, h6, h7, h8, h9, h10, h11⟩, rfl,
      rfl⟩
  · rintro ⟨h, hstatus, hmessage⟩
    refine ⟨_, h.version, _, h.generation, _, h.elementType, _, h.elementSize, _, h.rank, _,
      h.maxFrameBytes, _, h.ringDepth, _, h.creditWindow, _, h.shape, _, h.strides, _, h.ageMs, ?_⟩
    rw [ElementType.ofRaw_toRaw, h.streamName, ← hstatus, ← hmessage]

lemma Reads.congr {o' : StreamOffer} (h : o.Reads field) (hversion : o'.version = o.version)
    (hname : o'.streamName = o.streamName) (hgeometry : o'.geometry = o.geometry)
    (hage : o'.ageMs = o.ageMs) : o'.Reads field := by
  constructor
  case version => rw [hversion]; exact h.version
  case streamName => rw [hname]; exact h.streamName
  case ageMs => rw [hage]; exact h.ageMs
  all_goals rw [hgeometry]
  case generation => exact h.generation
  case elementType => exact h.elementType
  case elementSize => exact h.elementSize
  case rank => exact h.rank
  case maxFrameBytes => exact h.maxFrameBytes
  case ringDepth => exact h.ringDepth
  case creditWindow => exact h.creditWindow
  case shape => exact h.shape
  case strides => exact h.strides

lemma Reads.parseFields (h : o.Reads field) (hstatus : o.status = .ok) :
    parseFields field = some { o with message := "" } :=
  parseFields_eq_some.mpr ⟨h.congr rfl rfl rfl rfl, hstatus, rfl⟩

/-- The row has the fields of the offer. -/
def Carries (row : Bytes) (o : StreamOffer) : Prop :=
  ∃ fields, Separated kBulkStreamFieldSeparator fields row ∧
    fields.length = kBulkStreamFieldCount ∧ o.Reads fun i => fields.getD i []

lemma carries_iff {row : Bytes} :
    Carries row o ↔ (splitBulkStreamRow row).length = kBulkStreamFieldCount ∧
      o.Reads fun i => (splitBulkStreamRow row).getD i [] := by
  constructor
  · rintro ⟨fields, hseparated, hlength, hreads⟩
    have hne : fields ≠ [] := by
      rintro rfl
      cases hlength
    rw [splitBulkStreamRow, (splitOn_eq hne).mpr hseparated]
    exact ⟨hlength, hreads⟩
  · rintro ⟨hlength, hreads⟩
    have hne := List.splitOn_ne_nil kBulkStreamFieldSeparator row
    exact ⟨_, (splitOn_eq hne).mp rfl, hlength, hreads⟩

lemma fromBulkStreamRow_validate {row : Bytes} :
    (fromBulkStreamRow row).validate = .ok ↔
      ∃ o, Carries row o ∧ o.status = .ok ∧ o.validate = .ok := by
  have hmalformed : ∀ message, (malformedBulkStreamRow message).validate ≠ .ok := by
    intro message
    simp [malformedBulkStreamRow, validate]
  simp only [carries_iff]
  unfold fromBulkStreamRow
  dsimp only
  split_ifs with hcount
  · refine iff_of_false (hmalformed _) ?_
    rintro ⟨o, ⟨hlength, -⟩, -⟩
    exact hcount hlength
  · split
    case h_1 hparse =>
      refine iff_of_false (hmalformed _) ?_
      rintro ⟨o, ⟨-, hreads⟩, hstatus, -⟩
      rw [hreads.parseFields hstatus] at hparse
      cases hparse
    case h_2 offer hparse =>
      constructor
      · intro hvalid
        obtain ⟨hreads, hstatus, -⟩ := parseFields_eq_some.mp hparse
        exact ⟨offer, ⟨not_not.mp hcount, hreads⟩, hstatus, hvalid⟩
      · rintro ⟨o, ⟨-, hreads⟩, hstatus, hvalid⟩
        rw [hreads.parseFields hstatus] at hparse
        cases hparse
        exact hvalid

end StreamOffer

/-- An offer that validates comes back from its row. A row is available exactly if it has twelve
fields: a valid name, decimal numbers that fit, and two vectors of four of them, with a version,
a geometry and an age that are acceptable. An offer is available exactly if it validates. -/
theorem bulk_stream_rows (o : StreamOffer) (row : Bytes) :
    (o.validate = .ok → o.message = "" →
      StreamOffer.fromBulkStreamRow o.toBulkStreamRow = o) ∧
    ((StreamOffer.fromBulkStreamRow row).outcome = .available ↔
      ∃ offered : StreamOffer, StreamOffer.Carries row offered ∧
        isValidStreamName offered.streamName = true ∧ offered.version = 1 ∧
        offered.geometry.validate = .ok ∧ offered.ageMs ≤ 5000) ∧
    (o.outcome = .available ↔ o.validate = .ok) := by
  refine ⟨?_, ?_, StreamOffer.outcome_eq_available⟩
  · intro hvalid hmessage
    obtain ⟨-, hstatus, hname, -⟩ := StreamOffer.validate_eq_ok.mp hvalid
    have hread := StreamOffer.fromBulkStreamRow_toBulkStreamRow hstatus
      (separator_not_mem_name hname)
    rw [hread, StreamOffer.rowMessage, if_pos hvalid, ← hmessage]
  · rw [StreamOffer.outcome_eq_available, StreamOffer.fromBulkStreamRow_validate]
    constructor
    · rintro ⟨offered, hcarries, -, hvalid⟩
      obtain ⟨hversion, -, hname, hage, hgeometry⟩ := StreamOffer.validate_eq_ok.mp hvalid
      exact ⟨offered, hcarries, hname, hversion, hgeometry, hage⟩
    · rintro ⟨offered, ⟨fields, hseparated, hlength, h⟩, hname, hversion, hgeometry, hage⟩
      exact ⟨{ offered with status := .ok },
        ⟨fields, hseparated, hlength, h.congr rfl rfl rfl rfl⟩, rfl,
        StreamOffer.validate_eq_ok.mpr ⟨hversion, rfl, hname, hage, hgeometry⟩⟩

def unitOffer : StreamOffer where
  streamName := [98, 117, 108, 107, 46, 117, 110, 105, 116]
  geometry :=
    { generation := 1
      elementType := .uInt8
      elementSize := 1
      rank := 1
      maxFrameBytes := 16777216
      ringDepth := 64
      creditWindow := 32
      shape := Dims.zero.store 0 4096
      strides := Dims.zero.store 0 1 }
  ageMs := 17
  status := .ok

theorem bulk_stream_rows_unit :
    StreamOffer.fromBulkStreamRow unitOffer.toBulkStreamRow = unitOffer ∧
    unitOffer.outcome = .available ∧
    ∃ offered, StreamOffer.Carries unitOffer.toBulkStreamRow offered ∧ offered.version = 1 := by
  have hvalid : unitOffer.validate = .ok := by decide +kernel
  obtain ⟨hround, hrow, hoffer⟩ := bulk_stream_rows unitOffer unitOffer.toBulkStreamRow
  have havailable := hoffer.mpr hvalid
  have hback := hround hvalid rfl
  rw [hback] at hrow
  obtain ⟨offered, hcarries, -, hversion, -⟩ := hrow.mp havailable
  exact ⟨hback, havailable, offered, hcarries, hversion⟩

end TangoBulk
