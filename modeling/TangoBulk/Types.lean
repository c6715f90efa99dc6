import Mathlib

/-! Enumerations and limits shared by both planes. A C++ `enum class` holds every value
of its underlying integer, so each type here has one constructor for the unnamed rest;
its proof field keeps the two representations of a named value apart. -/
namespace TangoBulk

/-- Every failure the library can report. The numbers are on the wire, so a decoded status
can be one this version does not name. -/
inductive Status
  | ok | unsupportedVersion | unknownStream | unknownSession | sessionExpired | tooManySessions
  | frameTooLarge | depthTooLarge | resourceExhausted | malformedMessage | notAuthorized
  | transportFailure | geometryMismatch | renewTooFrequent | shutdown | internal
  | other (raw : UInt16) (unnamed : 15 < raw)
  deriving DecidableEq

def Status.named : List Status :=
  [.ok, .unsupportedVersion, .unknownStream, .unknownSession, .sessionExpired, .tooManySessions,
    .frameTooLarge, .depthTooLarge, .resourceExhausted, .malformedMessage, .notAuthorized,
    .transportFailure, .geometryMismatch, .renewTooFrequent, .shutdown, .internal]

def Status.toRaw : Status → UInt16
  | .ok => 0
  | .unsupportedVersion => 1
  | .unknownStream => 2
  | .unknownSession => 3
  | .sessionExpired => 4
  | .tooManySessions => 5
  | .frameTooLarge => 6
  | .depthTooLarge => 7
  | .resourceExhausted => 8
  | .malformedMessage => 9
  | .notAuthorized => 10
  | .transportFailure => 11
  | .geometryMismatch => 12
  | .renewTooFrequent => 13
  | .shutdown => 14
  | .internal => 15
  | .other raw _ => raw

def Status.ofRaw (raw : UInt16) : Status :=
  if h : 15 < raw then .other raw h else Status.named.getD raw.toNat .ok

@[simp] lemma Status.ofRaw_toRaw (x : Status) : ofRaw x.toRaw = x := by
  cases x with
  | other raw h => simp [ofRaw, toRaw, h]
  | _ => rfl

inductive ElementType
  | unknown | uInt8 | int8 | uInt16 | int16 | uInt32 | int32 | uInt64 | int64 | float32
  | float64 | byte
  | other (raw : UInt32) (unnamed : 11 < raw)
  deriving DecidableEq

def ElementType.named : List ElementType :=
  [.unknown, .uInt8, .int8, .uInt16, .int16, .uInt32, .int32, .uInt64, .int64, .float32,
    .float64, .byte]

def ElementType.toRaw : ElementType → UInt32
  | .unknown => 0
  | .uInt8 => 1
  | .int8 => 2
  | .uInt16 => 3
  | .int16 => 4
  | .uInt32 => 5
  | .int32 => 6
  | .uInt64 => 7
  | .int64 => 8
  | .float32 => 9
  | .float64 => 10
  | .byte => 11
  | .other raw _ => raw

def ElementType.ofRaw (raw : UInt32) : ElementType :=
  if h : 11 < raw then .other raw h else ElementType.named.getD raw.toNat .unknown

@[simp] lemma ElementType.ofRaw_toRaw (x : ElementType) : ofRaw x.toRaw = x := by
  cases x with
  | other raw h => simp [ofRaw, toRaw, h]
  | _ => rfl

inductive MemoryKind
  | host | cuda | rocm
  | other (raw : UInt32) (unnamed : 2 < raw)
  deriving DecidableEq

def MemoryKind.named : List MemoryKind :=
  [.host, .cuda, .rocm]

def MemoryKind.toRaw : MemoryKind → UInt32
  | .host => 0
  | .cuda => 1
  | .rocm => 2
  | .other raw _ => raw

def MemoryKind.ofRaw (raw : UInt32) : MemoryKind :=
  if h : 2 < raw then .other raw h else MemoryKind.named.getD raw.toNat .host

@[simp] lemma MemoryKind.ofRaw_toRaw (x : MemoryKind) : ofRaw x.toRaw = x := by
  cases x with
  | other raw h => simp [ofRaw, toRaw, h]
  | _ => rfl

inductive Endian
  | little | big
  | other (raw : UInt32) (unnamed : 1 < raw)
  deriving DecidableEq

def Endian.named : List Endian :=
  [.little, .big]

def Endian.toRaw : Endian → UInt32
  | .little => 0
  | .big => 1
  | .other raw _ => raw

def Endian.ofRaw (raw : UInt32) : Endian :=
  if h : 1 < raw then .other raw h else Endian.named.getD raw.toNat .little

@[simp] lemma Endian.ofRaw_toRaw (x : Endian) : ofRaw x.toRaw = x := by
  cases x with
  | other raw h => simp [ofRaw, toRaw, h]
  | _ => rfl

inductive DropPolicy
  | dropNewest | dropOldest
  | other (raw : UInt32) (unnamed : 1 < raw)
  deriving DecidableEq

def DropPolicy.named : List DropPolicy :=
  [.dropNewest, .dropOldest]

def DropPolicy.toRaw : DropPolicy → UInt32
  | .dropNewest => 0
  | .dropOldest => 1
  | .other raw _ => raw

def DropPolicy.ofRaw (raw : UInt32) : DropPolicy :=
  if h : 1 < raw then .other raw h else DropPolicy.named.getD raw.toNat .dropNewest

@[simp] lemma DropPolicy.ofRaw_toRaw (x : DropPolicy) : ofRaw x.toRaw = x := by
  cases x with
  | other raw h => simp [ofRaw, toRaw, h]
  | _ => rfl

inductive Transport
  | any | activeMessage | rma
  | other (raw : UInt32) (unnamed : 2 < raw)
  deriving DecidableEq

def Transport.named : List Transport :=
  [.any, .activeMessage, .rma]

def Transport.toRaw : Transport → UInt32
  | .any => 0
  | .activeMessage => 1
  | .rma => 2
  | .other raw _ => raw

def Transport.ofRaw (raw : UInt32) : Transport :=
  if h : 2 < raw then .other raw h else Transport.named.getD raw.toNat .any

@[simp] lemma Transport.ofRaw_toRaw (x : Transport) : ofRaw x.toRaw = x := by
  cases x with
  | other raw h => simp [ofRaw, toRaw, h]
  | _ => rfl

/-- How a publisher treats an armed subscriber that has exhausted its credit. -/
inductive FanoutMode
  | bestEffort | allActive
  | other (raw : UInt32) (unnamed : 1 < raw)
  deriving DecidableEq

def FanoutMode.named : List FanoutMode :=
  [.bestEffort, .allActive]

def FanoutMode.toRaw : FanoutMode → UInt32
  | .bestEffort => 0
  | .allActive => 1
  | .other raw _ => raw

def FanoutMode.ofRaw (raw : UInt32) : FanoutMode :=
  if h : 1 < raw then .other raw h else FanoutMode.named.getD raw.toNat .bestEffort

@[simp] lemma FanoutMode.ofRaw_toRaw (x : FanoutMode) : ofRaw x.toRaw = x := by
  cases x with
  | other raw h => simp [ofRaw, toRaw, h]
  | _ => rfl

/-- Server-side session state, as reported in RenewReply. -/
inductive SessionState
  | unknown | open | armed | active | expiring | closed
  | other (raw : UInt32) (unnamed : 5 < raw)
  deriving DecidableEq

def SessionState.named : List SessionState :=
  [.unknown, .open, .armed, .active, .expiring, .closed]

def SessionState.toRaw : SessionState → UInt32
  | .unknown => 0
  | .open => 1
  | .armed => 2
  | .active => 3
  | .expiring => 4
  | .closed => 5
  | .other raw _ => raw

def SessionState.ofRaw (raw : UInt32) : SessionState :=
  if h : 5 < raw then .other raw h else SessionState.named.getD raw.toNat .unknown

@[simp] lemma SessionState.ofRaw_toRaw (x : SessionState) : ofRaw x.toRaw = x := by
  cases x with
  | other raw h => simp [ofRaw, toRaw, h]
  | _ => rfl

/-- Bytes per element, or 0 for a type this version cannot name. -/
def elementSizeOf : ElementType → UInt32
  | .uInt8 | .int8 | .byte => 1
  | .uInt16 | .int16 => 2
  | .uInt32 | .int32 | .float32 => 4
  | .uInt64 | .int64 | .float64 => 8
  | .unknown | .other _ _ => 0

/-! Hard caps that configuration cannot exceed. -/

def kMaxFrameBytesHardCap : UInt64 := 268435456
def kMinFrameBytes : UInt64 := 4096
def kMaxRingDepth : UInt32 := 1024
def kMinRingDepth : UInt32 := 2
def kMaxSessions : UInt32 := 32
def kMaxPublishQueue : UInt32 := 8192
def kMinPublishQueue : UInt32 := 8
def kMaxDeliveryQueue : UInt32 := 4096
def kMinDeliveryQueue : UInt32 := 1
def kMaxLeaseTtlMs : UInt32 := 600000
def kMinLeaseTtlMs : UInt32 := 1000
def kMaxRenewalsPerTtl : UInt32 := 100
def kMinRenewalsPerTtl : UInt32 := 2
def kMaxPinnedBytes : UInt64 := 68719476736
def kMinPinnedBytes : UInt64 := 16777216
def kMaxUcxAddressBytes : ℕ := 4096
def kMaxElementSize : UInt32 := 256
def kMinElementSize : UInt32 := 1
def kMaxStreamNameBytes : ℕ := 64
def kMinStreamNameBytes : ℕ := 1

lemma toRaw_of_named {α : Type} {n : UInt32} {other : (raw : UInt32) → n < raw → α}
    {named : List α} {default : α} {toRaw : α → UInt32}
    (hother : ∀ raw h, toRaw (other raw h) = raw)
    (hnamed : ∀ k ≤ n.toNat, toRaw (named.getD k default) = UInt32.ofNat k) (raw : UInt32) :
    toRaw (if h : n < raw then other raw h else named.getD raw.toNat default) = raw := by
  split_ifs with hraw
  · exact hother raw hraw
  · rw [hnamed _ (UInt32.le_iff_toNat_le.mp (UInt32.not_lt.mp hraw)), UInt32.ofNat_toNat]

@[simp] lemma Status.toRaw_ofRaw (raw : UInt16) : (Status.ofRaw raw).toRaw = raw := by
  have hnamed : ∀ k ≤ 15, (Status.named.getD k .ok).toRaw = UInt16.ofNat k := by decide
  unfold Status.ofRaw
  split_ifs with hraw
  · rfl
  · rw [hnamed _ (UInt16.le_iff_toNat_le.mp (UInt16.not_lt.mp hraw)), UInt16.ofNat_toNat]

@[simp] lemma ElementType.toRaw_ofRaw (raw : UInt32) : (ElementType.ofRaw raw).toRaw = raw :=
  toRaw_of_named (fun _ _ => rfl) (by decide) raw

@[simp] lemma MemoryKind.toRaw_ofRaw (raw : UInt32) : (MemoryKind.ofRaw raw).toRaw = raw :=
  toRaw_of_named (fun _ _ => rfl) (by decide) raw

@[simp] lemma Endian.toRaw_ofRaw (raw : UInt32) : (Endian.ofRaw raw).toRaw = raw :=
  toRaw_of_named (fun _ _ => rfl) (by decide) raw

@[simp] lemma DropPolicy.toRaw_ofRaw (raw : UInt32) : (DropPolicy.ofRaw raw).toRaw = raw :=
  toRaw_of_named (fun _ _ => rfl) (by decide) raw

@[simp] lemma Transport.toRaw_ofRaw (raw : UInt32) : (Transport.ofRaw raw).toRaw = raw :=
  toRaw_of_named (fun _ _ => rfl) (by decide) raw

@[simp] lemma SessionState.toRaw_ofRaw (raw : UInt32) : (SessionState.ofRaw raw).toRaw = raw :=
  toRaw_of_named (fun _ _ => rfl) (by decide) raw

end TangoBulk
