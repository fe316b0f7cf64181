import FinalityRelay.Codec.Record

/-! Block headers of the host chain and the producer schedules that they announce. -/

namespace FinalityRelay

structure Producer where
  name : Name
  signingKey : List UInt8
deriving DecidableEq

structure Schedule where
  version : UInt32
  producers : List Producer
deriving DecidableEq

structure Extension where
  id : UInt16
  data : List UInt8
deriving DecidableEq

/-- A block header. Its timestamp counts half seconds. -/
structure Header where
  timestamp : UInt32
  producer : Name
  confirmed : UInt16
  previous : Digest
  transactionRoot : Digest
  actionRoot : Digest
  scheduleVersion : UInt32
  newProducers : Option Schedule
  extensions : List Extension
deriving DecidableEq

structure SignedHeader where
  header : Header
  signature : List UInt8
deriving DecidableEq

open Fields RecordField

def Producer.codec : Codec Producer :=
  (field (required "producer_name" .name) <|
    field (required "block_signing_key" .bytes) <| done).codec.via
    (fun p => (p.name, p.signingKey, ()))
    (fun (n, k, _) => some ⟨n, k⟩)

def Schedule.codec : Codec Schedule :=
  (field (required "version" .word32) <|
    field (required "producers" (.list Producer.codec)) <| done).codec.via
    (fun s => (s.version, s.producers, ()))
    (fun (v, p, _) => some ⟨v, p⟩)

def Extension.codec : Codec Extension :=
  (field (required "id" .word16) <| field (required "data" .bytes) <| done).codec.via
    (fun e => (e.id, e.data, ()))
    (fun (i, d, _) => some ⟨i, d⟩)

def Header.codec : Codec Header :=
  (field (required "timestamp" .word32) <| field (required "producer" .name) <|
    field (required "confirmed" .word16) <| field (required "previous" .digest32) <|
    field (required "transaction_mroot" .digest32) <|
    field (required "action_mroot" .digest32) <|
    field (required "schedule_version" .word32) <|
    field (defaulted "new_producers" (.option Schedule.codec) none) <|
    field (defaulted "header_extensions" (.list Extension.codec) []) <| done).codec.via
    (fun h => (h.timestamp, h.producer, h.confirmed, h.previous, h.transactionRoot, h.actionRoot,
      h.scheduleVersion, h.newProducers, h.extensions, ()))
    (fun (t, p, c, b, x, a, s, n, e, _) => some ⟨t, p, c, b, x, a, s, n, e⟩)

def SignedHeader.codec : Codec SignedHeader :=
  (field (required "header" Header.codec) <|
    field (required "producer_signature" .bytes) <| done).codec.via
    (fun h => (h.header, h.signature, ()))
    (fun (h, s, _) => some ⟨h, s⟩)

def Schedule.digest (s : Schedule) : Digest := Schedule.codec.digest s

/-- The id of the extensions that announce a schedule. -/
def Extension.scheduleId : UInt16 := 1

def Extension.ofSchedule (s : Schedule) : Extension :=
  ⟨scheduleId, Schedule.codec.write s⟩

/-- The schedule that the data of an announcing extension starts with. -/
def Extension.schedule? (e : Extension) : Option Schedule :=
  if e.id = scheduleId then (Schedule.codec.read e.data).toOption.map Prod.fst else none

namespace Header

/-- One above the number of the block that this one extends. -/
def number (h : Header) : UInt32 := h.previous.number + 1

def digest (h : Header) : Digest := Header.codec.digest h

/-- The block id: the digest of the header with the block number written over its front. -/
def id (h : Header) : Digest := h.digest.withNumber h.number

def announced? (h : Header) : Option Schedule :=
  match h.newProducers with
  | some s => some s
  | none => h.extensions.findSome? Extension.schedule?

end Header

def SignedHeader.id (h : SignedHeader) : Digest := h.header.id

def SignedHeader.number (h : SignedHeader) : UInt32 := h.header.number

end FinalityRelay
