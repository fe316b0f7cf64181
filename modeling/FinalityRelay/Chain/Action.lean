import FinalityRelay.Codec.Record

/-! Contract calls of the host chain, the receipts that prove their execution, and the traces in
which they are reported. -/

namespace FinalityRelay

structure Permission where
  actor : Name
  permission : Name
deriving DecidableEq

structure Action where
  account : Name
  name : Name
  authorization : List Permission
  data : List UInt8
deriving DecidableEq

structure Receipt where
  receiver : Name
  actDigest : Digest
  globalSequence : UInt64
  recvSequence : UInt64
  authSequence : List (Name × UInt64)
  codeSequence : UInt32
  abiSequence : UInt32
deriving DecidableEq

/-- The execution of one action. A failed action has an exception. -/
structure Trace where
  ordinal : UInt32
  receiver : Name
  action : Action
  receipt : Option Receipt
  blockNumber : UInt32
  exception : Option String
deriving DecidableEq

/-- An amount of the token whose precision and ticker are packed in `symbol`. -/
structure Asset where
  amount : Int64
  symbol : UInt64
deriving DecidableEq

/-- What a token transfer carries as its data. -/
structure Transfer where
  sender : Name
  recipient : Name
  quantity : Asset
  memo : String
deriving DecidableEq

open Fields RecordField

def Permission.codec : Codec Permission :=
  (field (required "actor" .name) <| field (required "permission" .name) <| done).codec.via
    (fun p => (p.actor, p.permission, ()))
    (fun (a, p, _) => some ⟨a, p⟩)

def Action.codec : Codec Action :=
  (field (required "account" .name) <| field (required "name" .name) <|
    field (required "authorization" (.list Permission.codec)) <|
    field (required "data" .bytes) <| done).codec.via
    (fun a => (a.account, a.name, a.authorization, a.data, ()))
    (fun (c, n, p, d, _) => some ⟨c, n, p, d⟩)

def Receipt.codec : Codec Receipt :=
  (field (required "receiver" .name) <| field (required "act_digest" .digest32) <|
    field (required "global_sequence" .word64) <| field (required "recv_sequence" .word64) <|
    field (required "auth_sequence" (.list (.pair .name .word64))) <|
    field (required "code_sequence" .word32) <|
    field (required "abi_sequence" .word32) <| done).codec.via
    (fun r => (r.receiver, r.actDigest, r.globalSequence, r.recvSequence, r.authSequence,
      r.codeSequence, r.abiSequence, ()))
    (fun (r, d, g, s, a, c, b, _) => some ⟨r, d, g, s, a, c, b⟩)

def Trace.codec : Codec Trace :=
  (field (required "action_ordinal" .word32) <| field (required "receiver" .name) <|
    field (required "act" Action.codec) <|
    field (defaulted "receipt" (.option Receipt.codec) none) <|
    field (required "block_num" .word32) <|
    field (defaulted "except" (.option .text) none) <| done).codec.via
    (fun t => (t.ordinal, t.receiver, t.action, t.receipt, t.blockNumber, t.exception, ()))
    (fun (o, r, a, p, b, e, _) => some ⟨o, r, a, p, b, e⟩)

def Asset.codec : Codec Asset :=
  (field (required "amount" .int64) <| field (required "symbol" .word64) <| done).codec.via
    (fun a => (a.amount, a.symbol, ()))
    (fun (a, s, _) => some ⟨a, s⟩)

def Transfer.codec : Codec Transfer :=
  (field (required "from" .name) <| field (required "to" .name) <|
    field (required "quantity" Asset.codec) <| field (required "memo" .text) <| done).codec.via
    (fun t => (t.sender, t.recipient, t.quantity, t.memo, ()))
    (fun (f, t, q, m, _) => some ⟨f, t, q, m⟩)

def Action.digest (a : Action) : Digest := Action.codec.digest a

/-- The transfer that the data of an action starts with. -/
def Action.transfer? (a : Action) : Except BinaryError Transfer :=
  (Transfer.codec.read a.data).map Prod.fst

/-- The leaf of a receipt in the action tree of its block. -/
def Receipt.digest (r : Receipt) : Digest := Receipt.codec.digest r

end FinalityRelay
