import Kagome.Scale.Compact

/-!
# GRANDPA messages and their stream operators (`consensus/grandpa/structs.hpp`)

`Prevote`, `Precommit` and `PrimaryPropose` are `BlockInfoT` under three tags; a `Vote` is
the variant of the three, written as its index byte and then the block. A `SignedMessage`
writes its vote through `scale::encode` into a buffer and puts the buffer, length-prefixed,
on the stream; its decoder reads the buffer back and decodes the vote from it with
`scale::decode`. A `SignedPrecommit` writes its precommit directly, and its encoder only
accepts a message holding a `Precommit` (`boost::strict_get`).

`RoundNumber`, `MembershipCounter` and `BlockNumber` are `uint64_t`, `BlockHash` and `Id`
(an Ed25519 public key) 32-byte blobs, `Signature` a 64-byte blob.
-/

namespace Kagome.Grandpa
open Scale

abbrev RoundNumber := UInt64
abbrev MembershipCounter := UInt64
abbrev BlockNumber := UInt64
abbrev BlockHash := Blob 32
abbrev Signature := Blob 64
abbrev Id := Blob 32

/-- `primitives::detail::BlockInfoT`. -/
structure BlockInfo where
  blockNumber : BlockNumber
  blockHash : BlockHash
  deriving DecidableEq

/-- `Vote`; the order of the constructors is the variant index. -/
inductive Vote
  | prevote (vote : BlockInfo)
  | precommit (vote : BlockInfo)
  | primaryPropose (vote : BlockInfo)
  deriving DecidableEq

/-- `visit_in_place(message, ...)`: the block every alternative carries. -/
def Vote.blockInfo : Vote → BlockInfo
  | .prevote b | .precommit b | .primaryPropose b => b

/-- `boost::variant::which`. -/
def Vote.which : Vote → Nat
  | .prevote _ => 0
  | .precommit _ => 1
  | .primaryPropose _ => 2

structure SignedMessage where
  message : Vote
  signature : Signature
  id : Id
  deriving DecidableEq

namespace SignedMessage

def blockNumber (m : SignedMessage) : BlockNumber := m.message.blockInfo.blockNumber

def blockHash (m : SignedMessage) : BlockHash := m.message.blockInfo.blockHash

def blockInfo (m : SignedMessage) : BlockInfo := ⟨m.blockNumber, m.blockHash⟩

/-- `is<Precommit>()`. -/
def isPrecommit (m : SignedMessage) : Bool := m.message.which == 1

/-- `SignedMessage::operator==`, which ends with `id == id`. -/
def eq (self rhs : SignedMessage) : Bool :=
  self.message == rhs.message && self.signature == rhs.signature && self.id == self.id

def ne (self rhs : SignedMessage) : Bool := !self.eq rhs

end SignedMessage

structure SignedPrecommit extends SignedMessage
  deriving DecidableEq

/-- Justification that contains a list of signed precommits justifying the validity of the
block. -/
structure GrandpaJustification where
  roundNumber : RoundNumber
  blockInfo : BlockInfo
  items : Vec SignedPrecommit
  deriving DecidableEq

/-- Either prevote, precommit or primary propose. -/
structure VoteMessage where
  roundNumber : RoundNumber
  counter : MembershipCounter
  vote : SignedMessage
  deriving DecidableEq

def VoteMessage.id (v : VoteMessage) : Id := v.vote.id

/-- Finalizing message. -/
structure Fin where
  roundNumber : RoundNumber
  vote : BlockInfo
  justification : GrandpaJustification
  deriving DecidableEq

/-! ## Encoders -/

/-- `operator<<(BlockInfoT)`: the hash, then the number. -/
def encodeBlockInfo (b : BlockInfo) : Bytes := encodeBlob b.blockHash ++ encodeU64 b.blockNumber

/-- The variant index byte, then the alternative. -/
def encodeVote (v : Vote) : Bytes := UInt8.ofNat v.which :: encodeBlockInfo v.blockInfo

/-- `common::Buffer`, a `std::vector<uint8_t>`. -/
def encodeBuffer (buffer : Bytes) : Option Bytes := encodeCollection (fun b => some [b]) buffer

def encodeSignedMessage (m : SignedMessage) : Option Bytes := do
  let encodedVote ← encodeBuffer (encodeVote m.message)
  pure (encodedVote ++ encodeBlob m.signature ++ encodeBlob m.id)

def encodeSignedPrecommit (m : SignedPrecommit) : Option Bytes :=
  match m.message with
  | .precommit b => some (encodeBlockInfo b ++ encodeBlob m.signature ++ encodeBlob m.id)
  | _ => none

def encodeGrandpaJustification (v : GrandpaJustification) : Option Bytes := do
  let items ← encodeCollection encodeSignedPrecommit v.items.toList
  pure (encodeU64 v.roundNumber ++ encodeBlockInfo v.blockInfo ++ items)

def encodeVoteMessage (v : VoteMessage) : Option Bytes := do
  let vote ← encodeSignedMessage v.vote
  pure (encodeU64 v.roundNumber ++ encodeU64 v.counter ++ vote)

def encodeFin (f : Fin) : Option Bytes := do
  let justification ← encodeGrandpaJustification f.justification
  pure (encodeU64 f.roundNumber ++ encodeBlockInfo f.vote ++ justification)

/-! ## Decoders -/

def decodeBlockInfo : Decoder BlockInfo := fun s => do
  let (blockHash, s) ← decodeBlob 32 s
  let (blockNumber, s) ← decodeU64 s
  pure (⟨blockNumber, blockHash⟩, s)

/-- An index byte beyond the three alternatives raises `DecodeError::WRONG_TYPE_INDEX`. -/
def decodeVote : Decoder Vote := fun s => do
  let (typeIndex, s) ← nextByte s
  let alternative ← match typeIndex.toNat with
    | 0 => some Vote.prevote
    | 1 => some Vote.precommit
    | 2 => some Vote.primaryPropose
    | _ => none
  let (b, s) ← decodeBlockInfo s
  pure (alternative b, s)

def decodeBuffer : Decoder Bytes := decodeCollection nextByte

def decodeSignedMessage : Decoder SignedMessage := fun s => do
  let (encodedVote, s) ← decodeBuffer s
  let decodedVote ← decode decodeVote encodedVote
  let (signature, s) ← decodeBlob 64 s
  let (id, s) ← decodeBlob 32 s
  pure (⟨decodedVote, signature, id⟩, s)

/-- The message is set to a `Precommit` before the block is read into it. -/
def decodeSignedPrecommit : Decoder SignedPrecommit := fun s => do
  let (precommit, s) ← decodeBlockInfo s
  let (signature, s) ← decodeBlob 64 s
  let (id, s) ← decodeBlob 32 s
  pure (⟨⟨.precommit precommit, signature, id⟩⟩, s)

def decodeGrandpaJustification : Decoder GrandpaJustification := fun s => do
  let (roundNumber, s) ← decodeU64 s
  let (blockInfo, s) ← decodeBlockInfo s
  let (items, s) ← decodeVec decodeSignedPrecommit s
  pure (⟨roundNumber, blockInfo, items⟩, s)

def decodeVoteMessage : Decoder VoteMessage := fun s => do
  let (roundNumber, s) ← decodeU64 s
  let (counter, s) ← decodeU64 s
  let (vote, s) ← decodeSignedMessage s
  pure (⟨roundNumber, counter, vote⟩, s)

def decodeFin : Decoder Fin := fun s => do
  let (roundNumber, s) ← decodeU64 s
  let (vote, s) ← decodeBlockInfo s
  let (justification, s) ← decodeGrandpaJustification s
  pure (⟨roundNumber, vote, justification⟩, s)

end Kagome.Grandpa
