import Kagome.Grandpa.Structs

/-!
# Reading back what the stream operators wrote

Every encoder of `structs.hpp` is undone by its decoder, which leaves the bytes after the
encoding unread. The field codecs are canonical as well: a block or a vote is read only
from its own encoding. The `SignedPrecommit` encoder succeeds exactly on precommits, so a
`Fin` is encoded exactly when every item of its justification is one.
-/

namespace Kagome.Grandpa
open Scale

/-! ## Blocks and votes -/

theorem decodeBlockInfo_encodeBlockInfo (b : BlockInfo) (r : Bytes) :
    decodeBlockInfo (encodeBlockInfo b ++ r) = some (b, r) := by
  simp [decodeBlockInfo, encodeBlockInfo, decodeBlob_encodeBlob, decodeU64_encodeU64]

theorem decodeBlockInfo_spec {b : BlockInfo} {s r : Bytes}
    (h : decodeBlockInfo s = some (b, r)) : s = encodeBlockInfo b ++ r := by
  simp only [decodeBlockInfo, Option.bind_eq_bind, Option.bind_eq_some, Option.pure_def,
    Option.some.injEq, Prod.exists] at h
  obtain ⟨hash, s₁, hhash, number, s₂, hnumber, rfl, rfl⟩ := h
  simp [encodeBlockInfo, decodeBlob_spec hhash, decodeU64_spec hnumber]

theorem decodeVote_encodeVote (v : Vote) (r : Bytes) :
    decodeVote (encodeVote v ++ r) = some (v, r) := by
  cases v <;> simp [decodeVote, encodeVote, Vote.which, Vote.blockInfo,
    decodeBlockInfo_encodeBlockInfo]

theorem decodeVote_spec {v : Vote} {s r : Bytes} (h : decodeVote s = some (v, r)) :
    s = encodeVote v ++ r := by
  cases s with
  | nil => simp [decodeVote, nextByte] at h
  | cons typeIndex s =>
    have htype : typeIndex = UInt8.ofNat typeIndex.toNat := (ofNat_toNat_byte _).symm
    simp only [decodeVote, nextByte_cons, Option.bind_eq_bind, Option.some_bind] at h
    generalize typeIndex.toNat = k at h htype
    subst htype
    rcases k with _ | _ | _ | k <;>
      simp only [Option.bind_eq_some, Option.some.injEq, Prod.exists, Option.none_bind,
        reduceCtorEq] at h <;>
      obtain ⟨b, s', hb, rfl, rfl⟩ := h <;>
      rw [decodeBlockInfo_spec hb] <;> rfl

/-- A byte is read back as the byte it was written as. -/
def byteCodec : Codec UInt8 where
  encode b := some [b]
  decode := nextByte
  decode_encode _ _ _ h := by cases h; rfl

theorem decodeBuffer_encodeBuffer {buffer bs : Bytes} (h : encodeBuffer buffer = some bs)
    (r : Bytes) : decodeBuffer (bs ++ r) = some (buffer, r) :=
  decodeCollection_encodeCollection byteCodec h r

/-- A buffer shorter than 64 bytes gets a one-byte count. -/
theorem encodeBuffer_of_length_lt {buffer : Bytes} (h : buffer.length < 64) :
    encodeBuffer buffer = some (UInt8.ofNat (buffer.length * 4) :: buffer) := by
  have hitems : ∀ bs : Bytes, encodeItems (fun b => some [b]) bs = some bs := by
    intro bs; induction bs <;> simp_all [encodeItems]
  simp [encodeBuffer, encodeCollection, encodeCompactInteger, h, hitems]

theorem length_encodeVote (v : Vote) : (encodeVote v).length = 41 := by
  simp [encodeVote, encodeBlockInfo, encodeBlob, encodeU64, v.blockInfo.blockHash.length_eq]

/-! ## Signed messages -/

theorem encodeSignedMessage_eq (m : SignedMessage) :
    encodeSignedMessage m = some (UInt8.ofNat (41 * 4) :: encodeVote m.message ++
      encodeBlob m.signature ++ encodeBlob m.id) := by
  simp [encodeSignedMessage, encodeBuffer_of_length_lt, length_encodeVote]

theorem decodeSignedMessage_encodeSignedMessage {m : SignedMessage} {bs : Bytes}
    (h : encodeSignedMessage m = some bs) (r : Bytes) :
    decodeSignedMessage (bs ++ r) = some (m, r) := by
  simp only [encodeSignedMessage, Option.bind_eq_bind, Option.bind_eq_some, Option.pure_def,
    Option.some.injEq] at h
  obtain ⟨encodedVote, hvote, rfl⟩ := h
  have hv : decode decodeVote (encodeVote m.message) = some m.message :=
    decode_eq_some.mpr ⟨[], by simpa using decodeVote_encodeVote m.message []⟩
  simp [decodeSignedMessage, decodeBuffer_encodeBuffer hvote, hv, decodeBlob_encodeBlob]

theorem encodeSignedPrecommit_isSome_iff (m : SignedPrecommit) :
    (encodeSignedPrecommit m).isSome ↔ m.isPrecommit := by
  obtain ⟨⟨_ | _ | _, _, _⟩⟩ := m <;>
    simp [encodeSignedPrecommit, SignedMessage.isPrecommit, Vote.which]

theorem decodeSignedPrecommit_encodeSignedPrecommit {m : SignedPrecommit} {bs : Bytes}
    (h : encodeSignedPrecommit m = some bs) (r : Bytes) :
    decodeSignedPrecommit (bs ++ r) = some (m, r) := by
  obtain ⟨⟨_ | b | _, signature, id⟩⟩ := m <;> simp only [encodeSignedPrecommit] at h <;> cases h
  simp [decodeSignedPrecommit, decodeBlockInfo_encodeBlockInfo, decodeBlob_encodeBlob]

def signedPrecommitCodec : Codec SignedPrecommit where
  encode := encodeSignedPrecommit
  decode := decodeSignedPrecommit
  decode_encode _ _ r h := decodeSignedPrecommit_encodeSignedPrecommit h r

/-! ## Justifications and the two messages -/

theorem decodeGrandpaJustification_encodeGrandpaJustification {v : GrandpaJustification}
    {bs : Bytes} (h : encodeGrandpaJustification v = some bs) (r : Bytes) :
    decodeGrandpaJustification (bs ++ r) = some (v, r) := by
  simp only [encodeGrandpaJustification, Option.bind_eq_bind, Option.bind_eq_some,
    Option.pure_def, Option.some.injEq] at h
  obtain ⟨items, hitems, rfl⟩ := h
  have hitems' : decodeVec decodeSignedPrecommit (items ++ r) = some (v.items, r) :=
    decodeVec_encodeCollection signedPrecommitCodec hitems r
  simp [decodeGrandpaJustification, decodeU64_encodeU64, decodeBlockInfo_encodeBlockInfo, hitems']

theorem encodeGrandpaJustification_isSome_iff (v : GrandpaJustification) :
    (encodeGrandpaJustification v).isSome ↔ ∀ item ∈ v.items.toList, item.isPrecommit := by
  simp only [← encodeSignedPrecommit_isSome_iff, ← encodeCollection_isSome_iff,
    encodeGrandpaJustification]
  cases encodeCollection encodeSignedPrecommit v.items.toList <;> simp

theorem decodeVoteMessage_encodeVoteMessage {v : VoteMessage} {bs : Bytes}
    (h : encodeVoteMessage v = some bs) (r : Bytes) :
    decodeVoteMessage (bs ++ r) = some (v, r) := by
  simp only [encodeVoteMessage, Option.bind_eq_bind, Option.bind_eq_some, Option.pure_def,
    Option.some.injEq] at h
  obtain ⟨vote, hvote, rfl⟩ := h
  simp [decodeVoteMessage, decodeU64_encodeU64, decodeSignedMessage_encodeSignedMessage hvote]

theorem decodeFin_encodeFin {f : Fin} {bs : Bytes} (h : encodeFin f = some bs) (r : Bytes) :
    decodeFin (bs ++ r) = some (f, r) := by
  simp only [encodeFin, Option.bind_eq_bind, Option.bind_eq_some, Option.pure_def,
    Option.some.injEq] at h
  obtain ⟨justification, hjustification, rfl⟩ := h
  simp [decodeFin, decodeU64_encodeU64, decodeBlockInfo_encodeBlockInfo,
    decodeGrandpaJustification_encodeGrandpaJustification hjustification]

/-- A `Fin` is encoded exactly when every precommit of its justification holds a `Precommit`,
the precondition the `SignedPrecommit` encoder asserts. -/
theorem encodeFin_isSome_iff (f : Fin) :
    (encodeFin f).isSome ↔ ∀ item ∈ f.justification.items.toList, item.isPrecommit := by
  rw [← encodeGrandpaJustification_isSome_iff]
  simp only [encodeFin]
  cases encodeGrandpaJustification f.justification <;> simp

/-- Every vote message is encoded and read back field by field, any suffix left unread; so
is every finalizing message whose justification holds only precommits. -/
theorem grandpa_wire_round_trip :
    (∀ (v : VoteMessage) (r : Bytes), ∃ bs, encodeVoteMessage v = some bs ∧
        decodeVoteMessage (bs ++ r) = some (v, r)) ∧
    (∀ f : Fin, (∀ item ∈ f.justification.items.toList, item.isPrecommit) →
      ∀ r : Bytes, ∃ bs, encodeFin f = some bs ∧ decodeFin (bs ++ r) = some (f, r)) := by
  refine ⟨fun v r => ?_, fun f hf r => ?_⟩
  · obtain ⟨bs, hbs⟩ : ∃ bs, encodeVoteMessage v = some bs := by
      simp [encodeVoteMessage, encodeSignedMessage_eq]
    exact ⟨bs, hbs, decodeVoteMessage_encodeVoteMessage hbs r⟩
  · obtain ⟨justification, hj⟩ := Option.isSome_iff_exists.mp
      ((encodeGrandpaJustification_isSome_iff _).mpr hf)
    obtain ⟨bs, hbs⟩ : ∃ bs, encodeFin f = some bs := by simp [encodeFin, hj]
    exact ⟨bs, hbs, decodeFin_encodeFin hbs r⟩

end Kagome.Grandpa
