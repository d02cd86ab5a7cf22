import Kagome.Grandpa.RoundTrip

/-!
# What the `SignedMessage` decoder accepts, and what `operator==` compares

The decoder takes the vote from the front of the length-prefixed buffer and does not look
at the buffer's remaining bytes, so a byte string decodes to `m`, consuming everything,
exactly when it is a buffer holding `m`'s vote followed by any bytes, then `m`'s signature
and id. Distinct byte strings therefore decode to one signed message.

The encoder itself is injective, while `operator==` compares the message and the
signature with the other operand's and the id with its own: two messages that differ only
in their ids are equal under it and have different encodings.
-/

namespace Kagome.Grandpa
open Scale

theorem decodeSignedMessage_of_decodeBuffer {s extra r : Bytes} {m : SignedMessage}
    (h : decodeBuffer s =
      some (encodeVote m.message ++ extra, encodeBlob m.signature ++ encodeBlob m.id ++ r)) :
    decodeSignedMessage s = some (m, r) := by
  have hv : decode decodeVote (encodeVote m.message ++ extra) = some m.message :=
    decode_eq_some.mpr ⟨extra, decodeVote_encodeVote _ _⟩
  simp [decodeSignedMessage, h, hv, decodeBlob_encodeBlob]

/-- A byte string is read as `m`, all of it consumed, exactly when it is a length-prefixed
buffer whose content is the encoding of `m`'s vote followed by any bytes, and then `m`'s
signature and id. -/
theorem decodeSignedMessage_consumes_all_iff (s : Bytes) (m : SignedMessage) :
    decodeSignedMessage s = some (m, []) ↔ ∃ extra,
      decodeBuffer s = some (encodeVote m.message ++ extra,
        encodeBlob m.signature ++ encodeBlob m.id) := by
  constructor
  · intro h
    simp only [decodeSignedMessage, Option.bind_eq_bind, Option.bind_eq_some, Option.pure_def,
      Option.some.injEq, Prod.exists, decode_eq_some] at h
    obtain ⟨buffer, s₁, hbuffer, vote, ⟨extra, hvote⟩, signature, s₂, hsignature, id, s₃, hid,
      rfl, rfl⟩ := h
    refine ⟨extra, ?_⟩
    rw [hbuffer, decodeVote_spec hvote, decodeBlob_spec hsignature, decodeBlob_spec hid]
    simp
  · rintro ⟨extra, h⟩
    exact decodeSignedMessage_of_decodeBuffer (r := []) (by simpa using h)

/-- A byte placed in the vote buffer after the vote is read over: the input below decodes
to `m`, all of it consumed, yet it is one byte longer than `m`'s encoding. -/
theorem decodeSignedMessage_trailing_vote_byte :
    let m : SignedMessage := ⟨.prevote ⟨0, ⟨List.replicate 32 0, rfl⟩⟩,
      ⟨List.replicate 64 0, rfl⟩, ⟨List.replicate 32 0, rfl⟩⟩
    let s : Bytes := UInt8.ofNat (42 * 4) :: encodeVote m.message ++ [0] ++
      encodeBlob m.signature ++ encodeBlob m.id
    decodeSignedMessage s = some (m, []) ∧ encodeSignedMessage m ≠ some s := by
  intro m s
  have hlen : (encodeVote m.message ++ [0]).length = 42 := by simp [length_encodeVote]
  have hs : s = (UInt8.ofNat ((encodeVote m.message ++ [0]).length * 4) ::
      (encodeVote m.message ++ [0])) ++ (encodeBlob m.signature ++ encodeBlob m.id ++ []) := by
    rw [hlen]; simp [s]
  refine ⟨@decodeSignedMessage_of_decodeBuffer _ [0] [] _ ?_, ?_⟩
  · rw [hs]
    exact decodeBuffer_encodeBuffer (encodeBuffer_of_length_lt (by omega)) _
  · rw [encodeSignedMessage_eq]
    intro h
    have := congrArg List.length (Option.some.inj h)
    simp [s] at this

/-! ## Equality -/

theorem encodeSignedMessage_injective {a b : SignedMessage}
    (h : encodeSignedMessage a = encodeSignedMessage b) : a = b := by
  have ha := decodeSignedMessage_encodeSignedMessage (encodeSignedMessage_eq a) []
  have hb := decodeSignedMessage_encodeSignedMessage (encodeSignedMessage_eq b) []
  rw [encodeSignedMessage_eq, encodeSignedMessage_eq] at h
  rw [Option.some.inj h, hb] at ha
  simpa using ha.symm

theorem SignedMessage.eq_iff (a b : SignedMessage) :
    a.eq b = true ↔ a.message = b.message ∧ a.signature = b.signature := by
  simp [SignedMessage.eq]

/-- Two messages that differ only in their ids: `operator==` holds, the encodings differ. -/
theorem signedMessage_eq_ignores_id :
    let a : SignedMessage := ⟨.precommit ⟨0, ⟨List.replicate 32 0, rfl⟩⟩,
      ⟨List.replicate 64 0, rfl⟩, ⟨List.replicate 32 0, rfl⟩⟩
    let b : SignedMessage := { a with id := ⟨List.replicate 32 1, rfl⟩ }
    a.eq b = true ∧ encodeSignedMessage a ≠ encodeSignedMessage b ∧ a.id ≠ b.id := by
  intro a b
  have hid : a.id ≠ b.id := by decide
  refine ⟨(SignedMessage.eq_iff a b).mpr ⟨rfl, rfl⟩, fun h => hid ?_, hid⟩
  rw [encodeSignedMessage_injective h]

/-- `operator==` holds exactly when the encodings agree once the right operand carries the
receiver's id. -/
theorem SignedMessage.eq_iff_encode_with_id (a b : SignedMessage) :
    a.eq b = true ↔ encodeSignedMessage a = encodeSignedMessage { b with id := a.id } := by
  rw [SignedMessage.eq_iff]
  constructor
  · rintro ⟨hm, hs⟩
    obtain ⟨m, s, i⟩ := a
    subst hm hs
    rfl
  · intro h
    have hab := encodeSignedMessage_injective h
    exact ⟨(congrArg SignedMessage.message hab :), (congrArg SignedMessage.signature hab :)⟩

end Kagome.Grandpa
