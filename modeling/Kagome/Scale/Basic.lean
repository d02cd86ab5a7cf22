import Mathlib.Data.List.Basic
import Mathlib.Tactic.Ring

/-!
# Scale streams: bytes, fixed-width integers and blobs

`ScaleEncoderStream` appends bytes; `ScaleDecoderStream` reads them from the front of a
span and raises `DecodeError::NOT_ENOUGH_DATA` when the span ends. A decoder is modelled as
a function from the unread bytes to the value read and the bytes still unread, `none`
standing for a raised error. An encoder that may raise returns `Option Bytes`.

Fixed-width integers (`scale::detail::encodeInteger` / `decodeInteger`) are little-endian,
`sizeof(T)` bytes; a `common::Blob<N>` is its `N` bytes with no prefix.
-/

namespace Kagome.Scale

abbrev Bytes := List UInt8

/-- What `ScaleDecoderStream` reads from the front of the span: the value and the rest. -/
abbrev Decoder (α : Type) := Bytes → Option (α × Bytes)

/-- An encoder and a decoder with the law that the decoder reads back what the encoder wrote
and leaves every byte after it unread. -/
structure Codec (α : Type) where
  encode : α → Option Bytes
  decode : Decoder α
  decode_encode : ∀ a bs r, encode a = some bs → decode (bs ++ r) = some (a, r)

/-- `scale::decode<T>(span)`: runs the decoder over the span and returns the value; the bytes
the decoder left unread are dropped. -/
def decode {α : Type} (d : Decoder α) (bs : Bytes) : Option α := (d bs).map Prod.fst

@[simp] theorem decode_eq_some {α : Type} {d : Decoder α} {bs : Bytes} {a : α} :
    decode d bs = some a ↔ ∃ r, d bs = some (a, r) := by
  simp [decode]

/-- `ScaleDecoderStream::nextByte`. -/
def nextByte : Decoder UInt8
  | [] => none
  | b :: bs => some (b, bs)

@[simp] theorem nextByte_cons (b : UInt8) (bs : Bytes) : nextByte (b :: bs) = some (b, bs) := rfl

@[simp] theorem toNat_ofNat_byte (n : Nat) : (UInt8.ofNat n).toNat = n % 256 := by
  simp [UInt8.ofNat, UInt8.toNat]

theorem toNat_lt_byte (b : UInt8) : b.toNat < 256 := b.toNat_lt_size

@[simp] theorem ofNat_toNat_byte (b : UInt8) : UInt8.ofNat b.toNat = b :=
  UInt8.toNat.inj (by simpa using toNat_lt_byte b)

/-! ## Fixed-width integers -/

/-- `encodeInteger`: the `width` low bytes of `value`, least significant first. -/
def encodeInteger : Nat → Nat → Bytes
  | 0, _ => []
  | width + 1, value => UInt8.ofNat value :: encodeInteger width (value / 256)

theorem encodeInteger_succ (width value : Nat) :
    encodeInteger (width + 1) value = UInt8.ofNat value :: encodeInteger width (value / 256) := rfl

/-- `decodeInteger`: reads `width` bytes as a little-endian number. -/
def decodeInteger : Nat → Decoder Nat
  | 0, bs => some (0, bs)
  | _ + 1, [] => none
  | width + 1, b :: bs =>
    (decodeInteger width bs).map fun p => (b.toNat + 256 * p.1, p.2)

@[simp] theorem length_encodeInteger (width value : Nat) :
    (encodeInteger width value).length = width := by
  induction width generalizing value <;> simp [encodeInteger, *]

theorem decodeInteger_encodeInteger (width value : Nat) (h : value < 256 ^ width) (r : Bytes) :
    decodeInteger width (encodeInteger width value ++ r) = some (value, r) := by
  induction width generalizing value with
  | zero => simp_all [encodeInteger, decodeInteger]
  | succ width ih =>
    have hlt : value / 256 < 256 ^ width := by
      rw [Nat.div_lt_iff_lt_mul (by norm_num)]; simpa [pow_succ] using h
    simp [encodeInteger, decodeInteger, ih _ hlt]
    omega

/-- Fixed-width decoding is canonical: what it read is the encoding of the value it
returns, and that value fits the width. -/
theorem decodeInteger_spec {width value : Nat} {s r : Bytes}
    (h : decodeInteger width s = some (value, r)) :
    value < 256 ^ width ∧ s = encodeInteger width value ++ r := by
  induction width generalizing value s with
  | zero =>
    simp only [decodeInteger, Option.some.injEq, Prod.mk.injEq] at h
    obtain ⟨rfl, rfl⟩ := h
    simp [encodeInteger]
  | succ width ih =>
    cases s with
    | nil => simp [decodeInteger] at h
    | cons b bs =>
      simp only [decodeInteger, Option.map_eq_some', Prod.exists] at h
      obtain ⟨v, r', hd, rfl, rfl⟩ := h
      obtain ⟨hv, rfl⟩ := ih hd
      have hb := toNat_lt_byte b
      refine ⟨by rw [pow_succ]; omega, ?_⟩
      have hdiv : (b.toNat + 256 * v) / 256 = v := by omega
      simp [encodeInteger, hdiv, UInt8.toNat.inj, Nat.mod_eq_of_lt hb]
      exact UInt8.toNat.inj (by simp; omega)

theorem toNat_lt_u64 (x : UInt64) : x.toNat < 256 ^ 8 := x.toNat_lt_size

/-- A `uint64_t`, eight little-endian bytes. -/
def encodeU64 (x : UInt64) : Bytes := encodeInteger 8 x.toNat

def decodeU64 : Decoder UInt64 := fun s =>
  (decodeInteger 8 s).map fun p => (UInt64.ofNat p.1, p.2)

theorem decodeU64_encodeU64 (x : UInt64) (r : Bytes) :
    decodeU64 (encodeU64 x ++ r) = some (x, r) := by
  simp [decodeU64, encodeU64, decodeInteger_encodeInteger _ _ (toNat_lt_u64 x)]
  exact UInt64.toNat.inj (UInt64.toNat_ofNat_of_lt x.toNat_lt_size)

theorem decodeU64_spec {x : UInt64} {s r : Bytes} (h : decodeU64 s = some (x, r)) :
    s = encodeU64 x ++ r := by
  simp only [decodeU64, Option.map_eq_some', Prod.exists] at h
  obtain ⟨v, r', hd, rfl, rfl⟩ := h
  obtain ⟨hv, rfl⟩ := decodeInteger_spec hd
  simp [encodeU64, UInt64.toNat_ofNat_of_lt (show v < UInt64.size from hv)]

/-! ## Blobs -/

/-- `common::Blob<N>`: exactly `N` bytes. -/
structure Blob (n : Nat) where
  bytes : Bytes
  length_eq : bytes.length = n
  deriving DecidableEq

theorem Blob.ext_bytes {n : Nat} {a b : Blob n} (h : a.bytes = b.bytes) : a = b := by
  cases a; cases b; cases h; rfl

/-- A blob is written as its bytes, with no length prefix. -/
def encodeBlob {n : Nat} (b : Blob n) : Bytes := b.bytes

/-- Reads `n` bytes, one `nextByte` each. -/
def decodeBlob (n : Nat) : Decoder (Blob n) := fun s =>
  if h : n ≤ s.length then some (⟨s.take n, by simp [h]⟩, s.drop n) else none

theorem decodeBlob_encodeBlob {n : Nat} (b : Blob n) (r : Bytes) :
    decodeBlob n (encodeBlob b ++ r) = some (b, r) := by
  obtain ⟨bs, rfl⟩ := b
  simp [decodeBlob, encodeBlob]

theorem decodeBlob_spec {n : Nat} {b : Blob n} {s r : Bytes} (h : decodeBlob n s = some (b, r)) :
    s = encodeBlob b ++ r := by
  simp only [decodeBlob] at h
  split at h
  · simp only [Option.some.injEq, Prod.mk.injEq] at h
    obtain ⟨rfl, rfl⟩ := h
    simp [encodeBlob]
  · cases h

end Kagome.Scale
