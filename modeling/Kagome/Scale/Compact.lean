import Kagome.Scale.Basic

/-!
# Compact integers and collections

The compact encoding of `ScaleEncoderStream::operator<<(const CompactInteger &)` has four
modes, told apart by the two low bits of the first byte: one byte below `2^6`, two bytes
below `2^14`, four bytes below `2^30`, and otherwise a header byte holding the byte count
minus four followed by the value's bytes; more than 67 value bytes raise
`EncodeError::COMPACT_INTEGER_TOO_BIG`. The decoder reads whichever mode the first byte
names and does not ask that mode to be the shortest one.

A collection is its compact item count followed by the items. `Vec` is a `std::vector`,
whose size is a `size_t`.
-/

namespace Kagome.Scale

/-- `countBytes`: bytes needed for `v`, at least one. -/
def countBytes (v : Nat) : Nat :=
  if v < 256 then 1 else countBytes (v / 256) + 1
termination_by v
decreasing_by omega

theorem lt_pow_countBytes (v : Nat) : v < 256 ^ countBytes v := by
  induction v using Nat.strong_induction_on with
  | _ v ih =>
    rw [countBytes]
    split
    · simpa
    · have := ih (v / 256) (by omega)
      rw [pow_succ]; omega

theorem countBytes_le {v k : Nat} (h : v < 256 ^ (k + 1)) : countBytes v ≤ k + 1 := by
  induction k generalizing v with
  | zero => rw [countBytes, if_pos (by simpa using h)]
  | succ k ih =>
    rw [countBytes]
    split
    · omega
    · have := @ih (v / 256) (by rw [pow_succ] at h; omega)
      omega

theorem le_countBytes {v k : Nat} (h : 256 ^ k ≤ v) : k + 1 ≤ countBytes v := by
  induction k generalizing v with
  | zero => rw [countBytes]; split <;> omega
  | succ k ih =>
    have hk : 1 ≤ 256 ^ k := Nat.one_le_pow _ _ (by norm_num)
    rw [pow_succ] at h
    rw [countBytes, if_neg (by omega)]
    have := @ih (v / 256) (by omega)
    omega

/-- `encodeCompactInteger`. -/
def encodeCompactInteger (value : Nat) : Option Bytes :=
  if value < 2 ^ 6 then some [UInt8.ofNat (value * 4)]
  else if value < 2 ^ 14 then some (encodeInteger 2 (value * 4 + 1))
  else if value < 2 ^ 30 then some (encodeInteger 4 (value * 4 + 2))
  else
    let bigIntLength := countBytes value
    if bigIntLength > 67 then none
    else some (UInt8.ofNat ((bigIntLength - 4) * 4 + 3) :: encodeInteger bigIntLength value)

/-- `decodeCompactInteger`. In the two- and four-byte modes the first byte's six high bits
are the low bits of the number: `((first & 0b11111100) + rest * 256) >> 2`. -/
def decodeCompactInteger : Decoder Nat
  | [] => none
  | first :: s =>
    match first.toNat % 4 with
    | 0 => some (first.toNat / 4, s)
    | 1 => (decodeInteger 1 s).map fun p => ((first.toNat + p.1 * 256) / 4, p.2)
    | 2 => (decodeInteger 3 s).map fun p => ((first.toNat + p.1 * 256) / 4, p.2)
    | _ => decodeInteger (first.toNat / 4 + 4) s

theorem decodeCompactInteger_encodeCompactInteger {value : Nat} {bs : Bytes}
    (h : encodeCompactInteger value = some bs) (r : Bytes) :
    decodeCompactInteger (bs ++ r) = some (value, r) := by
  unfold encodeCompactInteger at h
  dsimp only at h
  split_ifs at h with h1 h2 h3 h4 <;> cases h
  · have hmod : value * 4 % 256 % 4 = 0 := by omega
    simp only [List.cons_append, decodeCompactInteger, toNat_ofNat_byte, hmod]
    congr; omega
  · have hhi : (value * 4 + 1) / 256 < 256 ^ 1 := by omega
    have hmod : (value * 4 + 1) % 256 % 4 = 1 := by omega
    rw [encodeInteger_succ]
    simp only [List.cons_append, decodeCompactInteger, toNat_ofNat_byte, hmod,
      decodeInteger_encodeInteger _ _ hhi, Option.map_some']
    congr; omega
  · have hhi : (value * 4 + 2) / 256 < 256 ^ 3 := by omega
    have hmod : (value * 4 + 2) % 256 % 4 = 2 := by omega
    rw [encodeInteger_succ]
    simp only [List.cons_append, decodeCompactInteger, toNat_ofNat_byte, hmod,
      decodeInteger_encodeInteger _ _ hhi, Option.map_some']
    congr; omega
  · have hge := le_countBytes (v := value) (k := 3) (by norm_num at h3 ⊢; omega)
    have hdiv : ((countBytes value - 4) * 4 + 3) % 256 / 4 + 4 = countBytes value := by omega
    have hmod : ((countBytes value - 4) * 4 + 3) % 256 % 4 = 3 := by omega
    simp only [List.cons_append, decodeCompactInteger, toNat_ofNat_byte, hmod, hdiv]
    exact decodeInteger_encodeInteger _ _ (lt_pow_countBytes value) r

theorem encodeCompactInteger_isSome {value : Nat} (h : value < 2 ^ 64) :
    (encodeCompactInteger value).isSome := by
  have := countBytes_le (v := value) (k := 7) (by simpa using h)
  unfold encodeCompactInteger
  split_ifs <;> simp_all
  omega

/-! ## Collections -/

/-- `std::vector<T>`: its size is a `size_t`. -/
structure Vec (α : Type) where
  toList : List α
  length_lt : toList.length < 2 ^ 64

instance {α : Type} [DecidableEq α] : DecidableEq (Vec α) := fun a b =>
  decidable_of_iff (a.toList = b.toList) (by cases a; cases b; simp)

/-- The items of a collection, one after another. -/
def encodeItems {α : Type} (encode : α → Option Bytes) : List α → Option Bytes
  | [] => some []
  | a :: as => do
    let head ← encode a
    let tail ← encodeItems encode as
    pure (head ++ tail)

/-- `encodeCollection`: the compact item count, then the items. -/
def encodeCollection {α : Type} (encode : α → Option Bytes) (xs : List α) : Option Bytes := do
  let header ← encodeCompactInteger xs.length
  let items ← encodeItems encode xs
  pure (header ++ items)

/-- Reads `n` items. -/
def decodeItems {α : Type} (decode : Decoder α) : Nat → Decoder (List α)
  | 0, s => some ([], s)
  | n + 1, s => do
    let (a, s) ← decode s
    let (as, s) ← decodeItems decode n s
    pure (a :: as, s)

/-- `operator>>(std::vector<T> &)`: the compact item count, then that many items. -/
def decodeCollection {α : Type} (decode : Decoder α) : Decoder (List α) := fun s => do
  let (n, s) ← decodeCompactInteger s
  decodeItems decode n s

/-- A count beyond `size_t` cannot be resized to, so it is refused. -/
def decodeVec {α : Type} (decode : Decoder α) : Decoder (Vec α) := fun s => do
  let (xs, s) ← decodeCollection decode s
  if h : xs.length < 2 ^ 64 then pure (⟨xs, h⟩, s) else none

theorem decodeItems_encodeItems {α : Type} (c : Codec α) {xs : List α} {bs : Bytes}
    (h : encodeItems c.encode xs = some bs) (r : Bytes) :
    decodeItems c.decode xs.length (bs ++ r) = some (xs, r) := by
  induction xs generalizing bs with
  | nil => simp_all [encodeItems, decodeItems]
  | cons a as ih =>
    simp only [encodeItems, Option.bind_eq_bind, Option.bind_eq_some, Option.pure_def,
      Option.some.injEq] at h
    obtain ⟨head, hhead, tail, htail, rfl⟩ := h
    simp [decodeItems, c.decode_encode _ _ _ hhead, ih htail]

theorem decodeCollection_encodeCollection {α : Type} (c : Codec α) {xs : List α} {bs : Bytes}
    (h : encodeCollection c.encode xs = some bs) (r : Bytes) :
    decodeCollection c.decode (bs ++ r) = some (xs, r) := by
  simp only [encodeCollection, Option.bind_eq_bind, Option.bind_eq_some, Option.pure_def,
    Option.some.injEq] at h
  obtain ⟨header, hheader, items, hitems, rfl⟩ := h
  simp [decodeCollection, decodeCompactInteger_encodeCompactInteger hheader,
    decodeItems_encodeItems c hitems]

theorem decodeVec_encodeCollection {α : Type} (c : Codec α) {v : Vec α} {bs : Bytes}
    (h : encodeCollection c.encode v.toList = some bs) (r : Bytes) :
    decodeVec c.decode (bs ++ r) = some (v, r) := by
  simp [decodeVec, decodeCollection_encodeCollection c h]
  exact v.length_lt

/-- The collection codec over a codec for its items. -/
def Codec.vec {α : Type} (c : Codec α) : Codec (Vec α) where
  encode v := encodeCollection c.encode v.toList
  decode := decodeVec c.decode
  decode_encode _ _ r h := decodeVec_encodeCollection c h r

theorem encodeItems_isSome_iff {α : Type} {encode : α → Option Bytes} {xs : List α} :
    (encodeItems encode xs).isSome ↔ ∀ a ∈ xs, (encode a).isSome := by
  induction xs with
  | nil => simp [encodeItems]
  | cons a as ih =>
    rw [List.forall_mem_cons, ← ih]
    simp only [encodeItems]
    cases encode a <;> cases encodeItems encode as <;> simp

/-- A `std::vector` is encoded exactly when each of its items is. -/
theorem encodeCollection_isSome_iff {α : Type} {encode : α → Option Bytes} (v : Vec α) :
    (encodeCollection encode v.toList).isSome ↔ ∀ a ∈ v.toList, (encode a).isSome := by
  obtain ⟨header, hheader⟩ := Option.isSome_iff_exists.mp (encodeCompactInteger_isSome v.length_lt)
  rw [← encodeItems_isSome_iff]
  simp only [encodeCollection, hheader]
  cases encodeItems encode v.toList <;> simp

end Kagome.Scale
