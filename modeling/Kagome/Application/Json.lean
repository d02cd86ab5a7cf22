import Mathlib.Data.List.Basic
import Mathlib.Tactic.NormNum

/-!
# Configuration documents and the `load_*` readers of `AppConfigurationImpl`

A configuration file is parsed by rapidjson into a value tree. `FindMember` looks a name up
among an object's members, the first one first; on a value that is not an object, as
`GetString` on one that is not a string, `RAPIDJSON_ASSERT` fails.

`load_u32` takes an `int` member whose sign bit is clear, `load_u16` a `load_u32` value
whose bits above the low sixteen are clear. For the values they see the two bit tests are
the ranges `0 ≤ v < 2^31` and `v < 2^16`, and each reader on an object is stated once as
the member it returns.
-/

namespace Kagome.Application

section ExceptLemmas

variable {ε α β : Type} {x : Except ε α} {f : α → Except ε β}

@[simp] theorem ok_bind (a : α) : (Except.ok a : Except ε α) >>= f = f a := rfl

@[simp] theorem error_bind (e : ε) : (Except.error e : Except ε α) >>= f = .error e := rfl

@[simp] theorem pure_eq_ok (a : α) : (pure a : Except ε α) = .ok a := rfl

@[simp] theorem throw_eq_error (e : ε) : (throw e : Except ε α) = .error e := rfl

theorem bind_eq_ok {b : β} : x >>= f = .ok b ↔ ∃ a, x = .ok a ∧ f a = .ok b := by
  cases x <;> simp

theorem bind_eq_error {e : ε} :
    x >>= f = .error e ↔ x = .error e ∨ ∃ a, x = .ok a ∧ f a = .error e := by
  cases x <;> simp

end ExceptLemmas

/-- How a call ends without returning: an exception escapes, the process exits, or an
assertion fails. -/
inductive Failure where
  | threw (what : String)
  | exited
  | assertFailed
  deriving DecidableEq

/-- A `rapidjson::Value`. A number is `int` when written without fraction or exponent. -/
inductive Value where
  | null
  | bool (b : Bool)
  | int (v : Int)
  | double
  | string (s : String)
  | array (items : List Value)
  | object (members : List (String × Value))

namespace Value

def isObject : Value → Bool
  | .object _ => true
  | _ => false

def isString : Value → Bool
  | .string _ => true
  | _ => false

/-- `FindMember`. -/
def findMember : Value → String → Except Failure (Option Value)
  | .object members, name => .ok (members.lookup name)
  | _, _ => .error .assertFailed

end Value

/-- `IsInt()` of an integer number: it fits an `int`. -/
def isInt (v : Int) : Bool := -2 ^ 31 ≤ v && v < 2 ^ 31

/-- `static_cast<uint32_t>` of an `int`. -/
def uint32OfInt (v : Int) : UInt32 := UInt32.ofNat (v % 2 ^ 32).toNat

def loadStr (val : Value) (name : String) : Except Failure (Option String) := do
  match ← val.findMember name with
  | some (.string s) => pure (some s)
  | _ => pure none

def loadBool (val : Value) (name : String) : Except Failure (Option Bool) := do
  match ← val.findMember name with
  | some (.bool b) => pure (some b)
  | _ => pure none

/-- `load_u32`: `(v & (1u << 31u)) == 0` on the `int` read. -/
def loadU32 (val : Value) (name : String) : Except Failure (Option UInt32) := do
  match ← val.findMember name with
  | some (.int v) =>
    pure (if isInt v ∧ (uint32OfInt v &&& (1 : UInt32) <<< 31) = 0 then some (uint32OfInt v)
      else none)
  | _ => pure none

/-- `load_u16`: `(i & ~std::numeric_limits<uint16_t>::max()) == 0`. -/
def loadU16 (val : Value) (name : String) : Except Failure (Option UInt16) := do
  match ← loadU32 val name with
  | some i => pure (if (i &&& ~~~0xFFFF) = 0 then some i.toUInt16 else none)
  | none => pure none

/-! ## The bit tests as ranges -/

private theorem testBit_high_mask (i : Nat) :
    (2 ^ 16 * (2 ^ 16 - 1)).testBit i = decide (16 ≤ i ∧ i < 32) := by
  simp only [Nat.testBit_mul_pow_two, Nat.testBit_two_pow_sub_one]
  by_cases h : 16 ≤ i <;> simp [h]; omega

private theorem land_high_mask_eq_zero_iff {n : Nat} (hn : n < 2 ^ 32) :
    n &&& 2 ^ 16 * (2 ^ 16 - 1) = 0 ↔ n < 2 ^ 16 := by
  constructor
  · intro h
    apply Nat.lt_pow_two_of_testBit
    intro i hi
    by_cases hi32 : i < 32
    · have := congrArg (Nat.testBit · i) h
      simp only [Nat.testBit_and, testBit_high_mask, Nat.zero_testBit] at this
      simpa [hi, hi32] using this
    · exact Nat.testBit_lt_two_pow (lt_of_lt_of_le hn (Nat.pow_le_pow_right (by omega) (by omega)))
  · intro h
    apply Nat.eq_of_testBit_eq
    intro i
    simp only [Nat.testBit_and, testBit_high_mask, Nat.zero_testBit]
    by_cases hi : 16 ≤ i
    · simp [Nat.testBit_lt_two_pow (lt_of_lt_of_le h (Nat.pow_le_pow_right (by omega) hi))]
    · simp [hi]

private theorem land_two_pow_eq_zero_iff {n k : Nat} : n &&& 2 ^ k = 0 ↔ n.testBit k = false := by
  constructor
  · intro h
    simpa [Nat.testBit_two_pow] using congrArg (Nat.testBit · k) h
  · intro h
    apply Nat.eq_of_testBit_eq
    intro i
    by_cases hi : k = i
    · subst hi; simp [h]
    · simp [Nat.testBit_two_pow, hi]

private theorem uint32_eq_zero_iff (i : UInt32) : i = 0 ↔ i.toNat = 0 :=
  ⟨fun h => h ▸ rfl, fun h => UInt32.toNat.inj h⟩

theorem and_not_0xFFFF_eq_zero_iff (i : UInt32) : (i &&& ~~~0xFFFF) = 0 ↔ i.toNat < 2 ^ 16 := by
  have hm : (~~~(0xFFFF : UInt32)).toNat = 2 ^ 16 * (2 ^ 16 - 1) := by decide
  rw [uint32_eq_zero_iff, UInt32.and_toNat, hm, land_high_mask_eq_zero_iff i.toNat_lt_size]

theorem toNat_uint32OfInt {v : Int} (h : 0 ≤ v) (h' : v < 2 ^ 32) :
    (uint32OfInt v).toNat = v.toNat := by
  rw [uint32OfInt, UInt32.toNat_ofNat_of_lt (by unfold UInt32.size; omega)]
  omega

/-- For an `int`, the sign-bit test of `load_u32` is non-negativity. -/
theorem sign_bit_clear_iff {v : Int} (h : isInt v) :
    (uint32OfInt v &&& (1 : UInt32) <<< 31) = 0 ↔ 0 ≤ v := by
  simp only [isInt, Bool.and_eq_true, decide_eq_true_eq] at h
  have hv : (uint32OfInt v).toNat = (v % 2 ^ 32).toNat :=
    UInt32.toNat_ofNat_of_lt (by unfold UInt32.size; omega)
  have hb : ((1 : UInt32) <<< 31).toNat = 2 ^ 31 := by decide
  rw [uint32_eq_zero_iff, UInt32.and_toNat, hb, land_two_pow_eq_zero_iff, hv,
    Nat.testBit_to_div_mod]
  simp
  omega

/-! ## The readers on an object -/

/-- The member `name`, when it is an `int` in `[0, 2^31)`. -/
def u32Member (members : List (String × Value)) (name : String) : Option UInt32 :=
  match members.lookup name with
  | some (.int v) => if 0 ≤ v ∧ v < 2 ^ 31 then some (UInt32.ofNat v.toNat) else none
  | _ => none

/-- The member `name`, when it is an `int` in `[0, 2^16)`. -/
def u16Member (members : List (String × Value)) (name : String) : Option UInt16 :=
  match members.lookup name with
  | some (.int v) => if 0 ≤ v ∧ v < 2 ^ 16 then some (UInt16.ofNat v.toNat) else none
  | _ => none

def strMember (members : List (String × Value)) (name : String) : Option String :=
  match members.lookup name with
  | some (.string s) => some s
  | _ => none

def boolMember (members : List (String × Value)) (name : String) : Option Bool :=
  match members.lookup name with
  | some (.bool b) => some b
  | _ => none

@[simp] theorem loadStr_object (members : List (String × Value)) (name : String) :
    loadStr (.object members) name = .ok (strMember members name) := by
  simp only [loadStr, Value.findMember, strMember]
  rcases members.lookup name with _ | (_ | _ | _ | _ | _ | _ | _) <;> rfl

@[simp] theorem loadBool_object (members : List (String × Value)) (name : String) :
    loadBool (.object members) name = .ok (boolMember members name) := by
  simp only [loadBool, Value.findMember, boolMember]
  rcases members.lookup name with _ | (_ | _ | _ | _ | _ | _ | _) <;> rfl

theorem uint32OfInt_eq {v : Int} (h : 0 ≤ v) (h' : v < 2 ^ 32) :
    uint32OfInt v = UInt32.ofNat v.toNat := by
  simp only [uint32OfInt]
  congr 2
  omega

/-- The `int` branch of `load_u32`. -/
private theorem loadU32_int (v : Int) :
    (if isInt v ∧ (uint32OfInt v &&& (1 : UInt32) <<< 31) = 0 then some (uint32OfInt v)
      else none) =
    if 0 ≤ v ∧ v < 2 ^ 31 then some (UInt32.ofNat v.toNat) else none := by
  by_cases hi : isInt v
  · have hb := hi
    simp only [isInt, Bool.and_eq_true, decide_eq_true_eq] at hb
    by_cases h0 : 0 ≤ v
    · rw [if_pos ⟨hi, (sign_bit_clear_iff hi).mpr h0⟩, if_pos ⟨h0, by omega⟩,
        uint32OfInt_eq h0 (by omega)]
    · rw [if_neg (fun h => h0 ((sign_bit_clear_iff hi).mp h.2)), if_neg (by omega)]
  · rw [if_neg (fun h => hi h.1), if_neg]
    intro h
    apply hi
    simp only [isInt, Bool.and_eq_true, decide_eq_true_eq]
    omega

@[simp] theorem loadU32_object (members : List (String × Value)) (name : String) :
    loadU32 (.object members) name = .ok (u32Member members name) := by
  simp only [loadU32, Value.findMember, u32Member]
  rcases members.lookup name with _ | (_ | _ | v | _ | _ | _ | _) <;> try rfl
  exact congrArg Except.ok (loadU32_int v)

/-- The `load_u32` value branch of `load_u16`. -/
private theorem loadU16_u32 (v : Int) :
    (match (if 0 ≤ v ∧ v < 2 ^ 31 then some (UInt32.ofNat v.toNat) else none) with
      | some i =>
        (pure (if (i &&& ~~~0xFFFF) = 0 then some i.toUInt16 else none) :
          Except Failure (Option UInt16))
      | none => pure none) =
    .ok (if 0 ≤ v ∧ v < 2 ^ 16 then some (UInt16.ofNat v.toNat) else none) := by
  by_cases h31 : 0 ≤ v ∧ v < 2 ^ 31
  · have hn : (UInt32.ofNat v.toNat).toNat = v.toNat :=
      UInt32.toNat_ofNat_of_lt (by unfold UInt32.size; omega)
    rw [if_pos h31]
    show Except.ok _ = _
    simp only [and_not_0xFFFF_eq_zero_iff, hn]
    by_cases h16 : 0 ≤ v ∧ v < 2 ^ 16
    · rw [if_pos (by omega), if_pos h16]
      simp [UInt32.toUInt16, Nat.toUInt16, hn]
    · rw [if_neg (by omega), if_neg h16]
  · rw [if_neg h31, if_neg (by omega)]
    rfl

@[simp] theorem loadU16_object (members : List (String × Value)) (name : String) :
    loadU16 (.object members) name = .ok (u16Member members name) := by
  simp only [loadU16, loadU32_object, u32Member, u16Member]
  rcases members.lookup name with _ | (_ | _ | v | _ | _ | _ | _) <;> try rfl
  exact loadU16_u32 v

end Kagome.Application
