import Mathlib
import Synesthesia.Foundation.Exceptions

namespace Synesthesia
namespace Foundation

/-!
# Integers as bytes, and rounding

Big-endian integers of a fixed width, base-128 variable-length quantities with
a continuation bit, and rounding to the nearest integer with ties to even.
Each reader is stated with the bytes that follow it, so that readers compose.
-/

abbrev Bytes := List UInt8

/-! ## Numbers of channels and notes -/

instance sixteenChannels : NeZero 16 := ⟨by decide⟩

instance notes128 : NeZero 128 := ⟨by decide⟩

/-! ## Fixed-width big-endian integers -/

/-- The low `width` bytes of a number, the most significant first. -/
def bigEndian : Nat → Nat → Bytes
  | 0, _ => []
  | width + 1, value => bigEndian width (value / 256) ++ [UInt8.ofNat value]

/-- The number that big-endian bytes spell. -/
def bigEndianValue (bytes : Bytes) : Nat :=
  bytes.foldl (fun total byte => total * 256 + byte.toNat) 0

/-- `int.to_bytes(width, "big")` refuses a value that does not fit. -/
def toBytesBig (width value : Nat) : Except PyError Bytes :=
  if value < 256 ^ width then .ok (bigEndian width value)
  else .error (.overflowError "int too big to convert")

theorem toBytesBig_of_lt {width value : Nat} (fits : value < 256 ^ width) :
    toBytesBig width value = .ok (bigEndian width value) := if_pos fits

theorem toBytesBig_of_not_lt {width value : Nat} (tooBig : ¬ value < 256 ^ width) :
    toBytesBig width value = .error (.overflowError "int too big to convert") := if_neg tooBig

@[simp] theorem bigEndian_length (width value : Nat) : (bigEndian width value).length = width := by
  induction width generalizing value with
  | zero => rfl
  | succ width ih => simp [bigEndian, ih]

theorem bigEndianValue_append (bytes : Bytes) (byte : UInt8) :
    bigEndianValue (bytes ++ [byte]) = bigEndianValue bytes * 256 + byte.toNat := by
  simp [bigEndianValue, List.foldl_append]

/-- Big-endian bytes read back as the number whenever it fits the width. -/
theorem bigEndianValue_bigEndian (width value : Nat) (fits : value < 256 ^ width) :
    bigEndianValue (bigEndian width value) = value := by
  induction width generalizing value with
  | zero =>
      have zero : value = 0 := by simpa using fits
      simp [zero, bigEndian, bigEndianValue]
  | succ width ih =>
      have high : value / 256 < 256 ^ width := by
        rw [Nat.div_lt_iff_lt_mul (by decide), ← Nat.pow_succ]
        exact fits
      have low : (UInt8.ofNat value).toNat = value % 256 := by simp
      rw [bigEndian, bigEndianValue_append, ih _ high, low]
      exact Nat.div_add_mod' value 256

/-- Split off exactly `count` bytes when there are that many. -/
def takeBytes (count : Nat) (bytes : Bytes) : Option (Bytes × Bytes) :=
  if count ≤ bytes.length then some (bytes.take count, bytes.drop count) else none

theorem takeBytes_append {front rest : Bytes} {count : Nat} (width : front.length = count) :
    takeBytes count (front ++ rest) = some (front, rest) := by
  subst width
  simp [takeBytes]

/-! ## Variable-length quantities -/

/-- Read a variable-length quantity of at most `limit` bytes: seven bits a
byte, the most significant first, every byte but the last with the top bit. -/
def readVariableLength : Nat → Nat → Bytes → Option (Nat × Bytes)
  | 0, _, _ => none
  | _ + 1, _, [] => none
  | limit + 1, total, byte :: rest =>
      if byte.toNat < 128 then some (total * 128 + byte.toNat, rest)
      else readVariableLength limit (total * 128 + (byte.toNat - 128)) rest

/-- The continued bytes of the digits above the last one. -/
def continued (value : Nat) : Bytes :=
  if value = 0 then []
  else continued (value / 128) ++ [UInt8.ofNat (128 + value % 128)]
termination_by value
decreasing_by omega

theorem continued_zero : continued 0 = [] := by rw [continued, if_pos rfl]

theorem continued_of_pos {value : Nat} (positive : value ≠ 0) :
    continued value = continued (value / 128) ++ [UInt8.ofNat (128 + value % 128)] := by
  rw [continued, if_neg positive]

/-- A number with at most `digits` base-128 digits has that many continued bytes. -/
theorem continued_length_le (digits value : Nat) (bound : value < 128 ^ digits) :
    (continued value).length ≤ digits := by
  induction digits generalizing value with
  | zero =>
      have zero : value = 0 := by simpa using bound
      simp [zero, continued_zero]
  | succ digits ih =>
      by_cases zero : value = 0
      · simp [zero, continued_zero]
      · have smaller : value / 128 < 128 ^ digits := by
          rw [Nat.div_lt_iff_lt_mul (by decide), ← Nat.pow_succ]
          exact bound
        rw [continued_of_pos zero, List.length_append, List.length_singleton]
        exact Nat.succ_le_succ (ih _ smaller)

/-- Reading continued bytes only accumulates the number they spell. -/
theorem readVariableLength_continued (value limit : Nat) (rest : Bytes) :
    readVariableLength (limit + (continued value).length) 0 (continued value ++ rest) =
      readVariableLength limit value rest := by
  induction value using Nat.strongRecOn generalizing limit rest with
  | ind value ih =>
      by_cases zero : value = 0
      · simp [zero, continued_zero]
      · have smaller : value / 128 < value := Nat.div_lt_self (Nat.pos_of_ne_zero zero) (by decide)
        have byte : (UInt8.ofNat (128 + value % 128)).toNat = 128 + value % 128 := by
          rw [UInt8.toNat_ofNat']
          omega
        have regrouped : value / 128 * 128 + (128 + value % 128 - 128) = value := by omega
        rw [continued_of_pos zero, List.length_append, List.length_singleton, List.append_assoc,
          List.singleton_append,
          show limit + ((continued (value / 128)).length + 1) =
            (limit + 1) + (continued (value / 128)).length by omega,
          ih _ smaller (limit + 1), readVariableLength, byte,
          if_neg (by omega), regrouped]

/-- The variable-length quantity of a number: continued digits, then the last one. -/
def variableLengthBytes (value : Nat) : Bytes :=
  continued (value / 128) ++ [UInt8.ofNat (value % 128)]

/-- A number of at most four digits reads back, whatever follows it. -/
theorem readVariableLength_variableLengthBytes {value : Nat} (fits : value < 2 ^ 28)
    (rest : Bytes) :
    readVariableLength 4 0 (variableLengthBytes value ++ rest) = some (value, rest) := by
  have few : (continued (value / 128)).length ≤ 3 := by
    refine continued_length_le 3 (value / 128) ?_
    rw [Nat.div_lt_iff_lt_mul (by decide)]
    exact fits.trans_eq (by decide)
  rcases Nat.exists_eq_add_of_le few with ⟨spare, enough⟩
  have last : (UInt8.ofNat (value % 128)).toNat = value % 128 := by
    rw [UInt8.toNat_ofNat']
    omega
  rw [variableLengthBytes, List.append_assoc, List.singleton_append,
    show 4 = (spare + 1) + (continued (value / 128)).length by omega,
    readVariableLength_continued, readVariableLength, last, if_pos (by omega),
    Nat.div_add_mod']

/-! ## Rounding to the nearest integer, ties to even -/

/-- `round` of the modelled language on an exact number. -/
def roundHalfEven (value : ℚ) : ℤ :=
  let below := ⌊value⌋
  let excess := value - below
  if excess < 1 / 2 then below
  else if 1 / 2 < excess then below + 1
  else if below % 2 = 0 then below else below + 1

theorem roundHalfEven_intCast (value : ℤ) : roundHalfEven value = value := by
  simp [roundHalfEven]

theorem floor_le_roundHalfEven (value : ℚ) : ⌊value⌋ ≤ roundHalfEven value := by
  unfold roundHalfEven
  dsimp only
  split_ifs <;> omega

theorem roundHalfEven_le_floor_succ (value : ℚ) : roundHalfEven value ≤ ⌊value⌋ + 1 := by
  unfold roundHalfEven
  dsimp only
  split_ifs <;> omega

theorem roundHalfEven_mono {smaller larger : ℚ} (ordered : smaller ≤ larger) :
    roundHalfEven smaller ≤ roundHalfEven larger := by
  rcases (Int.floor_le_floor ordered).lt_or_eq with below | same
  · exact ((roundHalfEven_le_floor_succ smaller).trans (Int.add_one_le_of_lt below)).trans
      (floor_le_roundHalfEven larger)
  · unfold roundHalfEven
    dsimp only
    rw [same]
    split_ifs <;> first | omega | (exfalso; linarith)

theorem abs_roundHalfEven_sub_le (value : ℚ) : |(roundHalfEven value : ℚ) - value| ≤ 1 / 2 := by
  have below := Int.floor_le value
  have above := Int.lt_floor_add_one value
  unfold roundHalfEven
  dsimp only
  rw [abs_le]
  split_ifs <;> push_cast <;> constructor <;> linarith

theorem roundHalfEven_nonneg {value : ℚ} (nonnegative : 0 ≤ value) : 0 ≤ roundHalfEven value :=
  (Int.floor_nonneg.mpr nonnegative).trans (floor_le_roundHalfEven value)

theorem roundHalfEven_neg (value : ℚ) : roundHalfEven (-value) = -roundHalfEven value := by
  by_cases whole : (⌊value⌋ : ℚ) = value
  · rw [← whole, ← Int.cast_neg, roundHalfEven_intCast, roundHalfEven_intCast]
  · have below : (⌊value⌋ : ℚ) < value := lt_of_le_of_ne (Int.floor_le value) whole
    have above : value < ⌊value⌋ + 1 := Int.lt_floor_add_one value
    have floor : ⌊-value⌋ = -⌊value⌋ - 1 := by
      rw [Int.floor_eq_iff]
      push_cast
      constructor <;> linarith
    unfold roundHalfEven
    dsimp only
    rw [floor]
    push_cast
    split_ifs <;> first | omega | (exfalso; linarith)

theorem roundHalfEven_le_of_lt {value : ℚ} {bound : ℤ} (below : value < bound + 1 / 2) :
    roundHalfEven value ≤ bound := by
  have floor : ⌊value⌋ ≤ bound := by
    have lower := Int.floor_le value
    have strict : (⌊value⌋ : ℚ) < bound + 1 := by linarith
    exact Int.lt_add_one_iff.mp (by exact_mod_cast strict)
  rcases floor.lt_or_eq with less | equal
  · exact (roundHalfEven_le_floor_succ value).trans less
  · unfold roundHalfEven
    dsimp only
    rw [equal, if_pos (by linarith)]

end Foundation
end Synesthesia
