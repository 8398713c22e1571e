import RecordQuery.Number.Binary64

/-!
# Doubles from their bits

The bits of a normal double are its sign, its exponent field and the fraction below its hidden
bit, and packing these parts gives the bits back.  So a normal double is finite, and it is the
number that its parts say.  With this an integer between the signed and the unsigned 64-bit
integers is seen to be rounded to a multiple of 2048.
-/

namespace RecordQuery
namespace Number

open Float.Model (Format UnpackedFloat)
open Float.Model.UnpackedFloat (Sign unpackSign unpackExponent unpackMantissa packComponents)

/-!
# Fields
-/

section Fields

variable {bits : BitVec Format.binary64.numBits}

theorem toNat_append {m n : Nat} (high : BitVec m) (low : BitVec n) :
    (high ++ low).toNat = high.toNat * powerOfTwo n + low.toNat := by
  rw [BitVec.toNat_append, ← Nat.shiftLeft_add_eq_or_of_lt low.isLt, Nat.shiftLeft_eq]
  rfl

theorem toNat_unpackSign (bits : BitVec Format.binary64.numBits) :
    (unpackSign bits).toNat = bits.toNat / signBit := by
  have hlt : bits.toNat < 18446744073709551616 := bits.isLt
  have hfield : (unpackSign bits).toNat = (BitVec.extractLsb 63 63 bits).toNat := rfl
  rw [hfield, BitVec.extractLsb_toNat, Nat.shiftRight_eq_div_pow]
  simp only [signBit]
  omega

theorem toNat_unpackExponent (bits : BitVec Format.binary64.numBits) :
    (unpackExponent bits).toNat = bits.toNat / hiddenBit % 2048 := by
  have hfield : (unpackExponent bits).toNat = (BitVec.extractLsb 62 52 bits).toNat := rfl
  rw [hfield, BitVec.extractLsb_toNat, Nat.shiftRight_eq_div_pow]
  rfl

theorem toNat_unpackMantissa (bits : BitVec Format.binary64.numBits) :
    (unpackMantissa bits).toNat = bits.toNat % hiddenBit := by
  have hfield : (unpackMantissa bits).toNat = (BitVec.extractLsb 51 0 bits).toNat := rfl
  rw [hfield, BitVec.extractLsb_toNat, Nat.shiftRight_zero]
  rfl

theorem toBitVec_ofBitVec (b : BitVec 1) : (Sign.ofBitVec b).toBitVec = b := by
  revert b
  decide

theorem toNat_packComponents (sign : Sign) (exponent : BitVec 11) (mantissa : BitVec 52) :
    (packComponents Format.binary64 sign exponent mantissa).toNat =
      sign.toBitVec.toNat * signBit + exponent.toNat * hiddenBit + mantissa.toNat := by
  have hexponent : powerOfTwo 11 = 2048 := rfl
  have hmantissa : powerOfTwo 52 = hiddenBit := rfl
  have happend : (sign.toBitVec ++ exponent ++ mantissa).toNat =
      sign.toBitVec.toNat * signBit + exponent.toNat * hiddenBit + mantissa.toNat := by
    rw [toNat_append, toNat_append, hexponent, hmantissa]
    simp only [signBit, hiddenBit]
    omega
  exact happend

theorem log2_hiddenBit_add {m : Nat} (h : m < hiddenBit) : (hiddenBit + m).log2 = 52 := by
  rw [Nat.log2_eq_iff] <;>
    simp only [hiddenBit] at * <;>
      omega

/-!
# Packing
-/

theorem pack_normal {sign : Sign} {exponent : BitVec 11} {mantissa : BitVec 52} {m : Nat}
    {e : Int} (hpos : 0 < m) (hm : m = hiddenBit + mantissa.toNat)
    (he : e = (exponent.toNat : Int) - 1075) (hgreatest : exponent.toNat < 2047) :
    UnpackedFloat.pack Format.binary64 (.finite sign m e hpos) =
      packComponents Format.binary64 sign exponent mantissa := by
  have hfield : (e + (1023 : Nat) + (52 : Nat)).toNat = exponent.toNat := by
    omega
  have hlog : m.log2 = 52 := by
    rw [hm]
    exact log2_hiddenBit_add mantissa.isLt
  have hfraction : BitVec.ofNat 52 m = mantissa := by
    apply BitVec.eq_of_toNat_eq
    have hlt := mantissa.isLt
    rw [hm, BitVec.toNat_ofNat]
    simp only [hiddenBit]
    omega
  -- Subnormal and infinite results are the branches that are not taken.
  change (if 2048 ≤ (e + (1023 : Nat) + (52 : Nat)).toNat + 1 then _
    else if m.log2 + 1 = 53 then
      packComponents Format.binary64 sign
        (BitVec.ofNat 11 (e + (1023 : Nat) + (52 : Nat)).toNat) (BitVec.ofNat 52 m)
    else _) = _
  rw [hfield, hlog, hfraction, if_neg (by omega), if_pos rfl, BitVec.ofNat_toNat,
    BitVec.setWidth_eq]

theorem unpack_normal (hleast : (unpackExponent bits).toNat ≠ 0)
    (hgreatest : (unpackExponent bits).toNat ≠ 2047) :
    exists hpos, UnpackedFloat.unpack Format.binary64 bits =
      .finite (Sign.ofBitVec (unpackSign bits)) (hiddenBit + (unpackMantissa bits).toNat)
        ((unpackExponent bits).toNat - 1075) hpos := by
  have hmantissa :
      (1#1 ++ unpackMantissa bits).toNat = hiddenBit + (unpackMantissa bits).toNat := by
    rw [toNat_append]
    rfl
  have hpos : 0 < hiddenBit + (unpackMantissa bits).toNat :=
    Nat.lt_of_lt_of_le (by decide) (Nat.le_add_right _ _)
  refine ⟨hpos, ?_⟩
  change (if unpackExponent bits = -1#11 then _
    else if unpackExponent bits = 0#11 then _ else _) = _
  rw [if_neg, if_neg]
  · rw [UnpackedFloat.finite.injEq]
    exact ⟨rfl, hmantissa, rfl⟩
  · intro heq
    exact hleast (congrArg BitVec.toNat heq)
  · intro heq
    exact hgreatest (congrArg BitVec.toNat heq)

theorem pack_unpack (hleast : (unpackExponent bits).toNat ≠ 0)
    (hgreatest : (unpackExponent bits).toNat ≠ 2047) :
    UnpackedFloat.pack Format.binary64 (UnpackedFloat.unpack Format.binary64 bits) = bits := by
  have hlt : (unpackExponent bits).toNat < 2048 := (unpackExponent bits).isLt
  rcases unpack_normal hleast hgreatest with ⟨hpos, hunpack⟩
  rw [hunpack, pack_normal hpos rfl rfl (by omega)]
  apply BitVec.eq_of_toNat_eq
  rw [toNat_packComponents, toBitVec_ofBitVec, toNat_unpackSign, toNat_unpackExponent,
    toNat_unpackMantissa]
  simp only [signBit, hiddenBit]
  omega

end Fields

/-!
# Normal doubles
-/

/-- The bits of a double that is neither zero, subnormal, infinite nor no number. -/
structure IsNormal (bits : UInt64) : Prop where
  least : bits.toNat / hiddenBit % 2048 ≠ 0
  greatest : bits.toNat / hiddenBit % 2048 ≠ 2047

namespace IsNormal

variable {bits : UInt64}

theorem exponent_ne (h : IsNormal bits) :
    (@unpackExponent Format.binary64 bits.toBitVec).toNat ≠ 0 ∧
      (@unpackExponent Format.binary64 bits.toBitVec).toNat ≠ 2047 := by
  rw [toNat_unpackExponent]
  exact ⟨h.least, h.greatest⟩

theorem toBits_ofBits (h : IsNormal bits) : (Float.ofBits bits).toBits = bits :=
  UInt64.toBitVec_inj.mp (pack_unpack h.exponent_ne.left h.exponent_ne.right)

theorem isFinite_ofBits (h : IsNormal bits) : (Float.ofBits bits).isFinite = true := by
  rcases h.exponent_ne with ⟨hleast, hgreatest⟩
  have hunpack : (Float.ofBits bits).isFinite =
      (UnpackedFloat.unpack Format.binary64 (UnpackedFloat.pack Format.binary64
        (UnpackedFloat.unpack Format.binary64 bits.toBitVec))).isFinite :=
    rfl
  rcases unpack_normal hleast hgreatest with ⟨_, hnormal⟩
  rw [hunpack, pack_unpack hleast hgreatest, hnormal]
  rfl

theorem ofFloat_ofBits (h : IsNormal bits) :
    Binary64.ofFloat (Float.ofBits bits) =
      .finite (bits.toNat / signBit == 1) (hiddenBit + bits.toNat % hiddenBit)
        ((bits.toNat / hiddenBit % 2048 : Nat) - 1075) := by
  rw [Binary64.ofFloat, h.toBits_ofBits]
  simp only [beq_iff_eq, h.least, h.greatest, if_false]

end IsNormal

/-!
# Integers beyond the signed 64-bit integers
-/

theorem roundHalfEven_near (num : Nat) {den : Nat} (hden : 0 < den) :
    2 * (roundHalfEven num den * den) ≤ 2 * num + den ∧
      2 * num ≤ 2 * (roundHalfEven num den * den) + den := by
  have hnum := Nat.div_add_mod num den
  have hmod := Nat.mod_lt num hden
  rw [Nat.mul_comm] at hnum
  simp only [roundHalfEven]
  split
  · omega
  · split
    · rw [Nat.add_mul]
      omega
    · rcases Nat.mod_two_eq_zero_or_one (num / den) with heven | hodd
      · rw [heven, Nat.add_zero]
        omega
      · rw [hodd, Nat.add_mul]
        omega

/-- The double that is `q` times 2048.  A `q` of 54 bits carries into the exponent field. -/
theorem wholeNumber?_ofBits {bits : UInt64} {q : Nat} (hlower : hiddenBit ≤ q)
    (hupper : q ≤ 2 * hiddenBit) (hbits : bits.toNat = 1085 * hiddenBit + q) :
    IsNormal bits ∧ wholeNumber? (Float.ofBits bits) = some (q * 2048) := by
  have hnormal : IsNormal bits := by
    constructor <;>
      simp only [hbits, hiddenBit] at * <;>
        omega
  have hpositive : bits.toNat / signBit = 0 := by
    simp only [hbits, signBit, hiddenBit] at *
    omega
  refine ⟨hnormal, ?_⟩
  rw [wholeNumber?, hnormal.ofFloat_ofBits, hpositive]
  rcases Nat.lt_or_eq_of_le hupper with hshort | hlong
  · have hfraction : hiddenBit + bits.toNat % hiddenBit = q := by
      simp only [hbits, hiddenBit] at *
      omega
    have hfield : bits.toNat / hiddenBit % 2048 = 1086 := by
      simp only [hbits, hiddenBit] at *
      omega
    have hscale : powerOfTwo 0 = 1 := rfl
    have hunit : powerOfTwo 11 = 2048 := rfl
    rw [hfraction, hfield]
    simp [hscale, hunit, Nat.mod_one]
  · have hbits : bits.toNat = 1087 * hiddenBit := by
      omega
    rw [hbits, hlong]
    rfl

section Wide

variable {n : Nat} (hlower : 9223372036854775808 ≤ n) (hupper : n < 18446744073709551616)

include hlower hupper

theorem roundHalfEven_wide :
    hiddenBit ≤ roundHalfEven n 2048 ∧ roundHalfEven n 2048 ≤ 2 * hiddenBit := by
  have hnear := roundHalfEven_near n (by decide : 0 < 2048)
  simp only [hiddenBit]
  omega

theorem nearestBits_wide : nearestBits n 1 = 1085 * hiddenBit + roundHalfEven n 2048 := by
  have hbounds := roundHalfEven_wide hlower hupper
  have hnonzero : n ≠ 0 := by
    omega
  have hlog : n.log2 = 63 := by
    rw [Nat.log2_eq_iff] <;>
      omega
  have hone : (1 : Nat).log2 = 0 := by
    decide
  have htight : ¬ n < hiddenBit * 2048 := by
    simp only [hiddenBit]
    omega
  have hexponent : max (11 : Int) (-1074) = 11 := by
    decide
  have hscale : powerOfTwo 0 = 1 := rfl
  have hunit : powerOfTwo 11 = 2048 := rfl
  have hfinite : 1085 * hiddenBit + roundHalfEven n 2048 ≤ infiniteBits := by
    simp only [hiddenBit, infiniteBits] at *
    omega
  simp only [nearestBits, beq_iff_eq, hnonzero, if_false, hlog, hone, Int.reduceToNat, Int.reduceSub,
    Int.reduceNeg, Int.reduceAdd, Int.cast_ofNat_Int, Int.sub_zero, hscale, hunit, Nat.mul_one,
    Nat.one_mul, htight, hexponent]
  exact Nat.min_eq_left hfinite

theorem exists_bits_wide :
    exists bits : UInt64, intToFloat n = Float.ofBits bits ∧
      bits.toNat = 1085 * hiddenBit + roundHalfEven n 2048 := by
  have hbounds := roundHalfEven_wide hlower hupper
  have hpositive : decide ((n : Int) < 0) = false := by
    simp
  refine ⟨UInt64.ofNat (1085 * hiddenBit + roundHalfEven n 2048), ?_, ?_⟩
  · rw [intToFloat, ratioToFloat, signedFloat, hpositive, Int.natAbs_natCast,
      nearestBits_wide hlower hupper, if_neg Bool.false_ne_true]
  · rw [UInt64.toNat_ofNat_of_lt']
    simp only [hiddenBit, UInt64.size] at *
    omega

end Wide

/-- An integer beyond the signed 64-bit integers is rounded to a multiple of 2048, so that it
moves by 1024 at most. -/
theorem intToFloat_wide {i : Int} (hlower : 9223372036854775808 ≤ i)
    (hupper : i < 18446744073709551616) :
    (intToFloat i).isFinite = true ∧
      exists k : Int, wholeNumber? (intToFloat i) = some k ∧ 2048 ∣ k ∧
        k ≤ i + 1024 ∧ i ≤ k + 1024 := by
  rcases Int.eq_ofNat_of_zero_le (by omega : 0 ≤ i) with ⟨n, rfl⟩
  have hlower : 9223372036854775808 ≤ n := by
    omega
  have hupper : n < 18446744073709551616 := by
    omega
  have hbounds := roundHalfEven_wide hlower hupper
  have hnear := roundHalfEven_near n (by decide : 0 < 2048)
  rcases exists_bits_wide hlower hupper with ⟨bits, heq, hbits⟩
  rcases wholeNumber?_ofBits hbounds.left hbounds.right hbits with ⟨hnormal, hwhole⟩
  rw [heq]
  refine ⟨hnormal.isFinite_ofBits, _, hwhole, ?_, ?_, ?_⟩ <;>
    omega

end Number
end RecordQuery
