import RecordQuery.Proofs.Text.Blank
import RecordQuery.Uuid

/-!
# Written identifiers are read back

The 32 digits of an identifier have the value of its bits, so the plain form is read as
the identifier again.
-/

namespace RecordQuery
namespace Uuid

open Number

/-!
# Hexadecimal digits
-/

theorem hexValue?_digitChar {d : Nat} (h : d < 16) : hexValue? (Nat.digitChar d) = some d := by
  decide +revert

@[simp]
theorem length_hexDigits (count n : Nat) : (hexDigits count n).length = count := by
  induction count generalizing n with
  | zero =>
      rfl
  | succ count ih =>
      rw [hexDigits, List.length_append, ih]
      rfl

theorem exists_of_mem_hexDigits {count n : Nat} {c : Char} (h : c ∈ hexDigits count n) :
    exists d, d < 16 ∧ c = Nat.digitChar d := by
  induction count generalizing n with
  | zero =>
      cases h
  | succ count ih =>
      rcases List.mem_append.mp h with h | h
      · exact ih h
      · exact ⟨n % 16, Nat.mod_lt _ (by decide), List.mem_singleton.mp h⟩

theorem readHex_append (n : Nat) (ds : List Char) (c : Char) :
    readHex n (ds ++ [c]) =
      (readHex n ds).bind fun m => (hexValue? c).map fun d => 16 * m + d := by
  induction ds generalizing n with
  | nil =>
      cases hc : hexValue? c <;>
        simp [readHex, hc]
  | cons e ds ih =>
      cases he : hexValue? e with
      | none =>
          simp [readHex, he]
      | some d =>
          simp [readHex, he, ih]

theorem readHex_hexDigits (count n : Nat) :
    readHex 0 (hexDigits count n) = some (n % Nat.pow 16 count) := by
  induction count generalizing n with
  | zero =>
      have hnone : n % Nat.pow 16 0 = 0 := Nat.mod_one n
      rw [hnone]
      rfl
  | succ count ih =>
      have hlast : hexValue? (Nat.digitChar (n % 16)) = some (n % 16) :=
        hexValue?_digitChar (Nat.mod_lt _ (by decide))
      have hpower : Nat.pow 16 (count + 1) = 16 * Nat.pow 16 count :=
        (Nat.pow_succ 16 count).trans (Nat.mul_comm _ 16)
      rw [hexDigits, readHex_append, ih, hlast, hpower, Nat.mod_mul]
      simp only [Option.bind_some, Option.map_some]
      congr 1
      omega

/-!
# Plain form
-/

theorem toList_text (u : Uuid) : u.text.toList = hexDigits 32 u.bits.toNat := by
  rw [text, String.toList_ofList, simpleDigits]

theorem isBlank_digitChar {d : Nat} (h : d < 16) : Text.isBlank (Nat.digitChar d) = false := by
  decide +revert

theorem isBlank_of_mem_hexDigits {count n : Nat} {c : Char} (h : c ∈ hexDigits count n) :
    Text.isBlank c = false := by
  rcases exists_of_mem_hexDigits h with ⟨d, hd, rfl⟩
  exact isBlank_digitChar hd

theorem visible_text (u : Uuid) : Text.Visible u.text.toList := by
  rw [toList_text, hexDigits]
  exact (Text.visible_cons [] (isBlank_digitChar (Nat.mod_lt _ (by decide)))).append_left _

theorem readSimple_simpleDigits (u : Uuid) : readSimple u.simpleDigits = some u := by
  have hbits : u.bits.toNat % Nat.pow 16 32 = u.bits.toNat := Nat.mod_eq_of_lt u.bits.isLt
  rw [readSimple, simpleDigits, length_hexDigits, readHex_hexDigits, hbits]
  simp

theorem trim_text (u : Uuid) : Text.trim u.text.toList = u.text.toList := by
  rw [toList_text]
  apply Text.trim_eq_self
  · intro c hc
    exact isBlank_of_mem_hexDigits (List.mem_of_head? hc)
  · intro c hc
    exact isBlank_of_mem_hexDigits (List.mem_of_getLast? hc)

theorem read_trim_text (u : Uuid) : read (Text.trim u.text.toList) = some u := by
  have hlength : (u.text.toList.length == 32) = true := by
    rw [toList_text, length_hexDigits]
    rfl
  rw [trim_text, read, hlength, if_pos rfl, text, String.toList_ofList]
  exact readSimple_simpleDigits u

end Uuid
end RecordQuery
