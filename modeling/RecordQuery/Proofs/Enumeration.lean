import RecordQuery.DataType.Registry
import RecordQuery.Proofs.Number.Integer
import RecordQuery.Proofs.Text.Casing

/-!
# Members of the registered enumerations

The names of a registered enumeration are words of small letters, and no two of them
are the same.  So every member is found under its name, and no name is taken for an
id.
-/

namespace RecordQuery
namespace Enumeration

open Number

theorem mem_all_of_mem_baseTypes {t : BaseType} {e : Enumeration} (ht : t ∈ baseTypes)
    (hkind : t.kind = .enumeration e) :
    e ∈ all := by
  have hknown : baseTypes.all (fun t =>
      match t.kind with
      | .enumeration e => decide (e ∈ all)
      | _ => true) = true := by
    decide
  have hmem := List.all_eq_true.mp hknown t ht
  rw [hkind] at hmem
  exact of_decide_eq_true hmem

/-!
# Names
-/

theorem isLetter_of_mem_name : forall e, e ∈ all -> forall m, m ∈ e.members ->
    forall c, c ∈ m.name.toList -> 97 ≤ c.toNat ∧ c.toNat ≤ 122 := by
  have hletters : forall e, e ∈ all -> forall m, m ∈ e.members ->
      (m.name.toList.all fun c => decide (97 ≤ c.toNat ∧ c.toNat ≤ 122)) = true := by
    decide
  intro e he m hm c hc
  exact of_decide_eq_true (List.all_eq_true.mp (hletters e he m hm) c hc)

theorem name_ne_empty : forall e, e ∈ all -> forall m, m ∈ e.members -> m.name ≠ "" := by
  decide

theorem find?_name : forall e, e ∈ all -> forall m, m ∈ e.members ->
    e.members.find? (fun n => n.name == m.name) = some m := by
  decide

variable {e : Enumeration} {m : EnumMember}

theorem isBlank_of_mem_name (he : e ∈ all) (hm : m ∈ e.members) {c : Char}
    (hc : c ∈ m.name.toList) :
    Text.isBlank c = false := by
  have hletter := isLetter_of_mem_name e he m hm c hc
  simp [Text.isBlank]
  omega

theorem lower_name (he : e ∈ all) (hm : m ∈ e.members) : Text.lower m.name = m.name := by
  apply Text.lower_eq_self
  intro c hc
  have hletter := isLetter_of_mem_name e he m hm c hc
  exact ⟨by omega, .inr (by omega)⟩

theorem trim_name (he : e ∈ all) (hm : m ∈ e.members) :
    Text.trim m.name.toList = m.name.toList := by
  apply Text.trim_eq_self
  · intro c hc
    exact isBlank_of_mem_name he hm (List.mem_of_head? hc)
  · intro c hc
    exact isBlank_of_mem_name he hm (List.mem_of_getLast? hc)

theorem blank_name (he : e ∈ all) (hm : m ∈ e.members) : Text.blank m.name = false := by
  rw [Text.blank_eq_false_iff]
  rcases List.exists_mem_of_ne_nil m.name.toList (by simpa using name_ne_empty e he m hm)
    with ⟨c, hc⟩
  exact ⟨c, hc, isBlank_of_mem_name he hm hc⟩

theorem byName?_name (he : e ∈ all) (hm : m ∈ e.members) : e.byName? m.name = some m := by
  have hstrip : Text.strip m.name = m.name := by
    rw [Text.strip, trim_name he hm, String.ofList_toList]
  -- both sides of the comparison are in lower case already
  have hsame : forall n, n ∈ e.members ->
      (Text.lower n.name == Text.lower (Text.strip m.name)) = (n.name == m.name) := by
    intro n hn
    rw [hstrip, lower_name he hn, lower_name he hm]
  rcases List.find?_eq_some_iff_append.mp (find?_name e he m hm) with
    ⟨hfound, before, after, hsplit, hbefore⟩
  rw [byName?, List.find?_eq_some_iff_append]
  refine ⟨by rw [hsame m hm]; exact hfound, before, after, hsplit, ?_⟩
  intro n hn
  rw [hsame n (by rw [hsplit]; exact List.mem_append_left _ hn)]
  exact hbefore n hn

theorem readTrimmedInt64_name (he : e ∈ all) (hm : m ∈ e.members) :
    readTrimmedInt64 m.name = none := by
  cases hname : m.name.toList with
  | nil =>
      exact absurd (String.toList_eq_nil_iff.mp hname) (name_ne_empty e he m hm)
  | cons c rest =>
      have hletter := isLetter_of_mem_name e he m hm c (by rw [hname]; exact List.mem_cons_self)
      have hnotDigit : isDigit c = false := by
        simp only [isDigit, Bool.and_eq_false_iff, decide_eq_false_iff_not, Char.le_def,
          UInt32.le_iff_toNat_le]
        right
        show ¬ c.toNat ≤ 57
        omega
      have hnotNumber : readInt (c :: rest) = none := by
        apply readInt_cons_eq_none rest _ _ hnotDigit
        · rintro rfl
          exact absurd hletter (by decide)
        · rintro rfl
          exact absurd hletter (by decide)
      rw [readTrimmedInt64, trim_name he hm, hname, readInt64, hnotNumber]
      rfl

end Enumeration
end RecordQuery
