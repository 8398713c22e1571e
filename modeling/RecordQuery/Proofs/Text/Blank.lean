import Mathlib.Data.List.TakeWhile
import RecordQuery.Text.Basic

/-!
# Texts without blanks at their ends

Trimming leaves a text alone whose first and last characters are not blank.
-/

namespace RecordQuery
namespace Text

theorem trimStart_cons {c : Char} (cs : List Char) (h : isBlank c = false) :
    trimStart (c :: cs) = c :: cs := by
  simp [trimStart, h]

theorem trimStart_of_blank {s : String} (h : blank s = true) : trimStart s.toList = [] := by
  rw [trimStart, List.dropWhile_eq_nil_iff]
  exact List.all_eq_true.mp h

theorem mem_trim {c : Char} {cs : List Char} (hc : isBlank c = false) (h : c ∈ cs) :
    c ∈ trim cs := by
  have hdrop : forall {ds : List Char}, c ∈ ds -> c ∈ ds.dropWhile isBlank := by
    intro ds hds
    rw [← List.takeWhile_append_dropWhile (p := isBlank) (l := ds)] at hds
    rcases List.mem_append.mp hds with hblank | hrest
    · rw [List.mem_takeWhile_imp hblank] at hc
      cases hc
    · exact hrest
  rw [trim, trimEnd, List.mem_reverse]
  exact hdrop (List.mem_reverse.mpr (hdrop h))

theorem trimEnd_append_singleton {c : Char} (cs : List Char) (h : isBlank c = false) :
    trimEnd (cs ++ [c]) = cs ++ [c] := by
  simp [trimEnd, h]

theorem trim_eq_self {cs : List Char} (hfirst : forall c, cs.head? = some c -> isBlank c = false)
    (hlast : forall c, cs.getLast? = some c -> isBlank c = false) :
    trim cs = cs := by
  cases hcs : cs with
  | nil =>
      rfl
  | cons c rest =>
      have hne : c :: rest ≠ [] := by
        simp
      rw [hcs] at hfirst hlast
      rw [trim, trimStart_cons rest (hfirst c rfl)]
      rw [← List.dropLast_concat_getLast hne]
      exact trimEnd_append_singleton _ (hlast _ (List.getLast?_eq_some_getLast hne))

theorem mem_of_mem_trim {c : Char} {cs : List Char} (h : c ∈ trim cs) : c ∈ cs := by
  rw [trim, trimEnd, List.mem_reverse] at h
  have hstart : c ∈ (trimStart cs).reverse := (List.dropWhile_sublist isBlank).mem h
  exact (List.dropWhile_sublist isBlank).mem (List.mem_reverse.mp hstart)

theorem isBlank_of_head?_dropWhile {c : Char} {cs : List Char}
    (h : (cs.dropWhile isBlank).head? = some c) :
    isBlank c = false := by
  have hhead := List.head?_dropWhile_not isBlank cs
  rw [h] at hhead
  exact hhead

theorem trim_trim (cs : List Char) : trim (trim cs) = trim cs := by
  apply trim_eq_self
  · intro c hc
    -- what is left at the front stood at the front before the end was trimmed
    have hprefix : trim cs <+: trimStart cs := by
      rw [trim, trimEnd, ← List.reverse_suffix, List.reverse_reverse]
      exact List.dropWhile_suffix isBlank
    rcases hprefix with ⟨rest, hrest⟩
    have hhead : (cs.dropWhile isBlank).head? = some c := by
      rw [← trimStart, ← hrest, List.head?_append, hc, Option.some_or]
    exact isBlank_of_head?_dropWhile hhead
  · intro c hc
    rw [trim, trimEnd, List.getLast?_reverse] at hc
    exact isBlank_of_head?_dropWhile hc

/-!
# Texts that are not blank
-/

def Visible (cs : List Char) : Prop :=
  exists c, c ∈ cs ∧ isBlank c = false

theorem blank_eq_false_iff {s : String} : blank s = false ↔ Visible s.toList := by
  simp [blank, Visible]

theorem visible_cons {c : Char} (cs : List Char) (hc : isBlank c = false) : Visible (c :: cs) :=
  ⟨c, List.mem_cons_self, hc⟩

theorem Visible.append_left {cs : List Char} (h : Visible cs) (before : List Char) :
    Visible (before ++ cs) := by
  rcases h with ⟨c, hmem, hc⟩
  exact ⟨c, List.mem_append_right before hmem, hc⟩

theorem Visible.append_right {cs : List Char} (h : Visible cs) (after : List Char) :
    Visible (cs ++ after) := by
  rcases h with ⟨c, hmem, hc⟩
  exact ⟨c, List.mem_append_left after hmem, hc⟩

end Text
end RecordQuery
