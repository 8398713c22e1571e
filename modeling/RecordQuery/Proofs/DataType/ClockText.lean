import RecordQuery.Proofs.Calendar.FullWidth
import RecordQuery.Proofs.DataType.Conversion

/-!
# Texts of clock readings and their dates

Values of the local kinds are texts.  A text that already is an instance is taken as it is,
and the check on instances counts bytes and reads loosely, so it lets through signs and
blanks where digits are missing.  Any other value is written anew, in a form that is too
long for an instance when the year has more than four digits.
-/

namespace RecordQuery

open Calendar Number

/-!
# Moments and their texts
-/

def Kind.moment? (kind : Kind) (s : String) : Option Moment :=
  match kind with
  | .localDateTime => readFull s.toList
  | .localDate => readDay s.toList
  | _ => none

def Kind.momentText (kind : Kind) (m : Moment) : String :=
  match kind with
  | .localDate => m.dateText
  | _ => m.localText

/-- What is left of a moment in its text. -/
def Kind.roundMoment (kind : Kind) (m : Moment) : Moment :=
  match kind with
  | .localDate => m.startOfDay
  | _ => m.shown

def Kind.textSize (kind : Kind) : Nat :=
  match kind with
  | .localDate => 10
  | _ => 23

namespace Kind

variable {kind : Kind} {m : Moment} {s : String}

theorem isTextual_of_isLocal (hlocal : kind.isLocal = true) : kind.isTextual = true := by
  cases kind with
  | localDateTime | localDate =>
      rfl
  | _ =>
      cases hlocal

theorem moment?_momentText (hlocal : kind.isLocal = true) (m : Moment) :
    kind.moment? (kind.momentText m) = some (kind.roundMoment m) := by
  cases kind with
  | localDateTime =>
      exact readFull_localText m
  | localDate =>
      exact readDay_dateText m
  | _ =>
      cases hlocal

theorem momentText_roundMoment (kind : Kind) (m : Moment) :
    kind.momentText (kind.roundMoment m) = kind.momentText m := by
  cases kind with
  | localDate =>
      exact m.dateText_startOfDay
  | _ =>
      exact m.localText_shown

theorem date_roundMoment (kind : Kind) (m : Moment) : (kind.roundMoment m).date = m.date := by
  cases kind with
  | localDate =>
      exact m.date_startOfDay
  | _ =>
      exact m.parts_shown.left

theorem utf8ByteSize_momentText (kind : Kind) (m : Moment) :
    (kind.momentText m).utf8ByteSize = kind.textSize ↔ m.HasShortYear := by
  cases kind with
  | localDate =>
      exact m.utf8ByteSize_dateText
  | _ =>
      exact m.utf8ByteSize_localText

theorem isPlain_momentText (kind : Kind) (h : m.HasShortYear) :
    IsPlain (kind.momentText m).toList := by
  cases kind with
  | localDate =>
      exact Moment.isPlain_dateText h
  | _ =>
      exact Moment.isPlain_localText h

theorem eq_momentText_of_moment? (hplain : IsPlain s.toList)
    (hsize : s.utf8ByteSize = kind.textSize) (h : kind.moment? s = some m) :
    m.HasShortYear ∧ s = kind.momentText m := by
  cases kind with
  | localDateTime =>
      exact eq_localText_of_readFull hplain hsize h
  | localDate =>
      exact eq_dateText_of_readDay hplain hsize h
  | _ =>
      cases h

end Kind

/-!
# Standard texts
-/

namespace BaseType

variable {t : BaseType} {v w : Value} {s : String} {m : Moment}

/-- The text is an instance, and it is the standard text, with a year of four digits, of what
it shows. -/
structure IsStandard (t : BaseType) (s : String) : Prop where
  isInstance : t.isInstance (.string s) = true
  eq_momentText : exists m, t.kind.moment? s = some m ∧ m.HasShortYear ∧ s = t.kind.momentText m

/-- An instance, which stays as it is, is plain, and any other value, which is written anew, has
a moment with a year of four digits. -/
structure IsRegular (t : BaseType) (v : Value) : Prop where
  isPlain : forall s, v = .string s -> t.isInstance v = true -> IsPlain s.toList
  hasShortYear : forall m, t.isInstance v = false -> localMoment? v = some m -> m.HasShortYear

theorem isInstance_string_iff (hlocal : t.kind.isLocal = true) :
    t.isInstance (.string s) = true ↔
      s.utf8ByteSize = t.kind.textSize ∧ exists m, t.kind.moment? s = some m := by
  rcases t with ⟨name, kind⟩
  cases kind with
  | localDateTime | localDate =>
      rw [← Option.isSome_iff_exists, ← beq_iff_eq (a := s.utf8ByteSize), ← Bool.and_eq_true]
      rfl
  | _ =>
      cases hlocal

theorem convert_of_isLocal (hlocal : t.kind.isLocal = true) :
    t.convert v = (t.readLocalMoment v).map fun m => .string (t.kind.momentText m) := by
  rcases t with ⟨name, kind⟩
  cases kind with
  | localDateTime | localDate =>
      rfl
  | _ =>
      cases hlocal

theorem isStandard_iff_isPlain (hlocal : t.kind.isLocal = true)
    (hinstance : t.isInstance (.string s) = true) :
    t.IsStandard s ↔ IsPlain s.toList := by
  constructor
  · rintro ⟨_, m, _, hshort, heq⟩
    rw [heq]
    exact Kind.isPlain_momentText t.kind hshort
  · intro hplain
    rcases (isInstance_string_iff hlocal).mp hinstance with ⟨hsize, m, hm⟩
    rcases Kind.eq_momentText_of_moment? hplain hsize hm with ⟨hshort, heq⟩
    exact ⟨hinstance, m, hm, hshort, heq⟩

theorem isStandard_momentText_iff (hlocal : t.kind.isLocal = true) (m : Moment) :
    t.IsStandard (t.kind.momentText m) ↔ m.HasShortYear := by
  have hmoment := Kind.moment?_momentText hlocal m
  constructor
  · intro h
    rcases (isInstance_string_iff hlocal).mp h.isInstance with ⟨hsize, _⟩
    exact (t.kind.utf8ByteSize_momentText m).mp hsize
  · intro hshort
    refine ⟨?_, _, hmoment, ?_, (t.kind.momentText_roundMoment m).symm⟩
    · exact (isInstance_string_iff hlocal).mpr
        ⟨(t.kind.utf8ByteSize_momentText m).mpr hshort, _, hmoment⟩
    · rw [Moment.HasShortYear, t.kind.date_roundMoment]
      exact hshort

theorem IsStandard.eq_of_moment?_eq {s' : String} (h : t.IsStandard s) (h' : t.IsStandard s')
    (hmoment : t.kind.moment? s = t.kind.moment? s') :
    s = s' := by
  rcases h.eq_momentText with ⟨m, hm, _, heq⟩
  rcases h'.eq_momentText with ⟨m', hm', _, heq'⟩
  have hsame : m = m' := Option.some.inj (hm.symm.trans (hmoment.trans hm'))
  rw [heq, heq', hsame]

theorem isRegular_iff_isPlain (hinstance : t.isInstance (.string s) = true) :
    t.IsRegular (.string s) ↔ IsPlain s.toList := by
  constructor
  · intro h
    exact h.isPlain s rfl hinstance
  · intro hplain
    refine ⟨?_, ?_⟩
    · rintro _ ⟨⟩ _
      exact hplain
    · intro m hother
      rw [hinstance] at hother
      cases hother

theorem isRegular_iff_hasShortYear (hother : t.isInstance v = false)
    (hm : localMoment? v = some m) :
    t.IsRegular v ↔ m.HasShortYear := by
  constructor
  · intro h
    exact h.hasShortYear m hother hm
  · intro hshort
    refine ⟨?_, ?_⟩
    · intro s _ hinstance
      rw [hother] at hinstance
      cases hinstance
    · intro m' _ hm'
      rw [← Option.some.inj (hm.symm.trans hm')]
      exact hshort

theorem exists_text_of_read (hlocal : t.kind.isLocal = true) (h : t.read v = .ok (some w)) :
    exists s m, w = .string s ∧ t.kind.moment? s = some m ∧ (t.IsStandard s ↔ t.IsRegular v) := by
  rcases read_cases h with ⟨habsent, hcases⟩
  cases hinstance : t.isInstance v with
  | true =>
      have hself := read_of_isInstance habsent hinstance
      rw [h] at hself
      cases hself
      rcases string_of_isInstance (Kind.isTextual_of_isLocal hlocal) hinstance with ⟨s, rfl⟩
      rcases (isInstance_string_iff hlocal).mp hinstance with ⟨_, m, hm⟩
      refine ⟨s, m, rfl, hm, ?_⟩
      rw [isStandard_iff_isPlain hlocal hinstance, isRegular_iff_isPlain hinstance]
  | false =>
      rw [hinstance] at hcases
      rcases hcases with ⟨hfalse, _⟩ | hconvert
      · cases hfalse
      · rw [convert_of_isLocal hlocal, map_eq_ok] at hconvert
        rcases hconvert with ⟨m, hm, rfl⟩
        refine ⟨_, _, rfl, Kind.moment?_momentText hlocal m, ?_⟩
        rw [isStandard_momentText_iff hlocal,
          isRegular_iff_hasShortYear hinstance (orRefuse_eq_ok.mp hm)]

/-- A value is read as a text that shows a moment.  For regular values, and for no others, the
text is the standard one, so that no two of them are read as different texts of one moment. -/
theorem read_isStandard_iff (hlocal : t.kind.isLocal = true) (h : t.read v = .ok (some w)) :
    exists s m, w = .string s ∧ t.kind.moment? s = some m ∧ (t.IsStandard s ↔ t.IsRegular v) ∧
      forall v' s', t.read v' = .ok (some (.string s')) -> t.kind.moment? s' = some m ->
        t.IsRegular v -> t.IsRegular v' -> s' = s := by
  rcases exists_text_of_read hlocal h with ⟨s, m, hw, hm, hstandard⟩
  refine ⟨s, m, hw, hm, hstandard, ?_⟩
  intro v' s' h' hm' hregular hregular'
  rcases exists_text_of_read hlocal h' with ⟨_, _, ⟨⟩, _, hstandard'⟩
  exact (hstandard'.mpr hregular').eq_of_moment?_eq (hstandard.mpr hregular) (hm'.trans hm.symm)

/-- A text with a sign before the year and one digit for the month is taken as it is. -/
theorem not_forall_read_isStandard :
    ¬ forall (t : BaseType) (v : Value) (s : String), t ∈ baseTypes -> t.kind.isLocal = true ->
      t.read v = .ok (some (.string s)) -> t.IsStandard s := by
  intro h
  let t : BaseType := ⟨"localdate", .localDate⟩
  have hregistered : t ∈ baseTypes := by
    decide
  have hread : t.read (.string "+2024-1-02") = .ok (some (.string "+2024-1-02")) := by
    rfl
  rcases (h t _ _ hregistered rfl hread).eq_momentText with ⟨m, hm, _, heq⟩
  have hshown : m.dateText = "2024-01-02" := by
    cases hm
    rfl
  rw [show t.kind.momentText m = m.dateText from rfl, hshown] at heq
  revert heq
  decide

end BaseType

namespace Sample

def clock : BaseType :=
  ⟨"localdatetime", .localDateTime⟩

/-- A leap second, read off a clock two hours ahead of universal time. -/
def zonedLeapSecond : Value :=
  .string " 2016-12-31T23:59:60.25+02:00"

theorem read_isStandard_iff_zonedLeapSecond :
    clock.kind.isLocal = true ∧
      clock.read zonedLeapSecond = .ok (some (.string "2016-12-31T23:59:60.250")) ∧
      clock.IsRegular zonedLeapSecond ∧ clock.IsStandard "2016-12-31T23:59:60.250" := by
  have hread : clock.read zonedLeapSecond = .ok (some (.string "2016-12-31T23:59:60.250")) := by
    rfl
  have hother : clock.isInstance zonedLeapSecond = false := by
    rfl
  have hmoment : (BaseType.localMoment? zonedLeapSecond).isSome = true := by
    rfl
  have hregular : clock.IsRegular zonedLeapSecond := by
    rcases Option.isSome_iff_exists.mp hmoment with ⟨m, hm⟩
    rw [BaseType.isRegular_iff_hasShortYear hother hm]
    cases hm
    constructor <;>
      decide
  rcases BaseType.read_isStandard_iff (t := clock) rfl hread with ⟨s, m, hs, _, hstandard, _⟩
  cases hs
  exact ⟨rfl, hread, hregular, hstandard.mpr hregular⟩

end Sample
end RecordQuery
