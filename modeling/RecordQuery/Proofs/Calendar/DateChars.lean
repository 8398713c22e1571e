import RecordQuery.Proofs.Calendar.Reader
import RecordQuery.Proofs.Number.Integer

/-!
# Characters of written dates

The reader of days takes digits, signs and blanks off a text and nothing else, so a text
that it reads to the end holds no other characters.  A text that any reader of moments takes
has a dash after its year, so it is neither blank nor a number.
-/

namespace RecordQuery
namespace Calendar

open Number

def IsDateChar (c : Char) : Prop :=
  Text.isBlank c = true ∨ isDigit c = true ∨ c = '-' ∨ c = '+'

instance (c : Char) : Decidable (IsDateChar c) :=
  inferInstanceAs (Decidable (_ ∨ _))

def ReadsOff (cs rest : List Char) : Prop :=
  exists read, cs = read ++ rest ∧ forall c, c ∈ read -> IsDateChar c

theorem ReadsOff.trans {cs more rest : List Char} (h : ReadsOff cs more)
    (hmore : ReadsOff more rest) :
    ReadsOff cs rest := by
  rcases h with ⟨first, rfl, hfirst⟩
  rcases hmore with ⟨second, rfl, hsecond⟩
  refine ⟨first ++ second, (List.append_assoc first second rest).symm, ?_⟩
  intro c hc
  rcases List.mem_append.mp hc with hc | hc
  · exact hfirst c hc
  · exact hsecond c hc

theorem ReadsOff.length_le {cs rest : List Char} (h : ReadsOff cs rest) :
    rest.length ≤ cs.length := by
  rcases h with ⟨read, rfl, _⟩
  rw [List.length_append]
  exact Nat.le_add_left rest.length read.length

theorem ReadsOff.mem {c : Char} {cs rest : List Char} (h : ReadsOff cs rest) (hc : c ∈ rest) :
    c ∈ cs := by
  rcases h with ⟨read, rfl, _⟩
  exact List.mem_append_right read hc

theorem readsOff_cons {c : Char} (hc : IsDateChar c) (rest : List Char) :
    ReadsOff (c :: rest) rest := by
  refine ⟨[c], rfl, ?_⟩
  intro d hd
  rw [List.mem_singleton.mp hd]
  exact hc

/-!
# Pieces
-/

theorem readsOff_trimStart (cs : List Char) : ReadsOff cs (Text.trimStart cs) := by
  refine ⟨cs.takeWhile Text.isBlank, List.takeWhile_append_dropWhile.symm, ?_⟩
  intro c hc
  exact .inl (List.mem_takeWhile_imp hc)

theorem exists_digits_of_readDigits {least most n : Nat} {cs rest : List Char}
    (h : readDigits least most cs = some (n, rest)) :
    exists ds, cs = ds ++ rest ∧ (forall c, c ∈ ds -> isDigit c = true) ∧
      least ≤ ds.length ∧ ds.length ≤ most ∧ n = ofDigits ds := by
  simp only [readDigits] at h
  split at h
  · cases h
  · rename_i hleast
    cases h
    have hprefix : (cs.takeWhile isDigit).take most <+: cs :=
      (List.take_prefix most _).trans (List.takeWhile_prefix isDigit)
    refine ⟨_, (List.prefix_iff_eq_append.mp hprefix).symm, ?_, Nat.le_of_not_lt hleast,
      List.length_take_le most _, rfl⟩
    intro c hc
    exact List.mem_takeWhile_imp (List.mem_of_mem_take hc)

theorem readsOff_of_readDigits {least most n : Nat} {cs rest : List Char}
    (h : readDigits least most cs = some (n, rest)) :
    ReadsOff cs rest := by
  rcases exists_digits_of_readDigits h with ⟨ds, hcs, hds, _⟩
  exact ⟨ds, hcs, fun c hc => .inr (.inl (hds c hc))⟩

theorem exists_of_map_readDigits {least most : Nat} {α : Type} {f : Nat -> α} {a : α}
    {cs rest : List Char}
    (h : ((readDigits least most cs).map fun part => (f part.1, part.2)) = some (a, rest)) :
    exists n, readDigits least most cs = some (n, rest) := by
  rcases Option.map_eq_some_iff.mp h with ⟨⟨n, more⟩, hread, hpair⟩
  cases hpair
  exact ⟨n, hread⟩

theorem eq_cons_of_expect {c : Char} {cs rest : List Char} (h : expect c cs = some rest) :
    cs = c :: rest := by
  cases cs with
  | nil =>
      cases h
  | cons d more =>
      simp only [expect] at h
      split at h
      · cases h
        rename_i heq
        rw [beq_iff_eq.mp heq]
      · cases h

theorem readsOff_of_expect {c : Char} (hc : IsDateChar c) {cs rest : List Char}
    (h : expect c cs = some rest) :
    ReadsOff cs rest := by
  rw [eq_cons_of_expect h]
  exact readsOff_cons hc rest

/-- Blanks and a sign may stand before the digits of a year. -/
theorem exists_readDigits_of_readYear {year : Int} {cs rest : List Char}
    (h : readYear cs = some (year, rest)) :
    exists more most n, ReadsOff cs more ∧ readDigits 1 most more = some (n, rest) := by
  have htrim := readsOff_trimStart cs
  simp only [readYear] at h
  split at h
  · rename_i heq
    rw [heq] at htrim
    rcases exists_of_map_readDigits (f := fun n => -(n : Int)) h with ⟨n, hread⟩
    exact ⟨_, _, n, htrim.trans (readsOff_cons (.inr (.inr (.inl rfl))) _), hread⟩
  · rename_i heq
    rw [heq] at htrim
    rcases exists_of_map_readDigits (f := fun n => (n : Int)) h with ⟨n, hread⟩
    exact ⟨_, _, n, htrim.trans (readsOff_cons (.inr (.inr (.inr rfl))) _), hread⟩
  · rcases exists_of_map_readDigits (f := fun n => (n : Int)) h with ⟨n, hread⟩
    exact ⟨_, _, n, htrim, hread⟩

theorem readsOff_of_readYear {year : Int} {cs rest : List Char}
    (h : readYear cs = some (year, rest)) :
    ReadsOff cs rest := by
  rcases exists_readDigits_of_readYear h with ⟨more, most, n, hmore, hread⟩
  exact hmore.trans (readsOff_of_readDigits hread)

theorem readsOff_of_readLoose {n : Nat} {cs rest : List Char}
    (h : readLoose cs = some (n, rest)) :
    ReadsOff cs rest :=
  (readsOff_trimStart cs).trans (readsOff_of_readDigits h)

/-!
# Dates
-/

theorem readsOff_of_readLooseDate {date : Date} {cs rest : List Char}
    (h : readLooseDate cs = some (date, rest)) :
    ReadsOff cs rest := by
  have hdash : IsDateChar '-' := .inr (.inr (.inl rfl))
  simp only [readLooseDate, Option.bind_eq_bind, Option.bind_eq_some_iff] at h
  rcases h with ⟨⟨year, afterYear⟩, hyear, afterDash, hfirst, ⟨month, afterMonth⟩, hmonth,
    beforeDay, hsecond, ⟨day, afterDay⟩, hday, hdate⟩
  cases hdate
  exact (readsOff_of_readYear hyear).trans <| (readsOff_of_expect hdash hfirst).trans <|
    (readsOff_of_readLoose hmonth).trans <| (readsOff_of_expect hdash hsecond).trans <|
      readsOff_of_readLoose hday

theorem exists_readLooseDate_of_readDay {cs : List Char} {t : Moment} (h : readDay cs = some t) :
    exists date, readLooseDate cs = some (date, []) ∧ Moment.ofParts? date 0 0 0 0 = some t := by
  simp only [readDay, Option.bind_eq_bind, Option.bind_eq_some_iff] at h
  rcases h with ⟨⟨date, rest⟩, hdate, hmoment⟩
  split at hmoment
  · rename_i hempty
    have hrest : rest = [] := List.isEmpty_iff.mp hempty
    rw [hrest] at hdate
    exact ⟨date, hdate, hmoment⟩
  · cases hmoment

theorem isDateChar_of_readDay {cs : List Char} {t : Moment} (h : readDay cs = some t) {c : Char}
    (hc : c ∈ cs) :
    IsDateChar c := by
  rcases exists_readLooseDate_of_readDay h with ⟨date, hdate, _⟩
  rcases readsOff_of_readLooseDate hdate with ⟨read, rfl, hread⟩
  rw [List.append_nil] at hc
  exact hread c hc

theorem readUnzoned_of_readDay {cs : List Char} {t : Moment} (h : readDay cs = some t) :
    readUnzoned cs = some t := by
  rcases exists_readLooseDate_of_readDay h with ⟨date, hdate, _⟩
  have hsecond : forall separator, readToSecond separator .any cs = none := by
    intro separator
    rw [readToSecond, hdate]
    cases separator <;>
      rfl
  have hminute : forall separator, readToMinute separator cs = none := by
    intro separator
    rw [readToMinute, hdate]
    cases separator <;>
      rfl
  simp [readUnzoned, hsecond, hminute, h]

/-!
# The colon after the hour
-/

theorem exists_eq_cons_of_readDateMark {cs rest : List Char} (h : readDateMark cs = some rest) :
    exists mark, cs = mark :: rest := by
  unfold readDateMark at h
  split at h <;>
    cases h <;>
      exact ⟨_, rfl⟩

theorem colon_mem_of_readStrict {cs : List Char} {p : Moment × Int}
    (h : readStrict cs = some p) :
    ':' ∈ cs := by
  have hdash : IsDateChar '-' := .inr (.inr (.inl rfl))
  rcases Option.bind_eq_some_iff.mp h with ⟨⟨year, afterYear⟩, hyear, h⟩
  rcases Option.bind_eq_some_iff.mp h with ⟨afterDash, hfirst, h⟩
  rcases Option.bind_eq_some_iff.mp h with ⟨⟨month, afterMonth⟩, hmonth, h⟩
  rcases Option.bind_eq_some_iff.mp h with ⟨beforeDay, hsecond, h⟩
  rcases Option.bind_eq_some_iff.mp h with ⟨⟨day, afterDay⟩, hday, h⟩
  rcases Option.bind_eq_some_iff.mp h with ⟨beforeHour, hmark, h⟩
  rcases Option.bind_eq_some_iff.mp h with ⟨⟨hour, afterHour⟩, hhour, h⟩
  rcases Option.bind_eq_some_iff.mp h with ⟨afterColon, hcolon, _⟩
  have hdate : ReadsOff cs afterDay :=
    (readsOff_of_readDigits hyear).trans <| (readsOff_of_expect hdash hfirst).trans <|
      (readsOff_of_readDigits hmonth).trans <| (readsOff_of_expect hdash hsecond).trans <|
        readsOff_of_readDigits hday
  have hclock : afterHour = ':' :: afterColon := eq_cons_of_expect hcolon
  have hhead : ':' ∈ afterHour := by
    rw [hclock]
    exact List.mem_cons_self
  rcases exists_eq_cons_of_readDateMark hmark with ⟨mark, hmarked⟩
  have hdated : afterDay = mark :: beforeHour := hmarked
  apply hdate.mem
  rw [hdated]
  exact List.mem_cons_of_mem mark ((readsOff_of_readDigits hhour).mem hhead)

theorem readStrict_of_readDay {cs : List Char} {t : Moment} (h : readDay cs = some t) :
    readStrict cs = none := by
  cases hstrict : readStrict cs with
  | none =>
      rfl
  | some p =>
      have hcolon : ¬ IsDateChar ':' := by
        decide
      exact absurd (isDateChar_of_readDay h (colon_mem_of_readStrict hstrict)) hcolon

theorem readLocal_of_readDay {s : String} {t : Moment}
    (h : readDay (Text.trim s.toList) = some t) :
    readLocal s = some t := by
  rw [readLocal, readStrict_of_readDay h]
  exact readUnzoned_of_readDay h

/-- A date without a clock reading is taken as its first moment in universal time. -/
theorem readUtc_of_readDay {s : String} {t : Moment}
    (h : readDay (Text.trim s.toList) = some t) :
    readUtc s = some t := by
  rw [readUtc, readStrict_of_readDay h]
  exact readUnzoned_of_readDay h

/-!
# The dash after the year
-/

theorem length_lt_of_readDigits {least most n : Nat} {cs rest : List Char} (hleast : 0 < least)
    (h : readDigits least most cs = some (n, rest)) :
    rest.length < cs.length := by
  rcases exists_digits_of_readDigits h with ⟨ds, rfl, _, hlength, _⟩
  rw [List.length_append]
  omega

theorem length_lt_of_readYear {year : Int} {cs rest : List Char}
    (h : readYear cs = some (year, rest)) :
    rest.length < cs.length := by
  rcases exists_readDigits_of_readYear h with ⟨more, most, n, hmore, hread⟩
  exact Nat.lt_of_lt_of_le (length_lt_of_readDigits Nat.one_pos hread) hmore.length_le

theorem dash_mem_tail {cs rest more : List Char} (hread : ReadsOff cs rest)
    (hlength : rest.length < cs.length) (hdash : expect '-' rest = some more) :
    '-' ∈ cs.tail := by
  rcases hread with ⟨first, rfl, _⟩
  have hfirst : first ≠ [] := by
    rintro rfl
    simp at hlength
  rw [List.tail_append_of_ne_nil hfirst, eq_cons_of_expect hdash]
  exact List.mem_append_right _ List.mem_cons_self

theorem dash_mem_tail_of_readLooseDate {date : Date} {cs rest : List Char}
    (h : readLooseDate cs = some (date, rest)) :
    '-' ∈ cs.tail := by
  rcases Option.bind_eq_some_iff.mp h with ⟨⟨year, afterYear⟩, hyear, h⟩
  rcases Option.bind_eq_some_iff.mp h with ⟨afterDash, hdash, _⟩
  exact dash_mem_tail (readsOff_of_readYear hyear) (length_lt_of_readYear hyear) hdash

theorem exists_readLooseDate_of_readUnzoned {cs : List Char} {t : Moment}
    (h : readUnzoned cs = some t) :
    exists date rest, readLooseDate cs = some (date, rest) := by
  cases hdate : readLooseDate cs with
  | none =>
      simp [readUnzoned, readToSecond, readToMinute, readDay, hdate] at h
  | some part =>
      exact ⟨part.1, part.2, rfl⟩

theorem dash_mem_tail_of_readStrict {cs : List Char} {p : Moment × Int}
    (h : readStrict cs = some p) :
    '-' ∈ cs.tail := by
  rcases Option.bind_eq_some_iff.mp h with ⟨⟨year, afterYear⟩, hyear, h⟩
  rcases Option.bind_eq_some_iff.mp h with ⟨afterDash, hdash, _⟩
  exact dash_mem_tail (readsOff_of_readDigits hyear)
    (length_lt_of_readDigits (by decide) hyear) hdash

theorem dash_mem_tail_of_readUtc {s : String} {t : Moment} (h : readUtc s = some t) :
    '-' ∈ (Text.trim s.toList).tail := by
  rw [readUtc] at h
  cases hstrict : readStrict (Text.trim s.toList) with
  | some p =>
      exact dash_mem_tail_of_readStrict hstrict
  | none =>
      rw [hstrict] at h
      rcases exists_readLooseDate_of_readUnzoned h with ⟨date, rest, hdate⟩
      exact dash_mem_tail_of_readLooseDate hdate

theorem readTrimmedInt64_of_readUtc {s : String} {t : Moment} (h : readUtc s = some t) :
    readTrimmedInt64 s = none := by
  rw [readTrimmedInt64, readInt64, readInt_eq_none (dash_mem_tail_of_readUtc h) rfl]
  rfl

theorem blank_eq_false_of_readUtc {s : String} {t : Moment} (h : readUtc s = some t) :
    Text.blank s = false := by
  cases hblank : Text.blank s with
  | false =>
      rfl
  | true =>
      have htrim : Text.trim s.toList = [] := by
        rw [Text.trim, Text.trimStart_of_blank hblank]
        rfl
      have hdash := dash_mem_tail_of_readUtc h
      rw [htrim] at hdash
      cases hdash

end Calendar
end RecordQuery
