import RecordQuery.Proofs.Calendar.DayText

/-!
# Texts of full width

The readers take blanks and signs that the writers do not put down, and fewer digits.  A text
without blanks that starts with a digit and has the length of a written text leaves them no
choice: every number in it has its full width, so the text is what is written for the moment
that is read off it.
-/

namespace RecordQuery
namespace Calendar

open Number

/-!
# Bytes
-/

def byteCount : List Char -> Nat
  | [] => 0
  | c :: cs => c.utf8Size + byteCount cs

@[simp]
theorem byteCount_nil : byteCount [] = 0 :=
  rfl

@[simp]
theorem byteCount_cons (c : Char) (cs : List Char) :
    byteCount (c :: cs) = c.utf8Size + byteCount cs :=
  rfl

@[simp]
theorem byteCount_append (cs ds : List Char) :
    byteCount (cs ++ ds) = byteCount cs + byteCount ds := by
  induction cs with
  | nil =>
      simp
  | cons c cs ih =>
      rw [List.cons_append, byteCount_cons, byteCount_cons, ih, Nat.add_assoc]

theorem utf8ByteSize_ofList (cs : List Char) :
    (String.ofList cs).utf8ByteSize = byteCount cs := by
  induction cs with
  | nil =>
      rfl
  | cons c cs ih =>
      rw [String.ofList_cons, String.utf8ByteSize_append, String.utf8ByteSize_singleton, ih,
        byteCount_cons]

theorem utf8ByteSize_eq (s : String) : s.utf8ByteSize = byteCount s.toList := by
  rw [← utf8ByteSize_ofList, String.ofList_toList]

theorem byteCount_of_isDigit {ds : List Char} (hds : forall c, c ∈ ds -> isDigit c = true) :
    byteCount ds = ds.length := by
  induction ds with
  | nil =>
      rfl
  | cons c ds ih =>
      have hdigit := digitValue_of_isDigit (hds c List.mem_cons_self)
      have hsize : c.utf8Size = 1 := by
        rw [Char.utf8Size_eq_one_iff, UInt32.le_iff_toNat_le]
        show c.toNat ≤ 127
        omega
      rw [byteCount_cons, hsize, ih fun d hd => hds d (List.mem_cons_of_mem c hd),
        List.length_cons, Nat.add_comm]

theorem byteCount_paddedDigits (width n : Nat) :
    byteCount (paddedDigits width n) = (paddedDigits width n).length :=
  byteCount_of_isDigit fun _ => isDigit_of_mem_paddedDigits

theorem byteCount_pair {n : Nat} (hn : n < 100) : byteCount (paddedDigits 2 n) = 2 := by
  rw [byteCount_paddedDigits]
  exact length_paddedDigits (by decide) hn

/-!
# Years of four digits
-/

def Moment.HasShortYear (m : Moment) : Prop :=
  0 ≤ m.date.year ∧ m.date.year ≤ 9999

namespace Moment

theorem byteCount_yearText (year : Int) :
    byteCount (yearText year) = 4 ↔ 0 ≤ year ∧ year ≤ 9999 := by
  by_cases hshort : 0 ≤ year ∧ year ≤ 9999
  · rcases yearText_short hshort.left hshort.right with ⟨n, _, hn, htext⟩
    rw [htext, byteCount_paddedDigits, length_paddedDigits (by decide) hn]
    exact iff_of_true rfl hshort
  · have hlong : ¬ (0 ≤ year ∧ year < 10000) := by
      omega
    have hwidth := le_length_paddedDigits 4 year.natAbs
    simp only [yearText, Bool.and_eq_true, decide_eq_true_eq, if_neg hlong, byteCount_cons,
      byteCount_paddedDigits]
    have hsign : (if year < 0 then '-' else '+').utf8Size = 1 := by
      split <;>
        rfl
    rw [hsign]
    omega

theorem utf8ByteSize_dateText (m : Moment) :
    m.dateText.utf8ByteSize = 10 ↔ m.HasShortYear := by
  have hdash : '-'.utf8Size = 1 := rfl
  rw [HasShortYear, ← byteCount_yearText, utf8ByteSize_eq, toList_dateText]
  simp only [byteCount_append, byteCount_cons, byteCount_nil, byteCount_pair m.month_lt,
    byteCount_pair m.day_lt, hdash]
  omega

theorem byteCount_clockChars (m : Moment) : byteCount m.clockChars = 12 := by
  have hmillis : (paddedDigits 3 (m.fraction / 1000000)).length = 3 :=
    length_paddedDigits (by decide) m.fraction_millis_lt
  have hcolon : ':'.utf8Size = 1 := rfl
  have hpoint : '.'.utf8Size = 1 := rfl
  simp only [clockChars, byteCount_append, byteCount_cons, byteCount_pair m.hour_lt_hundred,
    byteCount_pair m.minute_lt_hundred, byteCount_pair m.second_lt_hundred,
    byteCount_paddedDigits, hmillis, hcolon, hpoint]

theorem utf8ByteSize_localText (m : Moment) :
    m.localText.utf8ByteSize = 23 ↔ m.HasShortYear := by
  have hmark : 'T'.utf8Size = 1 := rfl
  rw [← utf8ByteSize_dateText, utf8ByteSize_eq, utf8ByteSize_eq, localText_eq_dateText_append,
    byteCount_append, byteCount_cons, byteCount_clockChars, hmark]
  omega

end Moment

/-!
# Plain texts
-/

def NoBlanks (cs : List Char) : Prop :=
  forall c, c ∈ cs -> Text.isBlank c = false

/-- The text starts with a digit, and no blanks are in it. -/
structure IsPlain (cs : List Char) : Prop where
  startsWithDigit : exists c, cs.head? = some c ∧ isDigit c = true
  noBlanks : NoBlanks cs

theorem NoBlanks.trimStart_eq {cs : List Char} (h : NoBlanks cs) : Text.trimStart cs = cs := by
  cases cs with
  | nil =>
      rfl
  | cons c rest =>
      exact Text.trimStart_cons rest (h c List.mem_cons_self)

theorem Moment.isPlain_dateText {m : Moment} (h : m.HasShortYear) :
    IsPlain m.dateText.toList := by
  refine ⟨?_, fun c hc => isBlank_of_mem_dateText hc⟩
  rcases yearText_short h.left h.right with ⟨n, _, _, htext⟩
  rw [toList_dateText, htext]
  rcases paddedDigits_append_eq_cons 4 n _ with ⟨c, more, heq, hdigit⟩
  rw [heq]
  exact ⟨c, rfl, hdigit⟩

theorem Moment.isPlain_localText {m : Moment} (h : m.HasShortYear) :
    IsPlain m.localText.toList := by
  refine ⟨?_, fun c hc => isBlank_of_mem_localText hc⟩
  rcases isPlain_dateText h with ⟨⟨c, hhead, hdigit⟩, _⟩
  refine ⟨c, ?_, hdigit⟩
  rw [localText_eq_dateText_append, List.head?_append, hhead]
  rfl

/-!
# Texts that fit

Pieces of a text that fit what is written for them make up a text that fits, so the length of
the whole decides about all of them.
-/

/-- The characters take no more bytes than the text, and are the text if they take as many. -/
structure Fits (cs text : List Char) : Prop where
  le : byteCount cs ≤ byteCount text
  eq_of_byteCount : byteCount cs = byteCount text -> cs = text

namespace Fits

theorem append {cs ds text more : List Char} (h : Fits cs text) (hmore : Fits ds more) :
    Fits (cs ++ ds) (text ++ more) := by
  have hle := h.le
  have hle' := hmore.le
  refine ⟨?_, ?_⟩
  · rw [byteCount_append, byteCount_append]
    omega
  · intro heq
    rw [byteCount_append, byteCount_append] at heq
    rw [h.eq_of_byteCount (by omega), hmore.eq_of_byteCount (by omega)]

theorem cons {cs text : List Char} (c : Char) (h : Fits cs text) : Fits (c :: cs) (c :: text) := by
  have hchar : Fits [c] [c] := ⟨Nat.le_refl _, fun _ => rfl⟩
  exact hchar.append h

theorem nil_cons (c : Char) (text : List Char) : Fits [] (c :: text) := by
  have hpos := c.utf8Size_pos
  refine ⟨Nat.zero_le _, ?_⟩
  intro heq
  rw [byteCount_nil, byteCount_cons] at heq
  omega

theorem eq_of_utf8ByteSize {s text : String} (h : Fits s.toList text.toList)
    (hsize : s.utf8ByteSize = text.utf8ByteSize) :
    s = text := by
  rw [utf8ByteSize_eq, utf8ByteSize_eq] at hsize
  exact String.toList_inj.mp (h.eq_of_byteCount hsize)

end Fits

def ReadsFitting (text cs rest : List Char) : Prop :=
  exists ds, cs = ds ++ rest ∧ Fits ds text

theorem ReadsFitting.cons {text cs rest : List Char} (c : Char)
    (h : ReadsFitting text cs rest) :
    ReadsFitting (c :: text) (c :: cs) rest := by
  rcases h with ⟨ds, rfl, hds⟩
  exact ⟨c :: ds, rfl, hds.cons c⟩

theorem ReadsFitting.trans {text later cs more rest : List Char}
    (h : ReadsFitting text cs more) (hmore : ReadsFitting later more rest) :
    ReadsFitting (text ++ later) cs rest := by
  rcases h with ⟨ds, rfl, hds⟩
  rcases hmore with ⟨es, rfl, hes⟩
  exact ⟨ds ++ es, (List.append_assoc ds es rest).symm, hds.append hes⟩

theorem ReadsFitting.noBlanks {text cs rest : List Char} {c : Char}
    (h : ReadsFitting text cs (c :: rest)) (hcs : NoBlanks cs) :
    NoBlanks rest := by
  rcases h with ⟨ds, rfl, _⟩
  intro d hd
  exact hcs d (List.mem_append_right ds (List.mem_cons_of_mem c hd))

/-!
# Numbers in a plain text
-/

theorem readsFitting_of_readDigits {least most n : Nat} {cs rest : List Char}
    (hleast : 0 < least) (h : readDigits least most cs = some (n, rest)) :
    n < powerOfTen most ∧ ReadsFitting (paddedDigits most n) cs rest := by
  rcases exists_digits_of_readDigits h with ⟨ds, hcs, hdigits, hlower, hupper, rfl⟩
  have hpos : 0 < ds.length := Nat.lt_of_lt_of_le hleast hlower
  have hlt : ofDigits ds < powerOfTen most :=
    Nat.lt_of_lt_of_le (ofDigits_lt hdigits) (Nat.pow_le_pow_right (by decide) hupper)
  have hlength := length_paddedDigits (Nat.lt_of_lt_of_le hpos hupper) hlt
  refine ⟨hlt, ds, hcs, ?_, ?_⟩
  · rw [byteCount_of_isDigit hdigits, byteCount_paddedDigits, hlength]
    exact hupper
  · intro heq
    rw [byteCount_of_isDigit hdigits, byteCount_paddedDigits, hlength] at heq
    rw [← heq, paddedDigits_ofDigits hdigits hpos]

theorem readsFitting_of_readLoose {n : Nat} {cs rest : List Char} (hblanks : NoBlanks cs)
    (h : readLoose cs = some (n, rest)) :
    ReadsFitting (paddedDigits 2 n) cs rest := by
  rw [readLoose, hblanks.trimStart_eq] at h
  exact (readsFitting_of_readDigits Nat.one_pos h).right

theorem readsFitting_of_readYear {year : Int} {cs rest : List Char} (hplain : IsPlain cs)
    (h : readYear cs = some (year, rest)) :
    (0 ≤ year ∧ year ≤ 9999) ∧ ReadsFitting (Moment.yearText year) cs rest := by
  rcases hplain with ⟨⟨c, hhead, hdigit⟩, hblanks⟩
  rw [readYear, hblanks.trimStart_eq] at h
  split at h
  · cases hhead
    cases hdigit
  · cases hhead
    cases hdigit
  · rcases Option.map_eq_some_iff.mp h with ⟨⟨n, more⟩, hread, hpair⟩
    cases hpair
    rcases readsFitting_of_readDigits Nat.one_pos hread with ⟨hlt, hfits⟩
    have hshort : n < 10000 := hlt
    rw [Moment.yearText_ofNat hshort]
    exact ⟨by omega, hfits⟩

theorem readsFitting_of_readFraction {nanos : Nat} {cs rest : List Char}
    (h : readFraction .millis cs = some (nanos, rest)) :
    ReadsFitting ('.' :: paddedDigits 3 (nanos / 1000000)) cs rest := by
  unfold readFraction at h
  split at h
  · rcases Option.map_eq_some_iff.mp h with ⟨⟨n, more⟩, hread, hpair⟩
    cases hpair
    have hscale : n * powerOfTen 6 / 1000000 = n := Nat.mul_div_cancel n (by decide)
    rw [hscale]
    exact (readsFitting_of_readDigits (by decide) hread).right.cons '.'
  · cases h
    exact ⟨[], rfl, Fits.nil_cons _ _⟩

/-!
# Dates and clock readings
-/

theorem readsFitting_of_readLooseDate {date : Date} {cs rest : List Char} (hplain : IsPlain cs)
    (h : readLooseDate cs = some (date, rest)) :
    (0 ≤ date.year ∧ date.year ≤ 9999) ∧
      ReadsFitting (Moment.yearText date.year ++ '-' :: (paddedDigits 2 date.month ++
        '-' :: (paddedDigits 2 date.day))) cs rest := by
  simp only [readLooseDate, Option.bind_eq_bind, Option.bind_eq_some_iff] at h
  rcases h with ⟨⟨year, afterYear⟩, hyear, afterDash, hfirst, ⟨month, afterMonth⟩, hmonth,
    beforeDay, hsecond, ⟨day, afterDay⟩, hday, hdate⟩
  cases hdate
  cases eq_cons_of_expect hfirst
  cases eq_cons_of_expect hsecond
  rcases readsFitting_of_readYear hplain hyear with ⟨hshort, hyearFits⟩
  have hblanks := hyearFits.noBlanks hplain.noBlanks
  have hmonthFits := readsFitting_of_readLoose hblanks hmonth
  have hdayFits := readsFitting_of_readLoose (hmonthFits.noBlanks hblanks) hday
  exact ⟨hshort, hyearFits.trans ((hmonthFits.trans (hdayFits.cons '-')).cons '-')⟩

theorem fits_of_readDay {cs : List Char} {m : Moment} (hplain : IsPlain cs)
    (h : readDay cs = some m) :
    m.HasShortYear ∧ Fits cs m.dateText.toList := by
  simp only [readDay, Option.bind_eq_bind, Option.bind_eq_some_iff] at h
  rcases h with ⟨⟨date, rest⟩, hdate, hmoment⟩
  split at hmoment
  · rename_i hempty
    cases List.isEmpty_iff.mp hempty
    rcases Moment.parts_of_ofParts? hmoment with ⟨rfl, _⟩
    rcases readsFitting_of_readLooseDate hplain hdate with ⟨hshort, ds, hcs, hfits⟩
    refine ⟨hshort, ?_⟩
    rw [hcs, List.append_nil, Moment.toList_dateText, List.append_nil]
    exact hfits
  · cases hmoment

theorem fits_of_readFull {cs : List Char} {m : Moment} (hplain : IsPlain cs)
    (h : readFull cs = some m) :
    m.HasShortYear ∧ Fits cs m.localText.toList := by
  simp only [readFull, readToSecond, readSeparator, Option.bind_eq_bind,
    Option.bind_eq_some_iff] at h
  rcases h with ⟨⟨date, afterDate⟩, hdate, beforeHour, hmark, ⟨hour, afterHour⟩, hhour,
    beforeMinute, hfirst, ⟨minute, afterMinute⟩, hminute, beforeSecond, hsecond,
    ⟨second, afterSecond⟩, hseconds, ⟨nanos, rest⟩, hnanos, hmoment⟩
  split at hmoment
  · rename_i hempty
    cases List.isEmpty_iff.mp hempty
    cases eq_cons_of_expect hmark
    cases eq_cons_of_expect hfirst
    cases eq_cons_of_expect hsecond
    rcases Moment.parts_of_ofParts? hmoment with ⟨rfl, rfl, rfl, rfl, rfl⟩
    rcases readsFitting_of_readLooseDate hplain hdate with ⟨hshort, hdateFits⟩
    have hblanks := hdateFits.noBlanks hplain.noBlanks
    have hhourFits := readsFitting_of_readLoose hblanks hhour
    have hblanks' := hhourFits.noBlanks hblanks
    have hminuteFits := readsFitting_of_readLoose hblanks' hminute
    have hsecondFits := readsFitting_of_readLoose (hminuteFits.noBlanks hblanks') hseconds
    have hclockFits := hhourFits.trans <| ReadsFitting.cons ':' <| hminuteFits.trans <|
      ReadsFitting.cons ':' <| hsecondFits.trans <| readsFitting_of_readFraction hnanos
    rcases hdateFits.trans (hclockFits.cons 'T') with ⟨ds, hcs, hfits⟩
    refine ⟨hshort, ?_⟩
    rw [hcs, List.append_nil, Moment.localText_eq_dateText_append, Moment.toList_dateText,
      List.append_nil]
    exact hfits
  · cases hmoment

/-!
# What a plain text of full width is
-/

theorem eq_dateText_of_readDay {s : String} {m : Moment} (hplain : IsPlain s.toList)
    (hsize : s.utf8ByteSize = 10) (h : readDay s.toList = some m) :
    m.HasShortYear ∧ s = m.dateText := by
  rcases fits_of_readDay hplain h with ⟨hshort, hfits⟩
  refine ⟨hshort, hfits.eq_of_utf8ByteSize ?_⟩
  rw [hsize, m.utf8ByteSize_dateText.mpr hshort]

theorem eq_localText_of_readFull {s : String} {m : Moment} (hplain : IsPlain s.toList)
    (hsize : s.utf8ByteSize = 23) (h : readFull s.toList = some m) :
    m.HasShortYear ∧ s = m.localText := by
  rcases fits_of_readFull hplain h with ⟨hshort, hfits⟩
  refine ⟨hshort, hfits.eq_of_utf8ByteSize ?_⟩
  rw [hsize, m.utf8ByteSize_localText.mpr hshort]

end Calendar
end RecordQuery
