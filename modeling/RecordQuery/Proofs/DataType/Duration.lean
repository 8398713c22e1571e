import Mathlib
import RecordQuery.DataType.Duration
import RecordQuery.Proofs.Calendar.Reader
import RecordQuery.Proofs.Text.Words

/-!
# Written durations

A written duration is a sign and counts of days, hours, minutes and seconds, of which only
the seconds have decimals.  Its text determines the counts, and these add up to its size.
The text of a duration is that of a written one whose size is exactly that of the duration,
so different durations of one unit have different texts.
-/

namespace RecordQuery
namespace Duration

open Number Text

/-!
# Scales
-/

inductive Scale where
  | day
  | hour
  | minute
  | second

namespace Scale

def letter : Scale -> Char
  | .day => 'd'
  | .hour => 'h'
  | .minute => 'm'
  | .second => 's'

def inSeconds : Scale -> Nat
  | .day => 86400
  | .hour => 3600
  | .minute => 60
  | .second => 1

/-- Counts that do not reach the next greater scale. -/
def Fits : Scale -> Nat -> Prop
  | .day, _ => True
  | .hour, n => n < 24
  | .minute, n => n < 60
  | .second, n => n < 60

def all : List Scale :=
  [.day, .hour, .minute, .second]

theorem letter_injective : Function.Injective letter := by
  intro a b h
  cases a <;>
    cases b <;>
      first
        | rfl
        | cases h

theorem isDigit_letter (a : Scale) : isDigit a.letter = false := by
  cases a <;>
    rfl

theorem isBlank_letter (a : Scale) : isBlank a.letter = false := by
  cases a <;>
    rfl

end Scale

theorem digits_append_inj {m n : Nat} {cs ds : List Char} (hcs : Calendar.StopsDigits cs)
    (hds : Calendar.StopsDigits ds) (h : digits m ++ cs = digits n ++ ds) :
    m = n ∧ cs = ds := by
  have htake := congrArg (List.takeWhile isDigit) h
  rw [Calendar.takeWhile_isDigit_append (fun _ => isDigit_of_mem_digits) hcs,
    Calendar.takeWhile_isDigit_append (fun _ => isDigit_of_mem_digits) hds] at htake
  have hmn : m = n := by
    rw [← ofDigits_digits m, htake, ofDigits_digits]
  rw [htake] at h
  exact ⟨hmn, List.append_cancel_left h⟩

/-!
# Parts
-/

/-- A count of one scale, as it is written: decimals only for seconds, without zeros at their
end. -/
structure Part where
  scale : Scale
  whole : Nat
  decimals : List Char
  fits : scale.Fits whole
  digital : forall c, c ∈ decimals -> isDigit c = true
  trimmed : decimals.getLast? ≠ some '0'
  ofSeconds : decimals ≠ [] -> scale = .second

namespace Part

def pointed : List Char -> List Char
  | [] => []
  | c :: ds => '.' :: c :: ds

def text (p : Part) : List Char :=
  digits p.whole ++ (pointed p.decimals ++ [p.scale.letter])

/-- The size in seconds. -/
def size (p : Part) : ℚ :=
  (p.whole + ofDigits p.decimals / 10 ^ p.decimals.length) * p.scale.inSeconds

theorem stopsDigits_pointed (ds : List Char) (a : Scale) :
    Calendar.StopsDigits (pointed ds ++ [a.letter]) := by
  cases ds with
  | nil =>
      exact Calendar.stopsDigits_cons a.isDigit_letter
  | cons c ds =>
      exact Calendar.stopsDigits_cons rfl

theorem pointed_injective : Function.Injective pointed := by
  intro ds es h
  cases ds with
  | nil =>
      cases es with
      | nil =>
          rfl
      | cons e es =>
          cases h
  | cons d ds =>
      cases es with
      | nil =>
          cases h
      | cons e es =>
          exact (List.cons.inj h).right

theorem isWord_text (p : Part) : IsWord p.text where
  ne_nil := by
    rw [text]
    exact List.append_ne_nil_of_left_ne_nil Nat.toDigits_ne_nil _
  solid := by
    intro c hc
    simp only [text, List.mem_append, List.mem_singleton] at hc
    rcases hc with hc | hc | rfl
    · exact Calendar.isBlank_of_isDigit (isDigit_of_mem_digits hc)
    · cases hds : p.decimals with
      | nil =>
          rw [hds] at hc
          cases hc
      | cons d ds =>
          rw [hds, pointed, ← hds] at hc
          rcases List.mem_cons.mp hc with rfl | hc
          · rfl
          · exact Calendar.isBlank_of_isDigit (p.digital c hc)
    · exact p.scale.isBlank_letter

theorem text_injective : Function.Injective text := by
  intro p q h
  rcases digits_append_inj (stopsDigits_pointed _ _) (stopsDigits_pointed _ _) h with
    ⟨hwhole, hrest⟩
  rcases List.append_inj' hrest rfl with ⟨hpointed, hletter⟩
  have hscale := Scale.letter_injective (List.cons.inj hletter).left
  have hdecimals := pointed_injective hpointed
  rcases p with ⟨scale, whole, decimals, _, _, _, _⟩
  cases hscale
  cases hwhole
  cases hdecimals
  rfl

end Part

/-!
# Written durations
-/

structure Written where
  negative : Bool
  parts : List Part
  parts_ne_nil : parts ≠ []
  /-- Greater scales come first, and none comes twice. -/
  inOrder : (parts.map Part.scale).Sublist Scale.all

namespace Written

def sign (d : Written) : List Char :=
  if d.negative then ['-'] else []

def text (d : Written) : String :=
  String.ofList (d.sign ++ joinWords (d.parts.map Part.text))

/-- The size in seconds, without the sign. -/
def size (d : Written) : ℚ :=
  (d.parts.map Part.size).sum

theorem exists_joinWords_eq (d : Written) :
    exists c cs, joinWords (d.parts.map Part.text) = c :: cs ∧ isDigit c = true := by
  rcases List.exists_cons_of_ne_nil d.parts_ne_nil with ⟨p, ps, hparts⟩
  have hjoined : exists more, joinWords (d.parts.map Part.text) = digits p.whole ++ more := by
    rw [hparts]
    cases ps with
    | nil =>
        exact ⟨_, rfl⟩
    | cons q qs =>
        exact ⟨_, List.append_assoc _ _ _⟩
  rcases hjoined with ⟨more, hjoined⟩
  rcases List.exists_cons_of_ne_nil (Nat.toDigits_ne_nil (n := p.whole) (b := 10)) with
    ⟨c, cs, hdigits⟩
  refine ⟨c, cs ++ more, ?_, ?_⟩
  · rw [hjoined, digits, hdigits]
    rfl
  · apply isDigit_of_mem_digits (n := p.whole)
    rw [digits, hdigits]
    exact List.mem_cons_self

theorem words_map_text (ps : List Part) :
    words (joinWords (ps.map Part.text)) = ps.map Part.text := by
  apply words_joinWords
  intro w hw
  rcases List.mem_map.mp hw with ⟨p, _, rfl⟩
  exact p.isWord_text

theorem text_injective : Function.Injective text := by
  intro d e h
  have hchars : d.sign ++ joinWords (d.parts.map Part.text) =
      e.sign ++ joinWords (e.parts.map Part.text) :=
    String.ofList_injective h
  rcases d.exists_joinWords_eq with ⟨c, cs, hd, hc⟩
  rcases e.exists_joinWords_eq with ⟨c', cs', he, hc'⟩
  have hsign : d.negative = e.negative := by
    cases hdn : d.negative <;>
      cases hen : e.negative <;>
      simp only [sign, hdn, hen, hd, he] at hchars ⊢
    · injection hchars with hhead
      rw [hhead] at hc
      cases hc
    · injection hchars with hhead
      rw [← hhead] at hc'
      cases hc'
  have hparts : d.parts = e.parts := by
    rw [sign, sign, hsign] at hchars
    apply List.map_injective_iff.mpr Part.text_injective
    rw [← words_map_text d.parts, List.append_cancel_left hchars, words_map_text]
  rcases d with ⟨negative, parts, _, _⟩
  cases hsign
  cases hparts
  rfl

end Written

/-!
# Decimals
-/

theorem exists_eq_trimZeros_append (ds : List Char) :
    exists k, ds = trimZeros ds ++ List.replicate k '0' := by
  have hsplit : ds.reverse.takeWhile (fun c => c == '0') ++
      ds.reverse.dropWhile (fun c => c == '0') = ds.reverse :=
    List.takeWhile_append_dropWhile
  have hzeros : ds.reverse.takeWhile (fun c => c == '0') =
      List.replicate (ds.reverse.takeWhile fun c => c == '0').length '0' := by
    apply List.eq_replicate_of_mem
    intro c hc
    simpa using List.mem_takeWhile_imp hc
  refine ⟨(ds.reverse.takeWhile fun c => c == '0').length, ?_⟩
  have hreverse := congrArg List.reverse hsplit
  rw [List.reverse_append, List.reverse_reverse, hzeros, List.reverse_replicate] at hreverse
  rw [trimZeros]
  simpa using hreverse.symm

theorem getLast?_trimZeros_ne (ds : List Char) : (trimZeros ds).getLast? ≠ some '0' := by
  rw [trimZeros, List.getLast?_reverse]
  intro hzero
  have hstop := List.head?_dropWhile_not (fun c => c == '0') ds.reverse
  rw [hzero] at hstop
  cases hstop

theorem ofDigits_append_zeros (ds : List Char) (k : Nat) :
    ofDigits (ds ++ List.replicate k '0') = 10 ^ k * ofDigits ds := by
  rw [ofDigits_eq, ofDigits_eq, Nat.ofDigitChars_append, Nat.ofDigitChars_replicate_zero]

theorem trimZeros_value (ds : List Char) :
    (ofDigits (trimZeros ds) : ℚ) / 10 ^ (trimZeros ds).length =
      ofDigits ds / 10 ^ ds.length := by
  rcases exists_eq_trimZeros_append ds with ⟨k, hds⟩
  generalize trimZeros ds = es at hds
  rw [hds, ofDigits_append_zeros, List.length_append, List.length_replicate, pow_add]
  push_cast
  field_simp

theorem trimZeros_ne_nil {ds : List Char} (h : ofDigits ds ≠ 0) : trimZeros ds ≠ [] := by
  rcases exists_eq_trimZeros_append ds with ⟨k, hds⟩
  intro hnil
  rw [hds, ofDigits_append_zeros, hnil] at h
  exact h (Nat.mul_zero _)

theorem isDigit_of_mem_trimZeros {ds : List Char} (h : forall c, c ∈ ds -> isDigit c = true)
    {c : Char} (hc : c ∈ trimZeros ds) :
    isDigit c = true := by
  rcases exists_eq_trimZeros_append ds with ⟨k, hds⟩
  apply h
  rw [hds]
  exact List.mem_append_left _ hc

/-!
# Texts of durations
-/

/-- The words are texts of parts of some of the scales, which add up to the size. -/
def Shows (texts : List (List Char)) (scales : List Scale) (size : ℚ) : Prop :=
  exists ps : List Part, ps.map Part.text = texts ∧ (ps.map Part.scale).Sublist scales ∧
    (ps.map Part.size).sum = size

theorem Shows.append {ts us : List (List Char)} {as bs : List Scale} {x y : ℚ}
    (h : Shows ts as x) (h' : Shows us bs y) :
    Shows (ts ++ us) (as ++ bs) (x + y) := by
  rcases h with ⟨ps, rfl, hps, rfl⟩
  rcases h' with ⟨qs, rfl, hqs, rfl⟩
  refine ⟨ps ++ qs, List.map_append, ?_, ?_⟩
  · rw [List.map_append]
    exact hps.append hqs
  · rw [List.map_append, List.sum_append]

theorem shows_nil (as : List Scale) : Shows [] as 0 :=
  ⟨[], rfl, List.nil_sublist as, rfl⟩

theorem shows_part (p : Part) : Shows [p.text] [p.scale] p.size :=
  ⟨[p], rfl, List.Sublist.refl _, List.sum_singleton⟩

theorem shows_partText (a : Scale) {n : Nat} (hn : a.Fits n) :
    Shows (partText n a.letter) [a] (n * a.inSeconds) := by
  unfold partText
  split
  · rename_i hzero
    rw [beq_iff_eq.mp hzero, Nat.cast_zero, zero_mul]
    exact shows_nil [a]
  · have hpart := shows_part ⟨a, n, [], hn, by simp, by simp, by simp⟩
    simpa [Part.text, Part.pointed, Part.size, ofDigits] using hpart

theorem perSecond_eq (unit : TimeUnit) : unit.perSecond = 10 ^ unit.places := by
  cases unit <;>
    rfl

theorem shows_secondsText (unit : TimeUnit) {seconds rest : Nat} (hseconds : seconds < 60)
    (hrest : rest < unit.perSecond) :
    Shows (secondsText unit seconds rest) [.second] (seconds + rest / unit.perSecond) := by
  unfold secondsText
  split
  · rename_i hzero
    have hwhole := shows_partText .second (n := seconds) hseconds
    simpa [beq_iff_eq.mp hzero, Scale.inSeconds, Scale.letter] using hwhole
  · rename_i hsome
    have hpos : rest ≠ 0 := by
      simpa using hsome
    rw [perSecond_eq] at hrest ⊢
    have hplaces : 0 < unit.places := by
      apply Nat.pos_of_ne_zero
      intro hzero
      rw [hzero] at hrest
      omega
    have hlength : (paddedDigits unit.places rest).length = unit.places :=
      length_paddedDigits hplaces hrest
    have hvalue := trimZeros_value (paddedDigits unit.places rest)
    rw [ofDigits_paddedDigits, hlength] at hvalue
    have hne : trimZeros (paddedDigits unit.places rest) ≠ [] := by
      apply trimZeros_ne_nil
      rwa [ofDigits_paddedDigits]
    have hpart := shows_part ⟨.second, seconds, trimZeros (paddedDigits unit.places rest),
      hseconds, fun _ => isDigit_of_mem_trimZeros fun _ => isDigit_of_mem_paddedDigits,
      getLast?_trimZeros_ne _, fun _ => rfl⟩
    have htext : Part.pointed (trimZeros (paddedDigits unit.places rest)) =
        '.' :: trimZeros (paddedDigits unit.places rest) := by
      cases htrim : trimZeros (paddedDigits unit.places rest) with
      | nil =>
          exact absurd htrim hne
      | cons c ds =>
          rfl
    simpa [Part.text, Part.size, htext, hvalue, Scale.inSeconds, Scale.letter] using hpart

theorem shows_partTexts (unit : TimeUnit) (size : Nat) :
    Shows (partTexts unit (parts unit size)) Scale.all (size / unit.perSecond) := by
  have hper : 0 < unit.perSecond := by
    rw [perSecond_eq]
    exact Nat.pow_pos (by decide)
  have hper' : (unit.perSecond : ℚ) ≠ 0 := by
    exact_mod_cast hper.ne'
  have hsplit : size = unit.perSecond * (size / unit.perSecond) + size % unit.perSecond :=
    (Nat.div_add_mod size unit.perSecond).symm
  have hrest : size % unit.perSecond < unit.perSecond := Nat.mod_lt size hper
  simp only [partTexts, parts]
  generalize size / unit.perSecond = whole at *
  generalize size % unit.perSecond = rest at *
  have hhours : whole % 86400 / 3600 < 24 := by
    omega
  have hminutes : whole % 3600 / 60 < 60 := by
    omega
  have hshown := (((shows_partText .day (n := whole / 86400) trivial).append
    (shows_partText .hour hhours)).append (shows_partText .minute hminutes)).append
    (shows_secondsText unit (Nat.mod_lt whole (by decide : 0 < 60)) hrest)
  have hwhole : whole = whole / 86400 * 86400 + whole % 86400 / 3600 * 3600 +
      whole % 3600 / 60 * 60 + whole % 60 := by
    omega
  have hwhole' : (whole : ℚ) = (whole / 86400 : Nat) * Scale.day.inSeconds +
      (whole % 86400 / 3600 : Nat) * Scale.hour.inSeconds +
      (whole % 3600 / 60 : Nat) * Scale.minute.inSeconds + (whole % 60 : Nat) := by
    exact_mod_cast hwhole
  have hsize : (size : ℚ) / unit.perSecond = whole + rest / unit.perSecond := by
    rw [hsplit]
    push_cast
    field_simp
  rw [hsize, hwhole', add_assoc]
  exact hshown

theorem natAbs_div_perSecond_inj {unit : TimeUnit} {m n : Nat}
    (h : (m : ℚ) / unit.perSecond = n / unit.perSecond) :
    m = n := by
  have hper : (unit.perSecond : ℚ) ≠ 0 := by
    cases unit <;>
      norm_num [TimeUnit.perSecond]
  rw [div_left_inj' hper] at h
  exact_mod_cast h

theorem natAbs_toInt_ne_zero {n : Int64} (hn : n ≠ 0) : n.toInt.natAbs ≠ 0 := by
  intro hzero
  apply hn
  rw [← Int64.toInt_inj, Int.natAbs_eq_zero.mp hzero]
  rfl

/-- A duration that is not zero has the text of a written one, of its sign and its size. -/
theorem exists_written_of_ne_zero (unit : TimeUnit) {n : Int64} (hn : n ≠ 0) :
    exists d : Written, d.text = text unit n ∧ (d.negative = true ↔ n < 0) ∧
      d.size = n.toInt.natAbs / unit.perSecond := by
  rcases shows_partTexts unit n.toInt.natAbs with ⟨ps, htexts, hscales, hsize⟩
  have hne : ps ≠ [] := by
    rintro rfl
    have hzero : ((0 : Nat) : ℚ) / unit.perSecond = n.toInt.natAbs / unit.perSecond := by
      rw [← hsize, Nat.cast_zero, zero_div]
      rfl
    exact natAbs_toInt_ne_zero hn (natAbs_div_perSecond_inj hzero).symm
  refine ⟨⟨decide (n < 0), ps, hne, hscales⟩, ?_, decide_eq_true_iff, hsize⟩
  have hsome : (n == 0) = false := by
    simpa using hn
  rw [Written.text, Written.sign, text, hsome, ← htexts]
  by_cases hneg : n < 0
  · simp [hneg]
  · simp [hneg]

/-- Zero is written with the suffix of its unit, which no written duration has but that of no
size. -/
theorem Written.size_eq_zero {d : Written} {unit : TimeUnit} (h : d.text = Duration.text unit 0) :
    d.size = 0 := by
  have hchars : d.sign ++ joinWords (d.parts.map Part.text) = '0' :: unit.suffix.toList := by
    have hlist := congrArg String.toList h
    rw [Written.text, String.toList_ofList] at hlist
    rw [hlist]
    cases unit <;>
      rfl
  have hsign : d.sign = [] := by
    rw [sign] at hchars ⊢
    split at hchars
    · cases hchars
    · simp_all
  rw [hsign, List.nil_append] at hchars
  have hwords := words_map_text d.parts
  rw [hchars] at hwords
  have hone : words ('0' :: unit.suffix.toList) = ['0' :: unit.suffix.toList] := by
    cases unit <;>
      rfl
  rw [hone] at hwords
  rcases List.map_eq_singleton_iff.mp hwords.symm with ⟨p, hparts, htext⟩
  have hsuffix : Calendar.StopsDigits unit.suffix.toList := by
    cases unit <;>
      exact Calendar.stopsDigits_cons rfl
  rcases digits_append_inj (m := p.whole) (n := 0) (Part.stopsDigits_pointed _ _) hsuffix htext with
    ⟨hwhole, hrest⟩
  have hdecimals : p.decimals = [] := by
    cases hds : p.decimals with
    | nil =>
        rfl
    | cons c ds =>
        rw [hds, Part.pointed] at hrest
        cases unit <;>
          cases hrest
  rw [size, hparts, List.map_singleton, List.sum_singleton, Part.size, hwhole, hdecimals]
  simp [ofDigits]

/-- The text of a duration in a unit. -/
theorem text_denotes (unit : TimeUnit) {n : Int64} (hn : n ≠ 0) :
    (exists d : Written, d.text = text unit n ∧ (d.negative = true ↔ n < 0) ∧
      d.size = n.toInt.natAbs / unit.perSecond) ∧
      forall m, text unit m = text unit n -> m = n := by
  rcases exists_written_of_ne_zero unit hn with ⟨d, htext, hsign, hsize⟩
  refine ⟨⟨d, htext, hsign, hsize⟩, ?_⟩
  intro m hm
  by_cases hzero : m = 0
  · rw [hzero, ← htext] at hm
    have hsame : (n.toInt.natAbs : ℚ) / unit.perSecond = (0 : Nat) / unit.perSecond := by
      rw [← hsize, Written.size_eq_zero hm.symm, Nat.cast_zero, zero_div]
    exact absurd (natAbs_div_perSecond_inj hsame) (natAbs_toInt_ne_zero hn)
  · rcases exists_written_of_ne_zero unit hzero with ⟨e, htext', hsign', hsize'⟩
    have hde : e = d := by
      apply Written.text_injective
      rw [htext', hm, htext]
    rw [hde] at hsign' hsize'
    have habs : m.toInt.natAbs = n.toInt.natAbs :=
      natAbs_div_perSecond_inj (hsize'.symm.trans hsize)
    have hneg : m < 0 ↔ n < 0 := hsign'.symm.trans hsign
    rw [Int64.lt_iff_toInt_lt, Int64.lt_iff_toInt_lt] at hneg
    rw [← Int64.toInt_inj]
    have h0 : (0 : Int64).toInt = 0 := rfl
    omega

end Duration

namespace Sample

theorem text_denotes_least :
    Int64.minValue ≠ 0 ∧
      Duration.text .nanos Int64.minValue = "-106751d 23h 47m 16.854775808s" ∧
      (exists d : Duration.Written, d.text = "-106751d 23h 47m 16.854775808s" ∧
        (d.negative = true ↔ Int64.minValue < 0) ∧
        d.size = Int64.minValue.toInt.natAbs / TimeUnit.nanos.perSecond) ∧
      forall m, Duration.text .nanos m = "-106751d 23h 47m 16.854775808s" -> m = Int64.minValue := by
  have hne : Int64.minValue ≠ 0 := by
    decide
  have htext : Duration.text .nanos Int64.minValue = "-106751d 23h 47m 16.854775808s" := rfl
  have hdenotes := Duration.text_denotes .nanos hne
  rw [htext] at hdenotes
  exact ⟨hne, htext, hdenotes⟩

end Sample
end RecordQuery
