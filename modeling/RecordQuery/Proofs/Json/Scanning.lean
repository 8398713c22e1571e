import RecordQuery.Json.Printer
import RecordQuery.Json.Token
import RecordQuery.Proofs.Json.Number
import RecordQuery.Proofs.Number.FloatText
import RecordQuery.Proofs.Uuid

/-!
# The indented form is cut into its tokens

Brackets, commas, colons, lines and quoted strings are tokens wherever they stand.  A
word or a number ends only where a character follows that cannot go on with it, so for
them, and for values that end in one, the text that follows matters.
-/

namespace RecordQuery
namespace Json

open Number

/-!
# Values
-/

/-- A value whose doubles are read back from their texts, and whose objects list their members
by increasing key. -/
inductive Readable : Json -> Prop where
  | null : Readable .null
  | bool (b : Bool) : Readable (.bool b)
  | integer (i : Int) (lower : -9223372036854775808 ≤ i) (upper : i < 18446744073709551616) :
      Readable (.number (.integer i lower upper))
  | real (x : Float) (finite : x.isFinite = true) (h : (JsonNumber.real x finite).ReadsBack) :
      Readable (.number (.real x finite))
  | string (s : String) : Readable (.string s)
  | array {items : List Json} (h : forall x, x ∈ items -> Readable x) : Readable (.array items)
  | object {members : List (String × Json)}
      (hkeys : members.Pairwise fun m n => m.1 < n.1)
      (h : forall m, m ∈ members -> Readable m.2) :
      Readable (.object members)

theorem Readable.readsBack {n : JsonNumber} (h : Readable (.number n)) : n.ReadsBack := by
  cases h with
  | integer i lower upper =>
      exact JsonNumber.readsBack_integer i lower upper
  | real x finite h =>
      exact h

mutual
def tokens : Json -> List Token
  | .null => [.scalar .null]
  | .bool b => [.scalar (.bool b)]
  | .number n => [.scalar (.number n)]
  | .string s => [.text s]
  | .array items => .openArray :: (itemTokens items ++ [.closeArray])
  | .object members => .openObject :: (memberTokens members ++ [.closeObject])

def itemTokens : List Json -> List Token
  | [] => []
  | [x] => tokens x
  | x :: rest => tokens x ++ .comma :: itemTokens rest

def memberTokens : List (String × Json) -> List Token
  | [] => []
  | [(k, x)] => .text k :: .colon :: tokens x
  | (k, x) :: rest => .text k :: .colon :: (tokens x ++ .comma :: memberTokens rest)
end

theorem itemTokens_cons_cons (x y : Json) (rest : List Json) :
    itemTokens (x :: y :: rest) = x.tokens ++ .comma :: itemTokens (y :: rest) := by
  simp [itemTokens]

theorem memberTokens_cons_cons (k : String) (x : Json) (m : String × Json)
    (rest : List (String × Json)) :
    memberTokens ((k, x) :: m :: rest) =
      (.text k :: .colon :: x.tokens) ++ .comma :: memberTokens (m :: rest) := by
  simp [memberTokens]

namespace Scan

/-!
# Runs
-/

def run (s : Scan) (cs : List Char) : Option (List Token) :=
  (cs.foldlM step s).bind finish

theorem run_append {s next : Scan} {cs : List Char} (h : cs.foldlM step s = some next)
    (rest : List Char) :
    run s (cs ++ rest) = run next rest := by
  rw [run, List.foldlM_append, h]
  rfl

/-- No word and no number goes on into the text. -/
def EndsToken (cs : List Char) : Prop :=
  forall c, cs.head? = some c -> isLetter c = false ∧ isNumberChar c = false

theorem endsToken_nil : EndsToken [] := by
  intro c hc
  cases hc

theorem endsToken_cons {c : Char} (hletter : isLetter c = false)
    (hnumber : isNumberChar c = false) (rest : List Char) :
    EndsToken (c :: rest) := by
  intro d hd
  rw [← Option.some.inj hd]
  exact ⟨hletter, hnumber⟩

theorem endsToken_newline (level : Nat) (rest : List Char) :
    EndsToken ((newline level).toList ++ rest) := by
  rw [toList_newline]
  exact endsToken_cons rfl rfl _

theorem run_word {ts : List Token} {read rest : List Char} {t : Token}
    (hread : wordToken? read = some t) (hrest : EndsToken rest) :
    run ⟨ts, .word read⟩ rest = run ⟨t :: ts, .between⟩ rest := by
  cases rest with
  | nil =>
      simp [run, finish, hread]
  | cons c rest =>
      have hletter := (hrest c rfl).left
      have hstep : step ⟨ts, .word read⟩ c = step ⟨t :: ts, .between⟩ c := by
        simp [step, hletter, hread]
      rw [run, run, List.foldlM_cons, List.foldlM_cons, hstep]

theorem run_number {ts : List Token} {read rest : List Char} {t : Token}
    (hread : numberToken? read = some t) (hrest : EndsToken rest) :
    run ⟨ts, .number read⟩ rest = run ⟨t :: ts, .between⟩ rest := by
  cases rest with
  | nil =>
      simp [run, finish, hread]
  | cons c rest =>
      have hnumber := (hrest c rfl).right
      have hstep : step ⟨ts, .number read⟩ c = step ⟨t :: ts, .between⟩ c := by
        simp [step, hnumber, hread]
      rw [run, run, List.foldlM_cons, List.foldlM_cons, hstep]

/-!
# Scanned texts
-/

/-- Between two tokens the text is cut into these, whatever follows. -/
def Cuts (cs : List Char) (out : List Token) : Prop :=
  forall ts, cs.foldlM step ⟨ts, .between⟩ = some ⟨out.reverse ++ ts, .between⟩

/-- The same, where what follows does not go on with the last token. -/
def Scans (cs : List Char) (out : List Token) : Prop :=
  forall ts rest, EndsToken rest ->
    run ⟨ts, .between⟩ (cs ++ rest) = run ⟨out.reverse ++ ts, .between⟩ rest

theorem cuts_nil : Cuts [] [] := by
  intro ts
  rfl

theorem Cuts.append {cs ds : List Char} {out more : List Token} (h : Cuts cs out)
    (hmore : Cuts ds more) :
    Cuts (cs ++ ds) (out ++ more) := by
  intro ts
  rw [List.foldlM_append, h ts, List.reverse_append, List.append_assoc]
  exact hmore _

theorem Cuts.scans {cs : List Char} {out : List Token} (h : Cuts cs out) : Scans cs out := by
  intro ts rest _
  exact run_append (h ts) rest

theorem Cuts.append_scans {cs ds : List Char} {out more : List Token} (h : Cuts cs out)
    (hmore : Scans ds more) :
    Scans (cs ++ ds) (out ++ more) := by
  intro ts rest hrest
  rw [List.append_assoc, run_append (h ts), hmore _ rest hrest, List.reverse_append,
    List.append_assoc]

theorem Scans.append {cs ds : List Char} {out more : List Token} (h : Scans cs out)
    (hends : forall rest, EndsToken (ds ++ rest)) (hmore : Scans ds more) :
    Scans (cs ++ ds) (out ++ more) := by
  intro ts rest hrest
  rw [List.append_assoc, h ts _ (hends rest), hmore _ rest hrest, List.reverse_append,
    List.append_assoc]

/-!
# Marks and lines
-/

theorem cuts_mark {c : Char} {t : Token} (h : forall ts, begin ts c = some ⟨t :: ts, .between⟩) :
    Cuts [c] [t] := by
  intro ts
  rw [List.foldlM_cons, step, h ts]
  rfl

theorem cuts_space {c : Char} (h : isSpace c = true) : Cuts [c] [] := by
  intro ts
  rw [List.foldlM_cons, step, begin, if_pos h]
  rfl

theorem cuts_newline (level : Nat) : Cuts (newline level).toList [] := by
  have hspaces : forall n, Cuts (List.replicate n ' ') [] := by
    intro n
    induction n with
    | zero =>
        exact cuts_nil
    | succ n ih =>
        exact (cuts_space rfl).append ih
  rw [toList_newline]
  exact (cuts_space rfl).append (hspaces _)

/-!
# Strings
-/

theorem foldlM_controlEscape (ts : List Token) (read : List Char) {c : Char}
    (hc : c.toNat < 0x20) :
    ['\\', 'u', '0', '0', Nat.digitChar (c.toNat / 16), Nat.digitChar (c.toNat % 16)].foldlM step
      ⟨ts, .text read⟩ = some ⟨ts, .text (c :: read)⟩ := by
  have hhigh := Uuid.hexValue?_digitChar (show c.toNat / 16 < 16 by omega)
  have hlow := Uuid.hexValue?_digitChar (show c.toNat % 16 < 16 by omega)
  have hzero : hexValue? '0' = some 0 := rfl
  have hvalue : 16 * (c.toNat / 16) + c.toNat % 16 = c.toNat := Nat.div_add_mod c.toNat 16
  have hunit : afterUnit read none c.toNat = some (.text (c :: read)) := by
    have hnotHigh : isHighSurrogate c.toNat = false := by
      simp [isHighSurrogate]
      omega
    have hnotLow : isLowSurrogate c.toNat = false := by
      simp [isLowSurrogate]
      omega
    simp [afterUnit, hnotHigh, hnotLow]
  simp [step, hzero, hhigh, hlow, hvalue, hunit]

theorem foldlM_escapeChar (ts : List Token) (read : List Char) (c : Char) :
    (escapeChar c).foldlM step ⟨ts, .text read⟩ = some ⟨ts, .text (c :: read)⟩ := by
  unfold escapeChar
  repeat' split
  iterate 7
    · rename_i hc
      rw [beq_iff_eq.mp hc]
      rfl
  · exact foldlM_controlEscape ts read ‹_›
  · rename_i hquote hslash _ _ _ _ _ hcontrol
    have hstep : step ⟨ts, .text read⟩ c = some ⟨ts, .text (c :: read)⟩ := by
      simp only [step, if_neg hquote, if_neg hslash, if_neg hcontrol]
    rw [List.foldlM_cons, hstep]
    rfl

theorem foldlM_escaped (ts : List Token) (read cs : List Char) :
    (cs.flatMap escapeChar).foldlM step ⟨ts, .text read⟩ =
      some ⟨ts, .text (cs.reverse ++ read)⟩ := by
  induction cs generalizing read with
  | nil =>
      rfl
  | cons c cs ih =>
      rw [List.flatMap_cons, List.foldlM_append, foldlM_escapeChar]
      simp [ih]

theorem cuts_quote (s : String) : Cuts (quote s).toList [.text s] := by
  intro ts
  have hopen : step ⟨ts, .between⟩ '"' = some ⟨ts, .text []⟩ := rfl
  have hclose : forall read, step ⟨ts, .text read⟩ '"' =
      some ⟨.text (String.ofList read.reverse) :: ts, .between⟩ :=
    fun _ => rfl
  have hback : String.ofList (s.toList.reverse ++ []).reverse = s := by
    simp
  rw [quote, String.toList_ofList, List.cons_append, List.foldlM_cons, hopen]
  show (s.toList.flatMap escapeChar ++ ['"']).foldlM step ⟨ts, .text []⟩ = _
  rw [List.foldlM_append, foldlM_escaped]
  show ['"'].foldlM step ⟨ts, .text (s.toList.reverse ++ [])⟩ = _
  rw [List.foldlM_cons, hclose, hback]
  rfl

/-!
# Words and numbers
-/

theorem scans_word {cs : List Char} {t : Token} (htoken : wordToken? cs.reverse = some t)
    (hletters : forall ts, cs.foldlM step ⟨ts, .between⟩ = some ⟨ts, .word cs.reverse⟩) :
    Scans cs [t] := by
  intro ts rest hrest
  exact (run_append (hletters ts) rest).trans (run_word htoken hrest)

theorem scans_bool (b : Bool) :
    Scans (if b then "true" else "false").toList [.scalar (.bool b)] := by
  cases b with
  | true | false =>
      exact scans_word rfl fun _ => rfl

theorem scans_null : Scans "null".toList [.scalar .null] :=
  scans_word rfl fun _ => rfl

theorem foldlM_numberChars {cs : List Char} (h : forall c, c ∈ cs -> isNumberChar c = true)
    (ts : List Token) (read : List Char) :
    cs.foldlM step ⟨ts, .number read⟩ = some ⟨ts, .number (cs.reverse ++ read)⟩ := by
  induction cs generalizing read with
  | nil =>
      rfl
  | cons c cs ih =>
      have hstep : step ⟨ts, .number read⟩ c = some ⟨ts, .number (c :: read)⟩ := by
        simp only [step, h c List.mem_cons_self, if_true]
      rw [List.foldlM_cons, hstep, List.reverse_cons, List.append_assoc]
      exact ih (fun d hd => h d (List.mem_cons_of_mem c hd)) (c :: read)

theorem begin_number {c : Char} (h : c = '-' ∨ isDigit c = true) (ts : List Token) :
    begin ts c = some ⟨ts, .number [c]⟩ := by
  have hmarks : ([' ', '\t', '\n', '\r', '[', ']', '\x7b', '\x7d', ',', ':', '"'].all fun d =>
      !(d == '-' || isDigit d)) = true := by
    decide
  have hother : forall d, d ∈ [' ', '\t', '\n', '\r', '[', ']', '\x7b', '\x7d', ',', ':', '"'] ->
      c ≠ d := by
    rintro d hd rfl
    have hmark := List.all_eq_true.mp hmarks c hd
    rcases h with rfl | hdigit
    · cases hmark
    · simp [hdigit] at hmark
  have hnumber : (c == '-' || isDigit c) = true := by
    simpa using h
  simp [begin, isSpace, hother, hnumber]

theorem isNumberChar_of_isNumeral {c : Char} (h : IsNumeral c) : isNumberChar c = true := by
  rcases h with hdigit | rfl | rfl | rfl | rfl
  · simp [isNumberChar, hdigit]
  · rfl
  · rfl
  · rfl
  · rfl

/-- A text that could be the start of a number and goes on like one. -/
def LooksNumeric (cs : List Char) : Prop :=
  exists c rest, cs = c :: rest ∧ (c = '-' ∨ isDigit c = true) ∧
    forall d, d ∈ rest -> isNumberChar d = true

theorem looksNumeric_magnitude {cs : List Char} (h : IsMagnitude cs) : LooksNumeric cs := by
  rcases h.starts with ⟨c, rest, rfl, hc⟩
  refine ⟨c, rest, rfl, .inr hc, ?_⟩
  intro d hd
  exact isNumberChar_of_isNumeral (h.numeral d (List.mem_cons_of_mem c hd))

theorem looksNumeric_minus {cs : List Char} (h : IsMagnitude cs) : LooksNumeric ('-' :: cs) :=
  ⟨'-', cs, rfl, .inl rfl, fun d hd => isNumberChar_of_isNumeral (h.numeral d hd)⟩

/-- The texts of numbers look numeric, except for words, which are not read as numbers. -/
theorem looksNumeric_text {n : JsonNumber} (h : n.ReadsBack) : LooksNumeric n.text.toList := by
  cases n with
  | integer i lower upper =>
      rw [JsonNumber.text, toList_intText]
      split
      · exact looksNumeric_minus (isMagnitude_digits i.natAbs)
      · exact looksNumeric_magnitude (isMagnitude_digits i.natAbs)
  | real x finite =>
      rcases jsonLayout.write_cases (fun _ => isNumeral_of_mem_jsonSuffix) x with
        hword | ⟨cs, hcs, htext | htext⟩
      · have hnone : forall s, s ∈ ["NaN", "-inf", "inf"] -> JsonNumber.read s.toList = none := by
          decide
        rw [JsonNumber.ReadsBack, JsonNumber.text, hnone _ hword] at h
        cases h
      · rw [JsonNumber.text, htext]
        exact looksNumeric_magnitude hcs
      · rw [JsonNumber.text, htext]
        exact looksNumeric_minus hcs

theorem scans_number {n : JsonNumber} (h : n.ReadsBack) :
    Scans n.text.toList [.scalar (.number n)] := by
  intro ts rest hrest
  have hchars : n.text.toList.foldlM step ⟨ts, .between⟩ =
      some ⟨ts, .number n.text.toList.reverse⟩ := by
    rcases looksNumeric_text h with ⟨c, cs, htext, hfirst, hcs⟩
    have hstart : step ⟨ts, .between⟩ c = some ⟨ts, .number [c]⟩ := begin_number hfirst ts
    rw [htext, List.foldlM_cons, hstart, List.reverse_cons]
    exact foldlM_numberChars hcs ts [c]
  have htoken : numberToken? n.text.toList.reverse = some (.scalar (.number n)) := by
    rw [numberToken?, List.reverse_reverse, h]
    rfl
  exact (run_append hchars rest).trans (run_number htoken hrest)

/-!
# Containers
-/

theorem scans_container {opening closing : Char} {first last : Token} {body : List Char}
    {out : List Token} (hopening : Cuts [opening] [first]) (hclosing : Cuts [closing] [last])
    (level : Nat) (hbody : Scans body out) :
    Scans (opening :: ((newline (level + 1)).toList ++
      (body ++ ((newline level).toList ++ [closing])))) (first :: (out ++ [last])) := by
  have hends : Scans (body ++ ((newline level).toList ++ [closing])) (out ++ [last]) := by
    refine hbody.append ?_ ((cuts_newline level).append hclosing).scans
    intro rest
    rw [List.append_assoc]
    exact endsToken_newline level _
  exact (hopening.append (cuts_newline (level + 1))).append_scans hends

theorem scans_entries {s t : String} {out more : List Token} (hs : Scans s.toList out)
    (level : Nat) (ht : Scans t.toList more) :
    Scans (s ++ "," ++ newline level ++ t).toList (out ++ .comma :: more) := by
  have hcomma : Cuts (',' :: (newline level).toList) [.comma] :=
    (cuts_mark fun _ => rfl : Cuts [','] [.comma]).append (cuts_newline level)
  have hrest : Scans (',' :: ((newline level).toList ++ t.toList)) (.comma :: more) :=
    hcomma.append_scans ht
  have htext : (s ++ "," ++ newline level ++ t).toList =
      s.toList ++ ',' :: ((newline level).toList ++ t.toList) := by
    simp
  rw [htext]
  exact hs.append (fun _ => endsToken_cons rfl rfl _) hrest

theorem scans_member (k : String) {s : String} {out : List Token} (hs : Scans s.toList out) :
    Scans (quote k ++ ": " ++ s).toList (.text k :: .colon :: out) := by
  have hcolon : Cuts [':', ' '] [.colon] :=
    (cuts_mark fun _ => rfl : Cuts [':'] [.colon]).append (cuts_space rfl)
  have htext : (quote k ++ ": " ++ s).toList = ((quote k).toList ++ [':', ' ']) ++ s.toList := by
    simp
  rw [htext]
  exact ((cuts_quote k).append hcolon).append_scans hs

mutual
theorem scans_prettyAt (level : Nat) : (j : Json) -> j.Readable ->
    Scans (prettyAt level j).toList j.tokens
  | .null, _ => by
      rw [prettyAt, Json.tokens]
      exact scans_null
  | .bool b, _ => by
      rw [prettyAt, Json.tokens]
      exact scans_bool b
  | .number n, h => by
      rw [prettyAt, Json.tokens]
      exact scans_number h.readsBack
  | .string s, _ => by
      rw [prettyAt, Json.tokens]
      exact (cuts_quote s).scans
  | .array [], _ => by
      rw [prettyAt, Json.tokens, itemTokens]
      have hbrackets : Cuts (['['] ++ [']']) ([.openArray] ++ [.closeArray]) :=
        (cuts_mark fun _ => rfl).append (cuts_mark fun _ => rfl)
      exact hbrackets.scans
  | .array (x :: rest), .array h => by
      rw [toList_prettyAt_array, Json.tokens]
      exact scans_container (cuts_mark fun _ => rfl) (cuts_mark fun _ => rfl) level
        (scans_prettyItems (level + 1) (x :: rest) h)
  | .object [], _ => by
      rw [prettyAt, Json.tokens, memberTokens]
      have hbraces : Cuts (['\x7b'] ++ ['\x7d']) ([.openObject] ++ [.closeObject]) :=
        (cuts_mark fun _ => rfl).append (cuts_mark fun _ => rfl)
      exact hbraces.scans
  | .object (m :: rest), .object _ h => by
      rw [toList_prettyAt_object, Json.tokens]
      exact scans_container (cuts_mark fun _ => rfl) (cuts_mark fun _ => rfl) level
        (scans_prettyMembers (level + 1) (m :: rest) h)

theorem scans_prettyItems (level : Nat) : (items : List Json) ->
    (forall x, x ∈ items -> x.Readable) ->
    Scans (prettyItems level items).toList (itemTokens items)
  | [], _ => by
      rw [prettyItems, itemTokens]
      exact cuts_nil.scans
  | [x], h => by
      rw [prettyItems, itemTokens]
      exact scans_prettyAt level x (h x List.mem_cons_self)
  | x :: y :: rest, h => by
      rw [prettyItems_cons_cons, itemTokens_cons_cons]
      exact scans_entries (scans_prettyAt level x (h x List.mem_cons_self)) level
        (scans_prettyItems level (y :: rest) fun z hz => h z (List.mem_cons_of_mem x hz))

theorem scans_prettyMembers (level : Nat) : (members : List (String × Json)) ->
    (forall m, m ∈ members -> m.2.Readable) ->
    Scans (prettyMembers level members).toList (memberTokens members)
  | [], _ => by
      rw [prettyMembers, memberTokens]
      exact cuts_nil.scans
  | [(k, x)], h => by
      rw [prettyMembers, memberTokens]
      exact scans_member k (scans_prettyAt level x (h (k, x) List.mem_cons_self))
  | (k, x) :: m :: rest, h => by
      rw [prettyMembers_cons_cons, memberTokens_cons_cons]
      exact scans_entries (scans_member k (scans_prettyAt level x (h (k, x) List.mem_cons_self)))
        level (scans_prettyMembers level (m :: rest) fun n hn => h n (List.mem_cons_of_mem _ hn))
end

end Scan

/-- The indented text of a value is cut into its tokens. -/
theorem tokens?_pretty {j : Json} (h : j.Readable) : tokens? j.pretty.toList = some j.tokens := by
  have hscan := Scan.scans_prettyAt 0 j h [] [] Scan.endsToken_nil
  rw [List.append_nil] at hscan
  refine hscan.trans ?_
  simp [Scan.run, Scan.finish]

end Json
end RecordQuery
