import RecordQuery.Json.Reader
import RecordQuery.Proofs.Calendar.Reader
import RecordQuery.Proofs.Json.Scanning

/-!
# Tokens are put together again

From the tokens of a value the second machine builds the value, on top of whatever is
open around it, if the stack has room for its depth.  So the indented text of a value is
read as the value.  A blank text has no tokens, and it is not read.
-/

namespace RecordQuery
namespace Json

/-!
# Depth
-/

mutual
/-- How many arrays and objects are open at once. -/
def depth : Json -> Nat
  | .null => 0
  | .bool _ => 0
  | .number _ => 0
  | .string _ => 0
  | .array items => itemDepth items + 1
  | .object members => memberDepth members + 1

def itemDepth : List Json -> Nat
  | [] => 0
  | x :: rest => max (depth x) (itemDepth rest)

def memberDepth : List (String × Json) -> Nat
  | [] => 0
  | (_, x) :: rest => max (depth x) (memberDepth rest)
end

/-!
# Members
-/

theorem insertMember_eq_append {key : String} {members : List (String × Json)}
    (h : forall m, m ∈ members -> m.1 < key) (value : Json) :
    insertMember key value members = members ++ [(key, value)] := by
  induction members with
  | nil =>
      rfl
  | cons m rest ih =>
      have hlt : m.1 < key := h m List.mem_cons_self
      have hnotLt : ¬ key < m.1 := String.lt_asymm hlt
      have hne : ¬ (key == m.1) = true := by
        rw [beq_iff_eq]
        rintro rfl
        exact String.lt_irrefl _ hlt
      rw [insertMember, if_neg hnotLt, if_neg hne, ih fun n hn => h n (List.mem_cons_of_mem m hn)]
      rfl

theorem foldl_insertMember {acc members : List (String × Json)}
    (h : (acc ++ members).Pairwise fun m n => m.1 < n.1) :
    members.foldl (fun ms m => insertMember m.1 m.2 ms) acc = acc ++ members := by
  induction members generalizing acc with
  | nil =>
      rw [List.append_nil]
      rfl
  | cons m rest ih =>
      have hbefore : forall n, n ∈ acc -> n.1 < m.1 :=
        fun n hn => (List.pairwise_append.mp h).right.right n hn m List.mem_cons_self
      have hsplit : acc ++ m :: rest = acc ++ [m] ++ rest := by
        simp
      rw [List.foldl_cons, insertMember_eq_append hbefore, hsplit]
      exact ih (hsplit ▸ h)

theorem ofMembers_eq {members : List (String × Json)}
    (h : members.Pairwise fun m n => m.1 < n.1) :
    ofMembers members = .object members := by
  rw [ofMembers, foldl_insertMember (by simpa using h), List.nil_append]

namespace Build

/-!
# Values on a stack
-/

variable {limit : Nat}

def StartsValue (place : Place) : Prop :=
  place = .value ∨ place = .firstItem

theorem step_begin {place : Place} (hplace : StartsValue place) {t : Token}
    (ht : t ≠ .closeArray) (stack : List Frame) :
    step limit ⟨stack, place⟩ t = beginValue limit ⟨stack, place⟩ t := by
  rcases hplace with rfl | rfl
  · rfl
  · cases t with
    | closeArray =>
        exact absurd rfl ht
    | _ =>
        rfl

theorem foldlM_single {s : Build} {t : Token} {o : Option Build} (h : step limit s t = o) :
    [t].foldlM (step limit) s = o := by
  rw [List.foldlM_cons, h]
  cases o <;>
    rfl

theorem foldlM_cons_of_step {s next : Build} {t : Token} (h : step limit s t = some next)
    (ts : List Token) :
    (t :: ts).foldlM (step limit) s = ts.foldlM (step limit) next := by
  rw [List.foldlM_cons, h]
  rfl

theorem foldlM_append_of_eq {s next : Build} {ts : List Token}
    (h : ts.foldlM (step limit) s = some next) (more : List Token) :
    (ts ++ more).foldlM (step limit) s = more.foldlM (step limit) next := by
  rw [List.foldlM_append, h]
  rfl

theorem beginValue_open {stack : List Frame} (hroom : stack.length < limit) (place : Place) :
    beginValue limit ⟨stack, place⟩ .openArray = some ⟨.array [] :: stack, .firstItem⟩ ∧
      beginValue limit ⟨stack, place⟩ .openObject = some ⟨.object [] :: stack, .firstKey⟩ := by
  constructor
  · rw [beginValue, enter, if_pos hroom]
  · rw [beginValue, enter, if_pos hroom]

theorem foldlM_member {stack : List Frame} {before : List (String × Json)} {place : Place}
    (hplace : place = .firstKey ∨ place = .key) {k : String} {x : Json} {ts : List Token}
    (hvalue : ts.foldlM (step limit) ⟨.member before k :: stack, .value⟩ =
      put x (.member before k :: stack)) :
    (.text k :: .colon :: ts).foldlM (step limit) ⟨.object before :: stack, place⟩ =
      some ⟨.object ((k, x) :: before) :: stack, .afterValue⟩ := by
  have hkey : step limit ⟨.object before :: stack, place⟩ (.text k) =
      some ⟨.member before k :: stack, .colon⟩ := by
    rcases hplace with rfl | rfl <;>
      rfl
  have hcolon : step limit ⟨.member before k :: stack, .colon⟩ .colon =
      some ⟨.member before k :: stack, .value⟩ :=
    rfl
  rw [foldlM_cons_of_step hkey, foldlM_cons_of_step hcolon, hvalue]
  rfl

mutual
/-- The tokens of a value put it into the innermost open container. -/
theorem foldlM_tokens (stack : List Frame) (place : Place) (hplace : StartsValue place) :
    (j : Json) -> j.Readable -> stack.length + j.depth ≤ limit ->
      j.tokens.foldlM (step limit) ⟨stack, place⟩ = put j stack
  | .null, _, _ => by
      rw [tokens]
      exact foldlM_single (step_begin hplace Token.noConfusion stack)
  | .bool b, _, _ => by
      rw [tokens]
      exact foldlM_single (step_begin hplace Token.noConfusion stack)
  | .number n, _, _ => by
      rw [tokens]
      exact foldlM_single (step_begin hplace Token.noConfusion stack)
  | .string s, _, _ => by
      rw [tokens]
      exact foldlM_single (step_begin hplace Token.noConfusion stack)
  | .array items, .array h, hdepth => by
      rw [depth] at hdepth
      have hopen : step limit ⟨stack, place⟩ .openArray = some ⟨.array [] :: stack, .firstItem⟩ :=
        (step_begin hplace Token.noConfusion stack).trans
          (beginValue_open (by omega) place).left
      rw [tokens, foldlM_cons_of_step hopen]
      cases items with
      | nil =>
          rw [itemTokens]
          exact foldlM_single rfl
      | cons x rest =>
          have hitems := foldlM_itemTokens stack [] .firstItem (.inr rfl) (x :: rest)
            (List.cons_ne_nil x rest) h (by omega)
          rw [foldlM_append_of_eq hitems, List.append_nil]
          refine foldlM_single ?_
          show put (.array (x :: rest).reverse.reverse) stack = _
          rw [List.reverse_reverse]
  | .object members, .object hkeys h, hdepth => by
      rw [depth] at hdepth
      have hopen : step limit ⟨stack, place⟩ .openObject =
          some ⟨.object [] :: stack, .firstKey⟩ :=
        (step_begin hplace Token.noConfusion stack).trans
          (beginValue_open (by omega) place).right
      rw [tokens, foldlM_cons_of_step hopen]
      cases members with
      | nil =>
          rw [memberTokens]
          exact foldlM_single rfl
      | cons m rest =>
          have hmembers := foldlM_memberTokens stack [] .firstKey (.inl rfl) (m :: rest)
            (List.cons_ne_nil m rest) h (by omega)
          rw [foldlM_append_of_eq hmembers, List.append_nil]
          refine foldlM_single ?_
          show put (ofMembers (m :: rest).reverse.reverse) stack = _
          rw [List.reverse_reverse, ofMembers_eq hkeys]

theorem foldlM_itemTokens (stack : List Frame) (before : List Json) (place : Place)
    (hplace : StartsValue place) :
    (items : List Json) -> items ≠ [] -> (forall x, x ∈ items -> x.Readable) ->
      stack.length + (itemDepth items + 1) ≤ limit ->
        (itemTokens items).foldlM (step limit) ⟨.array before :: stack, place⟩ =
          some ⟨.array (items.reverse ++ before) :: stack, .afterValue⟩
  | [], hne, _, _ => absurd rfl hne
  | [x], _, h, hdepth => by
      rw [itemDepth] at hdepth
      rw [itemTokens]
      exact foldlM_tokens (.array before :: stack) place hplace x (h x List.mem_cons_self)
        (by rw [List.length_cons]; omega)
  | x :: y :: rest, _, h, hdepth => by
      rw [itemDepth] at hdepth
      have hfirst : x.tokens.foldlM (step limit) ⟨.array before :: stack, place⟩ =
          some ⟨.array (x :: before) :: stack, .afterValue⟩ :=
        foldlM_tokens (.array before :: stack) place hplace x (h x List.mem_cons_self)
          (by rw [List.length_cons]; omega)
      have hcomma : step limit ⟨.array (x :: before) :: stack, .afterValue⟩ .comma =
          some ⟨.array (x :: before) :: stack, .value⟩ :=
        rfl
      have hothers := foldlM_itemTokens stack (x :: before) .value (.inl rfl) (y :: rest)
        (List.cons_ne_nil y rest) (fun z hz => h z (List.mem_cons_of_mem x hz)) (by omega)
      rw [itemTokens_cons_cons, foldlM_append_of_eq hfirst, foldlM_cons_of_step hcomma, hothers]
      simp

theorem foldlM_memberTokens (stack : List Frame) (before : List (String × Json)) (place : Place)
    (hplace : place = .firstKey ∨ place = .key) :
    (members : List (String × Json)) -> members ≠ [] -> (forall m, m ∈ members -> m.2.Readable) ->
      stack.length + (memberDepth members + 1) ≤ limit ->
        (memberTokens members).foldlM (step limit) ⟨.object before :: stack, place⟩ =
          some ⟨.object (members.reverse ++ before) :: stack, .afterValue⟩
  | [], hne, _, _ => absurd rfl hne
  | [(k, x)], _, h, hdepth => by
      rw [memberDepth] at hdepth
      rw [memberTokens]
      exact foldlM_member hplace <| foldlM_tokens (.member before k :: stack) .value (.inl rfl) x
        (h (k, x) List.mem_cons_self) (by rw [List.length_cons]; omega)
  | (k, x) :: m :: rest, _, h, hdepth => by
      rw [memberDepth] at hdepth
      have hfirst : (.text k :: .colon :: x.tokens).foldlM (step limit)
          ⟨.object before :: stack, place⟩ =
            some ⟨.object ((k, x) :: before) :: stack, .afterValue⟩ :=
        foldlM_member hplace <| foldlM_tokens (.member before k :: stack) .value (.inl rfl) x
          (h (k, x) List.mem_cons_self) (by rw [List.length_cons]; omega)
      have hcomma : step limit ⟨.object ((k, x) :: before) :: stack, .afterValue⟩ .comma =
          some ⟨.object ((k, x) :: before) :: stack, .key⟩ :=
        rfl
      have hothers := foldlM_memberTokens stack ((k, x) :: before) .key (.inr rfl) (m :: rest)
        (List.cons_ne_nil m rest) (fun n hn => h n (List.mem_cons_of_mem _ hn)) (by omega)
      rw [memberTokens_cons_cons, foldlM_append_of_eq hfirst, foldlM_cons_of_step hcomma, hothers]
      simp
end

end Build

/-!
# Reading
-/

/-- The indented text of a value is read as the value, unless it is nested too deeply. -/
theorem readWithin?_pretty {limit : Nat} {j : Json} (h : j.Readable) (hdepth : j.depth ≤ limit) :
    readWithin? limit j.pretty = some j := by
  have hassemble : j.tokens.foldlM (Build.step limit) Build.start = Build.put j [] :=
    Build.foldlM_tokens [] .value (.inl rfl) j h (by simpa using hdepth)
  rw [readWithin?, tokens?_pretty h, Option.bind_some, assemble?, hassemble]
  rfl

/-!
# Blank texts are not JSON
-/

theorem Scan.isBlank_of_isLetter {c : Char} (h : isLetter c = true) : Text.isBlank c = false := by
  simp only [isLetter, Bool.and_eq_true, decide_eq_true_eq, Char.le_def,
    UInt32.le_iff_toNat_le] at h
  have hlower : 97 ≤ c.toNat := h.left
  have hupper : c.toNat ≤ 122 := h.right
  simp [Text.isBlank]
  omega

theorem Scan.begin_of_isBlank {ts : List Token} {c : Char} (hc : Text.isBlank c = true) :
    begin ts c = some ⟨ts, .between⟩ ∨ begin ts c = none := by
  have hne : forall d, Text.isBlank d = false -> c ≠ d := by
    rintro d hd rfl
    rw [hd] at hc
    cases hc
  have hdigit : Number.isDigit c = false := by
    cases h : Number.isDigit c with
    | false =>
        rfl
    | true =>
        exact absurd rfl (hne c (Calendar.isBlank_of_isDigit h))
  have hletter : isLetter c = false := by
    cases h : isLetter c with
    | false =>
        rfl
    | true =>
        exact absurd rfl (hne c (isBlank_of_isLetter h))
  rw [begin]
  cases isSpace c with
  | true =>
      exact .inl rfl
  | false =>
      simp [hne '[' rfl, hne ']' rfl, hne '\x7b' rfl, hne '\x7d' rfl, hne ',' rfl, hne ':' rfl,
        hne '"' rfl, hne '-' rfl, hdigit, hletter]

theorem foldlM_step_of_blank {cs : List Char} (h : cs.all Text.isBlank = true) :
    cs.foldlM Scan.step Scan.start = some Scan.start ∨ cs.foldlM Scan.step Scan.start = none := by
  induction cs with
  | nil =>
      exact .inl rfl
  | cons c cs ih =>
      rw [List.all_cons, Bool.and_eq_true] at h
      have hstep : Scan.step Scan.start c = Scan.begin [] c := rfl
      rw [List.foldlM_cons, hstep]
      have hbegin : Scan.begin [] c = some ⟨[], .between⟩ ∨ Scan.begin [] c = none :=
        Scan.begin_of_isBlank h.left
      rcases hbegin with hpassed | hrefused
      · rw [hpassed]
        exact ih h.right
      · rw [hrefused]
        exact .inr rfl

theorem read?_of_blank {s : String} (h : Text.blank s = true) : read? s = none := by
  rw [read?, readWithin?, tokens?]
  rcases foldlM_step_of_blank h with hrun | hrun <;>
    rw [hrun] <;>
      rfl

theorem visible_of_read? {s : String} {j : Json} (h : read? s = some j) :
    Text.Visible s.toList := by
  rw [← Text.blank_eq_false_iff]
  cases hblank : Text.blank s with
  | false =>
      rfl
  | true =>
      rw [read?_of_blank hblank] at h
      cases h

end Json
end RecordQuery
