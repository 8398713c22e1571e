import RecordQuery.DataType.Writing
import RecordQuery.Proofs.DataType.Conversion

/-!
# Reading is a projection

What was read into a type reads as itself there, and is written like the value that it
was read from.  Except for clock readings and their dates it is an instance of the type.
-/

namespace RecordQuery

/-!
# Collections
-/

namespace DataType

variable {t : DataType} {item : BaseType} {v w : Value} {vs ws : List Value}

theorem exists_of_mem_readItems (h : readItems item vs = .ok ws) (hw : w ∈ ws) :
    exists v, v ∈ vs ∧ item.read v = .ok (some w) := by
  induction vs generalizing ws with
  | nil =>
      cases h
      cases hw
  | cons v vs ih =>
      simp only [readItems, bind_eq_ok] at h
      rcases h with ⟨first, hfirst, rest, hrest, ⟨⟩⟩
      rcases List.mem_append.mp hw with hw | hw
      · rw [Option.mem_toList.mp hw] at hfirst
        exact ⟨v, List.mem_cons_self, hfirst⟩
      · rcases ih hrest hw with ⟨u, hu, hread⟩
        exact ⟨u, List.mem_cons_of_mem v hu, hread⟩

theorem readItems_self (h : forall w, w ∈ ws -> item.read w = .ok (some w)) :
    readItems item ws = .ok ws := by
  induction ws with
  | nil =>
      rfl
  | cons w ws ih =>
      rw [readItems, h w List.mem_cons_self, ih fun u hu => h u (List.mem_cons_of_mem w hu)]
      rfl

theorem freeOfJsonStrings_of_itemsOf? (hv : v.FreeOfJsonStrings) (h : itemsOf? v = some vs)
    (hw : w ∈ vs) :
    w.FreeOfJsonStrings := by
  unfold itemsOf? at h
  split at h
  · cases h
    exact hv.of_mem hw
  · cases h
    exact Value.freeOfJsonStrings_of_mem_ofItems _ hw
  · split at h
    · cases h
      exact Value.freeOfJsonStrings_of_mem_ofItems _ hw
    · cases h
  · cases h

theorem readCollection_cases (h : t.readCollection item v = .ok (some w)) :
    t.isInstance v = true ∧ v = w ∨
      exists vs ws, itemsOf? v = some vs ∧ readItems item vs = .ok ws ∧ w = .list ws := by
  rw [readCollection] at h
  split at h
  · cases h
  · split at h
    · cases h
      exact .inl ⟨‹_›, rfl⟩
    · split at h
      · rename_i vs hitems
        rcases map_eq_ok.mp h with ⟨ws, hread, ⟨⟩⟩
        exact .inr ⟨vs, ws, hitems, hread, rfl⟩
      · cases h

theorem readCollection_list (h : forall w, w ∈ ws -> item.read w = .ok (some w)) :
    t.readCollection item (.list ws) = .ok (some (.list ws)) := by
  have hread : (readItems item ws).map (fun read => some (Value.list read)) =
      .ok (some (.list ws)) := by
    rw [readItems_self h]
    rfl
  unfold readCollection
  cases t.isInstance (.list ws) with
  | true =>
      rfl
  | false =>
      exact hread

theorem read_eq_readCollection (ht : t.itemType? = some item) (v : Value) :
    t.read v = t.readCollection item v := by
  cases t with
  | base b =>
      cases ht
  | list b | set b =>
      cases ht
      rfl

theorem isInstance_list (ht : t.itemType? = some item) (ws : List Value) :
    t.isInstance (.list ws) = ws.all item.isInstance := by
  cases t with
  | base b =>
      cases ht
  | list b | set b =>
      cases ht
      rfl

theorem isResult_of_mem (ht : t.itemType? = some item) (h : t.read v = .ok (some (.list ws)))
    (hw : w ∈ ws) :
    item.IsResult w := by
  rw [read_eq_readCollection ht] at h
  rcases readCollection_cases h with ⟨hlist, rfl⟩ | ⟨vs, us, _, hitems, ⟨⟩⟩
  · rw [isInstance_list ht, List.all_eq_true] at hlist
    exact .inl (hlist w hw)
  · rcases exists_of_mem_readItems hitems hw with ⟨u, _, hu⟩
    exact item.isResult_of_read hu

theorem read_of_readCollection (ht : t.itemType? = some item) (hv : v.FreeOfJsonStrings)
    (h : t.read v = .ok (some w)) :
    t.read w = .ok (some w) ∧ (item.kind.isLocal = false -> t.isInstance w = true) := by
  rw [read_eq_readCollection ht] at h
  rcases readCollection_cases h with ⟨hinstance, rfl⟩ | ⟨vs, ws, hitems, hread, rfl⟩
  · rw [read_eq_readCollection ht]
    exact ⟨h, fun _ => hinstance⟩
  · have heach : forall w, w ∈ ws -> item.read w = .ok (some w) ∧
        (item.kind.isLocal = false -> item.isInstance w = true) := by
      intro w hw
      rcases exists_of_mem_readItems hread hw with ⟨u, hu, hreadItem⟩
      exact item.read_of_read (freeOfJsonStrings_of_itemsOf? hv hitems hu) hreadItem
    rw [read_eq_readCollection ht, isInstance_list ht, List.all_eq_true]
    exact ⟨readCollection_list fun w hw => (heach w hw).left,
      fun hlocal w hw => (heach w hw).right hlocal⟩

/-!
# All types
-/

def isLocal : DataType -> Bool
  | .base t | .list t | .set t => t.kind.isLocal

theorem format_congr (h : t.read v = t.read w) (opts : FormatOptions) :
    t.format opts v = t.format opts w := by
  cases t with
  | base b =>
      have h : b.read v = b.read w := h
      rw [format, format, BaseType.format, BaseType.format, h]
  | list b | set b =>
      rw [format, format, formatCollection, formatCollection, h]

theorem read_of_read (hv : v.FreeOfJsonStrings) (h : t.read v = .ok (some w)) :
    t.read w = .ok (some w) ∧ (t.isLocal = false -> t.isInstance w = true) := by
  cases t with
  | base b =>
      exact b.read_of_read hv h
  | list b =>
      exact read_of_readCollection rfl hv h
  | set b =>
      exact read_of_readCollection rfl hv h

/-- Reading is a projection onto what reads as itself, and writing does not tell a value from
its projection. -/
theorem read_projection (hv : v.FreeOfJsonStrings) (h : t.read v = .ok (some w)) :
    t.read w = .ok (some w) ∧ (forall opts, t.format opts v = t.format opts w) ∧
      (t.isLocal = false -> t.isInstance w = true) := by
  rcases read_of_read hv h with ⟨hself, hinstance⟩
  exact ⟨hself, format_congr (h.trans hself.symm), hinstance⟩

end DataType

namespace Sample

def localDates : DataType :=
  .list ⟨"localdate", .localDate⟩

def shortTexts : DataType :=
  .set ⟨"utf8string(32)", .utf8String 32⟩

def readings : Value :=
  .list [.string " +12345-06-07T08:09:10", .null]

def readingDates : Value :=
  .list [.string "+12345-06-07"]

def readingTexts : Value :=
  .list [.string "+12345-06-07T08:09:10"]

theorem freeOfJsonStrings_readings : readings.FreeOfJsonStrings := by
  intro d hd
  cases hd with
  | self =>
      exact fun _ => Value.noConfusion
  | item hmem hd =>
      rcases List.mem_pair.mp hmem with rfl | rfl
      · cases hd
        exact fun _ => Value.noConfusion
      · cases hd
        exact fun _ => Value.noConfusion

theorem read_projection_readings :
    readings.FreeOfJsonStrings ∧
      localDates.read readings = .ok (some readingDates) ∧
      localDates.read readingDates = .ok (some readingDates) ∧
      shortTexts.read readings = .ok (some readingTexts) ∧
      shortTexts.format FormatOptions.plain readings =
        shortTexts.format FormatOptions.plain readingTexts ∧
      shortTexts.isInstance readingTexts = true := by
  have hdates : localDates.read readings = .ok (some readingDates) := rfl
  have htexts : shortTexts.read readings = .ok (some readingTexts) := rfl
  rcases DataType.read_projection freeOfJsonStrings_readings hdates with ⟨hself, _⟩
  rcases DataType.read_projection freeOfJsonStrings_readings htexts with ⟨_, hformat, hinstance⟩
  exact ⟨freeOfJsonStrings_readings, hdates, hself, htexts, hformat _, hinstance rfl⟩

end Sample
end RecordQuery
