import RecordQuery.Query.Vocabulary.Operators
import RecordQuery.Query.Vocabulary.Tables
import RecordQuery.Query.Vocabulary.Tags

/-!
# Names of vocabularies

No member of a vocabulary answers to the name of another one that is listed before
it, so a written name is read as the member that was written.
-/

namespace RecordQuery

/-- A vocabulary in which every member is found under its own name. -/
class ReadableNames (α : Type) [Named α] : Prop where
  find?_name : forall a : α, Named.find? (Named.name a) = some a

namespace Named

variable {α : Type} [Named α] [ReadableNames α]

theorem parse_name (a : α) : parse (name a) = .ok a := by
  rw [parse, ReadableNames.find?_name]

theorem ofJson_name (a : α) : ofJson (.string (name a)) = .ok a :=
  parse_name a

theorem ofJson_toJson (a : α) : ofJson (toJson a) = .ok a :=
  ofJson_name a

end Named

instance : ReadableNames BinaryOperator where
  find?_name := by
    intro op
    cases op <;>
      decide

instance : ReadableNames UnaryOperator where
  find?_name := by
    intro op
    cases op <;>
      decide

instance : ReadableNames CompoundOperator where
  find?_name := by
    intro op
    cases op <;>
      decide

instance : ReadableNames JoinOperator where
  find?_name := by
    intro op
    cases op <;>
      decide

instance : ReadableNames SearchOperator where
  find?_name := by
    intro op
    cases op <;>
      decide

instance : ReadableNames SystemTable where
  find?_name := by
    intro t
    cases t <;>
      decide

instance : ReadableNames DatabaseTable where
  find?_name := by
    intro t
    cases t <;>
      decide

instance : ReadableNames ExpressionType where
  find?_name := by
    intro type
    cases type <;>
      decide

instance : ReadableNames SourceType where
  find?_name := by
    intro type
    cases type <;>
      decide

instance : ReadableNames ConstraintType where
  find?_name := by
    intro type
    cases type <;>
      decide

instance : ReadableNames Direction where
  find?_name := by
    intro direction
    cases direction <;>
      decide

namespace Table

/-- No table of a database goes by the name of a system table. -/
theorem find?_databaseTable_name (t : DatabaseTable) :
    (Named.find? t.name : Option SystemTable) = none := by
  cases t <;>
    decide

theorem parse_name (t : Table) : parse t.name = .ok t := by
  cases t with
  | system t =>
      have hfound : (Named.find? t.name : Option SystemTable) = some t :=
        ReadableNames.find?_name t
      rw [name, parse, hfound]
  | database t =>
      have hfound : (Named.find? t.name : Option DatabaseTable) = some t :=
        ReadableNames.find?_name t
      rw [name, parse, find?_databaseTable_name, hfound]

end Table
end RecordQuery
