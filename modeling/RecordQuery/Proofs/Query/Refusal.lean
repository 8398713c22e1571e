import RecordQuery.Proofs.Query.Outcome

/-!
# What writing refuses

Writing refuses blank names and nothing else.  It meets them only where they are
written, so the columns and the source of a union do not matter, and both forms of a
component are refused with the same error.
-/

namespace RecordQuery
namespace Component

/-- A blank name of this fault is written at some depth of the component. -/
def RefusesWithin (c : Component) (fault : SpecifierFault) : Prop :=
  exists d, Below writtenChildren c d ∧ d.Refuses fault

variable {readable : Bool} {c : Component}

theorem not_sendable_iff :
    ¬ c.Sendable readable ↔ exists fault, c.RefusesWithin fault := by
  simp only [sendable_iff, EverywhereWritten, writable_iff_refuses_nothing]
  push Not
  constructor
  · rintro ⟨d, hd, fault, hfault⟩
    exact ⟨fault, d, hd, hfault⟩
  · rintro ⟨fault, d, hd, hfault⟩
    exact ⟨d, hd, fault, hfault⟩

theorem refusesWithin_of_encode {e : Error} (h : c.encode readable = .error e) :
    exists fault, c.RefusesWithin fault ∧ e = .specifier fault := by
  have hanything : Composable fun _ => True := by
    constructor <;>
      simp
  have hwrites : c.Writes readable (fun _ => True)
      (fun e => exists fault, c.RefusesWithin fault ∧ e = .specifier fault) := by
    apply writes_of_everywhereWritten hanything
    intro d hd
    constructor
    · simp
    · intro fault hfault
      exact ⟨fault, ⟨d, hd, hfault⟩, rfl⟩
  exact hwrites.of_error h

theorem encode_error_iff (c : Component) (e : Error) :
    c.encode true = .error e ↔ c.encode false = .error e := by
  have hanything : Congruence fun _ _ _ => True := by
    constructor <;>
      simp
  have hspecify : forall r : Reference, r.SpecifiedAlongside fun _ _ _ => True := by
    intro r
    cases r with
    | name text =>
        -- the form plays no part for a name, blank or not
        exact .same (fun _ => trivial) _
    | _ =>
        exact .ok trivial
  have hforms : c.WrittenAlongside fun _ _ _ => True :=
    writtenAlongside hanything fun d _ r _ => hspecify r
  exact hforms.error_iff e

/-- Writing fails exactly when a blank name is written at some depth, with the fault of such
a name, and both forms fail with the same error. -/
theorem encode_refuses (c : Component) :
    (forall readable, (exists e, c.encode readable = .error e) ↔
      exists fault, c.RefusesWithin fault) ∧
    (forall readable e, c.encode readable = .error e ->
      exists fault, c.RefusesWithin fault ∧ e = .specifier fault) ∧
    forall e, c.encode true = .error e ↔ c.encode false = .error e := by
  refine ⟨fun readable => ?_, fun readable e => refusesWithin_of_encode, encode_error_iff c⟩
  rw [exists_eq_error_iff]
  exact not_sendable_iff

theorem encode_refuses_taskColumn :
    (taskColumn " ").encode true = .error (.specifier .blankIdentifier) ∧
      (exists fault, (taskColumn " ").RefusesWithin fault ∧
        Error.specifier .blankIdentifier = .specifier fault) ∧
      (taskColumn " ").encode false = .error (.specifier .blankIdentifier) := by
  have herror : (taskColumn " ").encode true = .error (.specifier .blankIdentifier) := rfl
  rcases encode_refuses (taskColumn " ") with ⟨_, hfault, hboth⟩
  exact ⟨herror, hfault true _ herror, (hboth _).mp herror⟩

/-- The blank column of a union is not written, so it is not refused. -/
example : (Component.select { Select.limitedUnion with
    columns := [⟨⟨.column ⟨.system .task, " ", none⟩, none⟩, none⟩] }).encode false =
      .ok Select.limitedUnionJson := by
  rfl

end Component
end RecordQuery
