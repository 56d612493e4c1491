/-!
Truth in SQL: true, false or unknown.
-/

namespace PagedFilter.Table

/-- A truth value; none is unknown. -/
abbrev Truth := Option Bool

namespace Truth

/-- False as soon as one side is, and true if both are. -/
def and : Truth → Truth → Truth
  | some false, _ => some false
  | _, some false => some false
  | some true, some true => some true
  | _, _ => none

/-- True as soon as one side is, and false if both are. -/
def or : Truth → Truth → Truth
  | some true, _ => some true
  | _, some true => some true
  | some false, some false => some false
  | _, _ => none

def not (a : Truth) : Truth := a.map (!·)

theorem and_comm (a b : Truth) : and a b = and b a := by
  rcases a with _ | _ | _ <;> rcases b with _ | _ | _ <;> rfl

theorem or_comm (a b : Truth) : or a b = or b a := by
  rcases a with _ | _ | _ <;> rcases b with _ | _ | _ <;> rfl

theorem and_assoc (a b c : Truth) : and (and a b) c = and a (and b c) := by
  rcases a with _ | _ | _ <;> rcases b with _ | _ | _ <;> rcases c with _ | _ | _ <;> rfl

theorem or_assoc (a b c : Truth) : or (or a b) c = or a (or b c) := by
  rcases a with _ | _ | _ <;> rcases b with _ | _ | _ <;> rcases c with _ | _ | _ <;> rfl

theorem true_and (a : Truth) : and (some true) a = a := by rcases a with _ | _ | _ <;> rfl

theorem and_true (a : Truth) : and a (some true) = a := by rcases a with _ | _ | _ <;> rfl

theorem false_or (a : Truth) : or (some false) a = a := by rcases a with _ | _ | _ <;> rfl

theorem or_false (a : Truth) : or a (some false) = a := by rcases a with _ | _ | _ <;> rfl

theorem and_or_distrib (a b c : Truth) : and a (or b c) = or (and a b) (and a c) := by
  rcases a with _ | _ | _ <;> rcases b with _ | _ | _ <;> rcases c with _ | _ | _ <;> rfl

theorem not_not (a : Truth) : not (not a) = a := by rcases a with _ | _ | _ <;> rfl

theorem not_and (a b : Truth) : not (and a b) = or (not a) (not b) := by
  rcases a with _ | _ | _ <;> rcases b with _ | _ | _ <;> rfl

end Truth

end PagedFilter.Table
