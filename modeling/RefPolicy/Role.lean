import RefPolicy.Naming

/-!
# RefPolicy.Role

Project roles.  They form a chain, `noAccess < guest < … < owner`; `level`
is the numeric weight each role is reported with, and the order on roles is
the order of their levels.
-/

namespace RefPolicy

/-- What an actor may at most do in a project. -/
inductive Role where
  | noAccess
  | guest
  | reporter
  | developer
  | maintainer
  | owner
  deriving DecidableEq

namespace Role

/-- The weight of a role; steps of ten leave room between neighbours. -/
def level : Role → Nat
  | noAccess => 0
  | guest => 10
  | reporter => 20
  | developer => 30
  | maintainer => 40
  | owner => 50

instance : Named Role where
  all := [noAccess, guest, reporter, developer, maintainer, owner]
  name
    | noAccess => "no_access"
    | guest => "guest"
    | reporter => "reporter"
    | developer => "developer"
    | maintainer => "maintainer"
    | owner => "owner"

instance : LE Role := ⟨fun a b => a.level ≤ b.level⟩
instance : LT Role := ⟨fun a b => a.level < b.level⟩

instance (a b : Role) : Decidable (a ≤ b) := inferInstanceAs (Decidable (a.level ≤ b.level))
instance (a b : Role) : Decidable (a < b) := inferInstanceAs (Decidable (a.level < b.level))

instance : Ord Role := ⟨fun a b => compare a.level b.level⟩

theorem lt_iff {a b : Role} : a < b ↔ a.level < b.level := Iff.rfl

theorem name_inj {role other : Role} : name role = name other ↔ role = other := by
  cases role <;> cases other <;> decide

/-- A role is read back from its name. -/
@[simp] theorem ofName?_name (role : Role) : Named.ofName? (name role) = some role :=
  Named.ofName?_name (fun a => by cases a <;> decide)
    (fun a b => by cases a <;> cases b <;> decide) role

/-- Read a role name. -/
def parse (text : String) : Except UnknownName Role :=
  (Named.ofName? text).elim (.error (.role text)) .ok

end Role

end RefPolicy
