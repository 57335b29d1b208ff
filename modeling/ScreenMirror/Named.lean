/-!
# Named values

Finitely many values that are written by name, in configurations and reports.
A value that is found by a name has it: `name_of_find?_eq_some`.
-/

namespace ScreenMirror

/-- Types whose values have names. -/
class Named (α : Type) where
  values : List α
  name : α → String

/-- The value with a name, if there is one among the given ones. -/
def Named.find? {α : Type} [Named α] (among : List α) (name : String) : Option α :=
  among.find? fun a => Named.name a == name

theorem Named.name_of_find?_eq_some {α : Type} [Named α] {among : List α} {name : String} {a : α}
    (h : Named.find? among name = some a) : Named.name a = name := by
  simpa using List.find?_some h

end ScreenMirror
