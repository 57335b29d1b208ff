/-!
# Tables by name

Values under names, at most one for each name.  `find?_insert`, `find?_erase` and
`find?_keep` say what a table holds after a change.
-/

namespace ScreenMirror

/-- Values under names. -/
structure IdTable (α : Type) where
  entries : List (UInt64 × α) := []

namespace IdTable

variable {α : Type}

instance : Inhabited (IdTable α) := ⟨{}⟩

def find? (t : IdTable α) (id : UInt64) : Option α := t.entries.lookup id

def erase (t : IdTable α) (id : UInt64) : IdTable α :=
  ⟨t.entries.filter fun entry => entry.1 != id⟩

def insert (t : IdTable α) (id : UInt64) (a : α) : IdTable α := ⟨(id, a) :: (t.erase id).entries⟩

def modify (t : IdTable α) (id : UInt64) (f : α → α) : IdTable α :=
  ⟨t.entries.map fun entry => if entry.1 = id then (entry.1, f entry.2) else entry⟩

def mapValues (t : IdTable α) (f : α → α) : IdTable α :=
  ⟨t.entries.map fun entry => (entry.1, f entry.2)⟩

def keep (t : IdTable α) (p : UInt64 → Bool) : IdTable α :=
  ⟨t.entries.filter fun entry => p entry.1⟩

def ids (t : IdTable α) : List UInt64 := t.entries.map (·.1)

def values (t : IdTable α) : List α := t.entries.map (·.2)

theorem lookup_filter_ne (entries : List (UInt64 × α)) {id other : UInt64} (h : other ≠ id) :
    (entries.filter fun entry => entry.1 != id).lookup other = entries.lookup other := by
  induction entries with
  | nil => rfl
  | cons entry rest ih =>
    obtain ⟨key, a⟩ := entry
    by_cases hkey : key = id
    · have hother : (other == id) = false := by simpa using h
      simpa [List.lookup_cons, hkey, hother] using ih
    · simp [List.lookup_cons, hkey, ih]

theorem find?_insert (t : IdTable α) (id : UInt64) (a : α) : (t.insert id a).find? id = some a := by
  simp [insert, find?]

theorem find?_insert_of_ne (t : IdTable α) {id other : UInt64} (a : α) (h : other ≠ id) :
    (t.insert id a).find? other = t.find? other := by
  have hne : (other == id) = false := by simpa using h
  simp only [insert, find?, List.lookup_cons, hne]
  exact lookup_filter_ne t.entries h

theorem find?_erase_of_ne (t : IdTable α) {id other : UInt64} (h : other ≠ id) :
    (t.erase id).find? other = t.find? other :=
  lookup_filter_ne t.entries h

theorem find?_erase (t : IdTable α) (id : UInt64) : (t.erase id).find? id = none := by
  simp only [erase, find?, List.lookup_eq_none_iff]
  intro entry h
  have hne : entry.1 ≠ id := by simpa using (List.mem_filter.mp h).2
  exact bne_iff_ne.mpr hne.symm

theorem find?_keep (t : IdTable α) (p : UInt64 → Bool) (id : UInt64) :
    (t.keep p).find? id = if p id then t.find? id else none := by
  obtain ⟨entries⟩ := t
  show (entries.filter fun entry => p entry.1).lookup id = if p id then entries.lookup id else none
  induction entries with
  | nil => exact (ite_self none).symm
  | cons entry rest ih =>
    obtain ⟨key, a⟩ := entry
    by_cases same : id = key
    · subst same
      cases kept : p id <;> simp [kept, ih]
    · have other : (id == key) = false := by simpa using same
      cases kept : p key <;> simp [List.lookup_cons, kept, other, ih]

end IdTable

end ScreenMirror
