/-!
Tables from names to values, in the order in which the names were first set. Setting or erasing
a name leaves the values under all other names as they are.
-/
namespace Gatehouse

abbrev Table (κ α : Type) := List (κ × α)

namespace Table
variable {κ α : Type} [DecidableEq κ]

def get? : Table κ α → κ → Option α
  | [], _ => none
  | (k, v) :: r, name => if k = name then some v else get? r name

/-- Replaces the value in place, or adds it at the end. -/
def set : Table κ α → κ → α → Table κ α
  | [], name, value => [(name, value)]
  | (k, v) :: r, name, value =>
    if k = name then (name, value) :: r else (k, v) :: set r name value

/-- A table from name-value pairs, the last of equal names winning. -/
def ofPairs (ps : List (κ × α)) : Table κ α := ps.foldl (fun t p => set t p.1 p.2) []

def erase : Table κ α → κ → Table κ α
  | [], _ => []
  | (k, v) :: r, name => if k = name then erase r name else (k, v) :: erase r name

@[simp] theorem get?_set_self (t : Table κ α) (name : κ) (value : α) :
    get? (set t name value) name = some value := by
  induction t with
  | nil => simp [set, get?]
  | cons p r ih =>
    obtain ⟨k, v⟩ := p
    by_cases h : k = name <;> simp [set, get?, h, ih]

theorem get?_set_of_ne {t : Table κ α} {name other : κ} {value : α} (h : other ≠ name) :
    get? (set t name value) other = get? t other := by
  induction t with
  | nil => simp [set, get?, h.symm]
  | cons p r ih =>
    obtain ⟨k, v⟩ := p
    by_cases hk : k = name
    · subst hk
      simp [set, get?, Ne.symm h]
    · simp [set, get?, hk, ih]

theorem set_of_not_mem {t : Table κ α} {name : κ} {value : α}
    (h : name ∉ t.map (·.1)) : set t name value = t ++ [(name, value)] := by
  induction t with
  | nil => rfl
  | cons p r ih =>
    obtain ⟨k, v⟩ := p
    simp only [List.map_cons, List.mem_cons, not_or] at h
    simp [set, Ne.symm h.1, ih h.2]

end Table

end Gatehouse
