namespace SqlClient

structure Keyed (κ α : Type) where
  entries : List (κ × α)
  nodup : (entries.map Prod.fst).Nodup
deriving Repr

namespace Keyed

variable {κ α : Type}

def empty : Keyed κ α := ⟨[], List.nodup_nil⟩

instance : Inhabited (Keyed κ α) := ⟨empty⟩

def size (m : Keyed κ α) : Nat :=
  m.entries.length

def keys (m : Keyed κ α) : List κ :=
  m.entries.map Prod.fst

variable [DecidableEq κ]

def get? (m : Keyed κ α) (k : κ) : Option α :=
  (m.entries.find? fun e => e.1 = k).map (·.2)

def contains (m : Keyed κ α) (k : κ) : Bool :=
  (m.get? k).isSome

def erase (m : Keyed κ α) (k : κ) : Keyed κ α where
  entries := m.entries.filter fun e => e.1 ≠ k
  nodup := m.nodup.sublist (List.filter_sublist.map Prod.fst)

def put (m : Keyed κ α) (k : κ) (a : α) : Keyed κ α where
  entries := (k, a) :: (m.erase k).entries
  nodup := by
    rw [List.map_cons, List.nodup_cons]
    exact ⟨by simp [erase], (m.erase k).nodup⟩

def changeEntry (k : κ) (f : α → α) (e : κ × α) : κ × α :=
  (e.1, if e.1 = k then f e.2 else e.2)

def update (m : Keyed κ α) (k : κ) (f : α → α) : Keyed κ α where
  entries := m.entries.map (changeEntry k f)
  nodup := by
    rw [List.map_map]
    exact m.nodup

def set (m : Keyed κ α) (k : κ) (a : Option α) : Keyed κ α :=
  match a with
  | some a => m.put k a
  | none => m.erase k

theorem mem_keys_iff (m : Keyed κ α) (k : κ) : k ∈ m.keys ↔ m.contains k = true := by
  simp [keys, contains, get?, List.find?_isSome]

@[simp]
theorem get?_empty (k : κ) : (empty : Keyed κ α).get? k = none :=
  rfl

@[simp]
theorem get?_put_self (m : Keyed κ α) (k : κ) (a : α) : (m.put k a).get? k = some a := by
  simp [get?, put]

theorem get?_erase_self (m : Keyed κ α) (k : κ) : (m.erase k).get? k = none := by
  simp [get?, erase]

theorem get?_erase_of_ne (m : Keyed κ α) {k l : κ} (h : l ≠ k) :
    (m.erase k).get? l = m.get? l := by
  obtain ⟨entries, nodup⟩ := m
  simp only [get?, erase]
  clear nodup
  induction entries with
  | nil => rfl
  | cons e entries ih =>
    by_cases he : e.1 = k
    · simp_all [Ne.symm h]
    · by_cases hl : e.1 = l <;> simp_all

theorem get?_put_of_ne (m : Keyed κ α) {k l : κ} (a : α) (h : l ≠ k) :
    (m.put k a).get? l = m.get? l := by
  rw [← get?_erase_of_ne m h]
  simp [get?, put, Ne.symm h]

theorem get?_update_self (m : Keyed κ α) (k : κ) (f : α → α) :
    (m.update k f).get? k = (m.get? k).map f := by
  obtain ⟨entries, nodup⟩ := m
  simp only [get?, update]
  clear nodup
  induction entries with
  | nil => rfl
  | cons e entries ih => by_cases he : e.1 = k <;> simp_all [changeEntry]

theorem get?_update_of_ne (m : Keyed κ α) {k l : κ} (f : α → α) (h : l ≠ k) :
    (m.update k f).get? l = m.get? l := by
  obtain ⟨entries, nodup⟩ := m
  simp only [get?, update]
  clear nodup
  induction entries with
  | nil => rfl
  | cons e entries ih =>
    by_cases he : e.1 = k
    · simp_all [Ne.symm h, changeEntry]
    · by_cases hl : e.1 = l <;> simp_all [changeEntry]

theorem contains_put (m : Keyed κ α) (k l : κ) (a : α) :
    (m.put k a).contains l = (decide (l = k) || m.contains l) := by
  by_cases h : l = k
  · subst h
    simp [contains]
  · simp [contains, get?_put_of_ne m a h, h]

theorem contains_erase (m : Keyed κ α) (k l : κ) :
    (m.erase k).contains l = (!decide (l = k) && m.contains l) := by
  by_cases h : l = k
  · subst h
    simp [contains, get?_erase_self]
  · simp [contains, get?_erase_of_ne m h, h]

theorem contains_update (m : Keyed κ α) (k l : κ) (f : α → α) :
    (m.update k f).contains l = m.contains l := by
  by_cases h : l = k
  · subst h
    rw [contains, contains, get?_update_self, Option.isSome_map]
  · rw [contains, contains, get?_update_of_ne m f h]

end Keyed

end SqlClient
