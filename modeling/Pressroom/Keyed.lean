/-!
Lists of values under keys, each key once. A value that is put under a key goes to the end and takes
the place of the one before; the other keys keep theirs.
-/

set_option autoImplicit false
set_option relaxedAutoImplicit false

namespace Pressroom.Keyed

variable {κ α : Type} [BEq κ]

def drop (key : κ) (entries : List (κ × α)) : List (κ × α) :=
  entries.filter (fun e => e.1 != key)

def put (key : κ) (value : α) (entries : List (κ × α)) : List (κ × α) :=
  drop key entries ++ [(key, value)]

variable [LawfulBEq κ]

@[simp] theorem lookup_drop_self (key : κ) (entries : List (κ × α)) :
    (drop key entries).lookup key = none := by
  induction entries with
  | nil => rfl
  | cons e entries ih =>
    obtain ⟨k, v⟩ := e
    by_cases h : k = key
    · subst h
      simpa [drop] using ih
    · have hk : (key == k) = false := by simpa using fun e => h e.symm
      have hd : drop key ((k, v) :: entries) = (k, v) :: drop key entries := by simp [drop, h]
      rw [hd, List.lookup_cons, hk]
      exact ih

theorem lookup_drop_of_ne {key other : κ} (h : other ≠ key) (entries : List (κ × α)) :
    (drop key entries).lookup other = entries.lookup other := by
  induction entries with
  | nil => rfl
  | cons e entries ih =>
    obtain ⟨k, v⟩ := e
    by_cases hk : k = key
    · subst hk
      have hd : drop k ((k, v) :: entries) = drop k entries := by simp [drop]
      have ho : (other == k) = false := by simpa using h
      rw [hd, ih, List.lookup_cons, ho]
    · have hd : drop key ((k, v) :: entries) = (k, v) :: drop key entries := by simp [drop, hk]
      rw [hd, List.lookup_cons, List.lookup_cons, ih]

@[simp] theorem lookup_put_self (key : κ) (value : α) (entries : List (κ × α)) :
    (put key value entries).lookup key = some value := by
  simp [put, List.lookup_append]

theorem lookup_put_of_ne {key other : κ} (h : other ≠ key) (value : α)
    (entries : List (κ × α)) : (put key value entries).lookup other = entries.lookup other := by
  have ho : (other == key) = false := by simpa using h
  rw [put, List.lookup_append, lookup_drop_of_ne h, List.lookup_cons, ho]
  exact Option.or_none

end Pressroom.Keyed
