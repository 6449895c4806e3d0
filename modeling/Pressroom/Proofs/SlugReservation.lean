import Mathlib.Algebra.Group.Nat.Defs
import Mathlib.Data.List.Nodup
import Mathlib.Data.List.Perm.Subperm
import Mathlib.Data.Nat.Find
import Pressroom.Content.Store

/-!
The search for a free slug. The candidates of one base are pairwise different, so among one more of
them than there are slugs taken at least one is free; the search stops at the first, unless its
number overflows before. Main statements: what a reservation returns, and when it returns nothing.
-/

set_option autoImplicit false
set_option relaxedAutoImplicit false

namespace Pressroom.Slug

private theorem stem_ne_empty (base : String) : stem base ≠ "" := by
  unfold stem
  split
  · decide
  · assumption

/-- The candidates for a base, as many as one likes: the base itself, then with `-2`, `-3` and so
on. -/
def candidate (base : String) : Nat → String
  | 0 => base
  | n + 1 => s!"{base}-{n + 2}"

private theorem toList_candidate_succ (base : String) (n : Nat) :
    (candidate base (n + 1)).toList = base.toList ++ '-' :: (Nat.repr (n + 2)).toList := by
  simp [candidate, toString]

theorem candidate_injective (base : String) : Function.Injective (candidate base) := by
  have hlonger : ∀ n, candidate base 0 ≠ candidate base (n + 1) := by
    intro n h
    have hlist := congrArg String.toList h
    rw [toList_candidate_succ] at hlist
    have hlength := congrArg List.length hlist
    simp only [candidate, List.length_append, List.length_cons] at hlength
    omega
  intro m n h
  cases m with
  | zero =>
    cases n with
    | zero => rfl
    | succ n => exact absurd h (hlonger n)
  | succ m =>
    cases n with
    | zero => exact absurd h.symm (hlonger m)
    | succ n =>
      have hlist := congrArg String.toList h
      rw [toList_candidate_succ, toList_candidate_succ] at hlist
      have htail := List.append_cancel_left hlist
      have hnumber := congrArg (Nat.ofDigitChars 10 · 0) (List.cons.inj htail).2
      simp only [Nat.toList_repr, Nat.ofDigitChars_ten_toDigits] at hnumber
      omega

private theorem candidate_ne_empty {base : String} (h : base ≠ "") (k : Nat) :
    candidate base k ≠ "" := by
  cases k with
  | zero => exact h
  | succ k =>
    intro he
    have hlist := congrArg String.toList he
    rw [toList_candidate_succ] at hlist
    simp at hlist

theorem le_length_of_taken {taken : List String} {base : String} {k : Nat}
    (h : ∀ i < k, candidate base i ∈ taken) : k ≤ taken.length := by
  have hnodup : ((List.range k).map (candidate base)).Nodup :=
    List.nodup_range.map (candidate_injective base)
  have hsubset : (List.range k).map (candidate base) ⊆ taken := by
    intro slug hslug
    obtain ⟨i, hi, rfl⟩ := List.mem_map.1 hslug
    exact h i (List.mem_range.1 hi)
  simpa using (List.subperm_of_subset hnodup hsubset).length_le

theorem exists_first_free (taken : List String) (base : String) :
    ∃ k, candidate base k ∉ taken ∧ ∀ i < k, candidate base i ∈ taken := by
  have hfree : ∃ k, candidate base k ∉ taken := by
    by_contra hnone
    push Not at hnone
    have hlength := le_length_of_taken (k := taken.length + 1) fun i _ => hnone i
    omega
  exact ⟨Nat.find hfree, Nat.find_spec hfree, fun i hi => not_not.1 (Nat.find_min hfree hi)⟩

end Pressroom.Slug

namespace Pressroom.Content

namespace Reservation

private theorem toString_ofNat {n : Nat} (h : n < 2 ^ 31) :
    toString (Int32.ofNat n) = toString n := by
  have hint : (Int32.ofNat n).toInt = n := Int32.toInt_ofNat_of_lt h
  change toString (Int32.ofNat n).toInt = toString n
  rw [hint]
  rfl

private theorem ofNat_ne_maxValue {n : Nat} (h : n < 2 ^ 31 - 1) :
    Int32.ofNat n ≠ Int32.maxValue := by
  intro heq
  have hint : (Int32.ofNat n).toInt = n := Int32.toInt_ofNat_of_lt (by omega)
  rw [heq] at hint
  have hmax : Int32.maxValue.toInt = 2147483647 := by decide
  omega

variable {s : Store} {base id : String} {k n : Nat}

theorem after_of_taken (id : String) (hk : k ≤ 2 ^ 31 - 3)
    (htaken : ∀ i < k, Slug.candidate (Slug.stem base) i ∈ s.slugs.map Prod.fst) :
    after s base id k =
      (.trying (Slug.candidate (Slug.stem base) k) (Int32.ofNat (k + 2)), s) := by
  induction k with
  | zero => rfl
  | succ k ih =>
    -- the number stays below its last value, so it is printed as it is and moves on by one
    have hnext : s!"{Slug.stem base}-{Int32.ofNat (k + 2)}" =
        Slug.candidate (Slug.stem base) (k + 1) := by
      rw [Slug.candidate, toString_ofNat (by omega)]
    have hnumber : Int32.ofNat (k + 2) + 1 = Int32.ofNat (k + 1 + 2) := by
      rw [Nat.add_right_comm k 1 2, Int32.ofNat_add (k + 2) 1]
      rfl
    rw [after, ih (by omega) fun i hi => htaken i (by omega)]
    rw [probe, if_pos (htaken k (by omega)), if_neg (ofNat_ne_maxValue (by omega)), hnext, hnumber]

theorem after_succ_of_free (id : String) (hk : k ≤ 2 ^ 31 - 3)
    (htaken : ∀ i < k, Slug.candidate (Slug.stem base) i ∈ s.slugs.map Prod.fst)
    (hfree : Slug.candidate (Slug.stem base) k ∉ s.slugs.map Prod.fst) :
    after s base id (k + 1) = (.holding (Slug.candidate (Slug.stem base) k),
      s.claimSlug (Slug.candidate (Slug.stem base) k) id) := by
  rw [after, after_of_taken id hk htaken, probe, if_neg hfree]

theorem after_of_exhausted (id : String)
    (htaken : ∀ i < 2 ^ 31 - 2, Slug.candidate (Slug.stem base) i ∈ s.slugs.map Prod.fst) :
    after s base id (2 ^ 31 - 3 + 1) = (.overflowed, s) := by
  have hlast : Int32.ofNat (2 ^ 31 - 3 + 2) = Int32.maxValue := by decide
  rw [after, after_of_taken id (Nat.le_refl _) fun i hi => htaken i (by omega), probe,
    if_pos (htaken _ (by omega)), if_pos hlast]

private theorem after_of_ended {ended : Reservation × Store} (h : after s base id k = ended)
    (hended : probe (Slug.stem base) id ended = ended) (hkn : k ≤ n) :
    after s base id n = ended := by
  induction hkn with
  | refl => exact h
  | step _ ih => rw [after, ih, hended]

end Reservation

namespace Store

/-- All slugs that a reservation for a base can try before its number overflows are taken. -/
def Exhausted (s : Store) (base : String) : Prop :=
  ∀ k < 2 ^ 31 - 2, Slug.candidate (Slug.stem base) k ∈ s.slugs.map Prod.fst

/-- What is known when a slug has been reserved: it is the first candidate that was free, and the
index has gained it. -/
structure Reserved (s : Store) (base id slug : String) (s' : Store) : Prop where
  first_free : ∃ k ≤ 2 ^ 31 - 3, slug = Slug.candidate (Slug.stem base) k ∧
    ∀ i < k, Slug.candidate (Slug.stem base) i ∈ s.slugs.map Prod.fst
  not_mem : slug ∉ s.slugs.map Prod.fst
  store_eq : s' = s.claimSlug slug id

variable {s s' : Store} {base id slug : String} {k : Nat}

theorem Exhausted.le_length (h : s.Exhausted base) : 2 ^ 31 - 2 ≤ s.slugs.length := by
  simpa using Slug.le_length_of_taken h

theorem reserveSlug_of_first_free (id : String) (hk : k ≤ 2 ^ 31 - 3)
    (htaken : ∀ i < k, Slug.candidate (Slug.stem base) i ∈ s.slugs.map Prod.fst)
    (hfree : Slug.candidate (Slug.stem base) k ∉ s.slugs.map Prod.fst) :
    s.reserveSlug base id = some (Slug.candidate (Slug.stem base) k,
      s.claimSlug (Slug.candidate (Slug.stem base) k) id) := by
  have hlength : k ≤ s.slugs.length := by simpa using Slug.le_length_of_taken htaken
  rw [reserveSlug, Reservation.after_of_ended
    (Reservation.after_succ_of_free id hk htaken hfree) rfl (by omega)]

theorem reserveSlug_of_exhausted (id : String) (h : s.Exhausted base) :
    s.reserveSlug base id = none := by
  have hlength := h.le_length
  rw [reserveSlug, Reservation.after_of_ended
    (Reservation.after_of_exhausted id h) rfl (by omega)]

/-- A reservation claims the first candidate that is free, or its number overflows because all that
it can try are taken. -/
theorem exhausted_or_reserved (s : Store) (base id : String) :
    (s.Exhausted base ∧ s.reserveSlug base id = none) ∨
      ∃ slug s', s.reserveSlug base id = some (slug, s') ∧ Reserved s base id slug s' := by
  obtain ⟨k, hfree, htaken⟩ := Slug.exists_first_free (s.slugs.map Prod.fst) (Slug.stem base)
  by_cases hk : k ≤ 2 ^ 31 - 3
  · exact .inr ⟨_, _, reserveSlug_of_first_free id hk htaken hfree,
      ⟨⟨k, hk, rfl, htaken⟩, hfree, rfl⟩⟩
  · have hexhausted : s.Exhausted base := fun i hi => htaken i (by omega)
    exact .inl ⟨hexhausted, reserveSlug_of_exhausted id hexhausted⟩

theorem reserveSlug_eq_none_iff : s.reserveSlug base id = none ↔ s.Exhausted base := by
  refine ⟨fun hnone => ?_, reserveSlug_of_exhausted id⟩
  rcases exhausted_or_reserved s base id with ⟨h, -⟩ | ⟨_, _, hsome, -⟩
  · exact h
  · rw [hnone] at hsome
    cases hsome

theorem reserved_of_reserveSlug (h : s.reserveSlug base id = some (slug, s')) :
    Reserved s base id slug s' := by
  rcases exhausted_or_reserved s base id with ⟨-, hnone⟩ | ⟨_, _, hsome, hreserved⟩
  · rw [hnone] at h
    cases h
  · rw [hsome] at h
    cases h
    exact hreserved

theorem Reserved.slug_eq (h : Reserved s base id slug s')
    (htaken : ∀ i < k, Slug.candidate (Slug.stem base) i ∈ s.slugs.map Prod.fst)
    (hfree : Slug.candidate (Slug.stem base) k ∉ s.slugs.map Prod.fst) :
    slug = Slug.candidate (Slug.stem base) k := by
  have hnot := h.not_mem
  obtain ⟨j, -, rfl, hbefore⟩ := h.first_free
  rcases Nat.lt_trichotomy j k with hlt | rfl | hgt
  · exact absurd (htaken j hlt) hnot
  · rfl
  · exact absurd (hbefore k hgt) hfree

theorem Reserved.slug_ne_empty (h : Reserved s base id slug s') : slug ≠ "" := by
  obtain ⟨k, -, rfl, -⟩ := h.first_free
  exact Slug.candidate_ne_empty (Slug.stem_ne_empty base) k

end Store

end Pressroom.Content
