import Pressroom.Proofs.SlugReservation

/-!
Reserving a slug, one probe of the index at a time. Nothing in the loop bounds it, and the number
that it appends is signed and has 32 bits; that it ends, and ends before the number overflows,
follows from the size of the index. Main statement: how many probes it takes, which slug it claims,
and that this is what `Store.reserveSlug` returns.
-/

set_option autoImplicit false
set_option relaxedAutoImplicit false

namespace Pressroom.Content

namespace Store

private theorem lookup_claimSlug {s : Store} {slug : String} (h : slug ∉ s.slugs.map Prod.fst)
    (id key : String) :
    (s.claimSlug slug id).slugs.lookup key =
      if key = slug then some id else s.slugs.lookup key := by
  rw [claimSlug, List.lookup_append, List.lookup_cons, List.lookup_nil]
  by_cases hkey : key = slug
  · have hnone : s.slugs.lookup slug = none := by
      rw [List.lookup_eq_none_iff]
      intro entry hentry
      rw [bne_iff_ne]
      rintro rfl
      exact h (List.mem_map_of_mem hentry)
    rw [if_pos hkey, hkey, hnone, beq_self_eq_true]
    rfl
  · have hbeq : (key == slug) = false := by simpa using hkey
    rw [if_neg hkey, hbeq]
    exact Option.or_none

/-- A reservation ends after at most one probe more than the index has entries. Until then every
probe finds its candidate taken and the number grows by one without overflowing; the last one claims
the first of the candidates that is free. The index gains that entry and keeps the others. -/
theorem reserveSlug_claims_first_free (s : Store) (base id b : String)
    (hb : b = if base = "" then "post" else base) (hsize : s.slugs.length ≤ 2 ^ 31 - 3) :
    ∃ (probes : Nat) (slug : String) (s' : Store), probes ≤ s.slugs.length + 1 ∧
      (∀ k < probes, ∃ (candidate : String) (suffix : Int32), suffix.toInt = k + 2 ∧
        candidate = (if k = 0 then b else s!"{b}-{k + 1}") ∧
        Reservation.after s base id k = (.trying candidate suffix, s)) ∧
      Reservation.after s base id probes = (.holding slug, s') ∧
      s.reserveSlug base id = some (slug, s') ∧
      slug ∉ s.slugs.map Prod.fst ∧
      (probes = 1 ∧ slug = b ∨
        2 ≤ probes ∧ slug = s!"{b}-{probes}" ∧ b ∈ s.slugs.map Prod.fst ∧
          ∀ j, 2 ≤ j → j < probes → s!"{b}-{j}" ∈ s.slugs.map Prod.fst) ∧
      s' = { s with slugs := s.slugs ++ [(slug, id)] } ∧
      ∀ key, s'.slugs.lookup key = if key = slug then some id else s.slugs.lookup key := by
  have hstem : b = Slug.stem base := hb
  subst hstem
  obtain ⟨j, hfree, htaken⟩ := Slug.exists_first_free (s.slugs.map Prod.fst) (Slug.stem base)
  have hj : j ≤ s.slugs.length := by simpa using Slug.le_length_of_taken htaken
  refine ⟨j + 1, Slug.candidate (Slug.stem base) j, s.claimSlug _ id, by omega, ?_,
    Reservation.after_succ_of_free id (by omega) htaken hfree,
    reserveSlug_of_first_free id (by omega) htaken hfree, hfree, ?_, rfl,
    lookup_claimSlug hfree id⟩
  · intro k hk
    refine ⟨Slug.candidate (Slug.stem base) k, Int32.ofNat (k + 2), ?_, ?_, ?_⟩
    · rw [Int32.toInt_ofNat_of_lt (by omega)]
      rfl
    · cases k with
      | zero => rfl
      | succ k => rfl
    · exact Reservation.after_of_taken id (by omega) fun i hi => htaken i (by omega)
  · cases j with
    | zero => exact Or.inl ⟨rfl, rfl⟩
    | succ j =>
      refine Or.inr ⟨by omega, rfl, htaken 0 (by omega), ?_⟩
      intro i hi hij
      obtain ⟨i, rfl⟩ := Nat.exists_eq_add_of_le' hi
      exact htaken (i + 1) (by omega)

/-- A store in whose index other titles have taken numbered slugs. -/
def numberedTitles : Store :=
  { Store.empty with slugs := [("same-2", "b"), ("same", "a"), ("same-4", "d")] }

theorem reserveSlug_claims_first_free_numberedTitles :
    numberedTitles.slugs.length ≤ 2 ^ 31 - 3 ∧
    ∃ s', numberedTitles.reserveSlug "same" "c" = some ("same-3", s') ∧
      Reservation.after numberedTitles "same" "c" 3 = (.holding "same-3", s') ∧
      s'.slugs.lookup "same-3" = some "c" ∧ s'.slugs.lookup "same-4" = some "d" := by
  have hsize : numberedTitles.slugs.length ≤ 2 ^ 31 - 3 := by decide
  obtain ⟨probes, slug, s', hprobes, -, hafter, hreserve, hfree, hfirst, -, hlookup⟩ :=
    reserveSlug_claims_first_free numberedTitles "same" "c" "same" rfl hsize
  have hthree : probes = 3 ∧ slug = "same-3" := by
    have hkeys : numberedTitles.slugs.map Prod.fst = ["same-2", "same", "same-4"] := rfl
    rw [hkeys] at hfree hfirst
    have hlength : numberedTitles.slugs.length = 3 := rfl
    rcases hfirst with ⟨-, rfl⟩ | ⟨htwo, rfl, -, -⟩
    · exact absurd hfree (by decide)
    · have hcases : probes = 2 ∨ probes = 3 ∨ probes = 4 := by omega
      rcases hcases with rfl | rfl | rfl
      · exact absurd hfree (by decide)
      · exact ⟨rfl, rfl⟩
      · exact absurd hfree (by decide)
  obtain ⟨rfl, rfl⟩ := hthree
  exact ⟨hsize, s', hreserve, hafter, by rw [hlookup]; rfl, by rw [hlookup]; rfl⟩

end Store

end Pressroom.Content
