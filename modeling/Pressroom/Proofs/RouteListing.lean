import Mathlib.Data.List.Forall2
import Pressroom.Proofs.RouteResolution

/-!
The listing of a table. Locations are compared segment by segment, and what lies between two places
that begin with the same segments begins with them, too. Main statement: the listing of a compiled
manifest is strictly increasing and the same for every order of the entries, and every directory is
one block of it that begins with the directory's own module.
-/

set_option autoImplicit false
set_option relaxedAutoImplicit false

namespace Pressroom.Route

private theorem Location.lt_of_le_of_ne {a b : Location} (hle : List.le a.segments b.segments)
    (hne : a.segments ≠ b.segments) : a < b := by
  refine Classical.byContradiction fun hnot => ?_
  have hge : List.le b.segments a.segments := hnot
  exact hne (List.le_antisymm hle hge)

private theorem Location.lt_asymm {a b : Location} (h : a < b) : ¬ b < a := by
  have hsegments : a.segments < b.segments := h
  exact List.lt_asymm hsegments

private theorem prefix_of_between {q a b c : List String} (ha : q <+: a) (hc : q <+: c)
    (hab : List.le a b) (hbc : List.le b c) : q <+: b := by
  induction q generalizing a b c with
  | nil => exact List.nil_prefix
  | cons s q ih =>
    obtain ⟨a', rfl, ha'⟩ := List.cons_prefix_iff.1 ha
    obtain ⟨c', rfl, hc'⟩ := List.cons_prefix_iff.1 hc
    cases b with
    | nil => exact absurd (List.Lex.nil) hab
    | cons t b =>
      rcases List.cons_le_cons_iff.1 hab with hst | ⟨rfl, hab'⟩
      · rcases List.cons_le_cons_iff.1 hbc with hts | ⟨rfl, -⟩
        · exact absurd hts (Std.Asymm.asymm _ _ hst)
        · exact absurd hst (Std.Irrefl.irrefl _)
      · rcases List.cons_le_cons_iff.1 hbc with hss | ⟨-, hbc'⟩
        · exact absurd hss (Std.Irrefl.irrefl _)
        · exact List.cons_prefix_cons.2 ⟨rfl, ih ha' hc' hab' hbc'⟩

/-- A property that passes to everything between two items that have it holds on one block of a
list. -/
private theorem exists_block {α : Type} {r : α → α → Prop} {p : α → Prop} {xs : List α}
    (h : xs.Pairwise r)
    (hbetween : ∀ a b c, r a b → r b c → p a → p c → p b) :
    ∃ front block back, xs = front ++ block ++ back ∧ (∀ x ∈ block, p x) ∧
      ∀ x ∈ front ++ back, ¬ p x := by
  induction xs with
  | nil => exact ⟨[], [], [], rfl, by simp, by simp⟩
  | cons a xs ih =>
    obtain ⟨ha, hxs⟩ := List.pairwise_cons.1 h
    obtain ⟨front, block, back, rfl, hblock, hout⟩ := ih hxs
    by_cases hpa : p a
    · cases block with
      | nil =>
        refine ⟨[], [a], front ++ back, by simp, by simpa using hpa, ?_⟩
        simpa using hout
      | cons c block =>
        have hfront : front = [] := by
          rw [List.eq_nil_iff_forall_not_mem]
          intro b hb
          have hrest : front ++ c :: block ++ back = front ++ (c :: (block ++ back)) := by simp
          rw [hrest] at ha hxs
          have hab : r a b := ha b (List.mem_append_left _ hb)
          have hbc : r b c := (List.pairwise_append.1 hxs).2.2 b hb c List.mem_cons_self
          have hpc : p c := hblock c List.mem_cons_self
          exact hout b (List.mem_append_left back hb) (hbetween a b c hab hbc hpa hpc)
        subst hfront
        refine ⟨[], a :: c :: block, back, by simp, ?_, by simpa using hout⟩
        intro x hx
        rcases List.mem_cons.1 hx with rfl | hx
        · exact hpa
        · exact hblock x hx
    · refine ⟨a :: front, block, back, by simp, hblock, ?_⟩
      intro x hx
      rcases List.mem_cons.1 hx with rfl | hx
      · exact hpa
      · exact hout x hx

namespace Table

private theorem listing_perm (t : Table) : t.listing.Perm t.modules :=
  List.mergeSort_perm _ _

private theorem pairwise_le_listing (t : Table) :
    t.listing.Pairwise fun a b => List.le a.location.segments b.location.segments := by
  have htrans : ∀ a b c : Module, decide (List.le a.location.segments b.location.segments) = true →
      decide (List.le b.location.segments c.location.segments) = true →
      decide (List.le a.location.segments c.location.segments) = true := by
    intro a b c hab hbc
    rw [decide_eq_true_iff] at hab hbc ⊢
    exact List.le_trans hab hbc
  have htotal : ∀ a b : Module, (decide (List.le a.location.segments b.location.segments) ||
      decide (List.le b.location.segments a.location.segments)) = true := by
    intro a b
    rw [Bool.or_eq_true, decide_eq_true_iff, decide_eq_true_iff]
    exact List.le_total a.location.segments b.location.segments
  have hsorted := List.pairwise_mergeSort htrans htotal t.modules
  exact hsorted.imp fun hab => of_decide_eq_true hab

private theorem Distinct.pairwise_lt_listing {t : Table} (h : t.Distinct) :
    t.listing.Pairwise fun a b => a.location < b.location := by
  have hne : t.listing.Pairwise fun a b => a.location.segments ≠ b.location.segments :=
    (t.listing_perm.pairwise_iff fun hab => hab.symm).2 h
  refine (t.pairwise_le_listing.and hne).imp ?_
  rintro a b ⟨hle, hab⟩
  exact Location.lt_of_le_of_ne hle hab

private theorem listing_eq_of_perm {t t' : Table} (h : t.Distinct)
    (hperm : t'.modules.Perm t.modules) :
    t'.listing = t.listing := by
  have h' : t'.Distinct := (hperm.pairwise_iff fun hab => hab.symm).2 h
  have hsame : t'.listing.Perm t.listing :=
    t'.listing_perm.trans (hperm.trans t.listing_perm.symm)
  apply hsame.eq_of_pairwise _ h'.pairwise_lt_listing h.pairwise_lt_listing
  intro a b _ _ hab hba
  exact absurd hba (Location.lt_asymm hab)

private theorem exists_block_listing (t : Table) (q : List String) :
    ∃ front block back, t.listing = front ++ block ++ back ∧
      (∀ m ∈ block, q <+: m.location.segments) ∧
      ∀ m ∈ front ++ back, ¬ q <+: m.location.segments := by
  apply exists_block t.pairwise_le_listing
  intro a b c hab hbc ha hc
  exact prefix_of_between ha hc hab hbc

private theorem forall₂_filterMap_module? {entries : List Entry}
    (h : ∀ e ∈ entries, e.module? ≠ none) :
    List.Forall₂ (fun e m => Entry.module? e = some m) entries
      (entries.filterMap Entry.module?) := by
  induction entries with
  | nil => exact List.Forall₂.nil
  | cons e entries ih =>
    obtain ⟨m, hm⟩ := Option.ne_none_iff_exists'.1 (h e List.mem_cons_self)
    rw [List.filterMap_cons_some hm]
    exact List.Forall₂.cons hm (ih fun e' he' => h e' (List.mem_cons_of_mem e he'))

/-- The listing of a compiled manifest has one module for each entry, in strictly increasing order
of their locations, and no other order of the entries changes it. The modules whose locations begin
with given segments stand together in it, and first among them the one at exactly those segments, if
there is one. -/
theorem listing_groups_directories {entries : List Entry} {t : Table}
    (h : compile entries = .ok t) :
    (∃ modules, List.Forall₂ (fun e m => Entry.module? e = some m) entries modules ∧
      t.listing.Perm modules) ∧
    t.listing.Pairwise (fun a b => a.location < b.location) ∧
    (∀ entries' : List Entry, entries'.Perm entries →
      ∃ t', compile entries' = .ok t' ∧ t'.listing = t.listing) ∧
    ∀ q : List String, ∃ front block back, t.listing = front ++ block ++ back ∧
      (∀ m ∈ block, q <+: m.location.segments) ∧
      (∀ m ∈ front ++ back, ¬ q <+: m.location.segments) ∧
      ∀ m ∈ t.listing, m.location.segments = q → block.head? = some m := by
  obtain ⟨hall, hmodules, hdistinct⟩ := compile_eq_ok_iff.1 h
  have hsorted := hdistinct.pairwise_lt_listing
  refine ⟨⟨_, forall₂_filterMap_module? hall, hmodules ▸ t.listing_perm⟩, hsorted, ?_, ?_⟩
  · intro entries' hperm
    obtain ⟨t', hcompile, -⟩ := exists_compile_of_perm h hperm
    refine ⟨t', hcompile, listing_eq_of_perm hdistinct ?_⟩
    rw [(compile_eq_ok_iff.1 hcompile).2.1, hmodules]
    exact hperm.filterMap Entry.module?
  · intro q
    obtain ⟨front, block, back, hlisting, hblock, hout⟩ := t.exists_block_listing q
    refine ⟨front, block, back, hlisting, hblock, hout, ?_⟩
    rintro m hm rfl
    have hmem : m ∈ block := by
      rw [hlisting, List.append_assoc, List.mem_append, List.mem_append] at hm
      rcases hm with hm | hm | hm
      · exact absurd List.prefix_rfl (hout m (List.mem_append_left back hm))
      · exact hm
      · exact absurd List.prefix_rfl (hout m (List.mem_append_right front hm))
    have hordered : block.Pairwise fun a b => a.location < b.location := by
      rw [hlisting] at hsorted
      exact (List.pairwise_append.1 (List.pairwise_append.1 hsorted).1).2.1
    cases block with
    | nil => cases hmem
    | cons first block =>
      rcases List.mem_cons.1 hmem with rfl | hlater
      · rfl
      · have hle : List.le m.location.segments first.location.segments :=
          (hblock first List.mem_cons_self).le
        exact absurd (List.rel_of_pairwise_cons hordered hlater) hle

/-- A manifest in which the canonical texts of the locations sort in another order than the
locations do. -/
def hyphenated : List Entry :=
  [⟨"admin/posts", "post_list"⟩, ⟨"admin-x", "home"⟩, ⟨"admin", "admin"⟩, ⟨"admi", "home"⟩]

theorem listing_groups_directories_hyphenated :
    ∃ (t t' : Table) (directory : Module) (front block back : List Module),
      compile hyphenated = .ok t ∧ compile hyphenated.reverse = .ok t' ∧
      t'.listing = t.listing ∧ t.listing = front ++ block ++ back ∧
      (∀ m ∈ block, ["admin"] <+: m.location.segments) ∧
      directory.location.segments = ["admin"] ∧ block.head? = some directory := by
  obtain ⟨t, h⟩ : ∃ t, compile hyphenated = .ok t := ⟨_, rfl⟩
  obtain ⟨directory, hread, hplace⟩ : ∃ m, Entry.module? ⟨"admin", "admin"⟩ = some m ∧
      m.location.segments = ["admin"] := ⟨_, rfl, rfl⟩
  obtain ⟨-, -, horder, hblocks⟩ := listing_groups_directories h
  obtain ⟨t', h', hsame⟩ := horder hyphenated.reverse hyphenated.reverse_perm
  obtain ⟨front, block, back, hlisting, hblock, -, hfirst⟩ := hblocks ["admin"]
  have hmem : directory ∈ t.listing := by
    rw [t.listing_perm.mem_iff, mem_modules_of_compile h]
    exact ⟨_, by simp [hyphenated], hread⟩
  exact ⟨t, t', directory, front, block, back, h, h', hsame, hlisting, hblock, hplace,
    hfirst directory hmem hplace⟩

end Table

end Pressroom.Route
