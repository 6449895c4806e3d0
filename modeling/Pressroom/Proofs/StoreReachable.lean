import Pressroom.Proofs.StoreHistory

/-!
What every store satisfies that calls have left, whichever ids were generated: types stand in the
order of their ids, a post is stored once, under a slug that leads to it, and with a number below
the count of created posts. Unlike `Holds` this needs no distinct ids.
-/

set_option autoImplicit false
set_option relaxedAutoImplicit false

namespace Pressroom.Content

namespace Store

private theorem mem_putType {t u : PostType} {ts : List PostType} (h : u ∈ putType t ts) :
    u = t ∨ u ∈ ts := by
  induction ts with
  | nil => exact Or.inl (List.mem_singleton.1 h)
  | cons v ts ih =>
    unfold putType at h
    split at h
    · exact List.mem_cons.1 h
    · split at h
      · exact (List.mem_cons.1 h).imp_right (List.mem_cons_of_mem v)
      · rcases List.mem_cons.1 h with rfl | h
        · exact Or.inr List.mem_cons_self
        · exact (ih h).imp_right (List.mem_cons_of_mem v)

theorem pairwise_putType {ts : List PostType} (h : ts.Pairwise fun a b => a.id < b.id)
    (t : PostType) : (putType t ts).Pairwise fun a b => a.id < b.id := by
  induction ts with
  | nil => exact List.pairwise_singleton _ t
  | cons u ts ih =>
    obtain ⟨hu, hts⟩ := List.pairwise_cons.1 h
    unfold putType
    split
    · next hlt =>
      refine List.pairwise_cons.2 ⟨?_, h⟩
      intro v hv
      rcases List.mem_cons.1 hv with rfl | hv
      · exact hlt
      · exact String.lt_trans hlt (hu v hv)
    · next hge =>
      split
      · next heq =>
        refine List.pairwise_cons.2 ⟨?_, hts⟩
        rw [heq]
        exact hu
      · next hne =>
        have hut : u.id < t.id := by
          by_contra hle
          exact hne (String.le_antisymm (String.not_lt.1 hle) (String.not_lt.1 hge))
        refine List.pairwise_cons.2 ⟨?_, ih hts⟩
        intro v hv
        rcases mem_putType hv with rfl | hv
        · exact hut
        · exact hu v hv

theorem nodup_ids_of_pairwise {ts : List PostType} (h : ts.Pairwise fun a b => a.id < b.id) :
    (ts.map (·.id)).Nodup := by
  refine List.pairwise_map.2 (h.imp ?_)
  intro a b hlt heq
  exact String.lt_irrefl b.id (heq ▸ hlt)

private theorem Created.allPosts_eq {s s' : Store} {id : String} {input : NewPost} {p : Post}
    (h : Created s id input p s') : s'.allPosts = s.allPosts.filter (·.id != p.id) ++ [p] := by
  rw [h.store_eq, allPosts, allPosts, List.map_append, List.filter_map]
  rfl

private theorem Created.mem_posts {s s' : Store} {id : String} {input : NewPost} {p : Post}
    (h : Created s id input p s') {sp : StoredPost} (hsp : sp ∈ s'.posts) :
    sp ∈ s.posts ∨ sp = ⟨s.sequence, p⟩ := by
  rw [h.store_eq, List.mem_append, List.mem_singleton] at hsp
  exact hsp.imp_left List.mem_of_mem_filter

/-- A store whose parts fit together, after so many posts have been created. -/
structure Consistent (s : Store) (count : Nat) : Prop where
  types_sorted : s.types.Pairwise fun a b => a.id < b.id
  ids_nodup : (s.allPosts.map (·.id)).Nodup
  slugs_nodup : (s.slugs.map Prod.fst).Nodup
  indexed : ∀ p ∈ s.allPosts, (p.slug, p.id) ∈ s.slugs
  slug_ne_empty : ∀ p ∈ s.allPosts, p.slug ≠ ""
  sequence : s.sequence = UInt64.ofNat count
  numbered : ∀ sp ∈ s.posts, ∃ i < count, sp.sequence = UInt64.ofNat i

namespace Consistent

variable {s s' : Store} {count : Nat} {id : String} {input : NewPost} {p : Post}

private theorem empty : Store.empty.Consistent 0 :=
  ⟨List.Pairwise.nil, List.nodup_nil, List.nodup_nil, by simp [allPosts, Store.empty],
    by simp [allPosts, Store.empty], rfl, by simp [Store.empty]⟩

private theorem insertType (h : s.Consistent count) (t : PostType) :
    (s.insertType t).Consistent count :=
  { h with types_sorted := pairwise_putType h.types_sorted t }

private theorem seed (h : s.Consistent count) : s.seed.Consistent count := by
  unfold Store.seed
  split
  · exact (h.insertType _).insertType _
  · exact h

theorem create (h : s.Consistent count) (hc : Created s id input p s') :
    s'.Consistent (count + 1) := by
  have hposts := hc.allPosts_eq
  have hmem : ∀ q ∈ s'.allPosts, q ∈ s.allPosts ∨ q = p := by
    intro q hq
    rw [hposts, List.mem_append, List.mem_filter, List.mem_singleton] at hq
    exact hq.imp_left And.left
  have hslugs : s'.slugs = s.slugs ++ [(p.slug, p.id)] := by rw [hc.store_eq]
  refine ⟨?_, ?_, ?_, ?_, ?_, ?_, ?_⟩
  · rw [hc.store_eq]
    exact h.types_sorted
  · rw [hposts, List.map_append, List.map_singleton, ← List.concat_eq_append]
    refine List.Nodup.concat ?_ (h.ids_nodup.sublist (List.filter_sublist.map _))
    simp
  · rw [hslugs, List.map_append, List.map_singleton, ← List.concat_eq_append]
    exact List.Nodup.concat hc.slug_not_mem h.slugs_nodup
  · intro q hq
    rw [hslugs, List.mem_append]
    rcases hmem q hq with hq | rfl
    · exact Or.inl (h.indexed q hq)
    · exact Or.inr List.mem_cons_self
  · intro q hq
    rcases hmem q hq with hq | rfl
    · exact h.slug_ne_empty q hq
    · exact hc.slug_ne_empty
  · rw [hc.store_eq]
    simp [h.sequence, UInt64.ofNat_add]
  · intro sp hsp
    rcases hc.mem_posts hsp with hsp | rfl
    · obtain ⟨i, hi, heq⟩ := h.numbered sp hsp
      exact ⟨i, Nat.lt_succ_of_lt hi, heq⟩
    · exact ⟨count, Nat.lt_succ_self count, h.sequence⟩

theorem type?_eq_some (h : s.Consistent count) {t : PostType} (ht : t ∈ s.types) :
    s.type? t.id = some t := by
  have hids := nodup_ids_of_pairwise h.types_sorted
  obtain ⟨u, hu⟩ := Option.isSome_iff_exists.1
    ((isSome_type?_iff s t.id).2 (List.mem_map_of_mem ht))
  have hid : u.id = t.id := by simpa using List.find?_some hu
  rw [hu, List.inj_on_of_nodup_map hids (List.mem_of_find?_eq_some hu) ht hid]

theorem postBySlug?_eq_some (h : s.Consistent count) (hp : p ∈ s.allPosts) :
    s.postBySlug? p.slug = some p :=
  (postBySlug?_eq_some_iff h.slugs_nodup h.ids_nodup).2 ⟨h.indexed p hp, hp⟩

private theorem sequence_lt (h : s.Consistent count) (hcount : count < 2 ^ 64) {sp : StoredPost}
    (hsp : sp ∈ s.posts) : sp.sequence < s.sequence := by
  obtain ⟨i, hi, heq⟩ := h.numbered sp hsp
  have hinat : (UInt64.ofNat i).toNat = i :=
    UInt64.toNat_ofNat_of_lt' (by change i < 2 ^ 64; omega)
  have hcnat : (UInt64.ofNat count).toNat = count := UInt64.toNat_ofNat_of_lt' hcount
  rw [heq, h.sequence, UInt64.lt_iff_toNat_lt, hinat, hcnat]
  exact hi

theorem getLast?_postsOfType (h : s.Consistent count) (hcount : count < 2 ^ 64)
    (hc : Created s id input p s') : (s'.postsOfType p.postType).getLast? = some p := by
  generalize hlisted : (s'.posts.filter (·.post.postType == p.postType)).mergeSort
    (fun a b => decide (a.sequence ≤ b.sequence)) = listed
  have hsorted : listed.Pairwise fun a b => a.sequence ≤ b.sequence := by
    rw [← hlisted]
    exact pairwise_mergeSort _
  have hperm : listed.Perm (s'.posts.filter (·.post.postType == p.postType)) := by
    rw [← hlisted]
    exact List.mergeSort_perm _ _
  have hnew : ⟨s.sequence, p⟩ ∈ listed := by
    rw [hperm.mem_iff, hc.store_eq]
    simp
  have hlast : listed.getLast? = some ⟨s.sequence, p⟩ := by
    rcases List.eq_nil_or_concat listed with hnil | ⟨front, last, hconcat⟩
    · rw [hnil] at hnew
      cases hnew
    · rw [List.concat_eq_append] at hconcat
      rw [hconcat, List.getLast?_concat]
      rw [hconcat, List.pairwise_append] at hsorted
      have hstored : last ∈ s'.posts := by
        refine List.mem_of_mem_filter (hperm.mem_iff.1 ?_)
        rw [hconcat]
        exact List.mem_append_right _ List.mem_cons_self
      rcases hc.mem_posts hstored with hold | rfl
      · rw [hconcat, List.mem_append, List.mem_singleton] at hnew
        rcases hnew with hnew | rfl
        · have hle := hsorted.2.2 _ hnew last List.mem_cons_self
          exact absurd (h.sequence_lt hcount hold) (UInt64.not_lt.2 hle)
        · rfl
      · rfl
  rw [postsOfType, hlisted, List.getLast?_map, hlast]
  rfl

end Consistent

end Store

namespace History

theorem consistent_step {h : History} (hh : h.store.Consistent h.log.length) (c : Call) :
    (h.step c).store.Consistent (h.step c).log.length := by
  cases c with
  | seed => simpa [step, Call.run] using hh.seed
  | insertType t => simpa [step, Call.run] using hh.insertType t
  | create id input =>
    rcases Call.run_create h.store id input with hrun | ⟨p, s', hrun, hcreated⟩
    · simpa [step, hrun] using hh
    · simpa [step, hrun] using hh.create hcreated

theorem consistent_ofCalls (calls : List Call) :
    (ofCalls calls).store.Consistent (ofCalls calls).log.length := by
  induction calls using List.reverseRecOn with
  | nil => exact Store.Consistent.empty
  | append_singleton calls c ih =>
    rw [ofCalls_append_single]
    exact consistent_step ih c

end History

end Pressroom.Content
