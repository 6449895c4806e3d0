import Pressroom.Proofs.StoreOperations

/-!
The content store as an append-only log. A history is what some calls have returned and left
behind: the posts that were created, in the order of the calls, and the store. The invariant `Holds`
ties the two together; every call keeps it, and all that can be read from the store follows from it.
-/

set_option autoImplicit false
set_option relaxedAutoImplicit false

namespace Pressroom.Content

/-- A call that may change a store. The id is the one that is generated for a created post. -/
inductive Call where
  | seed
  | insertType (t : PostType)
  | create (id : String) (input : NewPost)
  deriving DecidableEq, Repr

/-- The post that a call returns, if it creates one, and the store that it leaves. -/
def Call.run (s : Store) : Call → Option Post × Store
  | .seed => (none, s.seed)
  | .insertType t => (none, s.insertType t)
  | .create id input =>
    match s.create id input with
    | some (.ok (post, s)) => (some post, s)
    | _ => (none, s)

theorem Call.run_create (s : Store) (id : String) (input : NewPost) :
    (Call.create id input).run s = (none, s) ∨
      ∃ p s', (Call.create id input).run s = (some p, s') ∧ Store.Created s id input p s' := by
  rw [Call.run]
  match hc : s.create id input with
  | none => exact .inl rfl
  | some (.error e) => exact .inl rfl
  | some (.ok (p, s')) => exact .inr ⟨p, s', rfl, Store.created_of_create hc⟩

/-- The posts that calls have returned, in the order of the calls, and the store they have left. -/
structure History where
  log : List Post
  store : Store
  deriving DecidableEq, Repr

namespace History

def start : History := ⟨[], .empty⟩

def step (h : History) (c : Call) : History :=
  ⟨h.log ++ (c.run h.store).1.toList, (c.run h.store).2⟩

def ofCalls (calls : List Call) : History :=
  calls.foldl step start

@[simp] theorem ofCalls_append_single (calls : List Call) (c : Call) :
    ofCalls (calls ++ [c]) = (ofCalls calls).step c := by
  simp [ofCalls]

end History

/-- The posts of a log with their numbers in the order of creation. -/
def numbered (log : List Post) : List StoredPost :=
  log.mapIdx fun i p => ⟨UInt64.ofNat i, p⟩

@[simp] private theorem numbered_append_single (log : List Post) (p : Post) :
    numbered (log ++ [p]) = numbered log ++ [⟨UInt64.ofNat log.length, p⟩] :=
  List.mapIdx_concat

@[simp] private theorem map_post_numbered (log : List Post) :
    (numbered log).map (·.post) = log := by
  induction log using List.reverseRecOn with
  | nil => rfl
  | append_singleton log p ih => simp [ih]

private theorem pairwise_numbered {log : List Post} (h : log.length < 2 ^ 64) :
    (numbered log).Pairwise fun a b => a.sequence < b.sequence := by
  rw [List.pairwise_iff_getElem]
  intro i j hi hj hij
  have hj' : j < log.length := by simpa [numbered] using hj
  have hinat : (UInt64.ofNat i).toNat = i := UInt64.toNat_ofNat_of_lt' (by change i < 2 ^ 64; omega)
  have hjnat : (UInt64.ofNat j).toNat = j := UInt64.toNat_ofNat_of_lt' (by change j < 2 ^ 64; omega)
  simp only [numbered, List.getElem_mapIdx, UInt64.lt_iff_toNat_lt, hinat, hjnat]
  exact hij

structure Post.Sound (p : Post) (s : Store) : Prop where
  slug_ne_empty : p.slug ≠ ""
  title_ne_empty : p.title ≠ ""
  trim_title : Text.trim p.title = p.title
  status_eq : p.status = Store.publishedStatus
  isSome_type? : (s.type? p.postType).isSome

namespace Store

/-- The store holds the posts of a log and nothing else: posts, index and counter fit together,
whatever the order in which the store goes through its entries. -/
structure Holds (s : Store) (log : List Post) : Prop where
  posts : s.posts.Perm (numbered log)
  slugs : s.slugs.Perm (log.map fun p => (p.slug, p.id))
  sequence : s.sequence = UInt64.ofNat log.length
  slugs_nodup : (log.map (·.slug)).Nodup
  sound : ∀ p ∈ log, p.Sound s

/-- The same content, gone through in another order. -/
structure Reordered (s s' : Store) : Prop where
  types : s.types.Perm s'.types
  posts : s.posts.Perm s'.posts
  slugs : s.slugs.Perm s'.slugs
  sequence : s.sequence = s'.sequence

namespace Holds

variable {s : Store} {log : List Post}

private theorem allPosts_perm (h : s.Holds log) : s.allPosts.Perm log := by
  have hmap := h.posts.map (·.post)
  rwa [map_post_numbered] at hmap

private theorem keys_perm (h : s.Holds log) : (s.slugs.map Prod.fst).Perm (log.map (·.slug)) := by
  have hmap := h.slugs.map Prod.fst
  rwa [List.map_map] at hmap

private theorem le_length_of_exhausted (h : s.Holds log) {base : String} (hs : s.Exhausted base) :
    2 ^ 31 - 2 ≤ log.length := by
  have hlength := h.slugs.length_eq
  rw [List.length_map] at hlength
  exact hlength ▸ hs.le_length

private theorem empty : Store.empty.Holds [] :=
  ⟨List.Perm.refl _, List.Perm.refl _, rfl, List.nodup_nil, by simp⟩

private theorem withTypes (h : s.Holds log) (types : List PostType)
    (hkeep : ∀ id, (s.type? id).isSome → (({ s with types } : Store).type? id).isSome) :
    ({ s with types } : Store).Holds log := by
  refine ⟨h.posts, h.slugs, h.sequence, h.slugs_nodup, ?_⟩
  intro p hp
  have hsound := h.sound p hp
  exact { hsound with isSome_type? := hkeep _ hsound.isSome_type? }

private theorem insertType (h : s.Holds log) (t : PostType) : (s.insertType t).Holds log :=
  h.withTypes _ fun _ hid => isSome_type?_insertType hid t

private theorem seed (h : s.Holds log) : s.seed.Holds log := by
  have hseed : s.seed = { s with types := s.seed.types } := by
    unfold Store.seed
    split <;> rfl
  rw [hseed]
  refine h.withTypes _ fun id hid => ?_
  rw [← hseed]
  exact isSome_type?_seed hid

private theorem create (h : s.Holds log) {s' : Store} {id : String} {input : NewPost} {p : Post}
    (hc : Created s id input p s') (hid : id ∉ log.map (·.id)) : s'.Holds (log ++ [p]) := by
  have hfresh : p.slug ∉ log.map (·.slug) := fun hm => hc.slug_not_mem (h.keys_perm.mem_iff.2 hm)
  have hnew : p.id ∉ s.allPosts.map (·.id) := by
    rw [(h.allPosts_perm.map _).mem_iff, hc.id_eq]
    exact hid
  rw [hc.store_eq, filter_posts_eq_self hnew]
  refine ⟨?_, ?_, ?_, ?_, ?_⟩
  · rw [numbered_append_single, ← h.sequence]
    exact h.posts.append_right _
  · rw [List.map_append]
    exact h.slugs.append_right _
  · simp [h.sequence, UInt64.ofNat_add]
  · rw [List.map_append, List.map_singleton, ← List.concat_eq_append]
    exact List.Nodup.concat hfresh h.slugs_nodup
  · intro q hq
    rcases List.mem_append.1 hq with hq | hq
    · exact { h.sound q hq with }
    · obtain rfl := List.mem_singleton.1 hq
      exact ⟨hc.slug_ne_empty, hc.title_ne_empty, hc.trim_title, hc.status_eq, hc.isSome_type?⟩

private theorem reordered (h : s.Holds log) {s' : Store} (hs : s.Reordered s') : s'.Holds log := by
  refine ⟨hs.posts.symm.trans h.posts, hs.slugs.symm.trans h.slugs,
    hs.sequence.symm.trans h.sequence, h.slugs_nodup, ?_⟩
  intro p hp
  have hsound := h.sound p hp
  have htype : (s'.type? p.postType).isSome := by
    rw [isSome_type?_iff]
    exact (hs.types.map (·.id)).mem_iff.1 ((isSome_type?_iff s _).1 hsound.isSome_type?)
  exact { hsound with isSome_type? := htype }

private theorem postsOfType_eq (h : s.Holds log) (hcount : log.length < 2 ^ 64) (id : String) :
    s.postsOfType id = log.filter (·.postType == id) := by
  rw [postsOfType_eq_of_perm h.posts (pairwise_numbered hcount), map_post_numbered]

private theorem postBySlug?_eq_some_iff (h : s.Holds log) (hids : (log.map (·.id)).Nodup)
    {slug : String}
    {p : Post} : s.postBySlug? slug = some p ↔ p ∈ log ∧ p.slug = slug := by
  have hkeys : (s.slugs.map Prod.fst).Nodup := h.keys_perm.nodup_iff.2 h.slugs_nodup
  have hposts : (s.allPosts.map (·.id)).Nodup := (h.allPosts_perm.map _).nodup_iff.2 hids
  rw [Store.postBySlug?_eq_some_iff hkeys hposts, h.slugs.mem_iff, h.allPosts_perm.mem_iff]
  constructor
  · rintro ⟨hslug, hp⟩
    obtain ⟨q, hq, hqp⟩ := List.mem_map.1 hslug
    obtain ⟨hqslug, hqid⟩ := Prod.mk.inj hqp
    have heq : q = p := List.inj_on_of_nodup_map hids hq hp hqid
    exact ⟨hp, heq ▸ hqslug⟩
  · rintro ⟨hp, rfl⟩
    exact ⟨List.mem_map_of_mem (f := fun p : Post => (p.slug, p.id)) hp, hp⟩

end Holds

end Store

namespace History

theorem holds_step {h : History} (hh : h.store.Holds h.log) (c : Call)
    (hids : ((h.step c).log.map (·.id)).Nodup) : (h.step c).store.Holds (h.step c).log := by
  cases c with
  | seed => simpa [step, Call.run] using hh.seed
  | insertType t => simpa [step, Call.run] using hh.insertType t
  | create id input =>
    rcases Call.run_create h.store id input with hrun | ⟨p, s', hrun, hcreated⟩
    · simpa [step, hrun] using hh
    · simp only [step, hrun, Option.toList_some, List.map_append, List.map_cons, List.map_nil,
        List.nodup_append] at hids ⊢
      refine hh.create hcreated fun hid => ?_
      exact hids.2.2 id hid p.id (List.mem_singleton.2 rfl) hcreated.id_eq.symm

theorem holds_ofCalls (calls : List Call) (hids : ((ofCalls calls).log.map (·.id)).Nodup) :
    (ofCalls calls).store.Holds (ofCalls calls).log := by
  induction calls using List.reverseRecOn with
  | nil => exact Store.Holds.empty
  | append_singleton calls c ih =>
    rw [ofCalls_append_single] at hids ⊢
    refine holds_step (ih ?_) c hids
    simp only [step, List.map_append] at hids
    exact (List.nodup_append.1 hids).1

private theorem step_create_of_not_ok {h : History} {id : String} {input : NewPost}
    (hnone : ∀ p s', h.store.create id input ≠ some (.ok (p, s'))) :
    h.step (.create id input) = h := by
  match hc : h.store.create id input with
  | none => simp [step, Call.run, hc]
  | some (.error e) => simp [step, Call.run, hc]
  | some (.ok (p, s')) => exact absurd hc (hnone p s')

/-- Two posts of one title, and two that are rejected: one for its title, one for its type. -/
def twinCalls : List Call :=
  [.seed, .create "a" ⟨" Same ", "", "post"⟩, .create "b" ⟨"Same", "", "post"⟩,
    .create "c" ⟨" ", "", "post"⟩, .create "d" ⟨"Same", "", "gallery"⟩]

def namesakes (count : Nat) : List Call :=
  .seed :: (List.range count).map fun i => .create (toString i) ⟨"a", "", "post"⟩

private theorem namesakes_succ (count : Nat) :
    namesakes (count + 1) = namesakes count ++ [.create (toString count) ⟨"a", "", "post"⟩] := by
  simp [namesakes, List.range_succ]

private theorem candidate_mem_range_iff {base : String} {k count : Nat} :
    Slug.candidate base k ∈ (List.range count).map (Slug.candidate base) ↔ k < count := by
  rw [List.mem_map_of_injective (Slug.candidate_injective base), List.mem_range]

private theorem keys_namesakes {count : Nat} (h : count ≤ 2 ^ 31 - 2) :
    (ofCalls (namesakes count)).store.slugs.map Prod.fst =
        (List.range count).map (Slug.candidate "a") ∧
      ((ofCalls (namesakes count)).store.type? "post").isSome ∧
      (ofCalls (namesakes count)).log.length = count := by
  induction count with
  | zero => exact ⟨by decide, by decide, by decide⟩
  | succ count ih =>
    obtain ⟨hkeys, htype, hlength⟩ := ih (by omega)
    have hstem : Slug.stem (Slug.ofTitle (Text.trim "a")) = "a" := by decide
    have htaken : ∀ k, Slug.candidate (Slug.stem (Slug.ofTitle (Text.trim "a"))) k ∈
        (ofCalls (namesakes count)).store.slugs.map Prod.fst ↔ k < count := by
      intro k
      rw [hstem, hkeys, candidate_mem_range_iff]
    have hroom : ¬ (ofCalls (namesakes count)).store.Exhausted (Slug.ofTitle (Text.trim "a")) := by
      intro hexhausted
      exact Nat.lt_irrefl count ((htaken count).1 (hexhausted count (by omega)))
    obtain ⟨p, s', hcreate⟩ : ∃ p s', (ofCalls (namesakes count)).store.create (toString count)
        ⟨"a", "", "post"⟩ = some (.ok (p, s')) :=
      Store.exists_create_eq_ok _ (by decide) htype hroom
    have hcreated := Store.created_of_create hcreate
    have hslug : p.slug = Slug.candidate "a" count := by
      have hreserved := hcreated.reserved
      rw [hcreated.title_eq] at hreserved
      rw [← hstem]
      exact hreserved.slug_eq (fun k => (htaken k).2) ((htaken count).not.2 (Nat.lt_irrefl count))
    rw [namesakes_succ, ofCalls_append_single]
    simp only [step, Call.run, hcreate, Option.toList_some, List.length_append,
      List.length_singleton]
    rw [hcreated.store_eq]
    refine ⟨?_, htype, by rw [hlength]⟩
    rw [List.map_append, hkeys, List.range_succ, List.map_append, List.map_singleton,
      List.map_singleton, hslug]

/-- The bound on the log is sharp: after `2 ^ 31 - 2` posts of one title there is no slug for
another. -/
theorem create_namesake_overflows (id : String) :
    (ofCalls (namesakes (2 ^ 31 - 2))).log.length = 2 ^ 31 - 2 ∧
      (ofCalls (namesakes (2 ^ 31 - 2))).store.create id ⟨"a", "", "post"⟩ = none := by
  obtain ⟨hkeys, htype, hlength⟩ := keys_namesakes (Nat.le_refl (2 ^ 31 - 2))
  refine ⟨hlength, Store.create_eq_none_iff.2 ⟨by decide, htype, ?_⟩⟩
  intro k hk
  have hstem : Slug.stem (Slug.ofTitle (Text.trim "a")) = "a" := by decide
  rw [hstem, hkeys, candidate_mem_range_iff]
  exact hk

end History

end Pressroom.Content
