import Mathlib.Data.List.Perm.Basic
import Pressroom.Content.Store
import Pressroom.Keyed
import Pressroom.Proofs.SlugReservation
import Pressroom.Proofs.TextCutting

/-!
What the operations of the content store do, one at a time: which type and which post a look-up
finds, what a listing contains, when creating a post fails, and what it changes when it does not.
Look-ups are described by membership, so nothing here depends on the order in which a store goes
through its posts and slugs.
-/

set_option autoImplicit false
set_option relaxedAutoImplicit false

namespace Pressroom.Keyed

variable {κ α : Type} [BEq κ] [LawfulBEq κ]

theorem lookup_eq_some_iff_mem {entries : List (κ × α)} (h : (entries.map Prod.fst).Nodup)
    {key : κ} {value : α} : entries.lookup key = some value ↔ (key, value) ∈ entries := by
  induction entries with
  | nil => simp
  | cons e entries ih =>
    obtain ⟨k, v⟩ := e
    simp only [List.map_cons, List.nodup_cons] at h
    by_cases hk : key = k
    · subst hk
      have hfresh : (key, value) ∉ entries := fun hm => h.1 (List.mem_map_of_mem hm)
      simp [hfresh, eq_comm]
    · have hbeq : (key == k) = false := by simpa using hk
      rw [List.lookup_cons, hbeq]
      simpa [hk] using ih h.2

end Pressroom.Keyed

namespace Pressroom.Content.Store

private theorem mem_ids_putType (t : PostType) (ts : List PostType) (id : String) :
    id ∈ (putType t ts).map (·.id) ↔ id = t.id ∨ id ∈ ts.map (·.id) := by
  induction ts with
  | nil => simp [putType]
  | cons u ts ih =>
    unfold putType
    split
    · simp
    · split
      · next heq => simp [heq]
      · simp only [List.map_cons, List.mem_cons, ih]
        tauto

theorem isSome_type?_iff (s : Store) (id : String) :
    (s.type? id).isSome ↔ id ∈ s.types.map (·.id) := by
  simp [type?, List.find?_isSome]

theorem isSome_type?_insertType {s : Store} {id : String} (h : (s.type? id).isSome)
    (t : PostType) : ((s.insertType t).type? id).isSome := by
  rw [isSome_type?_iff] at h ⊢
  exact (mem_ids_putType t s.types id).2 (Or.inr h)

theorem isSome_type?_seed {s : Store} {id : String} (h : (s.type? id).isSome) :
    (s.seed.type? id).isSome := by
  unfold seed
  split
  · exact isSome_type?_insertType (isSome_type?_insertType h _) _
  · exact h

/-- The posts of a store, in the order in which it goes through them. -/
def allPosts (s : Store) : List Post :=
  s.posts.map (·.post)

theorem post?_eq_some_iff {s : Store} (h : (s.allPosts.map (·.id)).Nodup) {id : String}
    {p : Post} : s.post? id = some p ↔ p ∈ s.allPosts ∧ p.id = id := by
  constructor
  · intro hp
    obtain ⟨sp, hsp, rfl⟩ := Option.map_eq_some_iff.1 hp
    have hid := List.find?_some hsp
    exact ⟨List.mem_map_of_mem (List.mem_of_find?_eq_some hsp), by simpa using hid⟩
  · rintro ⟨hp, rfl⟩
    obtain ⟨sp, hsp, rfl⟩ := List.mem_map.1 hp
    have hsome : (s.posts.find? (·.post.id == sp.post.id)).isSome :=
      List.find?_isSome.2 ⟨sp, hsp, by simp⟩
    obtain ⟨found, hfound⟩ := Option.isSome_iff_exists.1 hsome
    have hid : found.post.id = sp.post.id := by simpa using List.find?_some hfound
    have hmem : found.post ∈ s.allPosts :=
      List.mem_map_of_mem (List.mem_of_find?_eq_some hfound)
    rw [post?, hfound, Option.map_some, List.inj_on_of_nodup_map h hmem hp hid]

theorem postBySlug?_eq_some_iff {s : Store} (hslugs : (s.slugs.map Prod.fst).Nodup)
    (hids : (s.allPosts.map (·.id)).Nodup) {slug : String} {p : Post} :
    s.postBySlug? slug = some p ↔ (slug, p.id) ∈ s.slugs ∧ p ∈ s.allPosts := by
  rw [postBySlug?, Option.bind_eq_some_iff]
  constructor
  · rintro ⟨id, hid, hp⟩
    obtain ⟨hmem, rfl⟩ := (post?_eq_some_iff hids).1 hp
    exact ⟨(Keyed.lookup_eq_some_iff_mem hslugs).1 hid, hmem⟩
  · rintro ⟨hslug, hp⟩
    exact ⟨p.id, (Keyed.lookup_eq_some_iff_mem hslugs).2 hslug,
      (post?_eq_some_iff hids).2 ⟨hp, rfl⟩⟩

theorem filter_posts_eq_self {s : Store} {id : String} (h : id ∉ s.allPosts.map (·.id)) :
    s.posts.filter (·.post.id != id) = s.posts := by
  rw [List.filter_eq_self]
  intro sp hsp
  rw [bne_iff_ne]
  rintro rfl
  exact h (List.mem_map_of_mem (List.mem_map_of_mem hsp))

theorem postsOfType_perm (s : Store) (id : String) :
    (s.postsOfType id).Perm (s.allPosts.filter (·.postType == id)) := by
  rw [allPosts, List.filter_map]
  exact (List.mergeSort_perm _ _).map _

theorem mem_allPosts_of_mem_postsOfType {s : Store} {id : String} {p : Post}
    (h : p ∈ s.postsOfType id) : p ∈ s.allPosts :=
  List.mem_of_mem_filter ((s.postsOfType_perm id).mem_iff.1 h)

theorem pairwise_mergeSort (posts : List StoredPost) :
    (posts.mergeSort fun a b => decide (a.sequence ≤ b.sequence)).Pairwise
      fun a b => a.sequence ≤ b.sequence := by
  have htrans : ∀ a b c : StoredPost, decide (a.sequence ≤ b.sequence) = true →
      decide (b.sequence ≤ c.sequence) = true → decide (a.sequence ≤ c.sequence) = true := by
    intro a b c hab hbc
    simp only [decide_eq_true_eq] at hab hbc ⊢
    exact UInt64.le_trans hab hbc
  have htotal : ∀ a b : StoredPost,
      (decide (a.sequence ≤ b.sequence) || decide (b.sequence ≤ a.sequence)) = true := by
    intro a b
    simpa using UInt64.le_total a.sequence b.sequence
  simpa using List.pairwise_mergeSort htrans htotal posts

private theorem mergeSort_eq_of_perm {found sorted : List StoredPost} (hperm : found.Perm sorted)
    (hsorted : sorted.Pairwise fun a b => a.sequence < b.sequence) :
    found.mergeSort (fun a b => decide (a.sequence ≤ b.sequence)) = sorted := by
  have hresult : (found.mergeSort fun a b => decide (a.sequence ≤ b.sequence)).Perm sorted :=
    (List.mergeSort_perm _ _).trans hperm
  have hright : sorted.Pairwise fun a b => a.sequence ≤ b.sequence :=
    hsorted.imp UInt64.le_of_lt
  have hkeys : (sorted.map (·.sequence)).Nodup :=
    List.pairwise_map.2 (hsorted.imp UInt64.ne_of_lt)
  refine List.Perm.eq_of_pairwise ?_ (pairwise_mergeSort found) hright hresult
  intro a b ha hb hab hba
  exact List.inj_on_of_nodup_map hkeys (hresult.mem_iff.1 ha) hb (UInt64.le_antisymm hab hba)

/-- Whatever the order in which a store goes through its posts, a listing has them in the order of
their numbers. -/
theorem postsOfType_eq_of_perm {s : Store} {stored : List StoredPost} (hperm : s.posts.Perm stored)
    (hsorted : stored.Pairwise fun a b => a.sequence < b.sequence) (id : String) :
    s.postsOfType id = (stored.map (·.post)).filter (·.postType == id) := by
  rw [postsOfType, mergeSort_eq_of_perm (hperm.filter _) (hsorted.filter _), List.filter_map]
  rfl

theorem create_eq_error_iff {s : Store} {id : String} {input : NewPost} {e : ContentError} :
    s.create id input = some (.error e) ↔
      (Text.trim input.title = "" ∧ e = .invalid titleRequired) ∨
      (Text.trim input.title ≠ "" ∧ s.type? input.postType = none ∧
        e = .unknownPostType input.postType) := by
  unfold create
  by_cases htitle : Text.trim input.title = ""
  · simp [htitle, eq_comm]
  · cases htype : s.type? input.postType with
    | none => simp [htitle, eq_comm]
    | some t => simp [htitle]

theorem create_eq_none_iff {s : Store} {id : String} {input : NewPost} :
    s.create id input = none ↔ Text.trim input.title ≠ "" ∧ (s.type? input.postType).isSome ∧
      s.Exhausted (Slug.ofTitle (Text.trim input.title)) := by
  unfold create
  by_cases htitle : Text.trim input.title = ""
  · simp [htitle]
  · cases htype : s.type? input.postType with
    | none => simp [htitle]
    | some t => simp [htitle, reserveSlug_eq_none_iff]

theorem exists_create_eq_ok {s : Store} {input : NewPost} (id : String)
    (htitle : Text.trim input.title ≠ "") (htype : (s.type? input.postType).isSome)
    (hroom : ¬ s.Exhausted (Slug.ofTitle (Text.trim input.title))) :
    ∃ p s', s.create id input = some (.ok (p, s')) := by
  match hcreate : s.create id input with
  | some (.ok (p, s')) => exact ⟨p, s', rfl⟩
  | some (.error e) =>
    rcases create_eq_error_iff.1 hcreate with ⟨hempty, -⟩ | ⟨-, hnone, -⟩
    · exact absurd hempty htitle
    · simp [hnone] at htype
  | none => exact absurd (create_eq_none_iff.1 hcreate).2.2 hroom

/-- What is known when a post has been created: the post is made from the input, under a slug that
was reserved for it, and the store has gained it and nothing else. -/
structure Created (s : Store) (id : String) (input : NewPost) (p : Post) (s' : Store) : Prop where
  id_eq : p.id = id
  title_eq : p.title = Text.trim input.title
  title_ne_empty : p.title ≠ ""
  content_eq : p.content = input.content
  reserved : Reserved s (Slug.ofTitle p.title) p.id p.slug (s.claimSlug p.slug p.id)
  status_eq : p.status = publishedStatus
  postType_eq : p.postType = input.postType
  isSome_type? : (s.type? p.postType).isSome
  store_eq : s' = ⟨s.types, s.posts.filter (·.post.id != p.id) ++ [⟨s.sequence, p⟩],
    s.slugs ++ [(p.slug, p.id)], s.sequence + 1⟩

theorem created_of_create {s s' : Store} {id : String} {input : NewPost} {p : Post}
    (h : s.create id input = some (.ok (p, s'))) : Created s id input p s' := by
  unfold create at h
  by_cases htitle : Text.trim input.title = ""
  · simp [htitle] at h
  · cases htype : s.type? input.postType with
    | none => simp [htitle, htype] at h
    | some t =>
      simp only [htitle, htype, if_false, Option.isNone_some, Bool.false_eq_true] at h
      obtain ⟨⟨slug, s₁⟩, hreserve, hresult⟩ := Option.map_eq_some_iff.1 h
      have hreserved := reserved_of_reserveSlug hreserve
      have hstore := hreserved.store_eq
      subst hstore
      cases hresult
      exact ⟨rfl, rfl, htitle, rfl, hreserved, rfl, rfl, by simp [htype], rfl⟩

namespace Created

variable {s s' : Store} {id : String} {input : NewPost} {p : Post}

theorem slug_not_mem (h : Created s id input p s') : p.slug ∉ s.slugs.map (·.1) :=
  h.reserved.not_mem

theorem slug_ne_empty (h : Created s id input p s') : p.slug ≠ "" :=
  h.reserved.slug_ne_empty

theorem trim_title (h : Created s id input p s') : Text.trim p.title = p.title := by
  rw [h.title_eq, Text.trim_trim]

end Created

end Pressroom.Content.Store
