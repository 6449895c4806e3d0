import Mathlib.Logic.Function.Iterate
import Mathlib.Logic.Relation
import Pressroom.Proofs.StoreOperations

/-!
Creating posts and looking them up at the same time. A creation and a look-up are cut into their
single accesses to the maps of the store, and the accesses of any number of them follow each other
in any order. What a creation can do to the store in one access is said once, in `Creation.Move`;
the invariant `Coherent` and all that follows from it rest on that.
-/

set_option autoImplicit false
set_option relaxedAutoImplicit false

namespace Pressroom.Content.Concurrent

/-- How far a creation has come: before the check of its type, with the reservation of its slug under
way, with a slug and a number, or at its end. -/
inductive Stage where
  | started
  | reserving (reservation : Reservation)
  | counted (slug : String) (sequence : UInt64)
  | finished (result : Except ContentError Post)

structure Creation where
  id : String
  input : NewPost
  stage : Stage

namespace Creation

def start (id : String) (input : NewPost) : Creation := ⟨id, input, .started⟩

def title (c : Creation) : String :=
  Text.trim c.input.title

def post (c : Creation) (slug : String) : Post :=
  ⟨c.id, c.title, c.input.content, slug, Store.publishedStatus, c.input.postType⟩

/-- The next access of a creation: the type is checked, a candidate is claimed or found taken, the
counter is moved, the post is stored. A creation whose numbers have run out stands still. -/
def advance (c : Creation) (s : Store) : Creation × Store :=
  match c.stage with
  | .started =>
    if c.title = "" then
      ({ c with stage := .finished (.error (.invalid Store.titleRequired)) }, s)
    else if (s.type? c.input.postType).isNone then
      ({ c with stage := .finished (.error (.unknownPostType c.input.postType)) }, s)
    else ({ c with stage := .reserving (.start (Slug.stem (Slug.ofTitle c.title))) }, s)
  | .reserving (.trying candidate suffix) =>
    let (reservation, s) :=
      Reservation.probe (Slug.stem (Slug.ofTitle c.title)) c.id (.trying candidate suffix, s)
    ({ c with stage := .reserving reservation }, s)
  | .reserving (.holding slug) =>
    ({ c with stage := .counted slug s.nextSequence.1 }, s.nextSequence.2)
  | .reserving .overflowed => (c, s)
  | .counted slug sequence =>
    ({ c with stage := .finished (.ok (c.post slug)) }, s.putPost sequence (c.post slug))
  | .finished _ => (c, s)

def slug? (c : Creation) : Option String :=
  match c.stage with
  | .reserving (.holding slug) => some slug
  | .counted slug _ => some slug
  | .finished (.ok p) => some p.slug
  | _ => none

def claim? (c : Creation) : Option (String × String) :=
  c.slug?.map fun slug => (slug, c.id)

def post? (c : Creation) : Option Post :=
  match c.stage with
  | .finished (.ok p) => some p
  | _ => none

@[simp] private theorem claim?_trying (id : String) (input : NewPost) (candidate : String)
    (suffix : Int32) :
    claim? ⟨id, input, .reserving (.trying candidate suffix)⟩ = none := rfl

@[simp] private theorem post?_reserving (id : String) (input : NewPost)
    (reservation : Reservation) :
    post? ⟨id, input, .reserving reservation⟩ = none := rfl

/-- Whether a creation has come to its end, with a result or without. -/
def isFinished (c : Creation) : Bool :=
  match c.stage with
  | .finished _ => true
  | .reserving .overflowed => true
  | _ => false

end Creation

/-- How far a look-up has come: before the index, before the posts, or at its end. -/
inductive Phase where
  | started
  | found (id : String)
  | finished (result : Option Post)

structure Lookup where
  slug : String
  phase : Phase

def Lookup.start (slug : String) : Lookup := ⟨slug, .started⟩

/-- The next access of a look-up: the index gives an id, the posts give a post. -/
def Lookup.advance (l : Lookup) (s : Store) : Lookup :=
  match l.phase with
  | .started =>
    match s.slugs.lookup l.slug with
    | none => { l with phase := .finished none }
    | some id => { l with phase := .found id }
  | .found id => { l with phase := .finished (s.post? id) }
  | .finished _ => l

/-- One access, of a creation that is alone with a store. -/
def Creation.next (x : Creation × Store) : Creation × Store :=
  x.1.advance x.2

private theorem Creation.iterate_reserving {s : Store} {id base : String} {input : NewPost}
    {k : Nat} (hbase : base = Slug.ofTitle (Text.trim input.title))
    (htrying : ∀ j < k, ∃ candidate suffix,
      (Reservation.after s base id j).1 = .trying candidate suffix) :
    next^[k] (⟨id, input, .reserving (.start (Slug.stem base))⟩, s) =
      (⟨id, input, .reserving (Reservation.after s base id k).1⟩,
        (Reservation.after s base id k).2) := by
  induction k with
  | zero => rfl
  | succ k ih =>
    obtain ⟨candidate, suffix, hk⟩ := htrying k (by omega)
    have hpair : Reservation.after s base id k =
        (.trying candidate suffix, (Reservation.after s base id k).2) := Prod.ext hk rfl
    rw [Function.iterate_succ_apply', ih fun j hj => htrying j (by omega), hk, Reservation.after,
      hpair, next, hbase]
    rfl

/-- When no one else comes between, the accesses of a creation amount to `Store.create`. -/
theorem Creation.create_eq_iterate (s : Store) (id : String) (input : NewPost) :
    ∃ n, next^[n] (start id input, s) =
      match s.create id input with
      | some (.ok (p, s')) => (⟨id, input, .finished (.ok p)⟩, s')
      | some (.error e) => (⟨id, input, .finished (.error e)⟩, s)
      | none => (⟨id, input, .reserving .overflowed⟩, s) := by
  by_cases htitle : Text.trim input.title = ""
  · refine ⟨1, ?_⟩
    simp [next, start, advance, title, Store.create, htitle]
  · cases htype : s.type? input.postType with
    | none =>
      refine ⟨1, ?_⟩
      simp [next, start, advance, title, Store.create, htitle, htype]
    | some t =>
      obtain ⟨base, hbase⟩ : ∃ base, base = Slug.ofTitle (Text.trim input.title) := ⟨_, rfl⟩
      have hcheck : next (start id input, s) =
          (⟨id, input, .reserving (.start (Slug.stem base))⟩, s) := by
        simp [next, start, advance, title, htitle, htype, hbase]
      have hcreate : s.create id input = (s.reserveSlug base id).map fun r =>
          .ok ((start id input).post r.1,
            r.2.nextSequence.2.putPost r.2.nextSequence.1 ((start id input).post r.1)) := by
        simp only [Store.create, htitle, htype, if_false, Option.isNone_some, Bool.false_eq_true,
          hbase]
        rfl
      obtain ⟨k, hfree, htaken⟩ := Slug.exists_first_free (s.slugs.map Prod.fst) (Slug.stem base)
      have htrying : ∀ j ≤ k, j ≤ 2 ^ 31 - 3 → ∃ candidate suffix,
          (Reservation.after s base id j).1 = .trying candidate suffix := by
        intro j hjk hj
        rw [Reservation.after_of_taken id hj fun i hi => htaken i (by omega)]
        exact ⟨_, _, rfl⟩
      by_cases hk : k ≤ 2 ^ 31 - 3
      · -- one check, `k` candidates that are taken, one that is free, the counter and the post
        refine ⟨k + 4, ?_⟩
        rw [hcreate, Store.reserveSlug_of_first_free id hk htaken hfree,
          Function.iterate_succ_apply, hcheck, Function.iterate_succ_apply',
          Function.iterate_succ_apply',
          iterate_reserving hbase fun j hj => htrying j (by omega) (by omega),
          Reservation.after_succ_of_free id hk htaken hfree]
        rfl
      · -- one check, and candidates that are taken until the numbers run out
        have hexhausted : s.Exhausted base := fun i hi => htaken i (by omega)
        refine ⟨2 ^ 31 - 3 + 1 + 1, ?_⟩
        rw [hcreate, Store.reserveSlug_of_exhausted id hexhausted, Function.iterate_succ_apply,
          hcheck, iterate_reserving hbase fun j hj => htrying j (by omega) (by omega),
          Reservation.after_of_exhausted id hexhausted]
        rfl

theorem Lookup.advance_advance (s : Store) (slug : String) :
    ((Lookup.start slug).advance s).advance s = ⟨slug, .finished (s.postBySlug? slug)⟩ := by
  cases hlook : s.slugs.lookup slug with
  | none => simp [Lookup.start, Lookup.advance, Store.postBySlug?, hlook]
  | some id => simp [Lookup.start, Lookup.advance, Store.postBySlug?, hlook]

/-- A store with the creations and look-ups that have been started on it. -/
structure System where
  store : Store
  creations : List Creation
  lookups : List Lookup

def System.initial : System := ⟨.empty, [], []⟩

/-- One step: a type is added, a creation is started under an id of its own or makes its next
access, or a look-up is started or makes its next access. -/
inductive Step : System → System → Prop
  | insertType (σ : System) (t : PostType) :
      Step σ { σ with store := σ.store.insertType t }
  | startCreation (σ : System) (id : String) (input : NewPost)
      (fresh : id ∉ σ.creations.map (·.id)) :
      Step σ { σ with creations := σ.creations ++ [.start id input] }
  | create (σ : System) (i : Nat) (c : Creation) (hc : σ.creations[i]? = some c) :
      Step σ ⟨(c.advance σ.store).2, σ.creations.set i (c.advance σ.store).1, σ.lookups⟩
  | startLookup (σ : System) (slug : String) :
      Step σ { σ with lookups := σ.lookups ++ [.start slug] }
  | look (σ : System) (i : Nat) (l : Lookup) (hl : σ.lookups[i]? = some l) :
      Step σ { σ with lookups := σ.lookups.set i (l.advance σ.store) }

abbrev Steps : System → System → Prop :=
  Relation.ReflTransGen Step

def Reachable (σ : System) : Prop :=
  Steps .initial σ

inductive Action where
  | insertType (t : PostType)
  | startCreation (id : String) (input : NewPost)
  | create (i : Nat)
  | startLookup (slug : String)
  | look (i : Nat)

namespace System

/-- Take the chosen step. Where there is none, nothing happens. -/
def act (σ : System) : Action → System
  | .insertType t => { σ with store := σ.store.insertType t }
  | .startCreation id input =>
    if id ∈ σ.creations.map (·.id) then σ
    else { σ with creations := σ.creations ++ [.start id input] }
  | .create i =>
    match σ.creations[i]? with
    | none => σ
    | some c => ⟨(c.advance σ.store).2, σ.creations.set i (c.advance σ.store).1, σ.lookups⟩
  | .startLookup slug => { σ with lookups := σ.lookups ++ [.start slug] }
  | .look i =>
    match σ.lookups[i]? with
    | none => σ
    | some l => { σ with lookups := σ.lookups.set i (l.advance σ.store) }

def run (σ : System) (schedule : List Action) : System :=
  schedule.foldl act σ

private theorem steps_act (σ : System) (a : Action) : Steps σ (σ.act a) := by
  cases a with
  | insertType t => exact .single (.insertType σ t)
  | startCreation id input =>
    simp only [act]
    split_ifs with hid
    · exact .refl
    · exact .single (.startCreation σ id input hid)
  | create i =>
    simp only [act]
    split
    · exact .refl
    · next c hc => exact .single (.create σ i c hc)
  | startLookup slug => exact .single (.startLookup σ slug)
  | look i =>
    simp only [act]
    split
    · exact .refl
    · next l hl => exact .single (.look σ i l hl)

private theorem exists_act_of_step {σ σ' : System} (h : Step σ σ') : ∃ a, σ.act a = σ' := by
  cases h with
  | insertType t => exact ⟨.insertType t, rfl⟩
  | startCreation id input fresh => exact ⟨.startCreation id input, if_neg fresh⟩
  | create i c hc => exact ⟨.create i, by simp [act, hc]⟩
  | startLookup slug => exact ⟨.startLookup slug, rfl⟩
  | look i l hl => exact ⟨.look i, by simp [act, hl]⟩

theorem steps_run (σ : System) (schedule : List Action) : Steps σ (σ.run schedule) := by
  induction schedule generalizing σ with
  | nil => exact .refl
  | cons a schedule ih => exact (σ.steps_act a).trans (ih (σ.act a))

end System

theorem reachable_iff_exists_schedule {σ : System} :
    Reachable σ ↔ ∃ schedule, System.initial.run schedule = σ := by
  constructor
  · intro h
    induction h with
    | refl => exact ⟨[], rfl⟩
    | tail _ hstep ih =>
      obtain ⟨schedule, rfl⟩ := ih
      obtain ⟨a, rfl⟩ := System.exists_act_of_step hstep
      exact ⟨schedule ++ [a], by simp [System.run]⟩
  · rintro ⟨schedule, rfl⟩
    exact System.initial.steps_run schedule

/-- What one access of a creation does to the creation and to the store: to index and posts nothing,
or it claims a slug that was free, or it stores its post. -/
inductive Creation.Move (c : Creation) (s : Store) : Creation → Store → Prop
  | quiet {c' : Creation} {s' : Store} (slugs_eq : s'.slugs = s.slugs)
      (posts_eq : s'.posts = s.posts) (id_eq : c'.id = c.id) (claim_eq : c'.claim? = c.claim?)
      (post_eq : c'.post? = c.post?) : Move c s c' s'
  | claim {c' : Creation} (slug : String) (free : slug ∉ s.slugs.map Prod.fst)
      (id_eq : c'.id = c.id) (claim_none : c.claim? = none)
      (claim_eq : c'.claim? = some (slug, c.id)) (post_eq : c'.post? = c.post?) :
      Move c s c' (s.claimSlug slug c.id)
  | publish {c' : Creation} (sequence : UInt64) (p : Post) (own : p.id = c.id)
      (id_eq : c'.id = c.id) (claim_eq : c'.claim? = c.claim?) (post_none : c.post? = none)
      (post_eq : c'.post? = some p) : Move c s c' (s.putPost sequence p)

theorem Creation.move_advance (c : Creation) (s : Store) :
    c.Move s (c.advance s).1 (c.advance s).2 := by
  obtain ⟨id, input, stage⟩ := c
  cases stage with
  | started =>
    unfold advance
    split_ifs
    · exact .quiet rfl rfl rfl rfl rfl
    · exact .quiet rfl rfl rfl rfl rfl
    · exact .quiet rfl rfl rfl rfl rfl
  | reserving reservation =>
    cases reservation with
    | trying candidate suffix =>
      simp only [advance, Reservation.probe]
      split_ifs with htaken hlast
      · exact .quiet rfl rfl rfl rfl rfl
      · exact .quiet rfl rfl rfl (by simp only [claim?_trying]) (by simp only [post?_reserving])
      · exact .claim _ htaken rfl rfl rfl rfl
    | holding slug => exact .quiet rfl rfl rfl rfl rfl
    | overflowed => exact .quiet rfl rfl rfl rfl rfl
  | counted slug sequence => exact .publish sequence _ rfl rfl rfl rfl rfl
  | finished result => exact .quiet rfl rfl rfl rfl rfl

namespace Creation.Move

variable {c c' : Creation} {s s' : Store}

private theorem id_eq (h : c.Move s c' s') : c'.id = c.id := by
  cases h with
  | quiet slugs_eq posts_eq id_eq => exact id_eq
  | claim slug free id_eq => exact id_eq
  | publish sequence p own id_eq => exact id_eq

private theorem own (h : c.Move s c' s') (hown : ∀ p, c.post? = some p → p.id = c.id) :
    ∀ p, c'.post? = some p → p.id = c'.id := by
  intro p hp
  rw [h.id_eq]
  cases h with
  | quiet _ _ _ _ post_eq => exact hown p (post_eq ▸ hp)
  | claim _ _ _ _ _ post_eq => exact hown p (post_eq ▸ hp)
  | publish sequence q own _ _ _ post_eq =>
    obtain rfl : q = p := Option.some.inj (post_eq.symm.trans hp)
    exact own

end Creation.Move

private theorem Creation.claim?_of_post? {c : Creation} {p : Post} (h : c.post? = some p) :
    c.claim? = some (p.slug, c.id) := by
  obtain ⟨id, input, stage⟩ := c
  cases stage with
  | finished result =>
    cases result with
    | error e => simp [post?] at h
    | ok q =>
      obtain rfl : q = p := by simpa [post?] using h
      rfl
  | _ => simp [post?] at h

private theorem set_decomposition {α : Type} {l : List α} {i : Nat} {a : α} (h : l[i]? = some a)
    (a' : α) : ∃ before after, l = before ++ a :: after ∧ l.set i a' = before ++ a' :: after := by
  obtain ⟨hi, rfl⟩ := List.getElem?_eq_some_iff.1 h
  obtain ⟨before, after, hl, -, hset⟩ := List.exists_of_set hi
  exact ⟨before, after, hl, hset⟩

private theorem map_set_of_eq {α β : Type} {l : List α} {i : Nat} {a a' : α} (f : α → β)
    (h : l[i]? = some a) (hf : f a' = f a) : (l.set i a').map f = l.map f := by
  obtain ⟨before, after, hl, hset⟩ := set_decomposition h a'
  rw [hset, hl, List.map_append, List.map_append, List.map_cons, List.map_cons, hf]

private theorem filterMap_set_of_eq {α β : Type} {l : List α} {i : Nat} {a a' : α}
    (f : α → Option β) (h : l[i]? = some a) (hf : f a' = f a) :
    (l.set i a').filterMap f = l.filterMap f := by
  obtain ⟨before, after, hl, hset⟩ := set_decomposition h a'
  rw [hset, hl, List.filterMap_append, List.filterMap_append, List.filterMap_cons,
    List.filterMap_cons, hf]

private theorem filterMap_set_perm {α β : Type} {l : List α} {i : Nat} {a a' : α} {b : β}
    (f : α → Option β) (h : l[i]? = some a) (hnone : f a = none) (hsome : f a' = some b) :
    ((l.set i a').filterMap f).Perm (l.filterMap f ++ [b]) := by
  obtain ⟨before, after, hl, hset⟩ := set_decomposition h a'
  rw [hset, hl, List.filterMap_append, List.filterMap_append, List.filterMap_cons_some hsome,
    List.filterMap_cons_none hnone]
  exact List.perm_middle.trans (List.perm_append_singleton _ _).symm

/-- What is known of a look-up: an id was in the index under its slug, and a post has its slug. -/
def Lookup.Sound (l : Lookup) (s : Store) : Prop :=
  match l.phase with
  | .started => True
  | .found id => (l.slug, id) ∈ s.slugs
  | .finished result => ∀ p, result = some p → p.slug = l.slug

/-- The store and what is under way fit together. The index holds what the creations have claimed,
each slug once; the posts are those that the creations have returned. -/
structure Coherent (σ : System) : Prop where
  ids : (σ.creations.map (·.id)).Nodup
  claims : σ.store.slugs.Perm (σ.creations.filterMap (·.claim?))
  keys : (σ.store.slugs.map Prod.fst).Nodup
  posts : σ.store.allPosts.Perm (σ.creations.filterMap (·.post?))
  own : ∀ c ∈ σ.creations, ∀ p, c.post? = some p → p.id = c.id
  lookups : ∀ l ∈ σ.lookups, l.Sound σ.store

private theorem ids_sublist {cs : List Creation}
    (hown : ∀ c ∈ cs, ∀ p, c.post? = some p → p.id = c.id) :
    ((cs.filterMap (·.post?)).map (·.id)).Sublist (cs.map (·.id)) := by
  induction cs with
  | nil => exact List.Sublist.slnil
  | cons c cs ih =>
    have hrest := ih fun d hd => hown d (List.mem_cons_of_mem c hd)
    cases hc : c.post? with
    | none =>
      rw [List.filterMap_cons_none hc]
      exact hrest.cons c.id
    | some p =>
      rw [List.filterMap_cons_some hc, List.map_cons, List.map_cons,
        hown c List.mem_cons_self p hc]
      exact hrest.cons_cons c.id

/-- The store has lost no slug and no post. -/
structure Grown (s s' : Store) : Prop where
  slugs : s.slugs ⊆ s'.slugs
  posts : s.allPosts ⊆ s'.allPosts

private theorem Lookup.Sound.grown {l : Lookup} {s s' : Store} (h : l.Sound s) (hs : Grown s s') :
    l.Sound s' := by
  obtain ⟨slug, phase⟩ := l
  cases phase with
  | started => trivial
  | found id => exact hs.slugs h
  | finished result => exact h

namespace Coherent

variable {σ : System}

private theorem initial : Coherent .initial :=
  ⟨List.nodup_nil, .refl _, List.nodup_nil, .refl _, by simp [System.initial],
    by simp [System.initial]⟩

private theorem exists_creation (h : Coherent σ) {p : Post} (hp : p ∈ σ.store.allPosts) :
    ∃ c ∈ σ.creations, c.post? = some p ∧ p.id = c.id := by
  obtain ⟨c, hc, hpost⟩ := List.mem_filterMap.1 (h.posts.mem_iff.1 hp)
  exact ⟨c, hc, hpost, h.own c hc p hpost⟩

private theorem allPosts_ids_nodup (h : Coherent σ) : (σ.store.allPosts.map (·.id)).Nodup :=
  (h.posts.map _).nodup_iff.2 ((ids_sublist h.own).nodup h.ids)

private theorem mem_slugs_iff (h : Coherent σ) {p : Post} (hp : p ∈ σ.store.allPosts)
    (slug : String) :
    (slug, p.id) ∈ σ.store.slugs ↔ slug = p.slug := by
  obtain ⟨c, hc, hpost, hid⟩ := h.exists_creation hp
  have hclaim := Creation.claim?_of_post? hpost
  constructor
  · intro hmem
    obtain ⟨d, hd, hdclaim⟩ := List.mem_filterMap.1 (h.claims.mem_iff.1 hmem)
    obtain ⟨_, _, hpair⟩ := Option.map_eq_some_iff.1 hdclaim
    have hdid : d.id = c.id := (Prod.mk.inj hpair).2.trans hid
    have hdc : d = c := List.inj_on_of_nodup_map h.ids hd hc hdid
    rw [hdc, hclaim] at hdclaim
    exact (Prod.mk.inj (Option.some.inj hdclaim)).1.symm
  · rintro rfl
    rw [h.claims.mem_iff, hid]
    exact List.mem_filterMap.2 ⟨c, hc, hclaim⟩

private theorem id_not_mem (h : Coherent σ) {c : Creation} (hc : c ∈ σ.creations)
    (hnone : c.post? = none) :
    c.id ∉ σ.store.allPosts.map (·.id) := by
  intro hmem
  obtain ⟨p, hp, hpid⟩ := List.mem_map.1 hmem
  obtain ⟨d, hd, hpost, hid⟩ := h.exists_creation hp
  have hdc : d = c := List.inj_on_of_nodup_map h.ids hd hc (hid.symm.trans hpid)
  rw [hdc, hnone] at hpost
  cases hpost

private theorem grown_of_move (h : Coherent σ) {c c' : Creation} {s' : Store} (hc : c ∈ σ.creations)
    (hm : c.Move σ.store c' s') : Grown σ.store s' := by
  cases hm with
  | quiet slugs_eq posts_eq =>
    exact ⟨by rw [slugs_eq]; exact List.Subset.refl _,
      by rw [Store.allPosts, Store.allPosts, posts_eq]; exact List.Subset.refl _⟩
  | claim slug => exact ⟨List.subset_append_left _ _, List.Subset.refl _⟩
  | publish sequence p own id_eq claim_eq post_none =>
    refine ⟨List.Subset.refl _, ?_⟩
    rw [Store.allPosts, Store.allPosts, Store.putPost, own,
      Store.filter_posts_eq_self (h.id_not_mem hc post_none), List.map_append]
    exact List.subset_append_left _ _

private theorem move (h : Coherent σ) {i : Nat} {c c' : Creation} {s' : Store}
    (hc : σ.creations[i]? = some c) (hm : c.Move σ.store c' s') :
    Coherent ⟨s', σ.creations.set i c', σ.lookups⟩ := by
  have hmem : c ∈ σ.creations := List.mem_of_getElem? hc
  have hids : ((σ.creations.set i c').map (·.id)).Nodup := by
    rw [map_set_of_eq _ hc hm.id_eq]
    exact h.ids
  have hown : ∀ d ∈ σ.creations.set i c', ∀ p, d.post? = some p → p.id = d.id := by
    intro d hd
    rcases List.mem_or_eq_of_mem_set hd with hd | rfl
    · exact h.own d hd
    · exact hm.own (h.own c hmem)
  have hlookups : ∀ l ∈ σ.lookups, l.Sound s' :=
    fun l hl => (h.lookups l hl).grown (h.grown_of_move hmem hm)
  cases hm with
  | quiet slugs_eq posts_eq id_eq claim_eq post_eq =>
    refine ⟨hids, ?_, ?_, ?_, hown, hlookups⟩
    · rw [filterMap_set_of_eq _ hc claim_eq, slugs_eq]
      exact h.claims
    · rw [slugs_eq]
      exact h.keys
    · rw [filterMap_set_of_eq _ hc post_eq, Store.allPosts, posts_eq]
      exact h.posts
  | claim slug free id_eq claim_none claim_eq post_eq =>
    refine ⟨hids, ?_, ?_, ?_, hown, hlookups⟩
    · exact (h.claims.append_right _).trans (filterMap_set_perm _ hc claim_none claim_eq).symm
    · rw [Store.claimSlug, List.map_append, List.map_singleton, ← List.concat_eq_append]
      exact List.Nodup.concat free h.keys
    · rw [filterMap_set_of_eq _ hc post_eq]
      exact h.posts
  | publish sequence q own id_eq claim_eq post_none post_eq =>
    refine ⟨hids, ?_, h.keys, ?_, hown, hlookups⟩
    · rw [filterMap_set_of_eq _ hc claim_eq]
      exact h.claims
    · refine List.Perm.trans ?_ (filterMap_set_perm _ hc post_none post_eq).symm
      rw [Store.allPosts, Store.putPost, own,
        Store.filter_posts_eq_self (h.id_not_mem hmem post_none), List.map_append]
      exact h.posts.append_right _

private theorem startCreation (h : Coherent σ) {id : String} (input : NewPost)
    (fresh : id ∉ σ.creations.map (·.id)) :
    Coherent { σ with creations := σ.creations ++ [.start id input] } := by
  refine ⟨?_, ?_, h.keys, ?_, ?_, h.lookups⟩
  · rw [List.map_append, List.map_singleton, ← List.concat_eq_append]
    exact List.Nodup.concat fresh h.ids
  · rw [List.filterMap_append]
    simpa [Creation.start, Creation.claim?, Creation.slug?] using h.claims
  · rw [List.filterMap_append]
    simpa [Creation.start, Creation.post?] using h.posts
  · intro c hc p hp
    rcases List.mem_append.1 hc with hc | hc
    · exact h.own c hc p hp
    · rw [List.mem_singleton.1 hc] at hp
      cases hp

private theorem sound_advance (h : Coherent σ) {l : Lookup} (hl : l.Sound σ.store) :
    (l.advance σ.store).Sound σ.store := by
  obtain ⟨slug, phase⟩ := l
  cases phase with
  | started =>
    simp only [Lookup.advance]
    cases hlook : σ.store.slugs.lookup slug with
    | none =>
      intro p hp
      cases hp
    | some id => exact (Keyed.lookup_eq_some_iff_mem h.keys).1 hlook
  | found id =>
    intro p hp
    obtain ⟨hmem, rfl⟩ := (Store.post?_eq_some_iff h.allPosts_ids_nodup).1 hp
    exact ((h.mem_slugs_iff hmem slug).1 hl).symm
  | finished result => exact hl

private theorem step {σ' : System} (h : Coherent σ) (hstep : Step σ σ') : Coherent σ' := by
  cases hstep with
  | insertType t => exact ⟨h.ids, h.claims, h.keys, h.posts, h.own, h.lookups⟩
  | startCreation id input fresh => exact h.startCreation input fresh
  | create i c hc => exact h.move hc (c.move_advance σ.store)
  | startLookup slug =>
    refine ⟨h.ids, h.claims, h.keys, h.posts, h.own, ?_⟩
    intro l hl
    rcases List.mem_append.1 hl with hl | hl
    · exact h.lookups l hl
    · rw [List.mem_singleton.1 hl]
      trivial
  | look i l hl =>
    refine ⟨h.ids, h.claims, h.keys, h.posts, h.own, ?_⟩
    intro m hm
    rcases List.mem_or_eq_of_mem_set hm with hm | rfl
    · exact h.lookups m hm
    · exact h.sound_advance (h.lookups l (List.mem_of_getElem? hl))

theorem of_reachable (h : Reachable σ) : Coherent σ := by
  induction h with
  | refl => exact initial
  | tail _ hstep ih => exact ih.step hstep

private theorem grown_of_step {σ' : System} (h : Coherent σ) (hstep : Step σ σ') :
    Grown σ.store σ'.store := by
  cases hstep with
  | create i c hc => exact h.grown_of_move (List.mem_of_getElem? hc) (c.move_advance σ.store)
  | insertType t => exact ⟨List.Subset.refl _, List.Subset.refl _⟩
  | startCreation id input fresh => exact ⟨List.Subset.refl _, List.Subset.refl _⟩
  | startLookup slug => exact ⟨List.Subset.refl _, List.Subset.refl _⟩
  | look i l hl => exact ⟨List.Subset.refl _, List.Subset.refl _⟩

end Coherent

/-- A look-up of a post's slug that can end in no other way than with that post. -/
def Lookup.LeadsTo (l : Lookup) (p : Post) : Prop :=
  l.slug = p.slug →
    match l.phase with
    | .started => True
    | .found id => id = p.id
    | .finished result => result = some p

private theorem Lookup.slug_advance (l : Lookup) (s : Store) : (l.advance s).slug = l.slug := by
  unfold advance
  split
  · split <;> rfl
  · rfl
  · rfl

private theorem Coherent.leadsTo_advance {σ : System} (h : Coherent σ) {p : Post}
    (hp : p ∈ σ.store.allPosts) {l : Lookup} (hl : l.LeadsTo p) :
    (l.advance σ.store).LeadsTo p := by
  obtain ⟨slug, phase⟩ := l
  cases phase with
  | started =>
    have hindex : σ.store.slugs.lookup p.slug = some p.id :=
      (Keyed.lookup_eq_some_iff_mem h.keys).2 ((h.mem_slugs_iff hp p.slug).2 rfl)
    intro hslug
    have hsame : slug = p.slug := (Lookup.slug_advance _ _).symm.trans hslug
    simp [Lookup.advance, hsame, hindex]
  | found id =>
    intro hslug
    have hid : id = p.id := hl hslug
    rw [hid]
    exact (Store.post?_eq_some_iff h.allPosts_ids_nodup).2 ⟨hp, rfl⟩
  | finished result => exact hl

/-- From a state with a post in its store on, the post stays, and every look-up of its slug that is
started leads to it. -/
theorem Coherent.leadsTo_of_steps {σ σ' : System} (h : Coherent σ) {p : Post}
    (hp : p ∈ σ.store.allPosts) (hsteps : Steps σ σ') :
    Coherent σ' ∧ p ∈ σ'.store.allPosts ∧
      ∀ j l, σ.lookups.length ≤ j → σ'.lookups[j]? = some l → l.LeadsTo p := by
  induction hsteps with
  | refl =>
    refine ⟨h, hp, ?_⟩
    intro j l hj hl
    rw [List.getElem?_eq_none hj] at hl
    cases hl
  | @tail τ τ' _ hstep ih =>
    obtain ⟨hcoherent, hstored, hlater⟩ := ih
    refine ⟨hcoherent.step hstep, (hcoherent.grown_of_step hstep).posts hstored, ?_⟩
    intro j l hj hl
    cases hstep with
    | insertType t => exact hlater j l hj hl
    | startCreation id input fresh => exact hlater j l hj hl
    | create i c hc => exact hlater j l hj hl
    | startLookup slug =>
      rw [List.getElem?_append] at hl
      split_ifs at hl with hlt
      · exact hlater j l hj hl
      · rw [List.mem_singleton.1 (List.mem_of_getElem? hl)]
        exact fun _ => trivial
    | look i m hm =>
      rw [List.getElem?_set] at hl
      split_ifs at hl with hij hlt
      · subst hij
        cases hl
        exact hcoherent.leadsTo_advance hstored (hlater i m hj hm)
      · exact hlater j l hj hl

private theorem Lookup.finished_advance_advance (l : Lookup) (s s' : Store) :
    ∃ result, ((l.advance s).advance s').phase = .finished result := by
  obtain ⟨slug, phase⟩ := l
  cases phase with
  | started =>
    cases hlook : s.slugs.lookup slug with
    | none => exact ⟨none, by simp [advance, hlook]⟩
    | some id => exact ⟨s'.post? id, by simp [advance, hlook]⟩
  | found id => exact ⟨s.post? id, rfl⟩
  | finished result => exact ⟨result, rfl⟩

private theorem Coherent.index_eq_of_slug? {σ : System} (h : Coherent σ) {i j : Nat}
    {a b : Creation}
    {slug : String} (hi : σ.creations[i]? = some a) (hj : σ.creations[j]? = some b)
    (ha : a.slug? = some slug) (hb : b.slug? = some slug) : i = j := by
  have hclaim : ∀ c ∈ σ.creations, c.slug? = some slug → (slug, c.id) ∈ σ.store.slugs := by
    intro c hc hslug
    rw [h.claims.mem_iff]
    exact List.mem_filterMap.2 ⟨c, hc, by rw [Creation.claim?, hslug, Option.map_some]⟩
  have hsame := List.inj_on_of_nodup_map h.keys
    (hclaim a (List.mem_of_getElem? hi) ha) (hclaim b (List.mem_of_getElem? hj) hb) rfl
  have hids : (σ.creations.map (·.id))[i]? = (σ.creations.map (·.id))[j]? := by
    rw [List.getElem?_map, List.getElem?_map, hi, hj, Option.map_some, Option.map_some,
      (Prod.mk.inj hsame).2]
  have hlt : i < (σ.creations.map (·.id)).length := by
    rw [List.length_map]
    exact (List.getElem?_eq_some_iff.1 hi).1
  exact (List.getElem?_inj hlt h.ids).1 hids

private theorem Coherent.postsOfType_perm {σ : System} (h : Coherent σ) (id : String) :
    (σ.store.postsOfType id).Perm ((σ.creations.filterMap (·.post?)).filter (·.postType == id)) ∧
      (σ.store.postsOfType id).Nodup := by
  have hperm := σ.store.postsOfType_perm id
  have hnodup : σ.store.allPosts.Nodup := List.Nodup.of_map _ h.allPosts_ids_nodup
  exact ⟨hperm.trans (h.posts.filter _), hperm.nodup_iff.2 (hnodup.filter _)⟩

/-- However the accesses of creations and look-ups follow each other: no two creations hold one
slug; a look-up is answered after two accesses, by nothing or by a post of its slug; once a creation
has returned a post, each look-up of its slug that is started finds that post; and when all
creations have come to their end, a listing has every post of its type that was returned, once. -/
theorem interleavings_are_safe {σ : System} (h : Reachable σ) :
    (∀ (i j : Nat) (a b : Creation) (slug : String), σ.creations[i]? = some a →
      σ.creations[j]? = some b → a.slug? = some slug → b.slug? = some slug → i = j) ∧
    (∀ l ∈ σ.lookups, ∀ s s', ∃ result, ((l.advance s).advance s').phase = .finished result) ∧
    (∀ l ∈ σ.lookups, ∀ p, l.phase = .finished (some p) → p.slug = l.slug) ∧
    (∀ c ∈ σ.creations, ∀ p, c.stage = .finished (.ok p) →
      ∀ σ', Steps σ σ' → ∀ j l result, σ.lookups.length ≤ j → σ'.lookups[j]? = some l →
        l.slug = p.slug → l.phase = .finished result → result = some p) ∧
    ((∀ c ∈ σ.creations, c.isFinished) → ∀ id,
      (σ.store.postsOfType id).Perm
        ((σ.creations.filterMap (·.post?)).filter (·.postType == id)) ∧
      (σ.store.postsOfType id).Nodup) := by
  have hcoherent := Coherent.of_reachable h
  refine ⟨fun i j a b slug hi hj ha hb => hcoherent.index_eq_of_slug? hi hj ha hb,
    fun l _ => l.finished_advance_advance, ?_, ?_, fun _ => hcoherent.postsOfType_perm⟩
  · intro l hl p hp
    have hsound := hcoherent.lookups l hl
    rw [Lookup.Sound, hp] at hsound
    exact hsound p rfl
  · intro c hc p hp σ' hsteps j l result hj hl hslug hresult
    have hpost : c.post? = some p := by rw [Creation.post?, hp]
    have hstored : p ∈ σ.store.allPosts :=
      hcoherent.posts.mem_iff.2 (List.mem_filterMap.2 ⟨c, hc, hpost⟩)
    have hleads := (hcoherent.leadsTo_of_steps hstored hsteps).2.2 j l hj hl hslug
    rwa [hresult] at hleads

/-- Three creations that meet: two of one title, and one of the title that the second of them would
be named after. A look-up comes between the claim and the post. -/
def crowdedSchedule : List Action :=
  [.insertType ⟨"post", "Post", "Posts", none⟩, .startCreation "a" ⟨"Same", "", "post"⟩,
    .startCreation "b" ⟨"Same", "", "post"⟩, .startCreation "c" ⟨"Same 2", "", "post"⟩,
    .create 0, .create 1, .create 2, .create 0, .create 1, .create 2, .startLookup "same-2",
    .look 0, .look 0, .create 1, .create 1, .create 2, .create 1, .create 2, .create 0, .create 1,
    .create 0]

theorem interleavings_are_safe_crowded :
    Reachable (System.initial.run crowdedSchedule) ∧
    (∀ c ∈ (System.initial.run crowdedSchedule).creations, c.isFinished) ∧
    (System.initial.run crowdedSchedule).creations.map (·.slug?) =
      [some "same", some "same-3", some "same-2"] ∧
    ((System.initial.run crowdedSchedule).store.postsOfType "post").Perm
      (((System.initial.run crowdedSchedule).creations.filterMap (·.post?)).filter
        (·.postType == "post")) := by
  have hreach : Reachable (System.initial.run crowdedSchedule) :=
    reachable_iff_exists_schedule.2 ⟨crowdedSchedule, rfl⟩
  have hfinished : ∀ c ∈ (System.initial.run crowdedSchedule).creations, c.isFinished := by decide
  refine ⟨hreach, hfinished, by decide, ?_⟩
  exact ((interleavings_are_safe hreach).2.2.2.2 hfinished "post").1

end Pressroom.Content.Concurrent
