import Pressroom.Proofs.StoreReachable

/-!
The catalog of post types as the last word of a log. The types that calls have inserted are
recorded in the order of the calls; seeding counts as inserting the default types when nothing is
recorded yet, and as nothing otherwise. Main statement: the catalog has, in the order of ids, the
last type that was inserted under each id, whatever posts were created in between, and it does not
depend on the order of insertions under different ids.
-/

set_option autoImplicit false
set_option relaxedAutoImplicit false

namespace Pressroom.Content

def Call.insertsTypes : Call → Bool
  | .seed => true
  | .insertType _ => true
  | .create _ _ => false

/-- The types that have been inserted when one more call has been made. -/
def record (inserted : List PostType) : Call → List PostType
  | .seed => if inserted.isEmpty then Store.defaultTypes else inserted
  | .insertType t => inserted ++ [t]
  | .create _ _ => inserted

/-- The types that calls on an empty store have inserted, in the order of the calls. -/
def inserted (calls : List Call) : List PostType :=
  calls.foldl record []

/-- A type was inserted, and after it no other one of its id. -/
def LastInserted (inserted : List PostType) (t : PostType) : Prop :=
  ∃ front back, inserted = front ++ t :: back ∧ ∀ u ∈ back, u.id ≠ t.id

@[simp] private theorem inserted_append_single (calls : List Call) (c : Call) :
    inserted (calls ++ [c]) = record (inserted calls) c := by
  simp only [inserted, List.foldl_append, List.foldl_cons, List.foldl_nil]

private theorem record_eq_nil_iff {ts : List PostType} {c : Call} :
    record ts c = [] ↔ ts = [] ∧ c.insertsTypes = false := by
  cases c with
  | seed =>
    by_cases hts : ts = []
    · simp [record, Call.insertsTypes, Store.defaultTypes, hts]
    · simp [record, hts]
  | insertType t => simp [record, Call.insertsTypes]
  | create id input => simp [record, Call.insertsTypes]

private theorem inserted_eq_nil_iff {calls : List Call} :
    inserted calls = [] ↔ ∀ c ∈ calls, c.insertsTypes = false := by
  induction calls using List.reverseRecOn with
  | nil => simp [inserted]
  | append_singleton calls c ih =>
    simp [record_eq_nil_iff, ih, or_imp, forall_and]

private theorem lastInserted_append_single {ts : List PostType} {t u : PostType} :
    LastInserted (ts ++ [t]) u ↔ u = t ∨ LastInserted ts u ∧ u.id ≠ t.id := by
  constructor
  · rintro ⟨front, back, hts, hback⟩
    rcases List.eq_nil_or_concat' back with rfl | ⟨init, last, rfl⟩
    · have hlast : [t] = [u] := List.append_inj_right' hts rfl
      exact Or.inl (List.singleton_inj.1 hlast).symm
    · have hassoc : front ++ u :: (init ++ [last]) = (front ++ u :: init) ++ [last] := by simp
      rw [hassoc] at hts
      obtain ⟨rfl, hlast⟩ := List.append_inj' hts rfl
      obtain rfl := List.singleton_inj.1 hlast
      have hne : t.id ≠ u.id := hback t (by simp)
      exact Or.inr ⟨⟨front, init, rfl, fun v hv => hback v (List.mem_append_left _ hv)⟩, hne.symm⟩
  · rintro (rfl | ⟨⟨front, back, rfl, hback⟩, hne⟩)
    · exact ⟨ts, [], rfl, by simp⟩
    · refine ⟨front, back ++ [t], by simp, fun v hv => ?_⟩
      rcases List.mem_append.1 hv with hv | hv
      · exact hback v hv
      · rw [List.mem_singleton.1 hv]
        exact hne.symm

private theorem not_lastInserted_nil (t : PostType) : ¬LastInserted [] t := by
  rintro ⟨front, back, hnil, -⟩
  simp at hnil

private theorem exists_lastInserted {ts : List PostType} {id : String} (h : id ∈ ts.map (·.id)) :
    ∃ t, LastInserted ts t ∧ t.id = id := by
  induction ts using List.reverseRecOn with
  | nil => cases h
  | append_singleton ts t ih =>
    by_cases ht : t.id = id
    · exact ⟨t, lastInserted_append_single.2 (Or.inl rfl), ht⟩
    · have hmem : id ∈ ts.map (·.id) := by
        rw [List.map_append, List.mem_append] at h
        refine h.resolve_right fun hlast => ht ?_
        exact (List.mem_singleton.1 hlast).symm
      obtain ⟨u, hu, rfl⟩ := ih hmem
      exact ⟨u, lastInserted_append_single.2 (Or.inr ⟨hu, Ne.symm ht⟩), rfl⟩

namespace Store

private theorem id_trichotomy (a b : String) : a < b ∨ a = b ∨ b < a := by
  by_cases hlt : a < b
  · exact Or.inl hlt
  · by_cases hgt : b < a
    · exact Or.inr (Or.inr hgt)
    · exact Or.inr (Or.inl (String.le_antisymm (String.not_lt.1 hgt) (String.not_lt.1 hlt)))

section Cons

variable {t u : PostType} (ts : List PostType)

private theorem putType_cons_of_lt (h : t.id < u.id) : putType t (u :: ts) = t :: u :: ts := by
  rw [putType, if_pos h]

private theorem putType_cons_of_eq (h : t.id = u.id) : putType t (u :: ts) = t :: ts := by
  rw [putType, if_neg (h ▸ String.lt_irrefl _), if_pos h]

private theorem putType_cons_of_gt (h : u.id < t.id) : putType t (u :: ts) = u :: putType t ts := by
  have hne : t.id ≠ u.id := fun heq => String.lt_irrefl _ (heq ▸ h)
  rw [putType, if_neg (String.lt_asymm h), if_neg hne]

end Cons

private theorem mem_putType_iff {ts : List PostType} (h : ts.Pairwise fun a b => a.id < b.id)
    {t u : PostType} : u ∈ putType t ts ↔ u = t ∨ u ∈ ts ∧ u.id ≠ t.id := by
  have hne : ∀ a b : String, a < b → a ≠ b := by
    rintro a b hlt rfl
    exact String.lt_irrefl _ hlt
  induction ts with
  | nil => simp [putType]
  | cons v ts ih =>
    obtain ⟨hv, hts⟩ := List.pairwise_cons.1 h
    rcases id_trichotomy t.id v.id with hlt | heq | hgt
    · rw [putType_cons_of_lt ts hlt, List.mem_cons]
      refine or_congr_right (iff_self_and.2 fun hu => ?_)
      rcases List.mem_cons.1 hu with rfl | hu
      · exact (hne _ _ hlt).symm
      · exact (hne _ _ (String.lt_trans hlt (hv u hu))).symm
    · rw [putType_cons_of_eq ts heq, List.mem_cons, List.mem_cons]
      refine or_congr_right ⟨fun hu => ⟨Or.inr hu, ?_⟩, ?_⟩
      · rw [heq]
        exact (hne _ _ (hv u hu)).symm
      · rintro ⟨rfl | hu, hid⟩
        · exact absurd heq.symm hid
        · exact hu
    · rw [putType_cons_of_gt ts hgt, List.mem_cons, List.mem_cons]
      refine (or_congr_right (ih hts)).trans ?_
      constructor
      · rintro (rfl | rfl | ⟨hu, hid⟩)
        · exact Or.inr ⟨Or.inl rfl, hne _ _ hgt⟩
        · exact Or.inl rfl
        · exact Or.inr ⟨Or.inr hu, hid⟩
      · rintro (rfl | ⟨rfl | hu, hid⟩)
        · exact Or.inr (Or.inl rfl)
        · exact Or.inl rfl
        · exact Or.inr (Or.inr ⟨hu, hid⟩)

private theorem putType_comm_of_lt {t u : PostType} (h : t.id < u.id) (ts : List PostType) :
    putType t (putType u ts) = putType u (putType t ts) := by
  induction ts with
  | nil =>
    have hleft : putType t (putType u []) = [t, u] := putType_cons_of_lt [] h
    have hright : putType u (putType t []) = [t, u] := putType_cons_of_gt [] h
    rw [hleft, hright]
  | cons v ts ih =>
    rcases id_trichotomy u.id v.id with hlt | heq | hgt
    · have htv : t.id < v.id := String.lt_trans h hlt
      rw [putType_cons_of_lt ts hlt, putType_cons_of_lt _ h, putType_cons_of_lt ts htv,
        putType_cons_of_gt _ h, putType_cons_of_lt ts hlt]
    · have htv : t.id < v.id := heq ▸ h
      rw [putType_cons_of_eq ts heq, putType_cons_of_lt _ h, putType_cons_of_lt ts htv,
        putType_cons_of_gt _ h, putType_cons_of_eq ts heq]
    · rw [putType_cons_of_gt ts hgt]
      rcases id_trichotomy t.id v.id with htlt | hteq | htgt
      · rw [putType_cons_of_lt _ htlt, putType_cons_of_lt _ htlt, putType_cons_of_gt _ h,
          putType_cons_of_gt _ hgt]
      · rw [putType_cons_of_eq _ hteq, putType_cons_of_eq _ hteq, putType_cons_of_gt _ h]
      · rw [putType_cons_of_gt _ htgt, putType_cons_of_gt _ htgt, putType_cons_of_gt _ hgt, ih]

private theorem putType_comm {t u : PostType} (h : t.id ≠ u.id) (ts : List PostType) :
    putType t (putType u ts) = putType u (putType t ts) := by
  rcases id_trichotomy t.id u.id with hlt | heq | hgt
  · exact putType_comm_of_lt hlt ts
  · exact absurd heq h
  · exact (putType_comm_of_lt hgt ts).symm

private theorem mergeSort_types_of_perm {found types : List PostType} (hperm : found.Perm types)
    (h : types.Pairwise fun a b => a.id < b.id) :
    found.mergeSort (fun a b => decide (a.id ≤ b.id)) = types := by
  have htrans : ∀ a b c : PostType, decide (a.id ≤ b.id) = true → decide (b.id ≤ c.id) = true →
      decide (a.id ≤ c.id) = true := by
    intro a b c hab hbc
    rw [decide_eq_true_iff] at hab hbc ⊢
    exact String.le_trans hab hbc
  have htotal : ∀ a b : PostType, (decide (a.id ≤ b.id) || decide (b.id ≤ a.id)) = true := by
    intro a b
    rw [Bool.or_eq_true, decide_eq_true_iff, decide_eq_true_iff]
    exact String.le_total a.id b.id
  have hresult := (List.mergeSort_perm found fun a b => decide (a.id ≤ b.id)).trans hperm
  have hsorted := (List.pairwise_mergeSort htrans htotal found).imp
    fun {a b} hab => (of_decide_eq_true hab : a.id ≤ b.id)
  have hids := nodup_ids_of_pairwise h
  refine hresult.eq_of_pairwise ?_ hsorted (h.imp fun hlt => String.not_lt.1 (String.lt_asymm hlt))
  intro a b ha hb hab hba
  exact List.inj_on_of_nodup_map hids (hresult.mem_iff.1 ha) hb (String.le_antisymm hab hba)

/-- The types of a store stand in the order of their ids, and they are the last ones of a log. -/
structure Lists (s : Store) (log : List PostType) : Prop where
  sorted : s.types.Pairwise fun a b => a.id < b.id
  latest : ∀ t, t ∈ s.types ↔ LastInserted log t

namespace Lists

variable {s : Store} {log : List PostType}

private theorem empty : Store.empty.Lists [] := by
  refine ⟨List.Pairwise.nil, fun t => ?_⟩
  exact iff_of_false List.not_mem_nil (not_lastInserted_nil t)

private theorem insertType (h : s.Lists log) (t : PostType) :
    (s.insertType t).Lists (log ++ [t]) := by
  refine ⟨pairwise_putType h.sorted t, fun u => ?_⟩
  rw [lastInserted_append_single, ← h.latest]
  exact mem_putType_iff h.sorted

private theorem types_eq_nil_iff (h : s.Lists log) : s.types = [] ↔ log = [] := by
  constructor
  · intro hnil
    by_contra hne
    obtain ⟨t, rest, rfl⟩ := List.exists_cons_of_ne_nil hne
    have hid : t.id ∈ (t :: rest).map (·.id) := List.mem_cons_self
    obtain ⟨u, hu, -⟩ := exists_lastInserted hid
    rw [← h.latest, hnil] at hu
    cases hu
  · rintro rfl
    rw [List.eq_nil_iff_forall_not_mem]
    intro t ht
    exact not_lastInserted_nil t ((h.latest t).1 ht)

private theorem run (h : s.Lists log) (c : Call) : (c.run s).2.Lists (record log c) := by
  cases c with
  | seed =>
    have hempty : s.types.isEmpty = log.isEmpty := by
      rw [Bool.eq_iff_iff, List.isEmpty_iff, List.isEmpty_iff]
      exact h.types_eq_nil_iff
    simp only [Call.run, seed, record, hempty]
    by_cases hlog : log = []
    · subst hlog
      exact (h.insertType _).insertType _
    · rw [List.isEmpty_eq_false_iff.2 hlog]
      exact h
  | insertType t => exact h.insertType t
  | create id input =>
    rcases Call.run_create s id input with hrun | ⟨p, s', hrun, hcreated⟩
    · rw [hrun]
      exact h
    · have htypes : s'.types = s.types := by rw [hcreated.store_eq]
      rw [hrun]
      exact ⟨htypes ▸ h.sorted, htypes ▸ h.latest⟩

private theorem existsUnique (h : s.Lists log) {id : String} (hid : id ∈ log.map (·.id)) :
    ∃! t, t ∈ s.types ∧ t.id = id := by
  obtain ⟨t, ht, rfl⟩ := exists_lastInserted hid
  refine ⟨t, ⟨(h.latest t).2 ht, rfl⟩, ?_⟩
  rintro u ⟨hu, hut⟩
  exact List.inj_on_of_nodup_map (nodup_ids_of_pairwise h.sorted) hu ((h.latest t).2 ht) hut

end Lists

end Store

namespace History

private theorem lists_ofCalls (calls : List Call) :
    (ofCalls calls).store.Lists (inserted calls) := by
  induction calls using List.reverseRecOn with
  | nil => exact Store.Lists.empty
  | append_singleton calls c ih =>
    rw [ofCalls_append_single, inserted_append_single]
    exact ih.run c

private theorem ofCalls_append (calls more : List Call) :
    ofCalls (calls ++ more) = more.foldl step (ofCalls calls) := by
  rw [ofCalls, List.foldl_append]
  rfl

private theorem step_seed_eq_self {h : History} (hne : h.store.types ≠ []) : h.step .seed = h := by
  have hfull : h.store.types.isEmpty = false := List.isEmpty_eq_false_iff.2 hne
  simp [step, Call.run, Store.seed, hfull]

private theorem step_seed_of_empty {h : History} (hnil : h.store.types = []) :
    h.step .seed = (Store.defaultTypes.map Call.insertType).foldl step h := by
  simp [step, Call.run, Store.seed, hnil, Store.defaultTypes]

private theorem step_insertType_comm (h : History) {t u : PostType} (hne : t.id ≠ u.id) :
    (h.step (.insertType t)).step (.insertType u) =
      (h.step (.insertType u)).step (.insertType t) := by
  simp [step, Call.run, Store.insertType, Store.putType_comm hne]

private theorem foldl_insertType_of_perm {ts ts' : List PostType} (hids : (ts.map (·.id)).Nodup)
    (hperm : ts.Perm ts') (h : History) :
    (ts.map Call.insertType).foldl step h = (ts'.map Call.insertType).foldl step h := by
  rw [List.foldl_map, List.foldl_map]
  apply hperm.foldl_eq'
  intro t ht u hu h
  by_cases heq : t = u
  · rw [heq]
  · exact step_insertType_comm h fun hid => heq (List.inj_on_of_nodup_map hids ht hu hid)

/-- The catalog of post types has the last word on each id. It is strictly increasing by id, has for
each id that was ever inserted the last type inserted under it and nothing else, and sorting its
types from whichever order gives it back; a look-up agrees with it. Seeding after any call that
inserts types does nothing, and before all of them it inserts the default types; and insertions of
different ids in a row may change places. -/
theorem catalog_keeps_last_inserted (calls : List Call) :
    ((ofCalls calls).store.types.Pairwise fun a b => a.id < b.id) ∧
    (∀ t, t ∈ (ofCalls calls).store.types ↔ LastInserted (inserted calls) t) ∧
    (∀ id ∈ (inserted calls).map (·.id), ∃! t, t ∈ (ofCalls calls).store.types ∧ t.id = id) ∧
    (∀ found : List PostType, found.Perm (ofCalls calls).store.types →
      found.mergeSort (fun a b => decide (a.id ≤ b.id)) = (ofCalls calls).store.types) ∧
    (∀ (id : String) (t : PostType), (ofCalls calls).store.type? id = some t ↔
      t ∈ (ofCalls calls).store.types ∧ t.id = id) ∧
    (∀ front back : List Call, calls = front ++ .seed :: back →
      (∃ c ∈ front, c.insertsTypes = true) → ofCalls calls = ofCalls (front ++ back)) ∧
    (∀ front back : List Call, calls = front ++ .seed :: back →
      (∀ c ∈ front, c.insertsTypes = false) →
      ofCalls calls = ofCalls (front ++ Store.defaultTypes.map .insertType ++ back)) ∧
    (∀ (front : List Call) (ts ts' : List PostType) (back : List Call),
      calls = front ++ ts.map .insertType ++ back →
      (ts.map (·.id)).Nodup → ts.Perm ts' →
      ofCalls calls = ofCalls (front ++ ts'.map .insertType ++ back)) := by
  have hlists := lists_ofCalls calls
  refine ⟨hlists.sorted, hlists.latest, fun id hid => hlists.existsUnique hid,
    fun found hperm => Store.mergeSort_types_of_perm hperm hlists.sorted, ?_, ?_, ?_, ?_⟩
  · intro id t
    constructor
    · intro hfound
      have hid := List.find?_some hfound
      exact ⟨List.mem_of_find?_eq_some hfound, by simpa using hid⟩
    · rintro ⟨ht, rfl⟩
      exact (consistent_ofCalls calls).type?_eq_some ht
  · rintro front back rfl ⟨c, hc, hinserts⟩
    have hne : (ofCalls front).store.types ≠ [] := by
      rw [Ne, (lists_ofCalls front).types_eq_nil_iff, inserted_eq_nil_iff]
      intro hnone
      rw [hnone c hc] at hinserts
      cases hinserts
    rw [ofCalls_append, List.foldl_cons, step_seed_eq_self hne, ofCalls_append]
  · rintro front back rfl hnone
    have hempty := (lists_ofCalls front).types_eq_nil_iff.2 (inserted_eq_nil_iff.2 hnone)
    rw [ofCalls_append, List.foldl_cons, step_seed_of_empty hempty, List.append_assoc,
      ofCalls_append, List.foldl_append]
  · rintro front ts ts' back rfl hids hperm
    rw [List.append_assoc, List.append_assoc, ofCalls_append, ofCalls_append, List.foldl_append,
      List.foldl_append, foldl_insertType_of_perm hids hperm]

/-- A post type that takes the place of a default one. -/
def articleType : PostType := ⟨"post", "Article", "Articles", none⟩

def newsType : PostType := ⟨"news", "News item", "News", some "/news/"⟩

theorem catalog_keeps_last_inserted_reseeded :
    (ofCalls [.seed, .insertType articleType, .insertType newsType, .seed]).store.types =
      [newsType, ⟨"page", "Page", "Pages", none⟩, articleType] ∧
    LastInserted (inserted [.seed, .insertType articleType, .insertType newsType, .seed])
      articleType ∧
    (ofCalls [.seed, .insertType articleType, .insertType newsType, .seed]).store.type? "post" =
      some articleType ∧
    ofCalls [.seed, .insertType articleType, .insertType newsType, .seed] =
      ofCalls [.seed, .insertType newsType, .insertType articleType] ∧
    (ofCalls [.insertType newsType, .seed]).store.types = [newsType] := by
  obtain ⟨-, hlatest, -, -, hfind, hseed, -, -⟩ :=
    catalog_keeps_last_inserted [.seed, .insertType articleType, .insertType newsType, .seed]
  obtain ⟨-, -, -, -, -, -, -, hswap⟩ :=
    catalog_keeps_last_inserted [.seed, .insertType articleType, .insertType newsType]
  obtain ⟨-, -, -, -, -, hearly, -, -⟩ :=
    catalog_keeps_last_inserted [.insertType newsType, .seed]
  have htypes :
      (ofCalls [.seed, .insertType articleType, .insertType newsType, .seed]).store.types =
        [newsType, ⟨"page", "Page", "Pages", none⟩, articleType] := by decide
  have harticle : articleType ∈
      (ofCalls [.seed, .insertType articleType, .insertType newsType, .seed]).store.types := by
    rw [htypes]
    simp
  refine ⟨htypes, (hlatest articleType).1 harticle, (hfind "post" articleType).2 ⟨harticle, rfl⟩,
    ?_, ?_⟩
  · have hdropped := hseed [.seed, .insertType articleType, .insertType newsType] [] rfl
      ⟨.seed, List.mem_cons_self, rfl⟩
    have hswapped := hswap [.seed] [articleType, newsType] [newsType, articleType] [] rfl
      (by decide) (List.Perm.swap _ _ _)
    exact hdropped.trans hswapped
  · rw [hearly [.insertType newsType] [] rfl ⟨_, List.mem_cons_self, rfl⟩]
    rfl

end History

end Pressroom.Content
