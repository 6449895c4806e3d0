import Pressroom.Route.Table

/-!
What a compiled manifest answers. A table holds exactly the modules that its manifest declares, no
two at one place, so that looking a place up depends on which entries there are and not on their
order. Main statement: a path leads to the module that stands there, else to the index below it,
else nowhere, and one more entry is felt at no other path.
-/

set_option autoImplicit false
set_option relaxedAutoImplicit false

namespace Pressroom.Route

open Pressroom.Page (View)

/-- The module that a manifest entry declares, if it can be read. -/
def Entry.module? (e : Entry) : Option Module :=
  match Location.parse e.location, View.parse e.view with
  | .ok l, .ok v => some ⟨l, v⟩
  | _, _ => none

/-- Whether the location of an entry is read as the given segments. -/
def Entry.standsAt (e : Entry) (segments : List String) : Bool :=
  match Location.parse e.location with
  | .ok l => l.segments == segments
  | .error _ => false

private theorem standsAt_of_module? {e : Entry} {m : Module} (h : e.module? = some m)
    (segments : List String) : e.standsAt segments = true ↔ m.location.segments = segments := by
  unfold Entry.module? at h
  split at h
  · next l v hl hv =>
    cases h
    simp [Entry.standsAt, hl]
  · cases h

namespace Table

/-- No two modules stand at one place. -/
def Distinct (t : Table) : Prop :=
  t.modules.Pairwise fun a b => a.location.segments ≠ b.location.segments

private theorem at?_eq_none_iff {t : Table} {segments : List String} :
    t.at? segments = none ↔ ∀ m ∈ t.modules, m.location.segments ≠ segments := by
  simp [at?]

theorem Distinct.at?_eq_some_iff {t : Table} (h : t.Distinct) {segments : List String}
    {m : Module} :
    t.at? segments = some m ↔ m ∈ t.modules ∧ m.location.segments = segments := by
  obtain ⟨modules⟩ := t
  induction modules with
  | nil => simp [at?]
  | cons first modules ih =>
    obtain ⟨hfirst, hrest⟩ := List.pairwise_cons.1 h
    have hat : at? ⟨first :: modules⟩ segments =
        if first.location.segments = segments then some first else at? ⟨modules⟩ segments := by
      by_cases heq : first.location.segments = segments <;> simp [at?, heq]
    rw [hat]
    by_cases heq : first.location.segments = segments
    · rw [if_pos heq]
      constructor
      · intro hm
        cases hm
        exact ⟨List.mem_cons_self, heq⟩
      · rintro ⟨hm, hseg⟩
        rcases List.mem_cons.1 hm with rfl | hm
        · rfl
        · exact absurd (heq.trans hseg.symm) (hfirst m hm)
    · rw [if_neg heq, ih hrest]
      constructor
      · rintro ⟨hm, hseg⟩
        exact ⟨List.mem_cons_of_mem first hm, hseg⟩
      · rintro ⟨hm, hseg⟩
        rcases List.mem_cons.1 hm with rfl | hm
        · exact absurd hseg heq
        · exact ⟨hm, hseg⟩

private theorem at?_congr {t t' : Table} (h : t.Distinct) (h' : t'.Distinct)
    {segments : List String}
    (hmem : ∀ m : Module, m.location.segments = segments → (m ∈ t.modules ↔ m ∈ t'.modules)) :
    t.at? segments = t'.at? segments := by
  apply Option.ext
  intro m
  rw [h.at?_eq_some_iff, h'.at?_eq_some_iff]
  constructor
  · rintro ⟨hm, hseg⟩
    exact ⟨(hmem m hseg).1 hm, hseg⟩
  · rintro ⟨hm, hseg⟩
    exact ⟨(hmem m hseg).2 hm, hseg⟩

private theorem add_eq_ok_iff {t t' : Table} {e : Entry} :
    t.add e = .ok t' ↔
      ∃ m, e.module? = some m ∧ t.at? m.location.segments = none ∧ t' = ⟨t.modules ++ [m]⟩ := by
  unfold add Entry.module?
  cases Location.parse e.location with
  | error reason => simp
  | ok l =>
    cases View.parse e.view with
    | error reason => simp
    | ok v =>
      cases hat : t.at? l.segments with
      | none => simp [hat, eq_comm]
      | some m => simp [hat]

private theorem distinct_append_single {t : Table} (h : t.Distinct) {m : Module}
    (hnew : t.at? m.location.segments = none) : Distinct ⟨t.modules ++ [m]⟩ := by
  apply List.pairwise_append.2
  refine ⟨h, List.pairwise_singleton _ m, ?_⟩
  intro a ha b hb
  rw [List.mem_singleton.1 hb]
  exact at?_eq_none_iff.1 hnew a ha

/-- Entries are added to a table exactly when each of them declares a module and all the modules
stand at places of their own; the table then has them at its end. -/
private theorem foldlM_add_eq_ok_iff {t t' : Table} (h : t.Distinct) {entries : List Entry} :
    entries.foldlM add t = .ok t' ↔
      (∀ e ∈ entries, e.module? ≠ none) ∧
        t'.modules = t.modules ++ entries.filterMap Entry.module? ∧ t'.Distinct := by
  induction entries generalizing t with
  | nil =>
    have hnil : List.foldlM add t [] = .ok t' ↔ t = t' := by
      change Except.ok t = .ok t' ↔ t = t'
      simp
    rw [hnil]
    constructor
    · rintro rfl
      simpa using h
    · rintro ⟨-, hmodules, -⟩
      cases t
      cases t'
      simpa using hmodules.symm
  | cons e entries ih =>
    rw [List.foldlM_cons]
    constructor
    · intro hfold
      cases hadd : t.add e with
      | error err =>
        rw [hadd] at hfold
        cases hfold
      | ok t₁ =>
        rw [hadd] at hfold
        obtain ⟨m, hm, hnew, rfl⟩ := add_eq_ok_iff.1 hadd
        obtain ⟨hall, hmodules, hdistinct⟩ := (ih (distinct_append_single h hnew)).1 hfold
        refine ⟨?_, ?_, hdistinct⟩
        · intro e' he'
          rcases List.mem_cons.1 he' with rfl | he'
          · simp [hm]
          · exact hall e' he'
        · rw [hmodules, List.filterMap_cons_some hm]
          simp
    · rintro ⟨hall, hmodules, hdistinct⟩
      obtain ⟨m, hm⟩ := Option.ne_none_iff_exists'.1 (hall e List.mem_cons_self)
      rw [List.filterMap_cons_some hm] at hmodules
      have hnew : t.at? m.location.segments = none := by
        apply at?_eq_none_iff.2
        intro a ha
        rw [Distinct, hmodules, List.pairwise_append] at hdistinct
        exact hdistinct.2.2 a ha m List.mem_cons_self
      have hadd : t.add e = .ok ⟨t.modules ++ [m]⟩ := add_eq_ok_iff.2 ⟨m, hm, hnew, rfl⟩
      rw [hadd]
      apply (ih (distinct_append_single h hnew)).2
      refine ⟨fun e' he' => hall e' (List.mem_cons_of_mem e he'), ?_, hdistinct⟩
      rw [hmodules]
      simp

theorem compile_eq_ok_iff {entries : List Entry} {t : Table} :
    compile entries = .ok t ↔
      (∀ e ∈ entries, e.module? ≠ none) ∧
        t.modules = entries.filterMap Entry.module? ∧ t.Distinct := by
  have hempty : Distinct empty := List.Pairwise.nil
  exact foldlM_add_eq_ok_iff hempty

theorem mem_modules_of_compile {entries : List Entry} {t : Table} (h : compile entries = .ok t)
    {m : Module} : m ∈ t.modules ↔ ∃ e ∈ entries, e.module? = some m := by
  rw [(compile_eq_ok_iff.1 h).2.1, List.mem_filterMap]

private theorem at?_of_compile {entries : List Entry} {t : Table} (h : compile entries = .ok t)
    {segments : List String} {m : Module} :
    t.at? segments = some m ↔
      m.location.segments = segments ∧ ∃ e ∈ entries, e.module? = some m := by
  obtain ⟨-, -, hdistinct⟩ := compile_eq_ok_iff.1 h
  rw [hdistinct.at?_eq_some_iff, mem_modules_of_compile h, and_comm]

private theorem at?_eq_none_of_compile {entries : List Entry} {t : Table}
    (h : compile entries = .ok t)
    {segments : List String} :
    t.at? segments = none ↔ ∀ e ∈ entries, e.standsAt segments = false := by
  rw [at?_eq_none_iff]
  constructor
  · intro hnone e he
    have hsome := (compile_eq_ok_iff.1 h).1 e he
    obtain ⟨m, hm⟩ := Option.ne_none_iff_exists'.1 hsome
    have hne := hnone m ((mem_modules_of_compile h).2 ⟨e, he, hm⟩)
    rw [← Bool.not_eq_true, standsAt_of_module? hm]
    exact hne
  · intro hnone m hm hseg
    obtain ⟨e, he, hem⟩ := (mem_modules_of_compile h).1 hm
    have hstands := (standsAt_of_module? hem segments).2 hseg
    rw [hnone e he] at hstands
    cases hstands

private theorem resolve_eq (t : Table) (p : Path) :
    t.resolve p =
      match t.at? p.segments, t.at? (p.segments ++ [Location.indexSegment]) with
      | some m, _ => .ok ⟨m, .exact⟩
      | none, some m => .ok ⟨m, .index⟩
      | none, none => .error ⟨p⟩ := by
  have hexact : MatchKind.exact.candidate p = p.segments := rfl
  have hindex : MatchKind.index.candidate p = p.segments ++ [Location.indexSegment] := rfl
  unfold resolve
  simp only [MatchKind.precedence, List.findSome?_cons, List.findSome?_nil, hexact, hindex]
  cases t.at? p.segments with
  | some m => rfl
  | none =>
    cases t.at? (p.segments ++ [Location.indexSegment]) with
    | some m => rfl
    | none => rfl

theorem resolve_eq_exact_iff {t : Table} {p : Path} {m : Module} :
    t.resolve p = .ok ⟨m, .exact⟩ ↔ t.at? p.segments = some m := by
  rw [resolve_eq]
  cases t.at? p.segments with
  | some m' => simp
  | none => cases t.at? (p.segments ++ [Location.indexSegment]) <;> simp

theorem resolve_eq_index_iff {t : Table} {p : Path} {m : Module} :
    t.resolve p = .ok ⟨m, .index⟩ ↔
      t.at? p.segments = none ∧ t.at? (p.segments ++ [Location.indexSegment]) = some m := by
  rw [resolve_eq]
  cases t.at? p.segments with
  | some m' => simp
  | none => cases t.at? (p.segments ++ [Location.indexSegment]) <;> simp

private theorem resolve_eq_error_iff {t : Table} {p : Path} {e : NotFound} :
    t.resolve p = .error e ↔
      e = ⟨p⟩ ∧ t.at? p.segments = none ∧
        t.at? (p.segments ++ [Location.indexSegment]) = none := by
  rw [resolve_eq]
  cases t.at? p.segments with
  | some m' => simp
  | none => cases t.at? (p.segments ++ [Location.indexSegment]) <;> simp [eq_comm]

private theorem resolve_congr {t t' : Table} {p : Path}
    (hexact : t.at? p.segments = t'.at? p.segments)
    (hindex : t.at? (p.segments ++ [Location.indexSegment]) =
      t'.at? (p.segments ++ [Location.indexSegment])) : t.resolve p = t'.resolve p := by
  rw [resolve_eq, resolve_eq, hexact, hindex]

theorem exists_compile_of_perm {entries entries' : List Entry} {t : Table}
    (h : compile entries = .ok t) (hperm : entries'.Perm entries) :
    ∃ t', compile entries' = .ok t' ∧ ∀ segments, t'.at? segments = t.at? segments := by
  obtain ⟨hall, hmodules, hdistinct⟩ := compile_eq_ok_iff.1 h
  have hperm' : (entries'.filterMap Entry.module?).Perm t.modules := by
    rw [hmodules]
    exact hperm.filterMap Entry.module?
  have hdistinct' : Distinct ⟨entries'.filterMap Entry.module?⟩ :=
    (hperm'.pairwise_iff fun hab => hab.symm).2 hdistinct
  refine ⟨⟨entries'.filterMap Entry.module?⟩, ?_, ?_⟩
  · apply compile_eq_ok_iff.2
    exact ⟨fun e he => hall e (hperm.subset he), rfl, hdistinct'⟩
  · intro segments
    apply at?_congr hdistinct' hdistinct
    intro m _
    exact hperm'.mem_iff

private theorem at?_of_added {front back : List Entry} {e : Entry} {m : Module} {t t' : Table}
    (h : compile (front ++ back) = .ok t) (h' : compile (front ++ e :: back) = .ok t')
    (hm : e.module? = some m) {segments : List String} (hne : m.location.segments ≠ segments) :
    t'.at? segments = t.at? segments := by
  obtain ⟨-, -, hdistinct⟩ := compile_eq_ok_iff.1 h
  obtain ⟨-, -, hdistinct'⟩ := compile_eq_ok_iff.1 h'
  apply at?_congr hdistinct' hdistinct
  intro a ha
  rw [mem_modules_of_compile h, mem_modules_of_compile h']
  constructor
  · rintro ⟨e', he', hea⟩
    refine ⟨e', ?_, hea⟩
    rcases List.mem_append.1 he' with he' | he'
    · exact List.mem_append_left back he'
    · rcases List.mem_cons.1 he' with rfl | he'
      · rw [hm] at hea
        cases hea
        exact absurd ha hne
      · exact List.mem_append_right front he'
  · rintro ⟨e', he', hea⟩
    refine ⟨e', ?_, hea⟩
    rcases List.mem_append.1 he' with he' | he'
    · exact List.mem_append_left _ he'
    · exact List.mem_append_right front (List.mem_cons_of_mem e he')

private theorem length_filter_standsAt_le {entries : List Entry} {t : Table}
    (h : compile entries = .ok t) (segments : List String) :
    (entries.filter (·.standsAt segments)).length ≤ 1 := by
  obtain ⟨hall, hmodules, hdistinct⟩ := compile_eq_ok_iff.1 h
  have hplaces : entries.Pairwise fun a b =>
      ¬ (a.standsAt segments = true ∧ b.standsAt segments = true) := by
    rw [Distinct, hmodules, List.pairwise_filterMap] at hdistinct
    refine hdistinct.imp_of_mem ?_
    rintro a b ha hb hab ⟨hsa, hsb⟩
    obtain ⟨m, hm⟩ := Option.ne_none_iff_exists'.1 (hall a ha)
    obtain ⟨m', hm'⟩ := Option.ne_none_iff_exists'.1 (hall b hb)
    rw [standsAt_of_module? hm] at hsa
    rw [standsAt_of_module? hm'] at hsb
    exact hab m hm m' hm' (hsa.trans hsb.symm)
  have hfilter := hplaces.filter (·.standsAt segments)
  cases hentries : entries.filter (·.standsAt segments) with
  | nil => simp
  | cons a rest =>
    cases rest with
    | nil => simp
    | cons b rest =>
      have hstands : ∀ e ∈ a :: b :: rest, e.standsAt segments = true := by
        intro e he
        rw [← hentries] at he
        exact (List.mem_filter.1 he).2
      rw [hentries] at hfilter
      have hboth : a.standsAt segments = true ∧ b.standsAt segments = true :=
        ⟨hstands a (by simp), hstands b (by simp)⟩
      exact absurd hboth (List.rel_of_pairwise_cons hfilter List.mem_cons_self)

/-- A path leads to the module that its manifest declares at exactly that place, else to the one
declared at the index below it, else nowhere. At most one entry can serve a path in either way, the
order of the entries does not matter, and one more entry is felt only at its own path and, if it is
an index, at the path of its directory. -/
theorem resolution_is_literal_or_index {entries : List Entry} {t : Table}
    (h : compile entries = .ok t) :
    (∀ (p : Path) (m : Module), t.resolve p = .ok ⟨m, .exact⟩ ↔
      m.location.segments = p.segments ∧ ∃ e ∈ entries, e.module? = some m) ∧
    (∀ (p : Path) (m : Module), t.resolve p = .ok ⟨m, .index⟩ ↔
      (∀ e ∈ entries, e.standsAt p.segments = false) ∧
        m.location.segments = p.segments ++ ["index"] ∧ ∃ e ∈ entries, e.module? = some m) ∧
    (∀ (p : Path) (reason : NotFound), t.resolve p = .error reason ↔
      reason = ⟨p⟩ ∧ ∀ e ∈ entries,
        e.standsAt p.segments = false ∧ e.standsAt (p.segments ++ ["index"]) = false) ∧
    (∀ (p : Path) (k : MatchKind), (entries.filter (·.standsAt (k.candidate p))).length ≤ 1) ∧
    (∀ entries' : List Entry, entries'.Perm entries →
      ∃ t', compile entries' = .ok t' ∧ ∀ p, t'.resolve p = t.resolve p) ∧
    ∀ (front back : List Entry) (e : Entry) (t' : Table), entries = front ++ back →
      compile (front ++ e :: back) = .ok t' →
      ∃ m, e.module? = some m ∧ ∀ p, t'.resolve p ≠ t.resolve p →
        p.segments = m.location.segments ∨
          (m.location.isIndex = true ∧ p.segments = m.location.segments.dropLast) := by
  refine ⟨?_, ?_, ?_, ?_, ?_, ?_⟩
  · intro p m
    rw [resolve_eq_exact_iff, at?_of_compile h]
  · intro p m
    rw [resolve_eq_index_iff, at?_of_compile h, at?_eq_none_of_compile h]
    rfl
  · intro p reason
    rw [resolve_eq_error_iff, at?_eq_none_of_compile h, at?_eq_none_of_compile h]
    constructor
    · rintro ⟨hreason, hexact, hindex⟩
      exact ⟨hreason, fun e he => ⟨hexact e he, hindex e he⟩⟩
    · rintro ⟨hreason, hnone⟩
      exact ⟨hreason, fun e he => (hnone e he).1, fun e he => (hnone e he).2⟩
  · intro p k
    exact length_filter_standsAt_le h (k.candidate p)
  · intro entries' hperm
    obtain ⟨t', hcompile, hat⟩ := exists_compile_of_perm h hperm
    exact ⟨t', hcompile, fun p => resolve_congr (hat _) (hat _)⟩
  · intro front back e t' hentries hcompile
    subst hentries
    have hsome := (compile_eq_ok_iff.1 hcompile).1 e (by simp)
    obtain ⟨m, hm⟩ := Option.ne_none_iff_exists'.1 hsome
    refine ⟨m, hm, ?_⟩
    intro p hchanged
    by_cases hexact : m.location.segments = p.segments
    · exact Or.inl hexact.symm
    · by_cases hindex : m.location.segments = p.segments ++ [Location.indexSegment]
      · right
        simp [Location.isIndex, hindex]
      · refine absurd (resolve_congr ?_ ?_) hchanged
        · exact at?_of_added h hcompile hm hexact
        · exact at?_of_added h hcompile hm hindex

/-- A manifest with a page and an index at one path, and an index of a directory called `index`. -/
def nested : List Entry :=
  [⟨"index", "home"⟩, ⟨"/admin/", "admin"⟩, ⟨"admin/index", "post_list"⟩,
    ⟨"docs/index/index", "post_detail"⟩]

theorem resolution_is_literal_or_index_nested :
    ∃ t t' more : Table, compile nested = .ok t ∧ compile nested.reverse = .ok t' ∧
      compile (nested ++ [⟨"docs", "home"⟩]) = .ok more ∧
      (∃ m, t.resolve ⟨["admin"]⟩ = .ok ⟨m, .exact⟩ ∧ m.view = .admin) ∧
      (∃ m, t'.resolve ⟨["docs", "index"]⟩ = .ok ⟨m, .index⟩ ∧ m.view = .postDetail) ∧
      t.resolve ⟨["docs"]⟩ = .error ⟨⟨["docs"]⟩⟩ ∧
      more.resolve ⟨["docs", "index"]⟩ = t.resolve ⟨["docs", "index"]⟩ := by
  obtain ⟨t, h⟩ : ∃ t, compile nested = .ok t := ⟨_, rfl⟩
  obtain ⟨more, hmore⟩ : ∃ t, compile (nested ++ [⟨"docs", "home"⟩]) = .ok t := ⟨_, rfl⟩
  obtain ⟨hexact, hindex, hnone, -, horder, hadded⟩ := resolution_is_literal_or_index h
  obtain ⟨t', h', hsame⟩ := horder nested.reverse nested.reverse_perm
  obtain ⟨new, hnew, hchanged⟩ := hadded nested [] _ more (List.append_nil nested).symm hmore
  obtain ⟨admin, hadmin⟩ : ∃ m, Entry.module? ⟨"/admin/", "admin"⟩ = some m := ⟨_, rfl⟩
  obtain ⟨docs, hdocs⟩ : ∃ m, Entry.module? ⟨"docs/index/index", "post_detail"⟩ = some m := ⟨_, rfl⟩
  have hadmin' : admin.location.segments = ["admin"] ∧ admin.view = .admin := by
    cases hadmin
    exact ⟨rfl, rfl⟩
  have hdocs' : docs.location.segments = ["docs", "index", "index"] ∧ docs.view = .postDetail := by
    cases hdocs
    exact ⟨rfl, rfl⟩
  refine ⟨t, t', more, h, h', hmore, ⟨admin, (hexact _ _).2 ?_, hadmin'.2⟩,
    ⟨docs, ?_, hdocs'.2⟩, (hnone _ _).2 ⟨rfl, by decide⟩, ?_⟩
  · exact ⟨hadmin'.1, _, by simp [nested], hadmin⟩
  · rw [hsame]
    apply (hindex _ _).2
    exact ⟨by decide, hdocs'.1, _, by simp [nested], hdocs⟩
  · refine Classical.byContradiction fun hne => ?_
    have hplace := hchanged _ hne
    cases hnew
    exact absurd hplace (by decide)

end Table

end Pressroom.Route
