import Mathlib.Algebra.BigOperators.Group.List.Basic
import Mathlib.Algebra.GroupWithZero.Nat
import Pressroom.Proofs.PageOutcome

/-!
The counters account for every page. A request for a page ends in one of three ways, said once in
`page_cases`: its path leads nowhere and the misses are counted, its data cannot be loaded and
nothing is, or its view renders it and that is counted. Main statement: over any run of requests and
creations the counters are the numbers of these answers.
-/

set_option autoImplicit false
set_option relaxedAutoImplicit false

namespace Pressroom.Application

open Pressroom.Content (ContentError NewPost)
open Pressroom.Page (Query View)
open Pressroom.Route (Path)

/-- What is asked of an application: a page, or a post under an id of its own. -/
inductive Demand where
  | page (path : Path) (query : Query) (messages : List Flash.Message)
  | create (id : String) (input : NewPost)

def Demand.isPage : Demand → Bool
  | .page _ _ _ => true
  | .create _ _ => false

/-- The answer to a request for a page, and the view that its path leads to. -/
structure Answered where
  view? : Option View
  result : Except PageError String

namespace Answered

def isMiss (a : Answered) : Bool :=
  match a.result with
  | .error (.notFound _) => true
  | _ => false

def isShownBy (v : View) (a : Answered) : Bool :=
  match a.result with
  | .ok _ => a.view? == some v
  | .error _ => false

def isLoadError (a : Answered) : Bool :=
  match a.result with
  | .error (.content _) => true
  | _ => false

end Answered

/-- An application and the pages that were asked of it so far, with their answers. -/
structure Session where
  app : Application
  pages : List Answered

namespace Session

def start (app : Application) : Session := ⟨app, []⟩

def step (s : Session) : Demand → Session
  | .page path query messages =>
    ⟨(s.app.page path query messages).2,
      s.pages ++ [⟨s.app.table.view? path, (s.app.page path query messages).1⟩]⟩
  | .create id input => ⟨(s.app.create id input).2, s.pages⟩

def ofDemands (app : Application) (demands : List Demand) : Session :=
  demands.foldl step (start app)

@[simp] private theorem ofDemands_append_single (app : Application) (demands : List Demand) (d : Demand) :
    ofDemands app (demands ++ [d]) = (ofDemands app demands).step d := by
  simp only [ofDemands, List.foldl_append, List.foldl_cons, List.foldl_nil]

private theorem length_pages (app : Application) (demands : List Demand) :
    (ofDemands app demands).pages.length = demands.countP Demand.isPage := by
  induction demands using List.reverseRecOn with
  | nil => rfl
  | append_singleton demands d ih =>
    cases d with
    | page path query messages => simp [step, Demand.isPage, ih]
    | create id input => simp [step, Demand.isPage, ih]

end Session

/-- All that a request for a page can come to. -/
theorem page_cases (app : Application) (path : Path) (query : Query)
    (messages : List Flash.Message) :
    (∃ e, app.page path query messages = (.error (.notFound e), app.count .routeMiss)) ∨
    (∃ e, app.page path query messages = (.error (.content e), app)) ∨
    ∃ v html, app.table.view? path = some v ∧
      app.page path query messages = (.ok html, app.count (.render v true)) := by
  unfold page
  cases hresolve : app.table.resolve path with
  | error e => exact Or.inl ⟨e, rfl⟩
  | ok r =>
    refine Or.inr ?_
    cases hload : Page.load r.module.view query messages app.store with
    | error e => exact Or.inl ⟨e, by simp only [hload]⟩
    | ok data =>
      have hrender := app.shell.render_of_kind (Page.kind_of_load hload)
      have hview : app.table.view? path = some r.module.view := by
        rw [Route.Table.view?, hresolve]
        rfl
      refine Or.inr ⟨r.module.view, app.shell.document data.content, hview, ?_⟩
      simp only [hload, render, hrender]
      rfl

/-- How the counters move with one answer, which is of one sort. -/
structure Moved (m : Metrics) (a : Answered) (m' : Metrics) : Prop where
  misses : m'.value .routeMiss = m.value .routeMiss + if a.isMiss then 1 else 0
  shown : ∀ v, m'.value (.render v true) =
    m.value (.render v true) + if a.isShownBy v then 1 else 0
  unfailing : ∀ v, m'.counts.lookup (.render v false) = m.counts.lookup (.render v false)
  sort : (if a.isMiss then 1 else 0) + (View.all.map fun v => if a.isShownBy v then 1 else 0).sum +
    (if a.isLoadError then 1 else 0) = 1

private theorem moved_miss (m : Metrics) (view? : Option View) (e : Route.NotFound) :
    Moved m ⟨view?, .error (.notFound e)⟩ (m.count .routeMiss) where
  misses := m.value_count_self .routeMiss
  shown _ := m.value_count_of_ne (by simp)
  unfailing _ := Keyed.lookup_put_of_ne (by simp) _ _
  sort := rfl

private theorem moved_loadError (m : Metrics) (view? : Option View) (e : ContentError) :
    Moved m ⟨view?, .error (.content e)⟩ m where
  misses := rfl
  shown _ := rfl
  unfailing _ := rfl
  sort := rfl

private theorem moved_shown (m : Metrics) (v : View) (html : String) :
    Moved m ⟨some v, .ok html⟩ (m.count (.render v true)) where
  misses := m.value_count_of_ne (by simp)
  shown u := by
    by_cases hu : u = v
    · subst hu
      simp [Answered.isShownBy]
    · rw [m.value_count_of_ne (by simpa using hu)]
      simp [Answered.isShownBy, Ne.symm hu]
  unfailing _ := Keyed.lookup_put_of_ne (by simp) _ _
  sort := by cases v <;> rfl

private theorem moved_page (app : Application) (path : Path) (query : Query)
    (messages : List Flash.Message) :
    Moved app.metrics ⟨app.table.view? path, (app.page path query messages).1⟩
      (app.page path query messages).2.metrics := by
  rcases app.page_cases path query messages with ⟨e, hpage⟩ | ⟨e, hpage⟩ | ⟨v, html, hview, hpage⟩
  · rw [hpage]
    exact moved_miss app.metrics _ e
  · rw [hpage]
    exact moved_loadError app.metrics _ e
  · rw [hpage, hview]
    exact moved_shown app.metrics v html

private theorem metrics_create (app : Application) (id : String) (input : NewPost) :
    (app.create id input).2.metrics = app.metrics := by
  unfold create
  match app.store.create id input with
  | none => rfl
  | some (.error e) => rfl
  | some (.ok (p, s)) => rfl

private theorem metrics_of_ofConfig {c : Config.Server} {app : Application}
    (h : ofConfig c = .ok app) :
    app.metrics = .zero := by
  unfold ofConfig at h
  cases hcompile : Route.Table.compile c.routes.entries with
  | error e =>
    rw [hcompile] at h
    cases h
  | ok table =>
    rw [hcompile] at h
    cases h
    rfl

/-- The counters are the numbers of the answers, and there is no answer besides these sorts. -/
structure Accounted (m : Metrics) (pages : List Answered) : Prop where
  misses : m.value .routeMiss = pages.countP Answered.isMiss
  shown : ∀ v, m.value (.render v true) = pages.countP (Answered.isShownBy v)
  unfailing : ∀ v, m.counts.lookup (.render v false) = none
  sorts : pages.length = pages.countP Answered.isMiss +
    (View.all.map fun v => pages.countP (Answered.isShownBy v)).sum +
    pages.countP Answered.isLoadError

private theorem Accounted.zero : Accounted .zero [] :=
  ⟨rfl, fun _ => rfl, fun _ => rfl, rfl⟩

private theorem Accounted.moved {m m' : Metrics} {pages : List Answered} {a : Answered}
    (h : Accounted m pages) (hm : Moved m a m') : Accounted m' (pages ++ [a]) := by
  refine ⟨?_, ?_, ?_, ?_⟩
  · rw [hm.misses, h.misses, List.countP_append, List.countP_singleton]
  · intro v
    rw [hm.shown v, h.shown v, List.countP_append, List.countP_singleton]
  · intro v
    rw [hm.unfailing v, h.unfailing v]
  · have hbefore := h.sorts
    have hsort := hm.sort
    simp only [List.length_append, List.length_singleton, List.countP_append, List.countP_singleton,
      List.sum_map_add]
    omega

theorem Session.accounted_step {s : Session} (h : Accounted s.app.metrics s.pages) (d : Demand) :
    Accounted (s.step d).app.metrics (s.step d).pages := by
  cases d with
  | page path query messages => exact h.moved (s.app.moved_page path query messages)
  | create id input =>
    rw [step, metrics_create]
    exact h

theorem Session.accounted_ofDemands {app : Application} (h : app.metrics = .zero)
    (demands : List Demand) :
    Accounted (ofDemands app demands).app.metrics (ofDemands app demands).pages := by
  induction demands using List.reverseRecOn with
  | nil =>
    change Accounted app.metrics []
    rw [h]
    exact .zero
  | append_singleton demands d ih =>
    simpa using accounted_step ih d

/-- From the start of an application the misses that are counted are the pages that were not found,
the renderings of each view are the pages that it has shown, no failed rendering is ever counted,
and every page asked for is a miss, a rendering, or a failure to load that no counter shows. -/
theorem counters_account_for_pages {c : Config.Server} {app : Application}
    (h : ofConfig c = .ok app) (demands : List Demand) :
    let session := Session.ofDemands app demands
    let m := session.app.metrics
    m.value .routeMiss = session.pages.countP Answered.isMiss ∧
    (∀ v, m.value (.render v true) = session.pages.countP (Answered.isShownBy v)) ∧
    (∀ v, m.counts.lookup (.render v false) = none) ∧
    demands.countP Demand.isPage = m.value .routeMiss +
      (View.all.map fun v => m.value (.render v true)).sum +
      session.pages.countP Answered.isLoadError := by
  obtain ⟨hmisses, hshown, hunfailing, hsorts⟩ :=
    Session.accounted_ofDemands (metrics_of_ofConfig h) demands
  refine ⟨hmisses, hshown, hunfailing, ?_⟩
  rw [← Session.length_pages app demands, hsorts, hmisses]
  simp only [hshown]

/-- Every sort of answer: a post is asked for before it is there and after, a path leads nowhere, and
a type is unknown. -/
def mixedDemands : List Demand :=
  [.page ⟨[]⟩ ⟨none, none⟩ [], .page ⟨["post"]⟩ ⟨none, some "hello"⟩ [],
    .create "a" ⟨"Hello", "", "post"⟩, .page ⟨["post"]⟩ ⟨none, some "hello"⟩ [],
    .create "b" ⟨" ", "", "post"⟩, .page ⟨["nowhere"]⟩ ⟨none, none⟩ [],
    .page ⟨["admin", "posts"]⟩ ⟨some "gallery", none⟩ []]

theorem counters_account_for_pages_mixed :
    ∃ app, ofConfig .default = .ok app ∧
      (Session.ofDemands app mixedDemands).app.metrics.value .routeMiss = 1 ∧
      (Session.ofDemands app mixedDemands).app.metrics.value (.render .postDetail true) = 1 ∧
      (Session.ofDemands app mixedDemands).app.metrics.value (.render .postList true) = 0 ∧
      (Session.ofDemands app mixedDemands).app.metrics.counts.lookup (.render .postList false) =
        none ∧
      (View.all.map fun v =>
        (Session.ofDemands app mixedDemands).app.metrics.value (.render v true)).sum = 2 := by
  obtain ⟨app, h⟩ : ∃ app, ofConfig .default = .ok app := ⟨_, rfl⟩
  obtain ⟨hmisses, hshown, hunfailing, htotal⟩ := counters_account_for_pages h mixedDemands
  have hanswers : (Session.ofDemands app mixedDemands).pages.countP Answered.isMiss = 1 ∧
      (Session.ofDemands app mixedDemands).pages.countP (Answered.isShownBy .postDetail) = 1 ∧
      (Session.ofDemands app mixedDemands).pages.countP (Answered.isShownBy .postList) = 0 ∧
      (Session.ofDemands app mixedDemands).pages.countP Answered.isLoadError = 2 := by
    cases h
    decide
  obtain ⟨hmiss, hdetail, hlist, herror⟩ := hanswers
  have hpages : mixedDemands.countP Demand.isPage = 5 := rfl
  refine ⟨app, h, hmisses.trans hmiss, (hshown _).trans hdetail, (hshown _).trans hlist,
    hunfailing _, ?_⟩
  omega

end Pressroom.Application
