import Pressroom.Proofs.PageServing
import Pressroom.Proofs.PageWire

/-!
What becomes of a request for a page. A page is the document of its data, and the data are there
unless the path leads nowhere or the store does not have what the query asks for. Main statement:
which of these it is, for every view; rendering itself never fails.
-/

set_option autoImplicit false
set_option relaxedAutoImplicit false

namespace Pressroom.Page

open Pressroom.Content (Store)

theorem load_postList (q : Query) (messages : List Flash.Message) (s : Store) :
    load .postList q messages s =
      match s.type? (q.postType.getD defaultPostType) with
      | some t => .ok (.listing ⟨t, s.postsOfType t.id⟩)
      | none => .error (.unknownPostType (q.postType.getD defaultPostType)) := by
  simp only [load, requestedType]
  cases s.type? (q.postType.getD defaultPostType) with
  | none => rfl
  | some t => rfl

theorem load_postCreate (q : Query) (messages : List Flash.Message) (s : Store) :
    load .postCreate q messages s =
      match s.type? (q.postType.getD defaultPostType) with
      | some t => .ok (.createForm ⟨t, messages⟩)
      | none => .error (.unknownPostType (q.postType.getD defaultPostType)) := by
  simp only [load, requestedType]
  cases s.type? (q.postType.getD defaultPostType) with
  | none => rfl
  | some t => rfl

private theorem kind_of_decode {k : Kind} {payload : Datum} {data : Data}
    (h : Data.decode k payload = .ok data) : data.kind = k :=
  Data.kind_of_payloadReader h

theorem Shell.render_of_kind_ne (s : Shell) {v : View} {data : Data} (h : data.kind ≠ v.accepts) :
    s.render v data = .error (.failed (.unfitData v data.kind)) := by
  rw [render, if_neg h]

end Pressroom.Page

namespace Pressroom.Application

open Pressroom.Page (Data Query View)
open Pressroom.Route (Module Path)

private theorem exists_render_of_status {e : PageError} (h : e.status = 500) :
    ∃ fault, e = .render fault := by
  cases e with
  | notFound reason => cases h
  | content reason => cases reason <;> cases h
  | render fault => exact ⟨fault, rfl⟩

/-- The data of a page: the path is resolved, and what its view needs is loaded. -/
def dataFor (app : Application) (path : Path) (q : Query) (messages : List Flash.Message) :
    Except PageError Data :=
  match app.table.resolve path with
  | .error e => .error (.notFound e)
  | .ok r => (Page.load r.module.view q messages app.store).mapError .content

theorem dataFor_of_resolve {app : Application} {path : Path} {r : Route.Resolution}
    (h : app.table.resolve path = .ok r) (q : Query) (messages : List Flash.Message) :
    app.dataFor path q messages =
      (Page.load r.module.view q messages app.store).mapError .content := by
  rw [dataFor, h]

theorem page_eq_map_dataFor (app : Application) (path : Path) (q : Query)
    (messages : List Flash.Message) :
    (app.page path q messages).1 =
      (app.dataFor path q messages).map fun data => app.shell.document data.content := by
  cases hresolve : app.table.resolve path with
  | error e =>
    rw [page, dataFor, hresolve]
    rfl
  | ok r =>
    have hview : app.table.view? path = some r.module.view := by
      rw [Route.Table.view?, hresolve]
      rfl
    rw [dataFor_of_resolve hresolve]
    cases hload : Page.load r.module.view q messages app.store with
    | error e =>
      rw [page_of_load_error hview hload]
      rfl
    | ok data =>
      rw [page_of_load hview hload]
      rfl

private theorem page_eq_error_iff {app : Application} {path : Path} {q : Query}
    {messages : List Flash.Message} {e : PageError} :
    (app.page path q messages).1 = .error e ↔ app.dataFor path q messages = .error e := by
  rw [page_eq_map_dataFor]
  cases app.dataFor path q messages <;> simp [Except.map]

private theorem dataFor_ne_render (app : Application) (path : Path) (q : Query)
    (messages : List Flash.Message) (e : Page.RenderError) :
    app.dataFor path q messages ≠ .error (.render e) := by
  unfold dataFor
  split
  · simp
  · next r _ => cases Page.load r.module.view q messages app.store <;> simp [Except.mapError]

private theorem dataFor_eq_notFound_iff {app : Application} {path : Path} {q : Query}
    {messages : List Flash.Message} {e : Route.NotFound} :
    app.dataFor path q messages = .error (.notFound e) ↔ app.table.resolve path = .error e := by
  unfold dataFor
  cases app.table.resolve path with
  | error e' => simp
  | ok r => cases hload : Page.load r.module.view q messages app.store <;> simp [Except.mapError, hload]

/-- What a request for a page comes to, by the view that serves it: the type that is asked for has
to exist, and so has the post. -/
def Outcome (app : Application) (v : View) (q : Query) (result : Except PageError String) : Prop :=
  match v with
  | .home | .admin => ∃ html, result = .ok html
  | .postList | .postCreate =>
    match app.store.type? (q.postType.getD "post") with
    | some _ => ∃ html, result = .ok html
    | none => result = .error (.content (.unknownPostType (q.postType.getD "post")))
  | .postDetail =>
    match q.slug with
    | none => ∃ detail, result = .error (.content (.invalid detail))
    | some slug =>
      match app.store.postBySlug? slug with
      | some _ => ∃ html, result = .ok html
      | none => result = .error (.content (.postNotFound slug))

private theorem outcome_page {app : Application} {path : Path} {r : Route.Resolution}
    (h : app.table.resolve path = .ok r) (q : Query) (messages : List Flash.Message) :
    app.Outcome r.module.view q (app.page path q messages).1 := by
  rw [page_eq_map_dataFor, dataFor_of_resolve h]
  cases r.module.view with
  | home => exact ⟨_, rfl⟩
  | admin => exact ⟨_, rfl⟩
  | postList =>
    simp only [Outcome, Page.load_postList, Page.defaultPostType]
    cases app.store.type? (q.postType.getD "post") with
    | none => rfl
    | some t => exact ⟨_, rfl⟩
  | postCreate =>
    simp only [Outcome, Page.load_postCreate, Page.defaultPostType]
    cases app.store.type? (q.postType.getD "post") with
    | none => rfl
    | some t => exact ⟨_, rfl⟩
  | postDetail =>
    simp only [Outcome, Page.load]
    cases q.slug with
    | none => exact ⟨_, rfl⟩
    | some slug =>
      simp only
      cases app.store.postBySlug? slug with
      | none => rfl
      | some p => exact ⟨_, rfl⟩

private theorem render_eq_ok_iff (app : Application) (m : Module) (data : Data) :
    (∃ html, (app.render m data).1 = .ok html) ↔ data.kind = m.view.accepts := by
  constructor
  · rintro ⟨html, hok⟩
    refine Decidable.byContradiction fun hkind => ?_
    rw [render, app.shell.render_of_kind_ne hkind] at hok
    cases hok
  · intro hkind
    exact ⟨_, app.shell.render_of_kind hkind⟩

private theorem render_ne_dataUnavailable (app : Application) (m : Module) (data : Data) :
    (app.render m data).1 ≠ .error .dataUnavailable := by
  rw [render]
  by_cases hkind : data.kind = m.view.accepts
  · simp [app.shell.render_of_kind hkind]
  · simp [app.shell.render_of_kind_ne hkind]

/-- Data always fit their view, so a page never fails to render. It is missing exactly when its path
leads nowhere, and otherwise it comes to what the store has for its view. Payloads that were read for
a view are rendered by it, and nothing but data of another kind makes a rendering fail. -/
theorem pages_never_fail_to_render (app : Application) (path : Path) (q : Query)
    (messages : List Flash.Message) :
    (∀ e, (app.page path q messages).1 ≠ .error (.render e)) ∧
    (∀ e, (app.page path q messages).1 = .error e → e.status ≠ 500) ∧
    (∀ e, (app.page path q messages).1 = .error (.notFound e) ↔
      app.table.resolve path = .error e) ∧
    (∀ r, app.table.resolve path = .ok r →
      app.Outcome r.module.view q (app.page path q messages).1) ∧
    (∀ (m : Module) (payload : Datum) (data : Data),
      Data.decode m.view.accepts payload = .ok data → ∃ html, (app.render m data).1 = .ok html) ∧
    (∀ (m : Module) (data : Data),
      ((∃ html, (app.render m data).1 = .ok html) ↔ data.kind = m.view.accepts) ∧
      (app.render m data).1 ≠ .error .dataUnavailable) := by
  have hrender : ∀ e, (app.page path q messages).1 ≠ .error (.render e) := by
    intro e herr
    exact app.dataFor_ne_render path q messages e (page_eq_error_iff.1 herr)
  refine ⟨hrender, ?_, ?_, fun r hr => outcome_page hr q messages, ?_, ?_⟩
  · intro e herr hstatus
    obtain ⟨fault, rfl⟩ := exists_render_of_status hstatus
    exact hrender fault herr
  · intro e
    exact page_eq_error_iff.trans dataFor_eq_notFound_iff
  · intro m payload data hdecode
    exact (app.render_eq_ok_iff m data).2 (Page.kind_of_decode hdecode)
  · intro m data
    exact ⟨app.render_eq_ok_iff m data, app.render_ne_dataUnavailable m data⟩

theorem pages_never_fail_to_render_unknown_slug :
    ∃ (app : Application) (r : Route.Resolution) (m : Module) (data : Data) (html : String),
      app.table.resolve ⟨["post"]⟩ = .ok r ∧ r.module.view = .postDetail ∧
      (app.page ⟨["post"]⟩ ⟨none, some "nope"⟩ []).1 = .error (.content (.postNotFound "nope")) ∧
      (PageError.content (.postNotFound "nope")).status ≠ 500 ∧
      Data.decode m.view.accepts (.record [("post_type", .record [("id", .text "news")])]) =
        .ok data ∧
      data = .createForm ⟨⟨"news", "", "", none⟩, []⟩ ∧ (app.render m data).1 = .ok html := by
  obtain ⟨t, hcompile⟩ : ∃ t, Route.Table.compile Config.Routes.default.entries = .ok t := ⟨_, rfl⟩
  obtain ⟨-, -, -, -, hdetail⟩ := Route.view?_default hcompile
  obtain ⟨r, hr, hview⟩ := Route.Table.exists_resolution hdetail
  obtain ⟨app, rfl, hstore⟩ : ∃ app : Application, t = app.table ∧ app.store = .empty :=
    ⟨⟨t, .default, .empty, .zero⟩, rfl, rfl⟩
  obtain ⟨-, hstatus, -, houtcome, hdecode, -⟩ :=
    pages_never_fail_to_render app ⟨["post"]⟩ ⟨none, some "nope"⟩ []
  have hpage := houtcome r hr
  rw [hview] at hpage
  have hnone : app.store.postBySlug? "nope" = none := by rw [hstore]; rfl
  simp only [Outcome, hnone] at hpage
  have hread : Data.decode .createForm (.record [("post_type", .record [("id", .text "news")])]) =
      .ok (.createForm ⟨⟨"news", "", "", none⟩, []⟩) := rfl
  obtain ⟨html, hhtml⟩ := hdecode ⟨r.module.location, .postCreate⟩ _ _ hread
  exact ⟨app, r, ⟨r.module.location, .postCreate⟩, _, html, hr, hview, hpage, hstatus _ hpage, hread,
    rfl, hhtml⟩

end Pressroom.Application
