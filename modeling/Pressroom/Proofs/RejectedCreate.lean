import Pressroom.Http.Server
import Pressroom.Proofs.PageServing
import Pressroom.Proofs.StoreOperations

/-!
Where a client ends up whose post was rejected. The answer to the form sends the client on, and
leaves a message when the title was missing; what they meet there is decided by the query of that
place. Main statement: they meet a page, the form with the message if one was left, except when a
post without title names a type that does not exist; then they are sent to a form that is not there.
-/

set_option autoImplicit false
set_option relaxedAutoImplicit false

namespace Pressroom

open Pressroom.Content (ContentError NewPost PostType Store)
open Pressroom.Page (Data Query)

namespace Application

/-- The application after some attempts to create posts, each under its id. -/
def afterCreates (app : Application) (calls : List (String × NewPost)) : Application :=
  calls.foldl (fun app call => (app.create call.1 call.2).2) app

private theorem afterCreates_cons (app : Application) (call : String × NewPost)
    (calls : List (String × NewPost)) :
    app.afterCreates (call :: calls) = (app.create call.1 call.2).2.afterCreates calls := by
  rw [afterCreates, List.foldl_cons, afterCreates]

private theorem create_of_error {app : Application} {id : String} {input : NewPost}
    {e : ContentError}
    (h : app.store.create id input = some (.error e)) :
    app.create id input = (some (.error e), app) := by
  rw [create, h]

private theorem kept_by_create (app : Application) (id : String) (input : NewPost) :
    (app.create id input).2.table = app.table ∧ (app.create id input).2.shell = app.shell ∧
      (app.create id input).2.store.types = app.store.types := by
  match h : app.store.create id input with
  | none =>
    rw [create, h]
    exact ⟨rfl, rfl, rfl⟩
  | some (.error e) =>
    rw [create_of_error h]
    exact ⟨rfl, rfl, rfl⟩
  | some (.ok (post, store)) =>
    have htypes : store.types = app.store.types := by rw [(Store.created_of_create h).store_eq]
    rw [create, h]
    exact ⟨rfl, rfl, htypes⟩

private theorem kept_by_creates (app : Application) (calls : List (String × NewPost)) :
    (app.afterCreates calls).table = app.table ∧ (app.afterCreates calls).shell = app.shell ∧
      (app.afterCreates calls).store.types = app.store.types := by
  induction calls generalizing app with
  | nil => exact ⟨rfl, rfl, rfl⟩
  | cons call calls ih =>
    obtain ⟨htable, hshell, htypes⟩ := kept_by_create app call.1 call.2
    obtain ⟨htable', hshell', htypes'⟩ := ih (app.create call.1 call.2).2
    rw [afterCreates_cons]
    exact ⟨htable'.trans htable, hshell'.trans hshell, htypes'.trans htypes⟩

theorem exists_default :
    ∃ app, ofConfig Config.Server.default = .ok app ∧ app.store = Store.empty.seed :=
  ⟨_, rfl, rfl⟩

theorem start_of_default {app : Application} (h : ofConfig .default = .ok app) :
    Route.Table.compile Config.Routes.default.entries = .ok app.table ∧
      (app.store.type? Page.defaultPostType).isSome = true := by
  have hroutes : Config.Server.default.routes.entries = Config.Routes.default.entries := rfl
  have hseed : (Store.empty.seed.type? Page.defaultPostType).isSome = true := by decide
  rw [ofConfig, hroutes] at h
  cases hcompile : Route.Table.compile Config.Routes.default.entries with
  | error e =>
    rw [hcompile] at h
    cases h
  | ok table =>
    rw [hcompile] at h
    cases h
    exact ⟨rfl, hseed⟩

end Application

namespace Http

namespace Response

/-- The messages that a response leaves with the client for the next page. -/
def queued (r : Response) : List Flash.Message :=
  match r.cookies.lookup Flash.cookieName with
  | some (.set value) => Flash.decode value
  | _ => []

/-- The page that a client meets at the place where a response sends them, with the messages that it
left. -/
def followed? (r : Response) (app : Application) : Option (Except PageError String) :=
  (r.headers.lookup "location").map fun location =>
    let target := Route.Target.parse location
    (app.page target.path (Query.parse target.query) r.queued).1

private theorem queued_push (location : String) (jar : Flash.Jar) (messages : List Flash.Message) :
    (redirect location (Flash.push jar messages).changes).queued = messages := by
  simp [queued, redirect, Flash.push, Flash.Jar.set]

end Response

/-- The type that the form is about when its link names `typeId`. -/
def namedType (typeId : String) : String :=
  if typeId = "" then Page.defaultPostType else typeId

private theorem path_createHref (typeId : String) :
    (Route.Target.parse (Page.createHref typeId)).path = ⟨["admin", "posts", "create"]⟩ := by
  rw [Page.createHref, Route.Target.parse_hrefWithQuery (by decide) (by decide)]
  rfl

private theorem query_createHref (typeId : String) :
    (Query.parse (Route.Target.parse (Page.createHref typeId)).query).postType.getD
      Page.defaultPostType = namedType typeId := by
  rw [Page.createHref, Route.Target.parse_hrefWithQuery (by decide) (by decide)]
  by_cases h : typeId = ""
  · simp [Query.firstValue?, namedType, h]
  · simp [Query.firstValue?, namedType, h]

/-- The form is there exactly when the type that it is about is there. -/
private theorem page_createHref {app : Application}
    (htable : Route.Table.compile Config.Routes.default.entries = .ok app.table)
    (typeId : String) (messages : List Flash.Message) :
    (app.page (Route.Target.parse (Page.createHref typeId)).path
        (Query.parse (Route.Target.parse (Page.createHref typeId)).query) messages).1 =
      match app.store.type? (namedType typeId) with
      | some t => .ok (app.shell.document (Page.createContent ⟨t, messages⟩))
      | none => .error (.content (.unknownPostType (namedType typeId))) := by
  obtain ⟨-, -, -, hview, -⟩ := Route.view?_default htable
  rw [path_createHref]
  generalize hq : Query.parse (Route.Target.parse (Page.createHref typeId)).query = q
  have hid : q.postType.getD Page.defaultPostType = namedType typeId := by
    rw [← hq, query_createHref]
  cases htype : app.store.type? (namedType typeId) with
  | none =>
    have hload : Page.load .postCreate q messages app.store =
        .error (.unknownPostType (namedType typeId)) := by
      simp [Page.load, Page.requestedType, hid, htype]
    exact Application.page_of_load_error hview hload
  | some t =>
    have hload : Page.load .postCreate q messages app.store = .ok (.createForm ⟨t, messages⟩) := by
      simp [Page.load, Page.requestedType, hid, htype]
    rw [Application.page_of_load hview hload]
    rfl

private theorem page_adminHref {app : Application}
    (htable : Route.Table.compile Config.Routes.default.entries = .ok app.table)
    (messages : List Flash.Message) :
    (app.page (Route.Target.parse Page.adminHref).path
        (Query.parse (Route.Target.parse Page.adminHref).query) messages).1 =
      .ok (app.shell.document (Page.catalogContent app.store.types)) := by
  obtain ⟨-, hview, -⟩ := Route.view?_default htable
  have hpath : (Route.Target.parse Page.adminHref).path = ⟨["admin"]⟩ := rfl
  have hload : Page.load .admin (Query.parse (Route.Target.parse Page.adminHref).query) messages
      app.store = .ok (.catalog app.store.types) := rfl
  rw [hpath, Application.page_of_load hview hload]
  rfl

/-- A post without title for a type that is named but does not exist. -/
def DeadEnd (store : Store) (input : NewPost) : Prop :=
  Text.trim input.title = "" ∧ input.postType ≠ "" ∧ store.type? input.postType = none

private theorem queued_afterCreate_invalid (jar : Flash.Jar) (input : NewPost) (reason : String) :
    (Server.afterCreate jar input (.error (.invalid reason))).queued = [⟨.error, reason⟩] :=
  Response.queued_push _ _ _

private theorem followed?_afterCreate_invalid {app : Application}
    (htable : Route.Table.compile Config.Routes.default.entries = .ok app.table)
    (jar : Flash.Jar) (input : NewPost) (reason : String) :
    (Server.afterCreate jar input (.error (.invalid reason))).followed? app =
      some (match app.store.type? (namedType input.postType) with
        | some t => .ok (app.shell.document (Page.createContent ⟨t, [⟨.error, reason⟩]⟩))
        | none => .error (.content (.unknownPostType (namedType input.postType)))) := by
  rw [← page_createHref htable, ← queued_afterCreate_invalid jar input reason]
  rfl

private theorem exists_namedType {store : Store} {input : NewPost}
    (hdefault : (store.type? Page.defaultPostType).isSome = true)
    (htitle : Text.trim input.title = "") (h : ¬DeadEnd store input) :
    ∃ t, store.type? (namedType input.postType) = some t := by
  unfold namedType
  by_cases hempty : input.postType = ""
  · rw [if_pos hempty]
    exact Option.isSome_iff_exists.1 hdefault
  · rw [if_neg hempty]
    refine Option.ne_none_iff_exists'.1 ?_
    intro hnone
    exact h ⟨htitle, hempty, hnone⟩

/-- A client whose post is rejected meets a page where they are sent: the form with the message that
the title is missing, or the overview. Only a dead end leads nowhere. -/
theorem rejected_create_lands {app₀ : Application}
    (hstart : Application.ofConfig Config.Server.default = .ok app₀)
    (calls : List (String × NewPost)) {s : Server} (hs : s.app = app₀.afterCreates calls)
    {id : String} {input : NewPost} {e : ContentError}
    (hreject : s.app.store.create id input = some (.error e)) (cookies : List Flash.Presented) :
    ∃ r, s.create id input (Flash.Jar.ofRequest cookies) = (some r, s) ∧
    r.queued = (if Text.trim input.title = "" then [⟨.error, Store.titleRequired⟩] else []) ∧
    (DeadEnd s.app.store input →
      r.followed? s.app = some (.error (.content (.unknownPostType input.postType)))) ∧
    (¬DeadEnd s.app.store input →
      ∃ html, r.followed? s.app = some (.ok html) ∧
        (r.queued = [] → html = s.app.shell.document (Page.catalogContent s.app.store.types)) ∧
        ∀ m ∈ r.queued, (Page.errorItem m).html <:+: html.toList ∧
          ∃ t, s.app.store.type? (namedType input.postType) = some t ∧
            html = s.app.shell.document (Page.createContent ⟨t, r.queued⟩)) := by
  obtain ⟨hroutes, hdefault⟩ := Application.start_of_default hstart
  obtain ⟨htable, -, htypes⟩ := app₀.kept_by_creates calls
  rw [← hs] at htable htypes
  rw [← htable] at hroutes
  have hdefault : (s.app.store.type? Page.defaultPostType).isSome = true := by
    rw [Store.type?, htypes]
    exact hdefault
  refine ⟨_, by rw [Server.create, Application.create_of_error hreject]; rfl, ?_⟩
  rcases Store.create_eq_error_iff.1 hreject with ⟨htitle, rfl⟩ | ⟨htitle, hnone, rfl⟩
  · have hqueued := queued_afterCreate_invalid (Flash.Jar.ofRequest cookies) input
      Store.titleRequired
    have hpage := followed?_afterCreate_invalid hroutes (Flash.Jar.ofRequest cookies) input
      Store.titleRequired
    refine ⟨by rw [hqueued, if_pos htitle], ?_, ?_⟩
    · rintro ⟨-, hempty, hnone⟩
      rw [hpage, namedType, if_neg hempty, hnone]
    · intro h
      obtain ⟨t, ht⟩ := exists_namedType hdefault htitle h
      refine ⟨_, by rw [hpage, ht], ?_, ?_⟩
      · intro hnil
        rw [hqueued] at hnil
        cases hnil
      · intro m hm
        rw [hqueued] at hm ⊢
        have hitem := Page.errorItem_infix_createContent (f := ⟨t, _⟩) hm
        exact ⟨hitem.trans (Page.Shell.content_infix_document _ _), t, ht, rfl⟩
  · have hqueued : (Server.afterCreate (Flash.Jar.ofRequest cookies) input
        (.error (.unknownPostType input.postType))).queued = [] := rfl
    refine ⟨by rw [hqueued, if_neg htitle], fun h => absurd h.1 htitle, fun _ => ?_⟩
    refine ⟨_, congrArg some (page_adminHref hroutes _), fun _ => rfl, ?_⟩
    intro m hm
    rw [hqueued] at hm
    cases hm

theorem rejected_create_lands_untitled_page :
    ∃ (app₀ : Application) (s : Server) (r : Response) (html : String),
      Application.ofConfig Config.Server.default = .ok app₀ ∧
      s.app = app₀.afterCreates [("a", ⟨"News", "", "page"⟩)] ∧
      s.create "b" ⟨" ", "", "page"⟩ (Flash.Jar.ofRequest []) = (some r, s) ∧
      r.followed? s.app = some (.ok html) ∧
      (Page.errorItem ⟨.error, Store.titleRequired⟩).html <:+: html.toList := by
  obtain ⟨app₀, hstart, hstore⟩ := Application.exists_default
  obtain ⟨s, hs⟩ : ∃ s : Server, s.app = app₀.afterCreates [("a", ⟨"News", "", "page"⟩)] :=
    ⟨⟨_, 0⟩, rfl⟩
  have hreject : s.app.store.create "b" ⟨" ", "", "page"⟩ =
      some (.error (.invalid Store.titleRequired)) :=
    Store.create_eq_error_iff.2 (Or.inl ⟨by decide, rfl⟩)
  obtain ⟨r, hanswer, hqueued, -, hok⟩ := rejected_create_lands hstart _ hs hreject []
  have hopen : ¬DeadEnd s.app.store ⟨" ", "", "page"⟩ := by
    rintro ⟨-, -, hnone⟩
    obtain ⟨-, -, htypes⟩ := app₀.kept_by_creates [("a", ⟨"News", "", "page"⟩)]
    rw [Store.type?, hs, htypes, hstore] at hnone
    revert hnone
    decide
  obtain ⟨html, hfollowed, -, hlist⟩ := hok hopen
  refine ⟨app₀, s, r, html, hstart, hs, hanswer, hfollowed, ?_⟩
  exact (hlist _ (by rw [hqueued]; exact List.mem_singleton_self _)).1

/-- The dead end is met in practice: a blank title for a gallery leads to a page that is not there,
although a message was left for it. -/
theorem untitled_gallery_not_found :
    ∃ (s : Server) (r : Response), Server.ofConfig Config.Server.default = .ok s ∧
      s.create "a" ⟨" ", "", "gallery"⟩ (Flash.Jar.ofRequest []) = (some r, s) ∧
      r.queued = [⟨.error, "Title is required"⟩] ∧
      r.followed? s.app = some (.error (.content (.unknownPostType "gallery"))) := by
  obtain ⟨app, hstart, hstore⟩ := Application.exists_default
  have hreject : app.create "a" ⟨" ", "", "gallery"⟩ =
      (some (.error (.invalid Store.titleRequired)), app) :=
    Application.create_of_error (Store.create_eq_error_iff.2 (Or.inl ⟨by decide, rfl⟩))
  have hnone : app.store.type? (namedType "gallery") = none := by
    rw [hstore]
    decide
  refine ⟨⟨app, Config.Limits.default.maxBodyBytes⟩, _, ?_, by rw [Server.create, hreject]; rfl,
    queued_afterCreate_invalid _ _ _, ?_⟩
  · rw [Server.ofConfig, hstart]
    rfl
  · have hpage := followed?_afterCreate_invalid (Application.start_of_default hstart).1
      (Flash.Jar.ofRequest []) ⟨" ", "", "gallery"⟩ Store.titleRequired
    rw [hnone] at hpage
    exact hpage

end Http

end Pressroom
