import Mathlib.Logic.Function.Basic
import Pressroom.Http.Client
import Pressroom.Proofs.PageOutcome
import Pressroom.Proofs.StoreOperations

/-!
Messages from one request to a later one. A client carries its messages in a cookie that only the
server can sign, so what is waiting for a client is spread over all the clients and changes with
every answer. Main statement: however the requests of several clients are interleaved, a page is
handed the message of a rejected post exactly when that client had a post rejected since their last
page, and nothing otherwise.
-/

set_option autoImplicit false
set_option relaxedAutoImplicit false

namespace Pressroom.Flash

private theorem lookup_foldl_of_unsigned {name : String} {cookies : List Presented}
    (h : ∀ c ∈ cookies, c.name = name → c.signed = false) (received : List (String × String)) :
    ((cookies.filter (·.signed)).foldl (fun acc c => Keyed.put c.name c.value acc)
      received).lookup name = received.lookup name := by
  induction cookies generalizing received with
  | nil => rfl
  | cons c cookies ih =>
    have ih := ih fun c' hc' => h c' (List.mem_cons_of_mem c hc')
    cases hsigned : c.signed with
    | false =>
      rw [List.filter_cons_of_neg (by simp [hsigned])]
      exact ih received
    | true =>
      have hne : name ≠ c.name := by
        intro hname
        have hunsigned := h c List.mem_cons_self hname.symm
        rw [hsigned] at hunsigned
        cases hunsigned
      rw [List.filter_cons_of_pos hsigned, List.foldl_cons, ih, Keyed.lookup_put_of_ne hne]

theorem Jar.get?_ofRequest_of_unsigned {name : String} {cookies : List Presented}
    (h : ∀ c ∈ cookies, c.name = name → c.signed = false) :
    (Jar.ofRequest cookies).get? name = none :=
  lookup_foldl_of_unsigned h []

private theorem Jar.get?_ofRequest_cons {name : String} {cookies : List Presented}
    (h : ∀ c ∈ cookies, c.name = name → c.signed = false) (value : String) :
    (Jar.ofRequest (⟨name, value, true⟩ :: cookies)).get? name = some value := by
  have hlookup := lookup_foldl_of_unsigned h (Keyed.put name value [])
  rw [Keyed.lookup_put_self] at hlookup
  exact hlookup

theorem messages_take (jar : Jar) :
    (take jar).2 = ((jar.get? cookieName).map decode).getD [] := by
  unfold take
  cases jar.get? cookieName with
  | none => rfl
  | some value => rfl

private theorem changes_take_ofRequest (cookies : List Presented) :
    (take (Jar.ofRequest cookies)).1.changes =
      if ((Jar.ofRequest cookies).get? cookieName).isSome then [(cookieName, .remove)] else [] := by
  have hget : (Jar.ofRequest cookies).get? cookieName =
      (Jar.ofRequest cookies).received.lookup cookieName := rfl
  unfold take
  cases h : (Jar.ofRequest cookies).get? cookieName with
  | none => rfl
  | some value =>
    rw [hget] at h
    simp only [Jar.remove, h, Option.isSome_some, if_true]
    rfl

end Pressroom.Flash

namespace Pressroom.Application

open Pressroom.Page (Query)
open Pressroom.Route (Path)

private theorem errors_of_dataFor {app : Application} {path : Path} {q : Query}
    {messages : List Flash.Message} {form : Page.CreateForm}
    (h : app.dataFor path q messages = .ok (.createForm form)) : form.errors = messages := by
  cases hresolve : app.table.resolve path with
  | error e =>
    rw [dataFor, hresolve] at h
    cases h
  | ok r =>
    rw [dataFor_of_resolve hresolve] at h
    cases hload : Page.load r.module.view q messages app.store with
    | error e =>
      rw [hload] at h
      cases h
    | ok data =>
      rw [hload] at h
      obtain rfl : data = .createForm form := Except.ok.inj h
      have hkind := Page.kind_of_load hload
      cases hview : r.module.view with
      | postCreate =>
        rw [hview, Page.load_postCreate] at hload
        split at hload
        · obtain rfl := Page.Data.createForm.inj (Except.ok.inj hload)
          rfl
        · cases hload
      | home | admin | postList | postDetail =>
        rw [hview] at hkind
        cases hkind

private theorem dataFor_of_view_ne {app : Application} {path : Path}
    (h : app.table.view? path ≠ some .postCreate) (q : Query)
    (messages others : List Flash.Message) :
    app.dataFor path q messages = app.dataFor path q others := by
  unfold dataFor
  unfold Route.Table.view? at h
  cases hresolve : app.table.resolve path with
  | error e => rfl
  | ok r =>
    rw [hresolve] at h
    cases hview : r.module.view with
    | postCreate => exact absurd (congrArg some hview) h
    | home | admin | postList | postDetail => simp only [hview, Page.load]

end Pressroom.Application

namespace Pressroom.Http

open Pressroom.Content (ContentError NewPost Post Store)
open Pressroom.Page (Query)
open Pressroom.Route (Path)

/-- What a request comes to: a page that is handed messages, an attempt to create a post with its
result, one that has no result, or something that has to do with neither. -/
inductive Event where
  | page (path : Path) (query : Query) (messages : List Flash.Message)
  | creation (input : NewPost) (result : Except ContentError Post)
  | broken (input : NewPost)
  | other

namespace Event

def IsPage : Event → Prop
  | .page _ _ _ => True
  | _ => False

/-- The event is a post that was rejected because of what it says. -/
def IsRejection : Event → Prop
  | .creation _ (.error (.invalid _)) => True
  | _ => False

attribute [simp] IsPage IsRejection

end Event

def Request.AsksFor (r : Request) (path query : String) : Prop :=
  r.isWellFormed = true ∧ Resource.parse r.target = .place path query ∧
    (r.method = "GET" ∨ r.method = "HEAD")

namespace Server

def eventAt (s : Server) (fresh : Fresh) (r : Request) (path query : String) : Event :=
  if r.method = "GET" ∨ r.method = "HEAD" then
    .page (Path.parse path) (Query.parse query) (Flash.take (Flash.Jar.ofRequest r.cookies)).2
  else if r.method = "POST" ∧ path = formPath then
    match takeForm s.maxBodyBytes r with
    | .read input =>
      match (s.app.create fresh.postId input).1 with
      | some result => .creation input result
      | none => .broken input
    | .stalled => .other
    | .refused _ => .other
  else .other

def event (s : Server) (fresh : Fresh) (r : Request) : Event :=
  if !r.isWellFormed then .other
  else
    match Resource.parse r.target with
    | .place path query => s.eventAt fresh r path query
    | .malformed => .other
    | .tooLong => .other
    | .outside => .other

private theorem event_of_place {s : Server} {fresh : Fresh} {r : Request} {path query : String}
    (hwell : r.isWellFormed = true) (hplace : Resource.parse r.target = .place path query) :
    s.event fresh r = s.eventAt fresh r path query := by
  rw [event, hwell, hplace]
  rfl

theorem event_of_asksFor (s : Server) (fresh : Fresh) {r : Request} {path query : String}
    (h : r.AsksFor path query) :
    s.event fresh r = .page (Path.parse path) (Query.parse query)
      (Flash.take (Flash.Jar.ofRequest r.cookies)).2 := by
  obtain ⟨hwell, hplace, hmethod⟩ := h
  rw [event_of_place hwell hplace, eventAt, if_pos hmethod]

private theorem event_of_form {s : Server} {fresh : Fresh} {r : Request} {query : String}
    {input : NewPost} {result : Except ContentError Post} (hwell : r.isWellFormed = true)
    (hplace : Resource.parse r.target = .place formPath query) (hmethod : r.method = "POST")
    (hform : takeForm s.maxBodyBytes r = .read input)
    (hresult : (s.app.create fresh.postId input).1 = some result) :
    s.event fresh r = .creation input result := by
  have hread : ¬(r.method = "GET" ∨ r.method = "HEAD") := by
    rw [hmethod]
    decide
  rw [event_of_place hwell hplace, eventAt, if_neg hread, if_pos ⟨hmethod, rfl⟩, hform]
  dsimp only
  rw [hresult]

/-- The status and the text of a page that is handed some messages. -/
def shown (s : Server) (path : Path) (query : Query) (messages : List Flash.Message) :
    Nat × String :=
  match (s.app.page path query messages).1 with
  | .ok html => (200, html)
  | .error e => (e.status, e.document s.app.shell)

/-- An answer with a page: it was rendered with these messages, which were taken from the cookies of
the request. -/
structure ShowsPage (s : Server) (r : Request) (path : Path) (query : Query)
    (messages : List Flash.Message) (answer : Option Response × Server) : Prop where
  messages_eq : messages = (Flash.take (Flash.Jar.ofRequest r.cookies)).2
  status_eq : answer.1.map (·.status) = some (s.shown path query messages).1
  body_eq : answer.1.map (·.body) =
    some (if r.method = "HEAD" then "" else (s.shown path query messages).2)
  cookies_eq : answer.1.map (·.cookies) =
    some (Flash.take (Flash.Jar.ofRequest r.cookies)).1.changes
  store_eq : answer.2.app.store = s.app.store

/-- An answer to the form: the post was created or rejected with this result. -/
structure AnswersForm (s : Server) (fresh : Fresh) (r : Request) (input : NewPost)
    (result : Except ContentError Post) (answer : Option Response × Server) : Prop where
  result_eq : some result = (s.app.create fresh.postId input).1
  status_eq : answer.1.map (·.status) = some 303
  cookies_eq : answer.1.map (·.cookies) =
    some (afterCreate (Flash.Jar.ofRequest r.cookies) input result).cookies
  store_eq : answer.2.app.store = (s.app.create fresh.postId input).2.store

/-- What an answer has to do with what the request came to. -/
def Answers (s : Server) (fresh : Fresh) (r : Request) (answer : Option Response × Server) :
    Event → Prop
  | .page path query messages => s.ShowsPage r path query messages answer
  | .creation input result => s.AnswersForm fresh r input result answer
  | .broken input => (s.app.create fresh.postId input).1 = none ∧ answer = (none, s)
  | .other => answer.1.map (·.cookies) = some [] ∧ answer.2.app.store = s.app.store

private theorem kept_by_page (app : Application) (path : Path) (query : Query)
    (messages : List Flash.Message) :
    (app.page path query messages).2.shell = app.shell ∧
      (app.page path query messages).2.store = app.store := by
  unfold Application.page
  cases app.table.resolve path with
  | error e => exact ⟨rfl, rfl⟩
  | ok resolution =>
    dsimp only
    cases Page.load resolution.module.view query messages app.store with
    | error e => exact ⟨rfl, rfl⟩
    | ok data => exact ⟨rfl, rfl⟩

theorem page_shown (s : Server) (path query : String) (jar : Flash.Jar) :
    ((s.page path query jar).1.status, (s.page path query jar).1.body) =
        s.shown (Path.parse path) (Query.parse query) (Flash.take jar).2 ∧
      (s.page path query jar).1.cookies = (Flash.take jar).1.changes ∧
      (s.page path query jar).2.app.store = s.app.store := by
  obtain ⟨hshell, hstore⟩ :=
    kept_by_page s.app (Path.parse path) (Query.parse query) (Flash.take jar).2
  unfold page shown
  simp only
  cases h : (s.app.page (Path.parse path) (Query.parse query) (Flash.take jar).2).1 with
  | ok html => exact ⟨rfl, rfl, hstore⟩
  | error e =>
    refine ⟨?_, rfl, hstore⟩
    simp only [hshell]
    rfl

private theorem answers_finish {s s' : Server} {fresh : Fresh} {r : Request} {response : Response}
    {e : Event} (h : s.Answers fresh r (some response, s') e) :
    s.Answers fresh r
      (finish fresh r (.answered response), s'.countAnswer r (.answered response)) e := by
  cases e with
  | page path query messages =>
    exact ⟨h.messages_eq, h.status_eq, h.body_eq, h.cookies_eq, h.store_eq⟩
  | creation input result => exact ⟨h.result_eq, h.status_eq, h.cookies_eq, h.store_eq⟩
  | broken input => cases h.2
  | other => exact h

private theorem status_afterCreate (jar : Flash.Jar) (input : NewPost)
    (result : Except ContentError Post) : (afterCreate jar input result).status = 303 := by
  rcases result with (detail | typeId | slug) | post <;> rfl

private theorem answers_create (s : Server) (fresh : Fresh) (r : Request) (input : NewPost) :
    match s.app.create fresh.postId input with
    | (none, app) => s.Answers fresh r (none, { s with app }) (.broken input)
    | (some result, app) => s.Answers fresh r
        (some (afterCreate (Flash.Jar.ofRequest r.cookies) input result), { s with app })
        (.creation input result) := by
  match h : s.app.store.create fresh.postId input with
  | none =>
    have hcreate : s.app.create fresh.postId input = (none, s.app) := by rw [Application.create, h]
    rw [hcreate]
    exact ⟨by rw [hcreate], rfl⟩
  | some result =>
    obtain ⟨result', app, hcreate⟩ : ∃ result' app,
        s.app.create fresh.postId input = (some result', app) := by
      rcases result with e | ⟨post, store⟩
      · exact ⟨_, _, by rw [Application.create, h]⟩
      · exact ⟨_, _, by rw [Application.create, h]⟩
    rw [hcreate]
    exact ⟨by rw [hcreate], congrArg some (status_afterCreate _ _ _), rfl, by rw [hcreate]⟩

private theorem answers_answerAt (s : Server) (fresh : Fresh) (r : Request) (path query : String) :
    match s.answerAt fresh r path query with
    | (.answered response, s') =>
      s.Answers fresh r (some response, s') (s.eventAt fresh r path query)
    | (.stalled, s') => s.eventAt fresh r path query = .other ∧ s' = s
    | (.broken, s') => s.Answers fresh r (none, s') (s.eventAt fresh r path query) := by
  obtain ⟨hshown, hcookies, hstore⟩ := page_shown s path query (Flash.Jar.ofRequest r.cookies)
  have hstatus := congrArg Prod.fst hshown
  have hbody := congrArg Prod.snd hshown
  simp only [answerAt, eventAt]
  generalize s.page path query (Flash.Jar.ofRequest r.cookies) = answer
    at hstatus hbody hcookies hstore ⊢
  by_cases hget : r.method = "GET"
  · have hhead : r.method ≠ "HEAD" := by rw [hget]; decide
    rw [if_pos hget, if_pos (.inl hget)]
    exact ⟨rfl, congrArg some hstatus, by rw [if_neg hhead]; exact congrArg some hbody,
      congrArg some hcookies, hstore⟩
  · by_cases hhead : r.method = "HEAD"
    · rw [if_neg hget, if_pos hhead, if_pos (.inr hhead)]
      exact ⟨rfl, congrArg some hstatus, by rw [if_pos hhead]; rfl, congrArg some hcookies, hstore⟩
    · rw [if_neg hget, if_neg hhead, if_neg (not_or.2 ⟨hget, hhead⟩)]
      by_cases hform : r.method = "POST" ∧ path = formPath
      · rw [if_pos hform, if_pos hform]
        cases takeForm s.maxBodyBytes r with
        | stalled => exact ⟨rfl, rfl⟩
        | refused e => exact ⟨rfl, rfl⟩
        | read input =>
          have hanswer := answers_create s fresh r input
          dsimp only [create]
          rcases hcreate : s.app.create fresh.postId input with ⟨_ | result, app⟩
          · rw [hcreate] at hanswer
            exact hanswer
          · rw [hcreate] at hanswer
            exact hanswer
      · rw [if_neg hform, if_neg hform]
        exact ⟨rfl, rfl⟩

/-- Every request is answered as what it comes to. -/
theorem answers_handle (s : Server) (fresh : Fresh) (r : Request) :
    s.Answers fresh r (s.handle fresh r) (s.event fresh r) := by
  unfold handle event
  cases hwell : r.isWellFormed with
  | false => exact ⟨rfl, rfl⟩
  | true =>
    cases Resource.parse r.target with
    | malformed => exact ⟨rfl, rfl⟩
    | tooLong => exact ⟨rfl, rfl⟩
    | outside =>
      refine ⟨?_, rfl⟩
      by_cases hhead : r.method = "HEAD" <;> simp [finish, nowhere, headOnly, hhead]
    | place path query =>
      have h := answers_answerAt s fresh r path query
      simp only [Bool.not_true, Bool.false_eq_true, if_false]
      rcases hanswer : s.answerAt fresh r path query with ⟨response | _ | _, s'⟩
      · rw [hanswer] at h
        exact answers_finish h
      · rw [hanswer] at h
        obtain ⟨hother, rfl⟩ := h
        rw [hother]
        exact ⟨rfl, rfl⟩
      · rw [hanswer] at h
        exact h

private theorem detail_of_event {s : Server} {fresh : Fresh} {r : Request} {input : NewPost}
    {e : ContentError} (h : s.event fresh r = .creation input (.error e)) :
    e = .invalid Store.titleRequired ∨ e = .unknownPostType input.postType := by
  have hanswer := s.answers_handle fresh r
  rw [h] at hanswer
  have hresult : (s.app.create fresh.postId input).1 = some (.error e) := hanswer.result_eq.symm
  unfold Application.create at hresult
  match hcreate : s.app.store.create fresh.postId input with
  | none =>
    rw [hcreate] at hresult
    cases hresult
  | some (.ok created) =>
    rw [hcreate] at hresult
    cases hresult
  | some (.error e') =>
    rw [hcreate] at hresult
    obtain rfl : e' = e := Except.error.inj (Option.some.inj hresult)
    rcases Store.create_eq_error_iff.1 hcreate with ⟨-, he⟩ | ⟨-, -, he⟩
    · exact .inl he
    · exact .inr he

end Server

namespace Client

private theorem get?_present (c : Client) {made : List Flash.Presented}
    (h : ∀ cookie ∈ made, cookie.name = Flash.cookieName → cookie.signed = false) :
    (Flash.Jar.ofRequest (c.present .kept ++ made)).get? Flash.cookieName = c.kept := by
  unfold present
  cases c.kept with
  | none => exact Flash.Jar.get?_ofRequest_of_unsigned h
  | some value => exact Flash.Jar.get?_ofRequest_cons h value

end Client

/-- The cookie that a client keeps after an event, when it kept some cookie before. -/
def Event.keeps (kept : Option String) : Event → Option String
  | .page _ _ _ => none
  | .creation _ (.error (.invalid detail)) => some (Flash.encode [⟨.error, detail⟩])
  | _ => kept

attribute [simp] Event.keeps

/-- What an exchange does to the cookie of the client is decided by what the request comes to. -/
theorem Client.kept_exchange (c : Client) (s : Server) (fresh : Fresh) (r : Request)
    (h : ∀ cookie ∈ r.cookies, cookie.name = Flash.cookieName → cookie.signed = false) :
    (c.exchange s fresh .kept r).2.1.kept =
      (s.event fresh { r with cookies := c.present .kept ++ r.cookies }).keeps c.kept := by
  have hget := c.get?_present h
  have hanswer := s.answers_handle fresh { r with cookies := c.present .kept ++ r.cookies }
  have hdetail := @Server.detail_of_event s fresh { r with cookies := c.present .kept ++ r.cookies }
  unfold exchange
  generalize s.handle fresh { r with cookies := c.present .kept ++ r.cookies } = answer at hanswer ⊢
  generalize s.event fresh { r with cookies := c.present .kept ++ r.cookies } = e
    at hanswer hdetail ⊢
  obtain ⟨response, s'⟩ := answer
  cases e with
  | page path query messages =>
    obtain ⟨response, rfl, hcookies⟩ := Option.map_eq_some_iff.1 hanswer.cookies_eq
    simp only [Flash.changes_take_ofRequest, hget] at hcookies
    simp only [Option.elim, receive, hcookies, Event.keeps]
    cases hkept : c.kept with
    | none => exact hkept
    | some value => rfl
  | creation input result =>
    obtain ⟨response, rfl, hcookies⟩ := Option.map_eq_some_iff.1 hanswer.cookies_eq
    simp only [Option.elim, receive, hcookies]
    cases result with
    | ok post => rfl
    | error e => rcases hdetail rfl with rfl | rfl <;> rfl
  | broken input =>
    obtain ⟨-, hnone⟩ := hanswer
    cases hnone
    rfl
  | other =>
    obtain ⟨response, rfl, hcookies⟩ := Option.map_eq_some_iff.1 hanswer.1
    simp [receive, hcookies]

variable {κ : Type}

/-- A request by one of several clients. The cookie that the client keeps is sent with it; of those
that the client makes up, none is signed. -/
structure Visit (κ : Type) where
  client : κ
  fresh : Fresh
  request : Request
  unsigned : ∀ c ∈ request.cookies, c.name = Flash.cookieName → c.signed = false

structure World (κ : Type) where
  server : Server
  clients : κ → Client

namespace World

def sent (w : World κ) (v : Visit κ) : Request :=
  { v.request with cookies := (w.clients v.client).present .kept ++ v.request.cookies }

def event (w : World κ) (v : Visit κ) : Event :=
  w.server.event v.fresh (w.sent v)

def pending (w : World κ) (k : κ) : List Flash.Message :=
  (Flash.take (Flash.Jar.ofRequest ((w.clients k).present .kept))).2

private theorem pending_eq (w : World κ) (k : κ) :
    w.pending k = ((w.clients k).kept.map Flash.decode).getD [] := by
  have hget : (Flash.Jar.ofRequest ((w.clients k).present .kept ++ [])).get? Flash.cookieName =
      (w.clients k).kept := (w.clients k).get?_present (by simp)
  rw [List.append_nil] at hget
  rw [pending, Flash.messages_take, hget]

private theorem event_of_asksFor (w : World κ) {v : Visit κ} {path query : String}
    (h : v.request.AsksFor path query) :
    w.event v = .page (Path.parse path) (Query.parse query) (w.pending v.client) := by
  have hsent : (w.sent v).AsksFor path query := h
  have hget := (w.clients v.client).get?_present v.unsigned
  rw [event, w.server.event_of_asksFor v.fresh hsent, pending_eq, Flash.messages_take, sent, hget]

variable [DecidableEq κ]

def visit (w : World κ) (v : Visit κ) : Option Response × World κ :=
  let (response, client, server) :=
    (w.clients v.client).exchange w.server v.fresh .kept v.request
  (response, ⟨server, Function.update w.clients v.client client⟩)

private theorem answer_visit (w : World κ) (v : Visit κ) :
    ((w.visit v).1, (w.visit v).2.server) = w.server.handle v.fresh (w.sent v) := rfl

private theorem kept_visit_self (w : World κ) (v : Visit κ) :
    ((w.visit v).2.clients v.client).kept = (w.event v).keeps (w.clients v.client).kept := by
  simp only [visit, Function.update_self]
  exact (w.clients v.client).kept_exchange w.server v.fresh v.request v.unsigned

private theorem clients_visit_of_ne (w : World κ) {v : Visit κ} {k : κ} (h : k ≠ v.client) :
    (w.visit v).2.clients k = w.clients k :=
  Function.update_of_ne h _ _

end World

/-- A client had a post rejected for what it says, and has asked for no page since. -/
def Owed (k : κ) (trace : List (κ × Event)) : Prop :=
  ∃ before e after, trace = before ++ (k, e) :: after ∧ e.IsRejection ∧
    ∀ x ∈ after, x.1 = k → ¬x.2.IsPage

private theorem not_owed_nil (k : κ) : ¬Owed k [] := by
  rintro ⟨before, e, after, h, -⟩
  simp at h

private theorem owed_append_single {k : κ} {trace : List (κ × Event)} {x : κ × Event} :
    Owed k (trace ++ [x]) ↔
      (x.1 = k ∧ x.2.IsRejection) ∨ (Owed k trace ∧ (x.1 = k → ¬x.2.IsPage)) := by
  constructor
  · rintro ⟨before, e, after, htrace, hreject, hafter⟩
    rcases after.eq_nil_or_concat with rfl | ⟨init, y, rfl⟩
    · obtain ⟨-, hx⟩ := List.append_inj' htrace rfl
      obtain rfl : x = (k, e) := by simpa using hx
      exact .inl ⟨rfl, hreject⟩
    · rw [List.concat_eq_append, ← List.cons_append, ← List.append_assoc] at htrace
      obtain ⟨hinit, hx⟩ := List.append_inj' htrace rfl
      obtain rfl : x = y := by simpa using hx
      refine .inr ⟨⟨before, e, init, hinit, hreject, fun z hz => hafter z (by simp [hz])⟩, ?_⟩
      exact hafter x (by simp)
  · rintro (⟨rfl, hreject⟩ | ⟨⟨before, e, after, rfl, hreject, hafter⟩, hx⟩)
    · exact ⟨trace, x.2, [], rfl, hreject, by simp⟩
    · refine ⟨before, e, after ++ [x], by simp, hreject, ?_⟩
      intro z hz
      rcases List.mem_append.1 hz with hz | hz
      · exact hafter z hz
      · obtain rfl : z = x := by simpa using hz
        exact hx

private theorem not_owed_of_page {k : κ} {trace : List (κ × Event)} {e : Event} (h : e.IsPage) :
    ¬Owed k (trace ++ [(k, e)]) := by
  rw [owed_append_single]
  rintro (⟨-, hreject⟩ | ⟨-, hpage⟩)
  · cases e with
    | page path query messages => exact hreject
    | _ => exact h
  · exact hpage rfl h

structure Run (κ : Type) where
  trace : List (κ × Event)
  world : World κ

namespace Run

def start (s : Server) : Run κ := ⟨[], s, fun _ => .new⟩

def titleMissing : Flash.Message := ⟨.error, "Title is required"⟩

/-- The cookies are as the run so far says. -/
def Settled (run : Run κ) : Prop :=
  ∀ k, (Owed k run.trace → (run.world.clients k).kept = some (Flash.encode [titleMissing])) ∧
    (¬Owed k run.trace → (run.world.clients k).kept = none)

private theorem settled_start (s : Server) : (start s : Run κ).Settled :=
  fun k => ⟨fun h => absurd h (not_owed_nil k), fun _ => rfl⟩

variable [DecidableEq κ]

def step (run : Run κ) (v : Visit κ) : Run κ :=
  ⟨run.trace ++ [(v.client, run.world.event v)], (run.world.visit v).2⟩

def ofVisits (s : Server) (visits : List (Visit κ)) : Run κ :=
  visits.foldl step (start s)

theorem settled_step {run : Run κ} (h : run.Settled) (v : Visit κ) : (run.step v).Settled := by
  intro k
  obtain ⟨howed, hfree⟩ := h k
  simp only [step, owed_append_single]
  by_cases hk : v.client = k
  · subst hk
    rw [World.kept_visit_self]
    cases hevent : run.world.event v with
    | page path query messages => simp
    | other => simpa using ⟨howed, hfree⟩
    | broken input => simpa using ⟨howed, hfree⟩
    | creation input result =>
      cases result with
      | ok post => simpa using ⟨howed, hfree⟩
      | error e =>
        rcases Server.detail_of_event hevent with rfl | rfl
        · simp [titleMissing, Store.titleRequired]
        · simpa using ⟨howed, hfree⟩
  · rw [World.clients_visit_of_ne _ (Ne.symm hk)]
    simpa [hk] using ⟨howed, hfree⟩

theorem settled_ofVisits (s : Server) (visits : List (Visit κ)) : (ofVisits s visits).Settled := by
  have hfold : ∀ run : Run κ, run.Settled → (visits.foldl step run).Settled := by
    induction visits with
    | nil => exact fun run h => h
    | cons v visits ih => exact fun run h => ih (run.step v) (settled_step h v)
  exact hfold _ (settled_start s)

end Run

variable [DecidableEq κ]

/-- Which messages a page is handed, after any run of any clients: the one about a missing title if
a post of that client was rejected since their last page, and else none. Only pages and rejected
posts of a client touch what waits for them, a cookie that is not signed brings nothing, and of all
pages only the form shows its messages. -/
theorem messages_delivered_once (s : Server) (visits : List (Visit κ)) (v : Visit κ) :
    let run := Run.ofVisits s visits
    let server := run.world.server
    server.Answers v.fresh (run.world.sent v)
      ((run.world.visit v).1, (run.world.visit v).2.server) (run.world.event v) ∧
    (∀ path query, v.request.AsksFor path query → ∃ messages,
      run.world.event v = .page (Path.parse path) (Query.parse query) messages ∧
      messages = run.world.pending v.client ∧
      (Owed v.client run.trace → messages = [⟨.error, "Title is required"⟩]) ∧
      (¬Owed v.client run.trace → messages = [])) ∧
    (∀ k, k ≠ v.client ∨ (∃ input post, run.world.event v = .creation input (.ok post)) ∨
        (∃ input id, run.world.event v = .creation input (.error (.unknownPostType id))) ∨
        (∃ input, run.world.event v = .broken input) ∨ run.world.event v = .other →
      (run.world.visit v).2.pending k = run.world.pending k) ∧
    (∀ r fresh path query, r.AsksFor path query →
      (∀ c ∈ r.cookies, c.name = Flash.cookieName → c.signed = false) →
      server.ShowsPage r (Path.parse path) (Query.parse query) [] (server.handle fresh r)) ∧
    ∀ path query messages,
      (server.app.page path query messages).1 = (server.app.dataFor path query messages).map
        (fun data => server.app.shell.document data.content) ∧
      (∀ form, server.app.dataFor path query messages = .ok (.createForm form) →
        form.errors = messages) ∧
      (server.app.table.view? path ≠ some .postCreate → ∀ others,
        server.app.dataFor path query messages = server.app.dataFor path query others) := by
  intro run server
  refine ⟨?_, ?_, ?_, ?_, ?_⟩
  · rw [World.answer_visit]
    exact server.answers_handle v.fresh (run.world.sent v)
  · intro path query hasks
    obtain ⟨howed, hfree⟩ := Run.settled_ofVisits s visits v.client
    refine ⟨run.world.pending v.client, run.world.event_of_asksFor hasks, rfl, ?_, ?_⟩
    · intro h
      rw [World.pending_eq, howed h, Option.map_some, Flash.decode_encode]
      rfl
    · intro h
      rw [World.pending_eq, hfree h]
      rfl
  · intro k hk
    rw [World.pending_eq, World.pending_eq]
    by_cases hclient : k = v.client
    · subst hclient
      rw [World.kept_visit_self]
      rcases hk with hk | ⟨input, post, hevent⟩ | ⟨input, id, hevent⟩ | ⟨input, hevent⟩ | hevent
      · exact absurd rfl hk
      · rw [hevent]
        rfl
      · rw [hevent]
        rfl
      · rw [hevent]
        rfl
      · rw [hevent]
        rfl
    · rw [World.clients_visit_of_ne _ hclient]
  · intro r fresh path query hasks hunsigned
    have hanswer := server.answers_handle fresh r
    have hmessages : (Flash.take (Flash.Jar.ofRequest r.cookies)).2 = [] := by
      rw [Flash.messages_take, Flash.Jar.get?_ofRequest_of_unsigned hunsigned]
      rfl
    rw [server.event_of_asksFor fresh hasks, hmessages] at hanswer
    exact hanswer
  · intro path query messages
    exact ⟨server.app.page_eq_map_dataFor path query messages,
      fun _ => Application.errors_of_dataFor,
      fun hview others => Application.dataFor_of_view_ne hview query messages others⟩

def untitledPost (client : Bool) : Visit Bool :=
  ⟨client, ⟨"", ""⟩,
    ⟨"POST", "/admin/posts", [("content-type", formType)], [], "title=+&post_type=page", false⟩,
    by simp⟩

/-- A look at a page that does not exist, with a made-up message. -/
def forgedLook (client : Bool) : Visit Bool :=
  ⟨client, ⟨"", ""⟩,
    ⟨"GET", "/nowhere?slug=x", [], [⟨Flash.cookieName, "error=forged", false⟩], "", false⟩,
    by simp⟩

private theorem asksFor_forgedLook (k : Bool) :
    (forgedLook k).request.AsksFor "/nowhere" "slug=x" := by
  have hwell : (forgedLook false).request.isWellFormed = true := by decide
  have hplace : Resource.parse "/nowhere?slug=x" = .place "/nowhere" "slug=x" := by decide
  exact ⟨hwell, hplace, .inl rfl⟩

private theorem rejection_untitledPost (app : Application) (k : Bool) :
    ((Run.start ⟨app, 1024⟩).world.event (untitledPost k)).IsRejection := by
  have hwell : (untitledPost k).request.isWellFormed = true := by
    change (untitledPost false).request.isWellFormed = true
    decide
  have hplace : Resource.parse (untitledPost k).request.target = .place formPath "" := by
    change Resource.parse "/admin/posts" = _
    decide
  have hform : takeForm 1024 (untitledPost k).request = .read ⟨" ", "", "page"⟩ := by
    change takeForm 1024 (untitledPost false).request = _
    decide +kernel
  have hcreate : app.store.create "" ⟨" ", "", "page"⟩ =
      some (.error (.invalid Store.titleRequired)) :=
    Store.create_eq_error_iff.2 (.inl ⟨by decide, rfl⟩)
  have hresult : (app.create "" ⟨" ", "", "page"⟩).1 =
      some (.error (.invalid Store.titleRequired)) := by rw [Application.create, hcreate]
  have hevent : (Run.start ⟨app, 1024⟩).world.event (untitledPost k) =
      .creation ⟨" ", "", "page"⟩ (.error (.invalid Store.titleRequired)) :=
    Server.event_of_form hwell hplace rfl hform hresult
  rw [hevent]
  trivial

theorem messages_delivered_once_two_clients :
    ∃ (s : Server) (path : Path) (query : Query), Application.ofConfig .default = .ok s.app ∧
      (Run.ofVisits s [untitledPost true, forgedLook false]).world.event (forgedLook true) =
        .page path query [⟨.error, "Title is required"⟩] ∧
      ∀ k, (Run.ofVisits s [untitledPost true, forgedLook k]).world.event (forgedLook k) =
        .page path query [] := by
  obtain ⟨app, happ⟩ : ∃ app, Application.ofConfig .default = .ok app := ⟨_, rfl⟩
  refine ⟨⟨app, 1024⟩, Path.parse "/nowhere", Query.parse "slug=x", happ, ?_, ?_⟩
  · obtain ⟨-, hpage, -⟩ := messages_delivered_once ⟨app, 1024⟩
      [untitledPost true, forgedLook false] (forgedLook true)
    obtain ⟨messages, hevent, -, howed, -⟩ := hpage _ _ (asksFor_forgedLook true)
    rw [hevent, howed ⟨[], _, [(false, _)], rfl, rejection_untitledPost app true, ?_⟩]
    intro x hx
    obtain rfl := List.mem_singleton.1 hx
    intro h
    cases h
  · intro k
    obtain ⟨-, hpage, -⟩ := messages_delivered_once ⟨app, 1024⟩
      [untitledPost true, forgedLook k] (forgedLook k)
    obtain ⟨messages, hevent, -, -, hfree⟩ := hpage _ _ (asksFor_forgedLook k)
    rw [hevent, hfree]
    refine not_owed_of_page ?_
    rw [World.event_of_asksFor _ (asksFor_forgedLook k)]
    trivial

end Pressroom.Http
