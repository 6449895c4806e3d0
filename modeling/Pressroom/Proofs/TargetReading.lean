import Pressroom.Command.Run
import Pressroom.Proofs.FlashDelivery
import Pressroom.Proofs.PathRuns
import Pressroom.Proofs.RejectedCreate

/-!
One target, read twice. The command line cuts a target itself, and the server is handed the path
and the query of a request. Main statement: both read the same path and the same query from it, so a
page that is rendered from the command line is the page that the server sends.
-/

set_option autoImplicit false
set_option relaxedAutoImplicit false

namespace Pressroom.Route

/-- A target is divided into a path and a query: at its first `?`, with its fragment dropped. -/
structure Divides (raw path query : String) : Prop where
  path_plain : ∀ c ∈ path.toList, c ≠ '?' ∧ c ≠ '#'
  query_plain : '#' ∉ query.toList
  text : ∃ fragment : String, (∀ c ∈ fragment.toList.head?, c = '#') ∧
    (raw = path ++ "?" ++ query ++ fragment ∨ raw = path ++ fragment ∧ query = "")

/-- The characters of the path and of the query, as they are cut. -/
def Target.cut (cs : List Char) : List Char × List Char :=
  let body := Text.before (· == '#') cs
  (Text.before (· == '?') body, (Text.after? '?' body).getD [])

private theorem Divides.cut_eq {raw path query : String} (h : Divides raw path query) :
    Target.cut raw.toList = (path.toList, query.toList) := by
  obtain ⟨hpath, hquery, fragment, hfragment, htext⟩ := h
  have hmark : '?' ∉ path.toList := fun hc => (hpath _ hc).1 rfl
  have hsharp : ∀ c ∈ path.toList, (c == '#') = false := fun c hc => by simpa using (hpath c hc).2
  have hrest : ∀ c ∈ fragment.toList.head?, (c == '#') = true := by simpa using hfragment
  rcases htext with rfl | ⟨rfl, rfl⟩
  · have hbody : ∀ c ∈ path.toList ++ '?' :: query.toList, (c == '#') = false := by
      intro c hc
      rcases List.mem_append.1 hc with hc | hc
      · exact hsharp c hc
      · rcases List.mem_cons.1 hc with rfl | hc
        · rfl
        · have hne : c ≠ '#' := fun heq => hquery (heq ▸ hc)
          simpa using hne
    have hlist : (path ++ "?" ++ query ++ fragment).toList =
        (path.toList ++ '?' :: query.toList) ++ fragment.toList := by simp
    rw [Target.cut, hlist, Text.before_append hbody hrest]
    simp only [Text.before_append_cons hmark, Text.after?_append_cons hmark, Option.getD_some]
  · rw [Target.cut, String.toList_append, Text.before_append hsharp hrest]
    simp only [Text.before_eq_self hmark, Text.after?_eq_none hmark, Option.getD_none]
    rfl

private theorem divides_cut (raw : String) :
    Divides raw (String.ofList (Target.cut raw.toList).1)
      (String.ofList (Target.cut raw.toList).2) := by
  obtain ⟨fragment, hraw, hfragment⟩ := Text.exists_eq_before_append (· == '#') raw.toList
  have hsharp : ∀ c ∈ Text.before (· == '#') raw.toList, c ≠ '#' := by
    intro c hc
    simpa using Text.eq_false_of_mem_before hc
  have hpath : ∀ c ∈ (Target.cut raw.toList).1, c ≠ '?' ∧ c ≠ '#' := by
    intro c hc
    refine ⟨by simpa using Text.eq_false_of_mem_before hc, hsharp c ?_⟩
    exact (List.takeWhile_prefix _).subset hc
  have htext : raw =
      String.ofList (Text.before (· == '#') raw.toList) ++ String.ofList fragment := by
    rw [← String.ofList_append, ← hraw, String.ofList_toList]
  have hstart : ∀ c ∈ (String.ofList fragment).toList.head?, c = '#' := by simpa using hfragment
  cases hquery : Text.after? '?' (Text.before (· == '#') raw.toList) with
  | none =>
    have hbody : (Target.cut raw.toList).1 = Text.before (· == '#') raw.toList :=
      Text.before_eq_self (Text.not_mem_of_after?_eq_none hquery)
    have hempty : (Target.cut raw.toList).2 = [] := by simp [Target.cut, hquery]
    refine ⟨by simpa using hpath, by simp [hempty], String.ofList fragment, hstart, Or.inr ?_⟩
    rw [hbody, hempty]
    exact ⟨htext, rfl⟩
  | some rest =>
    have hbody := Text.eq_before_append_of_after? hquery
    have hrest : (Target.cut raw.toList).2 = rest := by simp [Target.cut, hquery]
    refine ⟨by simpa using hpath, ?_, String.ofList fragment, hstart, Or.inl ?_⟩
    · rw [String.toList_ofList, hrest]
      intro hc
      refine hsharp '#' ?_ rfl
      rw [hbody]
      exact List.mem_append_right _ (List.mem_cons_of_mem _ hc)
    · rw [hrest]
      apply String.toList_inj.1
      rw [hbody] at hraw
      simpa [Target.cut] using hraw

private theorem Divides.path_parse {raw path query : String} (h : Divides raw path query) :
    Path.parse raw = Path.parse path := by
  obtain ⟨hpath, -, fragment, hfragment, htext⟩ := h
  have hplain : ∀ c ∈ path.toList, Path.endsPath c = false := by
    intro c hc
    rw [← Bool.not_eq_true, Path.endsPath_iff]
    exact not_or.2 (hpath c hc)
  obtain ⟨rest, hraw, hrest⟩ : ∃ rest : List Char, raw.toList = path.toList ++ rest ∧
      ∀ c ∈ rest.head?, Path.endsPath c = true := by
    rcases htext with rfl | ⟨rfl, -⟩
    · exact ⟨'?' :: (query.toList ++ fragment.toList), by simp, by simp [Path.endsPath]⟩
    · refine ⟨fragment.toList, String.toList_append, fun c hc => ?_⟩
      exact Path.endsPath_iff.2 (Or.inr (hfragment c hc))
  rw [Path.parse, Path.parse, hraw, Text.before_append hplain hrest,
    Text.before_eq_self_of_forall hplain]

private theorem Divides.target_parse {raw path query : String} (h : Divides raw path query) :
    Target.parse raw = ⟨Path.parse path, query⟩ := by
  have hcut := h.cut_eq
  have hparse : Target.parse raw =
      ⟨Path.parse (String.ofList (Target.cut raw.toList).1),
        String.ofList (Target.cut raw.toList).2⟩ := rfl
  rw [hparse, hcut, String.ofList_toList, String.ofList_toList]

private theorem Divides.head? {raw path query : String} (h : Divides raw path query)
    (hpath : path.toList.head? = some '/') : raw.toList.head? = some '/' := by
  obtain ⟨cs, hcs⟩ := List.head?_eq_some_iff.1 hpath
  obtain ⟨fragment, -, rfl | ⟨rfl, -⟩⟩ := h.text
  · simp [hcs]
  · simp [hcs]

end Pressroom.Route

namespace Pressroom.Http

open Pressroom.Page (Query)
open Pressroom.Route (Divides Path Target)

namespace Resource

private theorem divides_of_ofPath {raw path query : String}
    (h : ofPath raw.toList = .place path query) :
    Divides raw path query := by
  unfold ofPath at h
  dsimp only at h
  split at h
  · cases h
    exact Route.divides_cut raw
  · cases h

private theorem head?_of_ofPath {cs : List Char} {path query : String}
    (h : ofPath ('/' :: cs) = .place path query) : path.toList.head? = some '/' := by
  unfold ofPath at h
  dsimp only at h
  split at h
  · cases h
    simp [Text.before]
  · cases h

private theorem head?_of_parse {raw path query : String} (h : parse raw = .place path query) :
    path.toList.head? = some '/' := by
  have habsolute : ∀ cs, ofAbsolute cs = .place path query → path.toList.head? = some '/' := by
    intro cs hcs
    unfold ofAbsolute at hcs
    split at hcs
    · split at hcs <;> exact head?_of_ofPath hcs
    · cases hcs
  unfold parse at h
  dsimp only at h
  split at h
  · cases h
  split at h
  · cases h
  split at h
  · exact head?_of_ofPath h
  · cases h
  · split at h
    · split at h
      · cases h
      · exact habsolute _ h
    · split at h <;> cases h

theorem divides_iff_of_parse {raw path query : String} (h : parse raw = .place path query) :
    Divides raw path query ↔ raw.toList.head? = some '/' := by
  constructor
  · intro hdivides
    exact hdivides.head? (head?_of_parse h)
  · intro hslash
    obtain ⟨cs, hcs⟩ := List.head?_eq_some_iff.1 hslash
    apply divides_of_ofPath
    unfold parse at h
    dsimp only at h
    rw [hcs] at h ⊢
    split at h
    · cases h
    split at h
    · cases h
    · exact h

end Resource

/-- The page that an answer carries, unless it carries an error. -/
def Response.html? (r : Response) : Option String :=
  if r.status = 200 then some r.body else none

private theorem status_ne_ok (e : PageError) : e.status ≠ 200 := by
  cases e with
  | notFound reason => simp [PageError.status]
  | content reason => cases reason <;> simp [PageError.status]
  | render reason => simp [PageError.status]

private theorem Response.html?_of_shown {r : Response} {s : Server} {path : Path} {query : Query}
    {messages : List Flash.Message} (h : (r.status, r.body) = s.shown path query messages) :
    r.html? = (s.app.page path query messages).1.toOption := by
  obtain ⟨hstatus, hbody⟩ := Prod.mk.inj h
  unfold html?
  rw [hstatus, hbody]
  cases (s.app.page path query messages).1 with
  | ok html => rfl
  | error e => exact if_neg (status_ne_ok e)

namespace Server

private theorem html?_page (s : Server) (path query : String) (jar : Flash.Jar) :
    (s.page path query jar).1.html? =
      (s.app.page (Path.parse path) (Query.parse query) (Flash.take jar).2).1.toOption :=
  Response.html?_of_shown (s.page_shown path query jar).1

theorem html?_handle (s : Server) (fresh : Fresh) {r : Request} {path query : String}
    (h : r.AsksFor path query) (hget : r.method = "GET") :
    ∃ response, (s.handle fresh r).1 = some response ∧
      response.html? = (s.app.page (Path.parse path) (Query.parse query)
        (Flash.take (Flash.Jar.ofRequest r.cookies)).2).1.toOption := by
  have hanswer := s.answers_handle fresh r
  rw [s.event_of_asksFor fresh h] at hanswer
  obtain ⟨response, hresponse, hstatus⟩ := Option.map_eq_some_iff.1 hanswer.status_eq
  have hbody := hanswer.body_eq
  rw [if_neg (by rw [hget]; decide), hresponse, Option.map_some] at hbody
  exact ⟨response, hresponse, Response.html?_of_shown (Prod.ext hstatus (Option.some.inj hbody))⟩

end Server

end Pressroom.Http

namespace Pressroom.Application

open Pressroom.Page (Query)
open Pressroom.Route (Path)

/-- Two applications with the same routes, shell and content. Their counters may differ. -/
structure SameSite (app other : Application) : Prop where
  table : app.table = other.table
  shell : app.shell = other.shell
  store : app.store = other.store

private theorem SameSite.page_eq {app other : Application} (h : app.SameSite other) (path : Path)
    (q : Query) (messages : List Flash.Message) :
    (app.page path q messages).1 = (other.page path q messages).1 := by
  have hdata : app.dataFor path q messages = other.dataFor path q messages := by
    rw [dataFor, dataFor, h.table, h.store]
  rw [page_eq_map_dataFor, page_eq_map_dataFor, hdata, h.shell]

end Pressroom.Application

namespace Pressroom.Command

open Pressroom.Http (Fresh Request Resource Server)
open Pressroom.Page (Query)
open Pressroom.Route (Divides Path Target)

/-- What the command to render prints when a page was made, or fails with when none was. -/
def printed : Option String → Outcome
  | some html => .ended 0 (html ++ "\n")
  | none => failure

private theorem perform_render {c : Config.Server} {app : Application}
    (h : Application.ofConfig c = .ok app) (machine : Machine) (raw : String)
    (data : Option String) :
    perform machine c (.render raw data) = printed (render machine app raw data) := by
  simp only [perform, h]
  cases render machine app raw data with
  | none => rfl
  | some html => rfl

/-- The command line and the server read a target the same way. The path is what would be read from
the whole target, and the query is what stands between the first `?` and the first `#` when the `?`
comes first, else nothing. So wherever a path and a query divide a target, the page that is made of
them without messages is the one that the command prints; and the server divides a target in this
way exactly when it starts with a slash. -/
theorem targets_are_read_alike (raw : String) :
    (Target.parse raw).path = Path.parse raw ∧
    (∀ front query back : String, raw = front ++ "?" ++ query ++ back →
      (∀ c ∈ front.toList, c ≠ '?' ∧ c ≠ '#') → '#' ∉ query.toList →
      (∀ c ∈ back.toList.head?, c = '#') → (Target.parse raw).query = query) ∧
    ((∀ front back : String, raw = front ++ "?" ++ back → '#' ∈ front.toList) →
      (Target.parse raw).query = "") ∧
    '#' ∉ (Target.parse raw).query.toList ∧
    (∀ (path query : String) (jar : Flash.Jar), Divides raw path query →
      jar.get? Flash.cookieName = none →
      Path.parse path = (Target.parse raw).path ∧
      Query.parse query = Query.parse (Target.parse raw).query ∧
      (Flash.take jar).2 = [] ∧
      ∀ (machine : Machine) (app : Application) (s : Server), app.SameSite s.app →
        render machine app raw none = (s.page path query jar).1.html?) ∧
    (∀ (r : Request) (path query : String), r.target = raw → r.AsksFor path query →
      (Divides raw path query ↔ raw.toList.head? = some '/') ∧
      (Divides raw path query → r.method = "GET" →
        (∀ c ∈ r.cookies, c.name = Flash.cookieName → c.signed = false) →
        ∀ (machine : Machine) (c : Config.Server) (app : Application) (s : Server) (fresh : Fresh),
          Application.ofConfig c = .ok app → app.SameSite s.app →
          ∃ response, (s.handle fresh r).1 = some response ∧
            perform machine c (.render raw none) = printed response.html?)) := by
  have hread : ∀ {path query : String}, Divides raw path query →
      Path.parse path = (Target.parse raw).path ∧ query = (Target.parse raw).query := by
    intro path query h
    rw [h.target_parse]
    exact ⟨rfl, rfl⟩
  have hcut := Route.divides_cut raw
  refine ⟨?_, ?_, ?_, ?_, ?_, ?_⟩
  · rw [← (hread hcut).1, hcut.path_parse]
  · intro front query back hraw hfront hquery hback
    exact (hread ⟨hfront, hquery, back, hback, Or.inl hraw⟩).2.symm
  · intro hnone
    rw [← (hread hcut).2]
    obtain ⟨hplain, -, fragment, -, hraw | ⟨-, hempty⟩⟩ := hcut
    · rw [String.append_assoc] at hraw
      exact absurd rfl (hplain '#' (hnone _ _ hraw)).2
    · exact hempty
  · rw [← (hread hcut).2]
    exact hcut.query_plain
  · intro path query jar hdivides hjar
    obtain ⟨hpath, hquery⟩ := hread hdivides
    have hmessages : (Flash.take jar).2 = [] := by rw [Flash.messages_take, hjar]; rfl
    refine ⟨hpath, by rw [hquery], hmessages, fun machine app s hsame => ?_⟩
    rw [s.html?_page, hpath, hquery, hmessages, ← hsame.page_eq]
    rfl
  · rintro r path query rfl hasks
    refine ⟨Resource.divides_iff_of_parse hasks.2.1, ?_⟩
    intro hdivides hget hunsigned machine c app s fresh hconfig hsame
    obtain ⟨hpath, hquery⟩ := hread hdivides
    have hmessages : (Flash.take (Flash.Jar.ofRequest r.cookies)).2 = [] := by
      rw [Flash.messages_take, Flash.Jar.get?_ofRequest_of_unsigned hunsigned]
      rfl
    obtain ⟨response, hresponse, hhtml⟩ := s.html?_handle fresh hasks hget
    refine ⟨response, hresponse, ?_⟩
    rw [perform_render hconfig, hhtml, hpath, hquery, hmessages, ← hsame.page_eq]
    rfl

/-- A request whose target has marks in misleading places, with a message that was made up. -/
def misleadingRequest : Request :=
  ⟨"GET", "/admin?slug=a?b#c?type=d", [], [⟨Flash.cookieName, "error=forged", false⟩], "", false⟩

theorem targets_are_read_alike_misleading :
    ∃ (app : Application) (s : Server) (response : Http.Response) (html : String),
      Application.ofConfig .default = .ok app ∧ app.SameSite s.app ∧
      misleadingRequest.AsksFor "/admin" "slug=a?b" ∧
      (Target.parse "/admin?slug=a?b#c?type=d").query = "slug=a?b" ∧
      (Target.parse "#?type=post").query = "" ∧
      (s.handle ⟨"", ""⟩ misleadingRequest).1 = some response ∧ response.html? = some html ∧
      ∀ machine, perform machine .default (.render "/admin?slug=a?b#c?type=d" none) =
        .ended 0 (html ++ "\n") := by
  obtain ⟨app, hstart, -⟩ := Application.exists_default
  obtain ⟨hroutes, -⟩ := Application.start_of_default hstart
  have hview : app.table.view? (Path.parse "/admin") = some .admin :=
    (Route.view?_default hroutes).2.1
  have hsame : app.SameSite (app.count .routeMiss) := ⟨rfl, rfl, rfl⟩
  have hasks : misleadingRequest.AsksFor "/admin" "slug=a?b" := by
    have hwell : misleadingRequest.isWellFormed = true := by decide
    have hplace : Resource.parse "/admin?slug=a?b#c?type=d" = .place "/admin" "slug=a?b" := by
      decide
    exact ⟨hwell, hplace, Or.inl rfl⟩
  obtain ⟨-, hquery, -, -, -, hserver⟩ := targets_are_read_alike "/admin?slug=a?b#c?type=d"
  obtain ⟨-, -, hnone, -⟩ := targets_are_read_alike "#?type=post"
  obtain ⟨hdivides, hagree⟩ := hserver misleadingRequest _ _ rfl hasks
  obtain ⟨response, hresponse, hhtml⟩ :=
    Server.html?_handle ⟨app.count .routeMiss, 0⟩ ⟨"", ""⟩ hasks rfl
  rw [← hsame.page_eq, Application.page_of_load hview rfl] at hhtml
  refine ⟨app, ⟨app.count .routeMiss, 0⟩, response, _, hstart, hsame, hasks, ?_, ?_, hresponse,
    hhtml, ?_⟩
  · exact hquery "/admin" "slug=a?b" "#c?type=d" (by decide) (by simp) (by simp) (by simp)
  · refine hnone fun front back hraw => ?_
    have hlist := congrArg String.toList hraw
    cases hfront : front.toList with
    | nil => simp [hfront] at hlist
    | cons c cs =>
      have hsharp : '#' = c := by simpa [hfront] using congrArg List.head? hlist
      rw [hsharp]
      exact List.mem_cons_self
  · intro machine
    obtain ⟨answer, hanswer, hcommand⟩ := hagree (hdivides.2 (by decide)) rfl
      (by simp [misleadingRequest]) machine .default app ⟨app.count .routeMiss, 0⟩ ⟨"", ""⟩ hstart
      hsame
    obtain rfl : response = answer := Option.some.inj (hresponse.symm.trans hanswer)
    rw [hhtml] at hcommand
    exact hcommand

end Pressroom.Command
