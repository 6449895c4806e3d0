import Pressroom.Config.Basic
import Pressroom.Proofs.DatumEdits

/-!
Configurations on the wire. Every section and every field of a section may be left out for its
default, and nothing else may. What is written for a configuration is read back as it, and so is
every edit of it; a list that is present is taken as it is, with nothing of the default list.
-/

set_option autoImplicit false
set_option relaxedAutoImplicit false

namespace Pressroom

section

variable {α β : Type} {mk : α → β} {record field : String} {r : Reader α} {default : α}

private theorem Reader.single_eq_ok_iff {m : Manner} {known : List (String × Datum)} {b : β} :
    Reader.record record 1 (fun row => mk <$> row.defaulted 0 field r default) m (.record known) =
        .ok b ↔
      ∃ a, Row.defaulted ⟨m, .fields known⟩ 0 field r default = .value a ∧ mk a = b := by
  rw [Reader.record_fields_eq_ok_iff, Gathered.map_eq_value_iff]

private theorem Reader.single_of_read {m : Manner} {d : Datum} {a : α} (h : r m d = .ok a) :
    Reader.record record 1 (fun row => mk <$> row.defaulted 0 field r default) m
        (.record [(field, d)]) = .ok (mk a) := by
  rw [Reader.single_eq_ok_iff]
  refine ⟨a, Row.defaulted_eq_value_iff.2 (.inr ⟨d, ?_, h⟩), rfl⟩
  simp [Parts.part?]

private theorem Reader.tolerates_single {s : Shape} {written : Datum} (hr : r.Tolerates s)
    (hdefault : ∀ m, r m written = .ok default) :
    Reader.Tolerates (Reader.record record 1 fun row => mk <$> row.defaulted 0 field r default)
      (.record [(field, some written, s)]) := by
  apply Reader.tolerates_record
  intro row row' h
  have hfield := h.defaulted 0 field (by simp) hr hdefault
  exact hfield.map mk

end

private theorem Reader.natural_of_cast (wanted : Wanted) (m : Manner) (n : Nat) :
    Reader.natural wanted m (.integer n) = .ok n := by
  simp [Reader.natural]

private theorem Row.read_of_defaulted {α : Type} {row : Row} {position : Nat} {name : String}
    {r : Reader α} {default a : α} {d : Datum}
    (h : row.defaulted position name r default = .value a)
    (hpart : row.parts.part? position name = some d) : r row.manner d = .ok a := by
  rcases Row.defaulted_eq_value_iff.1 h with ⟨hnone, -⟩ | ⟨d', hd', hread⟩
  · rw [hnone] at hpart
    cases hpart
  · rw [hd'] at hpart
    cases hpart
    exact hread

namespace Config

def Listener.shape : Shape :=
  .record [("bind_address", some (.text Listener.default.bindAddress), .plain)]

private theorem Listener.reader_toDatum (m : Manner) (x : Listener) :
    Listener.reader m x.toDatum = .ok x := rfl

private theorem Listener.tolerates : Listener.reader.Tolerates Listener.shape :=
  Reader.tolerates_single Reader.tolerates_text fun _ => rfl

def Timeouts.shape : Shape :=
  .record [("request_secs", some (.integer Timeouts.default.requestSecs), .plain)]

private theorem Timeouts.reader_toDatum (m : Manner) (x : Timeouts) :
    Timeouts.reader m x.toDatum = .ok x :=
  Reader.single_of_read (Reader.natural_of_cast .word64 m x.requestSecs)

private theorem Timeouts.tolerates : Timeouts.reader.Tolerates Timeouts.shape :=
  Reader.tolerates_single (Reader.tolerates_natural .word64) fun _ => rfl

def Limits.shape : Shape :=
  .record [("max_body_bytes", some (.integer Limits.default.maxBodyBytes), .plain)]

private theorem Limits.reader_toDatum (m : Manner) (x : Limits) :
    Limits.reader m x.toDatum = .ok x :=
  Reader.single_of_read (Reader.natural_of_cast .wordSize m x.maxBodyBytes)

private theorem Limits.tolerates : Limits.reader.Tolerates Limits.shape :=
  Reader.tolerates_single (Reader.tolerates_natural .wordSize) fun _ => rfl

def NavLink.shape : Shape :=
  .record [("label", none, .plain), ("href", none, .plain)]

private theorem NavLink.reader_toDatum (m : Manner) (x : NavLink) :
    NavLink.reader m x.toDatum = .ok x := rfl

private theorem NavLink.tolerates : NavLink.reader.Tolerates NavLink.shape := by
  apply Reader.tolerates_record
  intro row row' h
  have hlabel := h.required 0 "label" rfl Reader.tolerates_text
  have hhref := h.required 1 "href" rfl Reader.tolerates_text
  exact (hlabel.map NavLink.mk).seq hhref

def Site.shape : Shape :=
  .record [("title", some (.text Site.default.title), .plain),
    ("nav", some (.list (Site.default.nav.map (·.toDatum))), .list NavLink.shape)]

private theorem Site.reader_eq_ok_iff {m : Manner} {known : List (String × Datum)} {x : Site} :
    Site.reader m (.record known) = .ok x ↔
      Row.defaulted ⟨m, .fields known⟩ 0 "title" .text Site.default.title = .value x.title ∧
      Row.defaulted ⟨m, .fields known⟩ 1 "nav" (.list NavLink.reader) Site.default.nav =
        .value x.nav := by
  rw [Site.reader, Reader.record_fields_eq_ok_iff]
  constructor
  · intro h
    obtain ⟨f, nav, hf, hnav, hx⟩ := Gathered.seq_eq_value_iff.1 h
    obtain ⟨title, htitle, rfl⟩ := Gathered.map_eq_value_iff.1 hf
    subst hx
    exact ⟨htitle, hnav⟩
  · rintro ⟨htitle, hnav⟩
    rw [htitle, hnav]
    rfl

private theorem Site.reader_toDatum (m : Manner) (x : Site) : Site.reader m x.toDatum = .ok x := by
  have hnav := Reader.list_map_eq_ok (NavLink.reader_toDatum m) x.nav
  refine Site.reader_eq_ok_iff.2 ⟨rfl, ?_⟩
  exact Row.defaulted_eq_value_iff.2 (.inr ⟨_, rfl, hnav⟩)

private theorem Site.tolerates : Site.reader.Tolerates Site.shape := by
  apply Reader.tolerates_record
  intro row row' h
  have hdefault (m : Manner) := Reader.list_map_eq_ok (NavLink.reader_toDatum m) Site.default.nav
  have htitle := h.defaulted 0 "title" rfl Reader.tolerates_text fun _ => rfl
  have hnav := h.defaulted 1 "nav" rfl NavLink.tolerates.list hdefault
  exact (htitle.map Site.mk).seq hnav

/-- The fields of a manifest entry: neither may be left out. -/
def entryShape : Shape :=
  .record [("location", none, .plain), ("view", none, .plain)]

private theorem entryReader_entryToDatum (m : Manner) (x : Route.Entry) :
    entryReader m (entryToDatum x) = .ok x := rfl

private theorem entryReader_tolerates : entryReader.Tolerates entryShape := by
  apply Reader.tolerates_record
  intro row row' h
  have hlocation := h.required 0 "location" rfl Reader.tolerates_text
  have hview := h.required 1 "view" rfl Reader.tolerates_text
  exact (hlocation.map Route.Entry.mk).seq hview

def Routes.shape : Shape :=
  .record [("entries", some (.list (Routes.default.entries.map entryToDatum)), .list entryShape)]

private theorem Routes.reader_toDatum (m : Manner) (x : Routes) :
    Routes.reader m x.toDatum = .ok x :=
  Reader.single_of_read (Reader.list_map_eq_ok (entryReader_entryToDatum m) x.entries)

private theorem Routes.tolerates : Routes.reader.Tolerates Routes.shape := by
  apply Reader.tolerates_single entryReader_tolerates.list
  intro m
  exact Reader.list_map_eq_ok (entryReader_entryToDatum m) Routes.default.entries

def Content.shape : Shape :=
  .record [("seed", some (.bool Content.default.seed), .plain)]

private theorem Content.reader_toDatum (m : Manner) (x : Content) :
    Content.reader m x.toDatum = .ok x := rfl

private theorem Content.tolerates : Content.reader.Tolerates Content.shape :=
  Reader.tolerates_single Reader.tolerates_boolean fun _ => rfl

def Observability.shape : Shape :=
  .record [("log_level", some (.text Observability.default.logLevel), .plain),
    ("metrics_enabled", some (.bool Observability.default.metricsEnabled), .plain),
    ("metrics_address", some (.text Observability.default.metricsAddress), .plain)]

private theorem Observability.reader_toDatum (m : Manner) (x : Observability) :
    Observability.reader m x.toDatum = .ok x := rfl

private theorem Observability.tolerates : Observability.reader.Tolerates Observability.shape := by
  apply Reader.tolerates_record
  intro row row' h
  have htext := Reader.tolerates_text
  have hlevel := h.defaulted 0 "log_level" rfl htext fun _ => rfl
  have henabled := h.defaulted 1 "metrics_enabled" rfl Reader.tolerates_boolean fun _ => rfl
  have haddress := h.defaulted 2 "metrics_address" rfl htext fun _ => rfl
  exact ((hlevel.map Observability.mk).seq henabled).seq haddress

namespace Server

/-- The sections of a configuration: each may be left out for its default. -/
def shape : Shape :=
  .record [("listener", some Listener.default.toDatum, Listener.shape),
    ("timeouts", some Timeouts.default.toDatum, Timeouts.shape),
    ("limits", some Limits.default.toDatum, Limits.shape),
    ("site", some Site.default.toDatum, Site.shape),
    ("routes", some Routes.default.toDatum, Routes.shape),
    ("content", some Content.default.toDatum, Content.shape),
    ("observability", some Observability.default.toDatum, Observability.shape)]

private theorem reader_eq_ok_iff {m : Manner} {known : List (String × Datum)} {c : Server} :
    Server.reader m (.record known) = .ok c ↔
      Row.defaulted ⟨m, .fields known⟩ 0 "listener" Listener.reader .default = .value c.listener ∧
      Row.defaulted ⟨m, .fields known⟩ 1 "timeouts" Timeouts.reader .default = .value c.timeouts ∧
      Row.defaulted ⟨m, .fields known⟩ 2 "limits" Limits.reader .default = .value c.limits ∧
      Row.defaulted ⟨m, .fields known⟩ 3 "site" Site.reader .default = .value c.site ∧
      Row.defaulted ⟨m, .fields known⟩ 4 "routes" Routes.reader .default = .value c.routes ∧
      Row.defaulted ⟨m, .fields known⟩ 5 "content" Content.reader .default = .value c.content ∧
      Row.defaulted ⟨m, .fields known⟩ 6 "observability" Observability.reader .default =
        .value c.observability := by
  rw [Server.reader, Reader.record_fields_eq_ok_iff]
  constructor
  · intro h
    obtain ⟨f₆, o, hf₆, ho, hc⟩ := Gathered.seq_eq_value_iff.1 h
    obtain ⟨f₅, content, hf₅, hcontent, rfl⟩ := Gathered.seq_eq_value_iff.1 hf₆
    obtain ⟨f₄, routes, hf₄, hroutes, rfl⟩ := Gathered.seq_eq_value_iff.1 hf₅
    obtain ⟨f₃, site, hf₃, hsite, rfl⟩ := Gathered.seq_eq_value_iff.1 hf₄
    obtain ⟨f₂, limits, hf₂, hlimits, rfl⟩ := Gathered.seq_eq_value_iff.1 hf₃
    obtain ⟨f₁, timeouts, hf₁, htimeouts, rfl⟩ := Gathered.seq_eq_value_iff.1 hf₂
    obtain ⟨listener, hlistener, rfl⟩ := Gathered.map_eq_value_iff.1 hf₁
    subst hc
    exact ⟨hlistener, htimeouts, hlimits, hsite, hroutes, hcontent, ho⟩
  · rintro ⟨hlistener, htimeouts, hlimits, hsite, hroutes, hcontent, ho⟩
    rw [hlistener, htimeouts, hlimits, hsite, hroutes, hcontent, ho]
    rfl

private theorem reader_toDatum (m : Manner) (c : Server) : Server.reader m c.toDatum = .ok c := by
  have hlistener := Listener.reader_toDatum m c.listener
  have htimeouts := Timeouts.reader_toDatum m c.timeouts
  have hlimits := Limits.reader_toDatum m c.limits
  have hsite := Site.reader_toDatum m c.site
  have hroutes := Routes.reader_toDatum m c.routes
  have hcontent := Content.reader_toDatum m c.content
  have hlogs := Observability.reader_toDatum m c.observability
  apply reader_eq_ok_iff.2
  simp only [Row.defaulted_eq_value_iff]
  exact ⟨.inr ⟨_, rfl, hlistener⟩, .inr ⟨_, rfl, htimeouts⟩, .inr ⟨_, rfl, hlimits⟩,
    .inr ⟨_, rfl, hsite⟩, .inr ⟨_, rfl, hroutes⟩, .inr ⟨_, rfl, hcontent⟩, .inr ⟨_, rfl, hlogs⟩⟩

private theorem tolerates : Server.reader.Tolerates Server.shape := by
  apply Reader.tolerates_record
  intro row row' h
  have hlistener := h.defaulted 0 "listener" rfl Listener.tolerates
    (Listener.reader_toDatum · .default)
  have htimeouts := h.defaulted 1 "timeouts" rfl Timeouts.tolerates
    (Timeouts.reader_toDatum · .default)
  have hlimits := h.defaulted 2 "limits" rfl Limits.tolerates (Limits.reader_toDatum · .default)
  have hsite := h.defaulted 3 "site" rfl Site.tolerates (Site.reader_toDatum · .default)
  have hroutes := h.defaulted 4 "routes" rfl Routes.tolerates (Routes.reader_toDatum · .default)
  have hcontent := h.defaulted 5 "content" rfl Content.tolerates
    (Content.reader_toDatum · .default)
  have hlogs := h.defaulted 6 "observability" rfl Observability.tolerates
    (Observability.reader_toDatum · .default)
  exact ((((((hlistener.map Server.mk).seq htimeouts).seq hlimits).seq hsite).seq hroutes).seq
    hcontent).seq hlogs

private theorem entries_of_present {m : Manner} {known routes : List (String × Datum)} {c : Server}
    {items : List Datum} (h : Server.reader m (.record known) = .ok c)
    (hroutes : known.lookup "routes" = some (.record routes))
    (hentries : routes.lookup "entries" = some (.list items)) :
    List.Forall₂ (fun d e => entryReader m d = .ok e) items c.routes.entries := by
  obtain ⟨-, -, -, -, hsection, -, -⟩ := reader_eq_ok_iff.1 h
  have hread := Row.read_of_defaulted hsection hroutes
  obtain ⟨entries, hlist, hc⟩ := Reader.single_eq_ok_iff.1 hread
  rw [← hc]
  exact Reader.list_eq_ok_iff.1 (Row.read_of_defaulted hlist hentries)

private theorem nav_of_present {m : Manner} {known site : List (String × Datum)} {c : Server}
    {items : List Datum} (h : Server.reader m (.record known) = .ok c)
    (hsite : known.lookup "site" = some (.record site))
    (hnav : site.lookup "nav" = some (.list items)) :
    List.Forall₂ (fun d l => NavLink.reader m d = .ok l) items c.site.nav := by
  obtain ⟨-, -, -, hsection, -, -, -⟩ := reader_eq_ok_iff.1 h
  have hread := Row.read_of_defaulted hsection hsite
  obtain ⟨-, hlist⟩ := Site.reader_eq_ok_iff.1 hread
  exact Reader.list_eq_ok_iff.1 (Row.read_of_defaulted hlist hnav)

/-- A configuration survives the wire, in every manner of reading. What is written for it is read
back as it, and so is what any edits make of it, whichever sections and fields they leave out for
their defaults. A list of routes or links that is present is the list that is read, item by item. -/
theorem configuration_survives_edits :
    (∀ (m : Manner) (c : Server) (d : Datum), Edits shape c.toDatum d →
      Server.reader m d = .ok c) ∧
    ∀ (m : Manner) (known : List (String × Datum)) (c : Server),
      Server.reader m (.record known) = .ok c →
        (∀ routes items, known.lookup "routes" = some (.record routes) →
          routes.lookup "entries" = some (.list items) →
          List.Forall₂ (fun d e => entryReader m d = .ok e) items c.routes.entries) ∧
        ∀ site items, known.lookup "site" = some (.record site) →
          site.lookup "nav" = some (.list items) →
          List.Forall₂ (fun d l => NavLink.reader m d = .ok l) items c.site.nav := by
  constructor
  · intro m c d hedits
    exact tolerates.edits hedits (reader_toDatum m c)
  · intro m known c h
    constructor
    · intro routes items hroutes hentries
      exact entries_of_present h hroutes hentries
    · intro site items hsite hnav
      exact nav_of_present h hsite hnav

/-- A site of one page and no links, with the longest timeout. -/
def bare : Server :=
  { Server.default with
    site := ⟨"A & B", []⟩
    routes := ⟨[⟨"index", "home"⟩]⟩
    timeouts := ⟨18446744073709551615⟩ }

/-- The same without three sections that are the default, and with a theme in the site. -/
def bareSections : List (String × Datum) :=
  [("observability", Observability.default.toDatum),
    ("routes", .record [("entries", .list [entryToDatum ⟨"index", "home"⟩])]),
    ("site", .record [("nav", .list []), ("theme", .null), ("title", .text "A & B")]),
    ("timeouts", .record [("request_secs", .integer 18446744073709551615)])]

theorem configuration_survives_edits_bare :
    Edits shape bare.toDatum (.record bareSections) ∧
    Server.reader .direct (.record bareSections) = .ok bare ∧
    List.Forall₂ (fun d e => entryReader .direct d = .ok e) [entryToDatum ⟨"index", "home"⟩]
      bare.routes.entries ∧
    List.Forall₂ (fun d l => NavLink.reader .direct d = .ok l) [] bare.site.nav := by
  have htheme : Edit Site.shape bare.site.toDatum _ := .add "theme" .null rfl
  have hedits : Edits shape bare.toDatum (.record bareSections) := by
    apply Relation.ReflTransGen.head (.leaveOut "listener" rfl rfl)
    apply Relation.ReflTransGen.head (.leaveOut "limits" rfl rfl)
    apply Relation.ReflTransGen.head (.leaveOut "content" rfl rfl)
    exact Relation.ReflTransGen.single (.inside "site" rfl rfl htheme)
  obtain ⟨hsurvives, hlists⟩ := configuration_survives_edits
  have hread := hsurvives .direct bare _ hedits
  obtain ⟨hentries, hnav⟩ := hlists .direct bareSections bare hread
  exact ⟨hedits, hread, hentries _ _ rfl rfl, hnav _ _ rfl rfl⟩

end Server

end Config

end Pressroom
