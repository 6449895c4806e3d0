import Pressroom.Datum.Reader
import Pressroom.Route.Table

/-!
The configuration of a site: its sections, their defaults, how it is written as data, and how it is
read back. Every field of a section may be missing and then has its default.
-/

set_option autoImplicit false
set_option relaxedAutoImplicit false

namespace Pressroom.Config

structure Listener where
  bindAddress : String
  deriving DecidableEq, Repr

structure Timeouts where
  requestSecs : Nat
  deriving DecidableEq, Repr

structure Limits where
  maxBodyBytes : Nat
  deriving DecidableEq, Repr

structure NavLink where
  label : String
  href : String
  deriving DecidableEq, Repr

structure Site where
  title : String
  nav : List NavLink
  deriving DecidableEq, Repr

structure Routes where
  entries : List Route.Entry
  deriving DecidableEq, Repr

structure Content where
  seed : Bool
  deriving DecidableEq, Repr

structure Observability where
  logLevel : String
  metricsEnabled : Bool
  metricsAddress : String
  deriving DecidableEq, Repr

structure Server where
  listener : Listener
  timeouts : Timeouts
  limits : Limits
  site : Site
  routes : Routes
  content : Content
  observability : Observability
  deriving DecidableEq, Repr

def Listener.default : Listener := ⟨"127.0.0.1:3000"⟩

def Timeouts.default : Timeouts := ⟨30⟩

def Limits.default : Limits := ⟨65536⟩

def Site.default : Site := ⟨"Admin", [⟨"Home", "/"⟩, ⟨"Admin", "/admin"⟩]⟩

def Routes.default : Routes :=
  ⟨[⟨"index", "home"⟩, ⟨"admin", "admin"⟩, ⟨"admin/posts", "post_list"⟩,
    ⟨"admin/posts/create", "post_create"⟩, ⟨"post", "post_detail"⟩]⟩

def Content.default : Content := ⟨true⟩

def Observability.default : Observability := ⟨"info", false, "127.0.0.1:9090"⟩

def Server.default : Server :=
  ⟨.default, .default, .default, .default, .default, .default, .default⟩

def Listener.toDatum (x : Listener) : Datum :=
  .record [("bind_address", .text x.bindAddress)]

def Listener.reader : Reader Listener :=
  .record "ListenerConfig" 1 fun row =>
    Listener.mk <$> row.defaulted 0 "bind_address" .text Listener.default.bindAddress

def Timeouts.toDatum (x : Timeouts) : Datum :=
  .record [("request_secs", .integer x.requestSecs)]

def Timeouts.reader : Reader Timeouts :=
  .record "TimeoutConfig" 1 fun row =>
    Timeouts.mk <$> row.defaulted 0 "request_secs" (.natural .word64) Timeouts.default.requestSecs

def Limits.toDatum (x : Limits) : Datum :=
  .record [("max_body_bytes", .integer x.maxBodyBytes)]

def Limits.reader : Reader Limits :=
  .record "LimitsConfig" 1 fun row =>
    Limits.mk <$> row.defaulted 0 "max_body_bytes" (.natural .wordSize) Limits.default.maxBodyBytes

def NavLink.toDatum (x : NavLink) : Datum :=
  .record [("href", .text x.href), ("label", .text x.label)]

def NavLink.reader : Reader NavLink :=
  .record "NavLink" 2 fun row =>
    NavLink.mk <$> row.required 0 "label" .text <*> row.required 1 "href" .text

def Site.toDatum (x : Site) : Datum :=
  .record [("nav", .list (x.nav.map (·.toDatum))), ("title", .text x.title)]

def Site.reader : Reader Site :=
  .record "SiteConfig" 2 fun row =>
    Site.mk <$> row.defaulted 0 "title" .text Site.default.title
      <*> row.defaulted 1 "nav" (.list NavLink.reader) Site.default.nav

def entryToDatum (x : Route.Entry) : Datum :=
  .record [("location", .text x.location), ("view", .text x.view)]

def entryReader : Reader Route.Entry :=
  .record "RouteConfig" 2 fun row =>
    Route.Entry.mk <$> row.required 0 "location" .text <*> row.required 1 "view" .text

def Routes.toDatum (x : Routes) : Datum :=
  .record [("entries", .list (x.entries.map entryToDatum))]

def Routes.reader : Reader Routes :=
  .record "RoutesConfig" 1 fun row =>
    Routes.mk <$> row.defaulted 0 "entries" (.list entryReader) Routes.default.entries

def Content.toDatum (x : Content) : Datum :=
  .record [("seed", .bool x.seed)]

def Content.reader : Reader Content :=
  .record "ContentConfig" 1 fun row =>
    Content.mk <$> row.defaulted 0 "seed" .boolean Content.default.seed

def Observability.toDatum (x : Observability) : Datum :=
  .record [("log_level", .text x.logLevel), ("metrics_address", .text x.metricsAddress),
    ("metrics_enabled", .bool x.metricsEnabled)]

def Observability.reader : Reader Observability :=
  .record "ObservabilityConfig" 3 fun row =>
    Observability.mk <$> row.defaulted 0 "log_level" .text Observability.default.logLevel
      <*> row.defaulted 1 "metrics_enabled" .boolean Observability.default.metricsEnabled
      <*> row.defaulted 2 "metrics_address" .text Observability.default.metricsAddress

def Server.toDatum (x : Server) : Datum :=
  .record [("content", x.content.toDatum), ("limits", x.limits.toDatum),
    ("listener", x.listener.toDatum), ("observability", x.observability.toDatum),
    ("routes", x.routes.toDatum), ("site", x.site.toDatum), ("timeouts", x.timeouts.toDatum)]

def Server.reader : Reader Server :=
  .record "ServerConfig" 7 fun row =>
    Server.mk <$> row.defaulted 0 "listener" Listener.reader .default
      <*> row.defaulted 1 "timeouts" Timeouts.reader .default
      <*> row.defaulted 2 "limits" Limits.reader .default
      <*> row.defaulted 3 "site" Site.reader .default
      <*> row.defaulted 4 "routes" Routes.reader .default
      <*> row.defaulted 5 "content" Content.reader .default
      <*> row.defaulted 6 "observability" Observability.reader .default

end Pressroom.Config
