import Mathlib.Data.List.Count
import Mathlib.Data.List.Infix
import Mathlib.Data.List.Perm.Basic
import Pressroom.Proofs.LocationGrammar
import Pressroom.Proofs.ManifestAgreement

/-!
How often validation reports each fault of a manifest. The locations seen so far decide which entry
is blamed for a location that comes twice, but not how often that is reported: the faults fall into
those of single entries and the repetitions, and a location that comes `k` times is repeated `k - 1`
times in every order. Main statement: the number of reports of each sort, and that the order of the
entries changes nothing but the order of the reports.
-/

set_option autoImplicit false
set_option relaxedAutoImplicit false

namespace Pressroom.Route

def Entry.location? (e : Entry) : Option Location :=
  (Location.parse e.location).toOption

/-- Whether an entry is for the location with the given canonical text. -/
def Entry.isFor (text : String) (e : Entry) : Bool :=
  e.location?.any (·.display == text)

private theorem Entry.location?_eq_some_iff {e : Entry} {l : Location} :
    e.location? = some l ↔ Location.parse e.location = .ok l := by
  unfold Entry.location?
  cases Location.parse e.location with
  | error reason => simp [Except.toOption]
  | ok l' => simp [Except.toOption]

theorem Entry.isFor_display_iff {e : Entry} {l : Location} :
    e.isFor l.display = true ↔ Location.parse e.location = .ok l := by
  unfold Entry.isFor
  rw [← Entry.location?_eq_some_iff]
  cases e.location? with
  | none => simp
  | some l' => simp [Location.display_injective.eq_iff]

private theorem countP_isFor (text : String) (entries : List Entry) :
    entries.countP (Entry.isFor text) =
      ((entries.filterMap Entry.location?).map Location.display).count text := by
  rw [List.count, List.countP_map, List.countP_filterMap]
  apply List.countP_congr
  intro e _
  unfold Entry.isFor
  cases e.location? with
  | none => simp
  | some l => simp

end Pressroom.Route

namespace Pressroom.Config

open Pressroom.Page (View)
open Pressroom.Route (Entry Location)

/-- The locations of a row that came before, in the row or among those seen. -/
def repeats (seen : List Location) : List Location → List Location
  | [] => []
  | l :: rest => if l ∈ seen then l :: repeats (l :: seen) rest else repeats (l :: seen) rest

private theorem count_repeats (seen row : List Location) (l : Location) :
    (repeats seen row).count l = if l ∈ seen then row.count l else row.count l - 1 := by
  induction row generalizing seen with
  | nil => simp [repeats]
  | cons first row ih =>
    by_cases hfirst : first = l
    · subst hfirst
      by_cases hseen : first ∈ seen
      · simp [repeats, hseen, ih]
      · simp [repeats, hseen, ih]
    · have hne : l ≠ first := Ne.symm hfirst
      by_cases hseen : first ∈ seen
      · simp [repeats, hseen, ih, hfirst, hne]
      · simp [repeats, hseen, ih, hfirst, hne]

private theorem repeats_perm {row row' : List Location} (h : row.Perm row') :
    (repeats [] row).Perm (repeats [] row') := by
  rw [List.perm_iff_count]
  intro l
  simp [count_repeats, h.count_eq]

private theorem count_map_repeats (row : List Location) (text : String) :
    ((repeats [] row).map Location.display).count text =
      (row.map Location.display).count text - 1 := by
  by_cases htext : ∃ l : Location, l.display = text
  · obtain ⟨l, rfl⟩ := htext
    rw [List.count_map_of_injective _ _ Location.display_injective,
      List.count_map_of_injective _ _ Location.display_injective, count_repeats]
    simp
  · have habsent : ∀ ls : List Location, (ls.map Location.display).count text = 0 := by
      intro ls
      rw [List.count_eq_zero]
      intro hmem
      obtain ⟨l, -, hl⟩ := List.mem_map.1 hmem
      exact htext ⟨l, hl⟩
    rw [habsent, habsent]

def malformed? (e : Entry) : Option Fault :=
  match Location.parse e.location with
  | .error reason => some (.invalidRoute e.location reason)
  | .ok _ => none

def strange? (e : Entry) : Option Fault :=
  if View.ofName? e.view = none then some (.unknownView e.location e.view) else none

private theorem eq_of_malformed? {e : Entry} {f : Fault} (h : malformed? e = some f) :
    ∃ reason, f = .invalidRoute e.location reason := by
  unfold malformed? at h
  split at h
  · next reason _ => exact ⟨reason, (Option.some.inj h).symm⟩
  · cases h

private theorem eq_of_strange? {e : Entry} {f : Fault} (h : strange? e = some f) :
    f = .unknownView e.location e.view := by
  unfold strange? at h
  split at h
  · exact (Option.some.inj h).symm
  · cases h

def repeated (l : Location) : Fault :=
  .duplicateRoute l.display

/-- The faults of a manifest are those of its entries, each by itself, and the repetitions. -/
private theorem routeFaults_perm (seen : List Location) (entries : List Entry) :
    (routeFaults seen entries).Perm
      (entries.filterMap malformed? ++
        ((repeats seen (entries.filterMap Entry.location?)).map repeated ++
          entries.filterMap strange?)) := by
  induction entries generalizing seen with
  | nil => exact List.Perm.nil
  | cons e entries ih =>
    have hview : viewFaults e = (strange? e).toList := by
      unfold viewFaults faultIf strange?
      split <;> rfl
    have hstrange : (e :: entries).filterMap strange? =
        (strange? e).toList ++ entries.filterMap strange? := by
      cases hs : strange? e with
      | none => simp [hs]
      | some f => simp [hs]
    rw [List.perm_iff_count]
    intro f
    rw [routeFaults, hview, hstrange]
    cases hparse : Location.parse e.location with
    | error reason =>
      have hcount := (ih seen).count_eq f
      simp only [locationFaults, see, malformed?, Entry.location?, hparse, Except.toOption,
        List.filterMap_cons, List.count_append, List.count_cons, List.count_nil] at hcount ⊢
      omega
    | ok l =>
      have hcount := (ih (l :: seen)).count_eq f
      by_cases hseen : l ∈ seen
      · simp only [locationFaults, faultIf, see, malformed?, Entry.location?, hparse,
          Except.toOption, List.filterMap_cons, repeats, repeated, if_pos hseen, List.map_cons,
          List.count_append, List.count_cons, List.count_nil] at hcount ⊢
        omega
      · simp only [locationFaults, faultIf, see, malformed?, Entry.location?, hparse,
          Except.toOption, List.filterMap_cons, repeats, if_neg hseen, List.count_append,
          List.count_nil] at hcount ⊢
        omega

private theorem routeFaults_perm_of_perm {entries entries' : List Entry}
    (h : entries.Perm entries') :
    (routeFaults [] entries).Perm (routeFaults [] entries') := by
  have hrepeats := repeats_perm (h.filterMap Entry.location?)
  have hparts := (h.filterMap malformed?).append
    ((hrepeats.map repeated).append (h.filterMap strange?))
  exact (routeFaults_perm [] entries).trans (hparts.trans (routeFaults_perm [] entries').symm)

def Fault.isInvalidRoute : Fault → Bool
  | .invalidRoute .. => true
  | _ => false

def Fault.isUnknownView : Fault → Bool
  | .unknownView .. => true
  | _ => false

private theorem countP_reported {p : Fault → Bool} (hp : ∀ f, p f = true → f.isRoute = true)
    (c : Server) :
    (reported c).countP p =
      (c.routes.entries.filterMap malformed?).countP p +
        ((repeats [] (c.routes.entries.filterMap Entry.location?)).map repeated).countP p +
        (c.routes.entries.filterMap strange?).countP p := by
  have hsections : (sectionFaults c).countP p = 0 := by
    rw [List.countP_eq_zero]
    intro f hf hpf
    have hroute := hp f hpf
    rw [isRoute_of_mem_sectionFaults hf] at hroute
    cases hroute
  have hparts := (routeFaults_perm [] c.routes.entries).countP_eq p
  rw [List.countP_append, List.countP_append] at hparts
  rw [reported_eq_faults, faults, List.countP_append]
  omega

private theorem countP_filterMap_eq_zero {p : Fault → Bool} {fault? : Entry → Option Fault}
    (h : ∀ e f, fault? e = some f → p f = false) (entries : List Entry) :
    (entries.filterMap fault?).countP p = 0 := by
  rw [List.countP_eq_zero]
  intro f hf
  obtain ⟨e, -, he⟩ := List.mem_filterMap.1 hf
  simp [h e f he]

private theorem countP_repeated_eq_zero {p : Fault → Bool}
    (h : ∀ text, p (.duplicateRoute text) = false) (ls : List Location) :
    (ls.map repeated).countP p = 0 := by
  rw [List.countP_eq_zero]
  intro f hf
  obtain ⟨l, -, rfl⟩ := List.mem_map.1 hf
  simp [repeated, h]

private theorem count_duplicateRoute (c : Server) (text : String) :
    (reported c).count (.duplicateRoute text) =
      c.routes.entries.countP (Entry.isFor text) - 1 := by
  have hroute : ∀ f : Fault, (f == .duplicateRoute text) = true → f.isRoute = true := by
    intro f hf
    rw [eq_of_beq hf]
    rfl
  have hrepeated : ∀ ls : List Location,
      (ls.map repeated).countP (· == .duplicateRoute text) =
        (ls.map Location.display).count text := by
    intro ls
    rw [List.count, List.countP_map, List.countP_map]
    apply List.countP_congr
    intro l _
    simp [repeated]
  have hmalformed : ∀ e f, malformed? e = some f → (f == .duplicateRoute text) = false := by
    intro e f hf
    obtain ⟨reason, rfl⟩ := eq_of_malformed? hf
    rfl
  have hstrange : ∀ e f, strange? e = some f → (f == .duplicateRoute text) = false := by
    intro e f hf
    rw [eq_of_strange? hf]
    rfl
  rw [List.count, countP_reported hroute, countP_filterMap_eq_zero hmalformed,
    countP_filterMap_eq_zero hstrange, hrepeated, count_map_repeats, Route.countP_isFor]
  omega

private theorem countP_isInvalidRoute (c : Server) :
    (reported c).countP Fault.isInvalidRoute =
      c.routes.entries.countP fun e => (Entry.location? e).isNone := by
  have hroute : ∀ f : Fault, f.isInvalidRoute = true → f.isRoute = true := by
    intro f hf
    cases f with
    | invalidRoute raw reason => rfl
    | _ => cases hf
  have hstrange : ∀ e f, strange? e = some f → f.isInvalidRoute = false := by
    intro e f hf
    rw [eq_of_strange? hf]
    rfl
  rw [countP_reported hroute, countP_repeated_eq_zero (fun _ => rfl),
    countP_filterMap_eq_zero hstrange, List.countP_filterMap]
  apply List.countP_congr
  intro e _
  unfold malformed? Entry.location?
  cases Location.parse e.location with
  | error reason => simp [Except.toOption, Fault.isInvalidRoute]
  | ok l => simp [Except.toOption]

private theorem countP_isUnknownView (c : Server) :
    (reported c).countP Fault.isUnknownView =
      c.routes.entries.countP fun e => (View.ofName? e.view).isNone := by
  have hroute : ∀ f : Fault, f.isUnknownView = true → f.isRoute = true := by
    intro f hf
    cases f with
    | unknownView raw view => rfl
    | _ => cases hf
  have hmalformed : ∀ e f, malformed? e = some f → f.isUnknownView = false := by
    intro e f hf
    obtain ⟨reason, rfl⟩ := eq_of_malformed? hf
    rfl
  rw [countP_reported hroute, countP_repeated_eq_zero (fun _ => rfl),
    countP_filterMap_eq_zero hmalformed, List.countP_filterMap, Nat.zero_add]
  apply List.countP_congr
  intro e _
  unfold strange?
  cases View.ofName? e.view with
  | none => simp [Fault.isUnknownView]
  | some v => simp

/-- What is wrong with an entry that comes after some others: its location cannot be read or belongs
to one of those, and its view is unknown. -/
def entryReport (earlier : List Entry) (e : Entry) : List Fault :=
  (match Location.parse e.location with
    | .error reason => [.invalidRoute e.location reason]
    | .ok l => if earlier.any (·.isFor l.display) then [.duplicateRoute l.display] else []) ++
  if View.ofName? e.view = none then [.unknownView e.location e.view] else []

private theorem mem_foldl_see {seen : List Location} {earlier : List Entry} {l : Location} :
    l ∈ earlier.foldl see seen ↔ earlier.any (·.isFor l.display) = true ∨ l ∈ seen := by
  induction earlier generalizing seen with
  | nil => simp
  | cons e earlier ih =>
    rw [List.foldl_cons, ih, List.any_cons, Bool.or_eq_true, Entry.isFor_display_iff]
    unfold see
    cases Location.parse e.location with
    | error reason => simp
    | ok l' =>
      simp only [List.mem_cons, Except.ok.injEq, @eq_comm _ l l']
      tauto

private theorem entryFaults_foldl_see (earlier : List Entry) (e : Entry) :
    entryFaults (earlier.foldl see []) e = entryReport earlier e := by
  unfold entryFaults entryReport locationFaults viewFaults faultIf
  cases Location.parse e.location with
  | error reason => rfl
  | ok l => simp only [mem_foldl_see, List.not_mem_nil, or_false]

private theorem entryReports_eq_zipWith (seen : List Location) (entries : List Entry) :
    entryReports seen entries =
      List.zipWith (fun earlier e => entryFaults (earlier.foldl see seen) e) entries.inits
        entries := by
  induction entries generalizing seen with
  | nil => rfl
  | cons e entries ih =>
    rw [entryReports, ih, List.inits_cons, List.zipWith_cons_cons, List.zipWith_map_left]
    rfl

/-- Validation reports every fault of a manifest, and as often as it is there. The order of the
entries changes the order of the reports and nothing else. A location is reported once less than
there are entries for it, however they spell it and whatever they show; a location that cannot be
read and an unknown view are reported once for each entry. The reports follow those on the sections,
entry by entry, and an entry is blamed for a location only if one before it is for the same. -/
theorem manifest_faults_are_counted (c : Server) :
    (∀ entries : List Entry, entries.Perm c.routes.entries →
      (reported { c with routes := ⟨entries⟩ }).Perm (reported c)) ∧
    (∀ text, (reported c).count (.duplicateRoute text) =
      c.routes.entries.countP (Entry.isFor text) - 1) ∧
    (∀ (l : Location) (e : Entry), e.isFor l.display = true ↔
      ∃ m n, e.location = Location.slashes m ++ l.display ++ Location.slashes n) ∧
    (reported c).countP Fault.isInvalidRoute =
      c.routes.entries.countP (fun e => (Entry.location? e).isNone) ∧
    (reported c).countP Fault.isUnknownView =
      c.routes.entries.countP (fun e => (View.ofName? e.view).isNone) ∧
    (∀ f ∈ sectionFaults c, f.isRoute = false) ∧
    reported c = sectionFaults c ++
      (List.zipWith entryReport c.routes.entries.inits c.routes.entries).flatten := by
  refine ⟨?_, count_duplicateRoute c, ?_, countP_isInvalidRoute c, countP_isUnknownView c,
    fun f hf => isRoute_of_mem_sectionFaults hf, ?_⟩
  · intro entries hperm
    rw [reported_eq_faults, reported_eq_faults]
    exact (routeFaults_perm_of_perm hperm).append_left (sectionFaults c)
  · intro l e
    rw [Entry.isFor_display_iff, Location.parse_eq_ok_iff]
  · simp only [reported_eq_faults, faults, ← flatten_entryReports, entryReports_eq_zipWith,
      entryFaults_foldl_see]

/-- The default configuration with three spellings of one location, of which one has an unknown
view, and a location that cannot be read. -/
def tangled : Server :=
  { Server.default with
    routes := ⟨[⟨"/admin", "gallery"⟩, ⟨"admin//", "admin"⟩, ⟨"..", "home"⟩, ⟨"admin", "home"⟩]⟩ }

theorem manifest_faults_are_counted_tangled :
    tangled.routes.entries.reverse.Perm tangled.routes.entries ∧
    (reported { tangled with routes := ⟨tangled.routes.entries.reverse⟩ }).Perm
      [.unknownView "/admin" "gallery", .duplicateRoute "admin",
        .invalidRoute ".." (.relativeSegment ".."), .duplicateRoute "admin"] ∧
    (reported tangled).count (.duplicateRoute "admin") = 3 - 1 := by
  have hperm := tangled.routes.entries.reverse_perm
  obtain ⟨horder, hcount, -⟩ := manifest_faults_are_counted tangled
  exact ⟨hperm, horder _ hperm, hcount "admin"⟩

end Pressroom.Config
