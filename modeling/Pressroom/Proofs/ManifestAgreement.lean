import Pressroom.Application
import Pressroom.Config.Validation
import Pressroom.Proofs.LocationGrammar

/-!
Validation and compilation read a manifest in two ways: validation goes through all entries and
collects what is wrong with each, compilation stops at the first that it cannot take. Main
statement: they agree on which manifests are sound, and when one is not, compilation stops at the
first entry with a fault and names a fault that validation reports there.
-/

set_option autoImplicit false
set_option relaxedAutoImplicit false

namespace Pressroom.Config

open Pressroom.Page (View)
open Pressroom.Route (Entry Location Module Table TableError)

def Fault.isRoute : Fault → Bool
  | .invalidRoute .. | .unknownView .. | .duplicateRoute _ => true
  | .invalidBindAddress _ | .invalidMetricsAddress _ | .zeroTimeout | .zeroBodyLimit
  | .emptyTitle => false

def reported (c : Server) : List Fault :=
  match validate c with
  | .ok _ => []
  | .error faults => faults

def entryFaults (seen : List Location) (e : Entry) : List Fault :=
  locationFaults seen e ++ viewFaults e

/-- The faults of every entry of a manifest, entry by entry. -/
def entryReports (seen : List Location) : List Entry → List (List Fault)
  | [] => []
  | e :: rest => entryFaults seen e :: entryReports (see seen e) rest

theorem reported_eq_faults (c : Server) : reported c = faults c := by
  unfold reported validate
  cases faults c with
  | nil => rfl
  | cons f fs => rfl

private theorem faults_eq_nil_of_validate {c accepted : Server} (h : validate c = .ok accepted) :
    faults c = [] := by
  unfold validate at h
  split at h
  · assumption
  · cases h

theorem flatten_entryReports (seen : List Location) (entries : List Entry) :
    (entryReports seen entries).flatten = routeFaults seen entries := by
  induction entries generalizing seen with
  | nil => rfl
  | cons e entries ih => rw [entryReports, List.flatten_cons, ih, routeFaults, entryFaults]

private theorem entryReports_append (seen : List Location) (front back : List Entry) :
    entryReports seen (front ++ back) =
      entryReports seen front ++ entryReports (front.foldl see seen) back := by
  induction front generalizing seen with
  | nil => rfl
  | cons e front ih => rw [List.cons_append, entryReports, ih]; rfl

private theorem mem_faultIf {p : Prop} [Decidable p] {f g : Fault} (h : g ∈ faultIf p f) :
    g = f := by
  unfold faultIf at h
  split at h
  · exact List.mem_singleton.1 h
  · cases h

theorem isRoute_of_mem_sectionFaults {c : Server} {f : Fault} (h : f ∈ sectionFaults c) :
    f.isRoute = false := by
  simp only [sectionFaults, List.mem_append] at h
  rcases h with (((h | h) | h) | h) | h <;> rw [mem_faultIf h] <;> rfl

private theorem isRoute_of_mem_entryFaults {seen : List Location} {e : Entry} {f : Fault}
    (h : f ∈ entryFaults seen e) : f.isRoute = true := by
  rcases List.mem_append.1 h with h | h
  · unfold locationFaults at h
    split at h
    · rw [List.mem_singleton.1 h]
      rfl
    · rw [mem_faultIf h]
      rfl
  · rw [mem_faultIf h]
    rfl

private theorem isRoute_of_mem_routeFaults {seen : List Location} {entries : List Entry} {f : Fault}
    (h : f ∈ routeFaults seen entries) : f.isRoute = true := by
  induction entries generalizing seen with
  | nil => cases h
  | cons e entries ih =>
    rcases List.mem_append.1 h with h | h
    · exact isRoute_of_mem_entryFaults h
    · exact ih h

private theorem routeFaults_eq_nil_iff (c : Server) :
    routeFaults [] c.routes.entries = [] ↔ ∀ f ∈ reported c, f.isRoute = false := by
  rw [reported_eq_faults, faults]
  constructor
  · intro hnil f hf
    rw [hnil, List.append_nil] at hf
    exact isRoute_of_mem_sectionFaults hf
  · intro hnone
    rw [List.eq_nil_iff_forall_not_mem]
    intro f hf
    have hroute := isRoute_of_mem_routeFaults hf
    rw [hnone f (List.mem_append_right _ hf)] at hroute
    cases hroute

/-- The table has a module at the locations that have been seen, and at no other. -/
def Covers (t : Table) (seen : List Location) : Prop :=
  ∀ l : Location, (t.at? l.segments).isSome ↔ l ∈ seen

private theorem covers_empty : Covers Table.empty [] := by
  intro l
  simp [Table.empty, Table.at?]

private theorem covers_append {t : Table} {seen : List Location} (h : Covers t seen) (m : Module) :
    Covers ⟨t.modules ++ [m]⟩ (m.location :: seen) := by
  intro l
  have hnew : m.location.segments = l.segments ↔ l = m.location :=
    ⟨fun heq => (Location.eq_of_segments heq).symm, fun heq => heq ▸ rfl⟩
  have hold : (t.modules.find? fun m => m.location.segments == l.segments).isSome ↔ l ∈ seen := h l
  rw [Table.at?, List.find?_append, Option.isSome_or, Bool.or_eq_true, hold, List.mem_cons, ← hnew]
  simp [or_comm]

/-- What compilation says about an entry that it cannot take, beside what validation reports of it.
The location comes first, then the view, then the place. -/
def Refusal (report : List Fault) (e : Entry) (err : TableError) : Prop :=
  match Location.parse e.location, View.ofName? e.view with
  | .error reason, _ =>
    err = .invalidLocation e.location reason ∧ .invalidRoute e.location reason ∈ report
  | .ok _, none => err = .unknownView e.location ⟨e.view⟩ ∧ .unknownView e.location e.view ∈ report
  | .ok l, some _ => err = .duplicateLocation l ∧ report = [.duplicateRoute l.display]

private theorem add_cases {t : Table} {seen : List Location} (h : Covers t seen) (e : Entry) :
    (entryFaults seen e = [] ∧
      ∃ t', t.add e = .ok t' ∧ Covers t' (see seen e) ∧ t'.size = t.size + 1) ∨
    (entryFaults seen e ≠ [] ∧
      ∃ err, t.add e = .error err ∧ Refusal (entryFaults seen e) e err) := by
  cases hl : Location.parse e.location with
  | error reason =>
    have hfaults : entryFaults seen e = .invalidRoute e.location reason :: viewFaults e := by
      simp [entryFaults, locationFaults, hl]
    have hadd : t.add e = .error (.invalidLocation e.location reason) := by simp [Table.add, hl]
    exact Or.inr ⟨by simp [hfaults], _, hadd, by simp [Refusal, hl, hfaults]⟩
  | ok l =>
    have hlocation : locationFaults seen e = faultIf (l ∈ seen) (.duplicateRoute l.display) := by
      simp [locationFaults, hl]
    cases hv : View.ofName? e.view with
    | none =>
      have hview : viewFaults e = [.unknownView e.location e.view] := by
        simp [viewFaults, faultIf, hv]
      have hadd : t.add e = .error (.unknownView e.location ⟨e.view⟩) := by
        simp [Table.add, View.parse, hl, hv]
      refine Or.inr ⟨by simp [entryFaults, hview], _, hadd, ?_⟩
      simp [Refusal, hl, hv, entryFaults, hview]
    | some v =>
      have hview : viewFaults e = [] := by simp [viewFaults, faultIf, hv]
      by_cases hseen : l ∈ seen
      · have hfaults : entryFaults seen e = [.duplicateRoute l.display] := by
          simp [entryFaults, hlocation, hview, faultIf, hseen]
        have hadd : t.add e = .error (.duplicateLocation l) := by
          simp [Table.add, View.parse, hl, hv, (h l).2 hseen]
        exact Or.inr ⟨by simp [hfaults], _, hadd, by simp [Refusal, hl, hv, hfaults]⟩
      · have hfaults : entryFaults seen e = [] := by
          simp [entryFaults, hlocation, hview, faultIf, hseen]
        have hfree : (t.at? l.segments).isSome = false := by
          simpa using mt (h l).1 hseen
        have hadd : t.add e = .ok ⟨t.modules ++ [⟨l, v⟩]⟩ := by
          simp [Table.add, View.parse, hl, hv, hfree]
        have hsee : see seen e = l :: seen := by simp [see, hl]
        refine Or.inl ⟨hfaults, _, hadd, ?_, by simp [Table.size]⟩
        rw [hsee]
        exact covers_append h ⟨l, v⟩

/-- As long as no entry has a fault the table grows by one module for each entry, and it covers what
validation has seen. -/
private theorem foldlM_add_of_faultless {t : Table} {seen : List Location} (h : Covers t seen)
    {entries : List Entry} (hnone : routeFaults seen entries = []) :
    ∃ t', entries.foldlM Table.add t = .ok t' ∧ Covers t' (entries.foldl see seen) ∧
      t'.size = t.size + entries.length := by
  induction entries generalizing t seen with
  | nil => exact ⟨t, rfl, h, rfl⟩
  | cons e entries ih =>
    obtain ⟨hfirst, hrest⟩ := List.append_eq_nil_iff.1 hnone
    rcases add_cases h e with ⟨-, t₁, hadd, hcovers, hsize⟩ | ⟨hfault, -⟩
    · obtain ⟨t', hfold, hcovers', hsize'⟩ := ih hcovers hrest
      refine ⟨t', ?_, hcovers', ?_⟩
      · rw [List.foldlM_cons, hadd]
        exact hfold
      · rw [hsize', hsize, List.length_cons]
        omega
    · exact absurd hfirst hfault

private theorem exists_first_faulty {seen : List Location} {entries : List Entry}
    (h : routeFaults seen entries ≠ []) :
    ∃ front e back, entries = front ++ e :: back ∧ routeFaults seen front = [] ∧
      entryFaults (front.foldl see seen) e ≠ [] := by
  induction entries generalizing seen with
  | nil => exact absurd rfl h
  | cons e entries ih =>
    by_cases hfirst : entryFaults seen e = []
    · have hrest : routeFaults (see seen e) entries ≠ [] := by
        intro hnil
        exact h (List.append_eq_nil_iff.2 ⟨hfirst, hnil⟩)
      obtain ⟨front, e', back, rfl, hfront, hfault⟩ := ih hrest
      exact ⟨e :: front, e', back, rfl, List.append_eq_nil_iff.2 ⟨hfirst, hfront⟩, hfault⟩
    · exact ⟨[], e, entries, rfl, rfl, hfirst⟩

private theorem compile_of_first_faulty {front : List Entry} (back : List Entry) {e : Entry}
    (hfront : routeFaults [] front = []) (hfault : entryFaults (front.foldl see []) e ≠ []) :
    ∃ t err, Table.compile front = .ok t ∧ t.add e = .error err ∧
      Table.compile (front ++ e :: back) = .error err ∧
      Refusal (entryFaults (front.foldl see []) e) e err := by
  obtain ⟨t, hfold, hcovers, -⟩ := foldlM_add_of_faultless covers_empty hfront
  rcases add_cases hcovers e with ⟨hnone, -⟩ | ⟨-, err, hadd, hrefusal⟩
  · exact absurd hnone hfault
  · refine ⟨t, err, hfold, hadd, ?_, hrefusal⟩
    rw [Table.compile, List.foldlM_append, hfold]
    change (t.add e >>= fun t => back.foldlM Table.add t) = .error err
    rw [hadd]
    rfl

private theorem entryReports_of_faultless {seen : List Location} {entries : List Entry}
    (h : routeFaults seen entries = []) :
    entryReports seen entries = List.replicate entries.length [] := by
  rw [← flatten_entryReports, List.flatten_eq_nil_iff] at h
  have hlength : (entryReports seen entries).length = entries.length := by
    clear h
    induction entries generalizing seen with
    | nil => rfl
    | cons e entries ih => rw [entryReports, List.length_cons, ih, List.length_cons]
  rw [List.eq_replicate_iff]
  exact ⟨hlength, h⟩

private theorem exists_compile_iff (entries : List Entry) :
    (∃ t, Table.compile entries = .ok t) ↔ routeFaults [] entries = [] := by
  constructor
  · rintro ⟨t, hcompile⟩
    refine Decidable.byContradiction fun hfault => ?_
    obtain ⟨front, e, back, rfl, hfront, he⟩ := exists_first_faulty hfault
    obtain ⟨-, err, -, -, herr, -⟩ := compile_of_first_faulty back hfront he
    rw [hcompile] at herr
    cases herr
  · intro hnone
    obtain ⟨t, hfold, -⟩ := foldlM_add_of_faultless covers_empty hnone
    exact ⟨t, hfold⟩

private theorem exists_application {c : Server} {t : Table}
    (h : Table.compile c.routes.entries = .ok t) :
    ∃ app, Application.ofConfig c = .ok app ∧ app.table = t := by
  rw [Application.ofConfig, h]
  exact ⟨_, rfl, rfl⟩

/-- Validation and compilation agree. Validation reports the faults of the sections and then those
of the entries in their order. A manifest compiles exactly when no fault of the manifest is reported,
so an accepted configuration has an application with one module for each entry. When it does not
compile, the entry at which compilation stops is the first for which anything is reported. -/
theorem validation_agrees_with_compilation (c : Server) :
    reported c = sectionFaults c ++ (entryReports [] c.routes.entries).flatten ∧
    ((∃ t, Table.compile c.routes.entries = .ok t) ↔ ∀ f ∈ reported c, f.isRoute = false) ∧
    (∀ accepted, validate c = .ok accepted → ∃ app, Application.ofConfig c = .ok app ∧
      app.table.size = c.routes.entries.length) ∧
    (∀ err, Table.compile c.routes.entries = .error err →
      ∃ front e back t report later, c.routes.entries = front ++ e :: back ∧
        Table.compile front = .ok t ∧ t.add e = .error err ∧
        entryReports [] c.routes.entries = List.replicate front.length [] ++ report :: later ∧
        report ≠ [] ∧ Refusal report e err) := by
  have hiff : (∃ t, Table.compile c.routes.entries = .ok t) ↔ ∀ f ∈ reported c, f.isRoute = false :=
    (exists_compile_iff _).trans (routeFaults_eq_nil_iff c)
  refine ⟨?_, hiff, ?_, ?_⟩
  · rw [reported_eq_faults, faults, flatten_entryReports]
  · intro accepted hvalid
    have hreported : reported c = [] := by
      rw [reported_eq_faults, faults_eq_nil_of_validate hvalid]
    have hnone : routeFaults [] c.routes.entries = [] :=
      (routeFaults_eq_nil_iff c).2 (by simp [hreported])
    obtain ⟨t, hcompile, -, hsize⟩ := foldlM_add_of_faultless covers_empty hnone
    obtain ⟨app, happ, htable⟩ := exists_application hcompile
    refine ⟨app, happ, ?_⟩
    rw [htable, hsize]
    exact Nat.zero_add _
  · intro err herr
    have hfault : routeFaults [] c.routes.entries ≠ [] := by
      intro hnone
      obtain ⟨t, hcompile⟩ := (exists_compile_iff _).2 hnone
      rw [hcompile] at herr
      cases herr
    obtain ⟨front, e, back, hentries, hfront, he⟩ := exists_first_faulty hfault
    obtain ⟨t, err', hcompile, hadd, herr', hrefusal⟩ :=
      compile_of_first_faulty back hfront he
    have hsame : err' = err := by
      rw [hentries, herr'] at herr
      exact Except.error.inj herr
    subst hsame
    have hreports : entryReports [] c.routes.entries = List.replicate front.length [] ++
        entryFaults (front.foldl see []) e :: entryReports (see (front.foldl see []) e) back := by
      rw [hentries, entryReports_append, entryReports_of_faultless hfront, entryReports]
    exact ⟨front, e, back, t, _, _, hentries, hcompile, hadd, hreports, he, hrefusal⟩

/-- The default configuration with a manifest whose second entry is wrong twice over: its place is
taken and its view is unknown. The third entry is malformed. -/
def crowded : Server :=
  { Server.default with
    routes := ⟨[⟨"admin", "admin"⟩, ⟨"/admin/", "gallery"⟩, ⟨"a//b", "home"⟩]⟩ }

theorem validation_agrees_with_compilation_crowded :
    (∃ app, Application.ofConfig Server.default = .ok app ∧ app.table.size = 5) ∧
    reported crowded = [.duplicateRoute "admin", .unknownView "/admin/" "gallery",
      .invalidRoute "a//b" .emptySegment] ∧
    ∃ front e back t, crowded.routes.entries = front ++ e :: back ∧
      Table.compile front = .ok t ∧
      t.add e = .error (.unknownView "/admin/" ⟨"gallery"⟩) := by
  obtain ⟨-, -, haccepted, -⟩ := validation_agrees_with_compilation Server.default
  obtain ⟨-, -, -, hrefused⟩ := validation_agrees_with_compilation crowded
  have hvalid : validate Server.default = .ok Server.default := rfl
  have hcompile : Table.compile crowded.routes.entries =
      .error (.unknownView "/admin/" ⟨"gallery"⟩) := rfl
  obtain ⟨front, e, back, t, -, -, hentries, hfront, hadd, -⟩ := hrefused _ hcompile
  exact ⟨haccepted _ hvalid, by decide, front, e, back, t, hentries, hfront, hadd⟩

end Pressroom.Config
