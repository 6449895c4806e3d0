import Pressroom.Proofs.RouteResolution
import Pressroom.Proofs.TextCutting

/-!
Which modules a request can reach. The text of a request is cut at its first `?` or `#` before its
segments are read, and the text of a location is not; so a segment with such a character can be
declared and never asked for. Main statement: those segments are the only obstacle, and every other
module is reached under its own location.
-/

set_option autoImplicit false
set_option relaxedAutoImplicit false

namespace Pressroom.Route

/-- A segment that can be read from the text of a request. -/
def RequestSegment (s : String) : Prop :=
  s ≠ "" ∧ '/' ∉ s.toList ∧ '?' ∉ s.toList ∧ '#' ∉ s.toList

private theorem PlainSegment.requestSegment {s : String} (h : PlainSegment s)
    (hmark : '?' ∉ s.toList)
    (hsharp : '#' ∉ s.toList) : RequestSegment s :=
  ⟨h.1, h.2.2.2, hmark, hsharp⟩

namespace Path

theorem requestSegment_of_mem_parse {raw s : String} (h : s ∈ (parse raw).segments) :
    RequestSegment s := by
  obtain ⟨piece, hpiece, rfl⟩ := List.mem_map.1 h
  obtain ⟨hmem, hfull⟩ := List.mem_filter.1 hpiece
  have hstop : ∀ c ∈ piece, endsPath c = false := by
    intro c hc
    exact Text.eq_false_of_mem_before (Text.mem_of_mem_pieces hmem hc)
  rw [RequestSegment, String.toList_ofList]
  refine ⟨?_, Text.sep_not_mem_pieces hmem, ?_, ?_⟩
  · intro hempty
    have hnil : piece = [] := by simpa using hempty
    rw [hnil] at hfull
    cases hfull
  · intro hc
    cases hstop '?' hc
  · intro hc
    cases hstop '#' hc

private theorem toList_display (p : Path) :
    p.display.toList = '/' :: Text.join '/' (p.segments.map String.toList) := by
  simp [display, Text.join, String.toList_intercalate]

private theorem endsPath_eq_false_of_mem_display {p : Path} (h : ∀ s ∈ p.segments, RequestSegment s)
    {c : Char} (hc : c ∈ p.display.toList) : endsPath c = false := by
  rw [toList_display] at hc
  rcases List.mem_cons.1 hc with rfl | hc
  · rfl
  · rcases Text.mem_join hc with rfl | ⟨cs, hcs, hc⟩
    · rfl
    · obtain ⟨s, hs, rfl⟩ := List.mem_map.1 hcs
      obtain ⟨-, -, hmark, hsharp⟩ := h s hs
      have hne : c ≠ '?' ∧ c ≠ '#' := ⟨fun e => hmark (e ▸ hc), fun e => hsharp (e ▸ hc)⟩
      simp [endsPath, hne]

theorem parse_display {p : Path} (h : ∀ s ∈ p.segments, RequestSegment s) :
    parse p.display = p := by
  have hwhole : Text.before endsPath p.display.toList = p.display.toList :=
    Text.before_eq_self_of_forall fun c hc => endsPath_eq_false_of_mem_display h hc
  obtain ⟨segments⟩ := p
  have hpieces : (Text.pieces '/' (Text.join '/' (segments.map String.toList))).filter
      (!·.isEmpty) = segments.map String.toList := by
    cases segments with
    | nil => rfl
    | cons s segments =>
      rw [Text.pieces_join (by simp), List.filter_eq_self]
      · intro cs hcs
        obtain ⟨u, hu, rfl⟩ := List.mem_map.1 hcs
        simpa using (h u hu).1
      · intro cs hcs
        obtain ⟨u, hu, rfl⟩ := List.mem_map.1 hcs
        exact (h u hu).2.1
  rw [parse, hwhole, toList_display, Text.pieces, if_pos rfl, List.filter_cons_of_neg (by simp),
    hpieces, List.map_map]
  simp

end Path

namespace Table

private theorem segments_of_resolve {t : Table} {p : Path} {m : Module} {k : MatchKind}
    (h : t.resolve p = .ok ⟨m, k⟩) : m.location.segments = k.candidate p := by
  have hat : t.at? (k.candidate p) = some m := by
    cases k with
    | exact => exact resolve_eq_exact_iff.1 h
    | index => exact (resolve_eq_index_iff.1 h).2
  simpa using List.find?_some hat

private theorem requestSegment_of_mem_candidate {raw s : String} {k : MatchKind}
    (h : s ∈ k.candidate (Path.parse raw)) : RequestSegment s := by
  cases k with
  | exact => exact Path.requestSegment_of_mem_parse h
  | index =>
    rcases List.mem_append.1 h with h | h
    · exact Path.requestSegment_of_mem_parse h
    · rw [List.mem_singleton.1 h]
      unfold RequestSegment Location.indexSegment
      decide

private theorem resolve_parse_display {t : Table} (h : t.Distinct) {m : Module} (hm : m ∈ t.modules)
    (hclean : ∀ s ∈ m.location.segments, '?' ∉ s.toList ∧ '#' ∉ s.toList) :
    t.resolve (Path.parse ("/" ++ m.location.display)) = .ok ⟨m, .exact⟩ := by
  have hread : Path.parse ("/" ++ m.location.display) = ⟨m.location.segments⟩ := by
    apply Path.parse_display (p := ⟨m.location.segments⟩)
    intro s hs
    exact (m.location.plain s hs).requestSegment (hclean s hs).1 (hclean s hs).2
  rw [hread, resolve_eq_exact_iff, h.at?_eq_some_iff]
  exact ⟨hm, rfl⟩

/-- A module of a table is reached by some request exactly when no segment of its location contains
`?` or `#`, and then it is what its own location, after a slash, leads to. -/
theorem reached_iff_no_mark {entries : List Entry} {t : Table} (h : compile entries = .ok t)
    {m : Module} (hm : m ∈ t.modules) :
    ((∃ (raw : String) (k : MatchKind), t.resolve (Path.parse raw) = .ok ⟨m, k⟩) ↔
      ∀ s ∈ m.location.segments, '?' ∉ s.toList ∧ '#' ∉ s.toList) ∧
    ((∀ s ∈ m.location.segments, '?' ∉ s.toList ∧ '#' ∉ s.toList) →
      t.resolve (Path.parse ("/" ++ m.location.display)) = .ok ⟨m, .exact⟩) := by
  obtain ⟨-, -, hdistinct⟩ := compile_eq_ok_iff.1 h
  refine ⟨⟨?_, ?_⟩, resolve_parse_display hdistinct hm⟩
  · rintro ⟨raw, k, hresolve⟩ s hs
    rw [segments_of_resolve hresolve] at hs
    exact (requestSegment_of_mem_candidate hs).2.2
  · intro hclean
    exact ⟨_, _, resolve_parse_display hdistinct hm hclean⟩

/-- A manifest with an index behind a page of the same path, and two locations that are never read
from a request. -/
def overgrown : List Entry :=
  [⟨"admin", "admin"⟩, ⟨"/admin/index/", "post_list"⟩, ⟨"faq?/index", "home"⟩,
    ⟨"docs/c#/intro", "post_detail"⟩]

theorem reached_iff_no_mark_overgrown :
    ∃ (t : Table) (hidden dead : Module), compile overgrown = .ok t ∧
      hidden ∈ t.modules ∧ hidden.location.segments = ["admin", "index"] ∧
      t.resolve (Path.parse "/admin/index") = .ok ⟨hidden, .exact⟩ ∧
      dead ∈ t.modules ∧ dead.location.segments = ["faq?", "index"] ∧
      ¬ ∃ (raw : String) (k : MatchKind), t.resolve (Path.parse raw) = .ok ⟨dead, k⟩ := by
  obtain ⟨t, h⟩ : ∃ t, compile overgrown = .ok t := ⟨_, rfl⟩
  obtain ⟨hidden, hread, hplace⟩ : ∃ m, Entry.module? ⟨"/admin/index/", "post_list"⟩ = some m ∧
      m.location.segments = ["admin", "index"] := ⟨_, rfl, rfl⟩
  obtain ⟨dead, hread', hplace'⟩ : ∃ m, Entry.module? ⟨"faq?/index", "home"⟩ = some m ∧
      m.location.segments = ["faq?", "index"] := ⟨_, rfl, rfl⟩
  have hmem : hidden ∈ t.modules := (mem_modules_of_compile h).2 ⟨_, by simp [overgrown], hread⟩
  have hmem' : dead ∈ t.modules := (mem_modules_of_compile h).2 ⟨_, by simp [overgrown], hread'⟩
  refine ⟨t, hidden, dead, h, hmem, hplace, ?_, hmem', hplace', ?_⟩
  · have htext : "/" ++ hidden.location.display = "/admin/index" := by
      rw [Location.display, hplace]
      rfl
    rw [← htext]
    apply (reached_iff_no_mark h hmem).2
    rw [hplace]
    decide
  · rw [(reached_iff_no_mark h hmem').1, hplace']
    decide

end Table

end Pressroom.Route
