import Pressroom.Proofs.RouteReachability

/-!
The canonical form of request paths. A stretch of a text is told by its positions, so that two
stretches with the same characters are still two. Main statement: the segments of a path are the
longest stretches without a slash before the first `?` or `#`, in their order, and the segment lists
that survive being displayed are exactly those that could have been read.
-/

set_option autoImplicit false
set_option relaxedAutoImplicit false

namespace Pressroom.Text

/-- A stretch of a text, from one position up to another. -/
@[ext]
structure Span where
  start : Nat
  stop : Nat
  deriving DecidableEq, Repr

namespace Span

def read (cs : List Char) (x : Span) : List Char :=
  (cs.take x.stop).drop x.start

/-- A stretch of a text that is not empty and does not contain the separator. -/
structure Free (sep : Char) (cs : List Char) (x : Span) : Prop where
  start_lt_stop : x.start < x.stop
  stop_le_length : x.stop ≤ cs.length
  sep_not_mem : sep ∉ x.read cs

/-- A free stretch that is not part of a longer one. -/
structure IsRun (sep : Char) (cs : List Char) (x : Span) : Prop where
  free : x.Free sep cs
  longest : ∀ y : Span, y.Free sep cs → y.start ≤ x.start → x.stop ≤ y.stop → y = x

/-- A stretch without separator, empty or not, that has a separator or the end of the text on either
side. -/
structure IsPiece (sep : Char) (cs : List Char) (x : Span) : Prop where
  start_le_stop : x.start ≤ x.stop
  stop_le_length : x.stop ≤ cs.length
  sep_not_mem : sep ∉ x.read cs
  left : x.start = 0 ∨ cs[x.start - 1]? = some sep
  right : x.stop = cs.length ∨ cs[x.stop]? = some sep

variable {sep : Char} {cs : List Char} {x y : Span}

private theorem mem_read_iff {c : Char} :
    c ∈ x.read cs ↔ ∃ k, x.start ≤ k ∧ k < x.stop ∧ cs[k]? = some c := by
  simp only [read, List.mem_iff_getElem?, List.getElem?_drop, List.getElem?_take]
  constructor
  · rintro ⟨i, hi⟩
    by_cases hlt : x.start + i < x.stop
    · rw [if_pos hlt] at hi
      exact ⟨x.start + i, Nat.le_add_right _ _, hlt, hi⟩
    · rw [if_neg hlt] at hi
      cases hi
  · rintro ⟨k, hstart, hstop, hk⟩
    refine ⟨k - x.start, ?_⟩
    have hadd : x.start + (k - x.start) = k := by omega
    rw [hadd, if_pos hstop, hk]

private theorem ne_sep_of_not_mem_read (h : sep ∉ x.read cs) {k : Nat} (hstart : x.start ≤ k)
    (hstop : k < x.stop) : cs[k]? ≠ some sep := by
  intro hk
  exact h (mem_read_iff.2 ⟨k, hstart, hstop, hk⟩)

private theorem length_read (h : x.stop ≤ cs.length) : (x.read cs).length = x.stop - x.start := by
  rw [read, List.length_drop, List.length_take, Nat.min_eq_left h]

private theorem isRun_iff : x.IsRun sep cs ↔ x.start < x.stop ∧ x.IsPiece sep cs := by
  constructor
  · rintro ⟨⟨hlt, hle, hfree⟩, hlongest⟩
    refine ⟨hlt, hlt.le, hle, hfree, ?_, ?_⟩
    · by_contra hleft
      obtain ⟨hpos, hne⟩ := not_or.1 hleft
      have hwider : (⟨x.start - 1, x.stop⟩ : Span).Free sep cs := by
        refine ⟨by simp only; omega, hle, fun hmem => ?_⟩
        obtain ⟨k, hk₁, hk₂, hk⟩ := mem_read_iff.1 hmem
        by_cases hfirst : k = x.start - 1
        · exact hne (hfirst ▸ hk)
        · exact hfree (mem_read_iff.2 ⟨k, by simp only at hk₁; omega, hk₂, hk⟩)
      have heq := congrArg start (hlongest _ hwider (Nat.sub_le _ _) le_rfl)
      simp only at heq
      omega
    · by_contra hright
      obtain ⟨hend, hne⟩ := not_or.1 hright
      have hwider : (⟨x.start, x.stop + 1⟩ : Span).Free sep cs := by
        refine ⟨by simp only; omega, by simp only; omega, fun hmem => ?_⟩
        obtain ⟨k, hk₁, hk₂, hk⟩ := mem_read_iff.1 hmem
        by_cases hlast : k = x.stop
        · exact hne (hlast ▸ hk)
        · exact hfree (mem_read_iff.2 ⟨k, hk₁, by simp only at hk₂; omega, hk⟩)
      have heq := congrArg stop (hlongest _ hwider le_rfl (Nat.le_succ _))
      simp only at heq
      omega
  · rintro ⟨hlt, -, hle, hfree, hleft, hright⟩
    refine ⟨⟨hlt, hle, hfree⟩, fun y hy hstart hstop => ?_⟩
    have hyle := hy.stop_le_length
    have hs : y.start = x.start := by
      by_contra hne
      rcases hleft with hzero | hsep
      · omega
      · exact ne_sep_of_not_mem_read hy.sep_not_mem (by omega) (by omega) hsep
    have ht : y.stop = x.stop := by
      by_contra hne
      rcases hright with hend | hsep
      · omega
      · exact ne_sep_of_not_mem_read hy.sep_not_mem (by omega) (by omega) hsep
    exact Span.ext hs ht

private theorem IsPiece.eq_or_stop_lt (hx : x.IsPiece sep cs) (hy : y.IsPiece sep cs)
    (h : x.start ≤ y.start) : y = x ∨ x.stop < y.start := by
  have hxlen := hx.stop_le_length
  have hylen := hy.stop_le_length
  have hxle := hx.start_le_stop
  have hyle := hy.start_le_stop
  rcases Nat.lt_or_ge x.stop y.start with hlt | hge
  · exact Or.inr hlt
  · refine Or.inl ?_
    -- a separator inside one of the two stretches would follow from any difference of their ends
    have hstart : y.start = x.start := by
      by_contra hne
      rcases hy.left with hzero | hsep
      · omega
      · exact ne_sep_of_not_mem_read hx.sep_not_mem (by omega) (by omega) hsep
    have hstop : y.stop = x.stop := by
      rcases Nat.lt_trichotomy y.stop x.stop with hlt | heq | hlt
      · rcases hy.right with hend | hsep
        · omega
        · exact absurd hsep (ne_sep_of_not_mem_read hx.sep_not_mem (by omega) hlt)
      · exact heq
      · rcases hx.right with hend | hsep
        · omega
        · exact absurd hsep (ne_sep_of_not_mem_read hy.sep_not_mem (by omega) hlt)
    exact Span.ext hstart hstop

end Span

/-- The stretches of pieces that stand one after the other, with a separator after each but the
last. -/
def layout (start : Nat) : List (List Char) → List Span
  | [] => []
  | p :: ps => ⟨start, start + p.length⟩ :: layout (start + p.length + 1) ps

private theorem le_start_of_mem_layout {start : Nat} {ps : List (List Char)} {x : Span}
    (h : x ∈ layout start ps) : start ≤ x.start := by
  induction ps generalizing start with
  | nil => cases h
  | cons p ps ih =>
    rcases List.mem_cons.1 h with rfl | h
    · exact le_rfl
    · have hle := ih h
      omega

private theorem pairwise_layout (start : Nat) (ps : List (List Char)) :
    (layout start ps).Pairwise fun x y => x.stop < y.start := by
  induction ps generalizing start with
  | nil => exact List.Pairwise.nil
  | cons p ps ih =>
    refine List.pairwise_cons.2 ⟨fun y hy => ?_, ih _⟩
    have hle := le_start_of_mem_layout hy
    show start + p.length < y.start
    omega

private theorem read_middle (front p back : List Char) :
    (⟨front.length, front.length + p.length⟩ : Span).read (front ++ p ++ back) = p := by
  have hlength : front.length + p.length = (front ++ p).length := List.length_append.symm
  rw [Span.read, hlength, List.take_left, List.drop_left]

private theorem append_join_cons (sep : Char) (front p q : List Char) (ps : List (List Char)) :
    front ++ join sep (p :: q :: ps) = (front ++ p ++ [sep]) ++ join sep (q :: ps) := by
  rw [join_cons_cons]
  simp

private theorem length_past (sep : Char) (front p : List Char) :
    (front ++ p ++ [sep]).length = front.length + p.length + 1 := by
  rw [List.length_append, List.length_append]
  rfl

private theorem append_join_eq (sep : Char) (front p : List Char) (ps : List (List Char)) :
    ∃ back, front ++ join sep (p :: ps) = front ++ p ++ back ∧ ∀ c ∈ back.head?, c = sep := by
  cases ps with
  | nil => exact ⟨[], by simp, by simp⟩
  | cons q ps => exact ⟨sep :: join sep (q :: ps), by simp, by simp⟩

private theorem map_read_layout (sep : Char) (front : List Char) (ps : List (List Char)) :
    (layout front.length ps).map (Span.read (front ++ join sep ps)) = ps := by
  induction ps generalizing front with
  | nil => rfl
  | cons p ps ih =>
    obtain ⟨back, hback, -⟩ := append_join_eq sep front p ps
    have hfirst := read_middle front p back
    rw [← hback] at hfirst
    rw [layout, List.map_cons, hfirst]
    cases ps with
    | nil => rfl
    | cons q ps =>
      have hrest := ih (front ++ p ++ [sep])
      rw [← append_join_cons, length_past] at hrest
      rw [hrest]

private theorem isPiece_middle {sep : Char} {front p back : List Char} (hp : sep ∉ p)
    (hfront : ∀ c ∈ front.getLast?, c = sep) (hback : ∀ c ∈ back.head?, c = sep) :
    (⟨front.length, front.length + p.length⟩ : Span).IsPiece sep (front ++ p ++ back) := by
  refine ⟨Nat.le_add_right _ _, by simp, by rwa [read_middle], ?_, ?_⟩
  · rcases List.eq_nil_or_concat' front with rfl | ⟨init, c, rfl⟩
    · exact Or.inl rfl
    · have hc : c = sep := hfront c (by simp)
      refine Or.inr ?_
      simp [hc]
  · cases back with
    | nil => exact Or.inl (by simp)
    | cons c back =>
      have hc : c = sep := hback c rfl
      refine Or.inr ?_
      have hlength : front.length + p.length = (front ++ p).length := List.length_append.symm
      rw [hlength, List.getElem?_append_right le_rfl, Nat.sub_self, hc]
      rfl

/-- The stretches that are laid out are all the pieces there are from the first of them on. -/
private theorem mem_layout_iff {sep : Char} (front : List Char) {ps : List (List Char)}
    (hne : ps ≠ [])
    (hps : ∀ p ∈ ps, sep ∉ p) (hfront : ∀ c ∈ front.getLast?, c = sep) (x : Span) :
    x ∈ layout front.length ps ↔
      front.length ≤ x.start ∧ x.IsPiece sep (front ++ join sep ps) := by
  induction ps generalizing front with
  | nil => exact absurd rfl hne
  | cons p ps ih =>
    obtain ⟨back, htext, hback⟩ := append_join_eq sep front p ps
    have hfirst := isPiece_middle (hps p List.mem_cons_self) hfront hback
    rw [← htext] at hfirst
    cases ps with
    | nil =>
      have hlength : (front ++ join sep [p]).length = front.length + p.length := by simp
      rw [layout, layout, List.mem_singleton]
      constructor
      · rintro rfl
        exact ⟨le_rfl, hfirst⟩
      · rintro ⟨hstart, hx⟩
        rcases hfirst.eq_or_stop_lt hx hstart with heq | hlt
        · exact heq
        · have hxle := hx.start_le_stop
          have hxlen := hx.stop_le_length
          simp only at hlt
          omega
    | cons q ps =>
      have hrest := ih (front ++ p ++ [sep]) (List.cons_ne_nil q ps)
        (fun r hr => hps r (List.mem_cons_of_mem p hr)) (by simp)
      rw [← append_join_cons, length_past] at hrest
      rw [layout, List.mem_cons, hrest]
      constructor
      · rintro (rfl | ⟨hstart, hx⟩)
        · exact ⟨le_rfl, hfirst⟩
        · exact ⟨by omega, hx⟩
      · rintro ⟨hstart, hx⟩
        exact (hfirst.eq_or_stop_lt hx hstart).imp_right fun hlt => ⟨hlt, hx⟩

/-- The runs of a text, in their order, are its pieces without the empty ones. -/
theorem exists_runs (sep : Char) (cs : List Char) :
    ∃ runs : List Span, runs.Pairwise (fun x y => x.stop < y.start) ∧
      (∀ x, x ∈ runs ↔ x.IsRun sep cs) ∧
      runs.map (Span.read cs) = (pieces sep cs).filter (!·.isEmpty) := by
  have hmem : ∀ x, x ∈ layout 0 (pieces sep cs) ↔ x.IsPiece sep cs := by
    intro x
    have h := mem_layout_iff [] (pieces_ne_nil sep cs) (fun p hp => sep_not_mem_pieces hp)
      (by simp) x
    rw [join_pieces] at h
    simpa using h
  have hread : (layout 0 (pieces sep cs)).map (Span.read cs) = pieces sep cs := by
    have h := map_read_layout sep [] (pieces sep cs)
    rwa [join_pieces] at h
  refine ⟨(layout 0 (pieces sep cs)).filter fun x => x.start < x.stop,
    (pairwise_layout 0 _).filter _, ?_, ?_⟩
  · intro x
    rw [List.mem_filter, hmem, Span.isRun_iff, decide_eq_true_eq, and_comm]
  · have hfull : ∀ x ∈ layout 0 (pieces sep cs),
        decide (x.start < x.stop) = !(x.read cs).isEmpty := by
      intro x hx
      have hlength := Span.length_read ((hmem x).1 hx).stop_le_length
      rw [Bool.eq_iff_iff, decide_eq_true_eq, Bool.not_eq_true', List.isEmpty_eq_false_iff,
        ← List.length_pos_iff, hlength]
      omega
    calc ((layout 0 (pieces sep cs)).filter fun x => x.start < x.stop).map (Span.read cs)
        = ((layout 0 (pieces sep cs)).filter fun x => !(x.read cs).isEmpty).map (Span.read cs) := by
          rw [List.filter_congr hfull]
      _ = ((layout 0 (pieces sep cs)).map (Span.read cs)).filter (!·.isEmpty) := by
          rw [List.filter_map]
          rfl
      _ = (pieces sep cs).filter (!·.isEmpty) := by rw [hread]

end Pressroom.Text

namespace Pressroom.Route.Path

theorem endsPath_iff {c : Char} : endsPath c = true ↔ c = '?' ∨ c = '#' := by
  simp [endsPath]

private theorem parse_display_iff {segments : List String} :
    parse (display ⟨segments⟩) = ⟨segments⟩ ↔ ∀ s ∈ segments, RequestSegment s := by
  constructor
  · intro h s hs
    have hread : s ∈ (parse (display ⟨segments⟩)).segments := by rwa [h]
    exact requestSegment_of_mem_parse hread
  · intro h
    exact parse_display h

/-- Request paths have a canonical form. The segments of a text are the longest stretches without a
slash of what stands before its first `?` or `#`, each of them once and in their order; reading the
text of a path that was read gives that path again; and a list of segments is read back from its
text exactly when no segment is empty or contains `/`, `?` or `#`. -/
theorem paths_have_canonical_form (raw : String) :
    (∃ body rest : String, raw = body ++ rest ∧ (∀ c ∈ body.toList, c ≠ '?' ∧ c ≠ '#') ∧
      (∀ c ∈ rest.toList.head?, c = '?' ∨ c = '#') ∧
      ∃ runs : List Text.Span, runs.Pairwise (fun x y => x.stop < y.start) ∧
        (∀ x, x ∈ runs ↔ x.IsRun '/' body.toList) ∧
        (parse raw).segments = runs.map fun x => String.ofList (x.read body.toList)) ∧
    (∀ s ∈ (parse raw).segments, s ≠ "" ∧ '/' ∉ s.toList ∧ '?' ∉ s.toList ∧ '#' ∉ s.toList) ∧
    parse (parse raw).display = parse raw ∧
    ∀ segments : List String, parse (display ⟨segments⟩) = ⟨segments⟩ ↔
      ∀ s ∈ segments, s ≠ "" ∧ '/' ∉ s.toList ∧ '?' ∉ s.toList ∧ '#' ∉ s.toList := by
  have hsegments : ∀ s ∈ (parse raw).segments, RequestSegment s :=
    fun s hs => requestSegment_of_mem_parse hs
  refine ⟨?_, hsegments, parse_display hsegments, fun segments => parse_display_iff⟩
  obtain ⟨rest, hraw, hrest⟩ := Text.exists_eq_before_append endsPath raw.toList
  obtain ⟨runs, hsorted, hmem, hread⟩ := Text.exists_runs '/' (Text.before endsPath raw.toList)
  refine ⟨String.ofList (Text.before endsPath raw.toList), String.ofList rest, ?_, ?_, ?_, runs,
    hsorted, by simpa using hmem, ?_⟩
  · rw [← String.ofList_append, ← hraw, String.ofList_toList]
  · intro c hc
    rw [String.toList_ofList] at hc
    have hkept := Text.eq_false_of_mem_before hc
    rw [← Bool.not_eq_true, endsPath_iff] at hkept
    exact not_or.1 hkept
  · intro c hc
    rw [String.toList_ofList] at hc
    exact endsPath_iff.1 (hrest c hc)
  · rw [parse, ← hread, List.map_map, String.toList_ofList]
    rfl

theorem paths_have_canonical_form_crowded :
    (parse "//a/./b#c/d?e//f").segments = ["a", ".", "b"] ∧
    parse (parse "//a/./b#c/d?e//f").display = ⟨["a", ".", "b"]⟩ ∧
    parse (display ⟨["a", "b c"]⟩) = ⟨["a", "b c"]⟩ ∧
    parse (display ⟨["a", ""]⟩) ≠ ⟨["a", ""]⟩ ∧
    parse (display ⟨["a/b"]⟩) ≠ ⟨["a/b"]⟩ ∧
    parse (display ⟨["a", "b?c#d"]⟩) ≠ ⟨["a", "b?c#d"]⟩ := by
  obtain ⟨-, -, hagain, hlists⟩ := paths_have_canonical_form "//a/./b#c/d?e//f"
  have hread : parse "//a/./b#c/d?e//f" = ⟨["a", ".", "b"]⟩ := by decide
  refine ⟨by rw [hread], hagain.trans hread, (hlists _).2 (by decide), ?_, ?_, ?_⟩
  · exact (hlists _).not.2 (by decide)
  · exact (hlists _).not.2 (by decide)
  · exact (hlists _).not.2 (by decide)

end Pressroom.Route.Path
