import Pressroom.Proofs.TextCutting
import Pressroom.Route.Location

/-!
The grammar of written locations. A text that is not made of slashes alone has one list of segments:
what stands between its slashes once those at the two ends are gone. Main statement: a location is
read exactly from the texts that show it between slashes, and a refusal names the first segment from
the left that is empty or relative.
-/

set_option autoImplicit false
set_option relaxedAutoImplicit false

namespace Pressroom.Text

/-- Neither end of a text satisfies `drop`. -/
def Bare (drop : Char → Bool) (cs : List Char) : Prop :=
  (∀ c ∈ cs.head?, drop c = false) ∧ ∀ c ∈ cs.getLast?, drop c = false

private theorem dropWhile_append_of_head {drop : Char → Bool} {front cs : List Char}
    (hfront : ∀ c ∈ front, drop c = true) (hcs : ∀ c ∈ cs.head?, drop c = false) :
    (front ++ cs).dropWhile drop = cs := by
  rw [List.dropWhile_append_of_pos hfront]
  cases cs with
  | nil => rfl
  | cons c cs => rw [List.dropWhile_cons_of_neg (by simp [hcs c rfl])]

private theorem strip_append {drop : Char → Bool} {front cs back : List Char}
    (hfront : ∀ c ∈ front, drop c = true) (hback : ∀ c ∈ back, drop c = true)
    (hcs : Bare drop cs) : strip drop (front ++ cs ++ back) = cs := by
  have hreverse : ∀ c ∈ back.reverse, drop c = true := by simpa using hback
  have hlast : ∀ c ∈ cs.reverse.head?, drop c = false := by simpa using hcs.2
  cases cs with
  | nil =>
    have hall : ∀ c ∈ front ++ [] ++ back, drop c = true := by
      intro c hc
      rw [List.append_nil, List.mem_append] at hc
      exact hc.elim (hfront c) (hback c)
    rw [strip, List.dropWhile_eq_nil_iff.2 hall]
    rfl
  | cons c cs =>
    have hfirst : ∀ d ∈ (c :: cs ++ back).head?, drop d = false := by simpa using hcs.1
    rw [strip, List.append_assoc, dropWhile_append_of_head hfront hfirst, List.reverse_append,
      dropWhile_append_of_head hreverse hlast, List.reverse_reverse]

private theorem bare_strip (drop : Char → Bool) (cs : List Char) : Bare drop (strip drop cs) := by
  constructor
  · intro c hc
    rw [← dropWhile_strip] at hc
    have hfirst := List.head?_dropWhile_not drop (strip drop cs)
    rw [Option.mem_def.1 hc] at hfirst
    exact hfirst
  · intro c hc
    rw [strip, List.getLast?_reverse] at hc
    have hlast := List.head?_dropWhile_not drop (cs.dropWhile drop).reverse
    rw [Option.mem_def.1 hc] at hlast
    exact hlast

private theorem exists_around_strip (drop : Char → Bool) (cs : List Char) :
    ∃ front back, cs = front ++ strip drop cs ++ back ∧ (∀ c ∈ front, drop c = true) ∧
      ∀ c ∈ back, drop c = true := by
  refine ⟨cs.takeWhile drop, ((cs.dropWhile drop).reverse.takeWhile drop).reverse, ?_, ?_, ?_⟩
  · have hrest := List.takeWhile_append_dropWhile (p := drop) (l := (cs.dropWhile drop).reverse)
    rw [strip, List.append_assoc, ← List.reverse_append, hrest, List.reverse_reverse,
      List.takeWhile_append_dropWhile]
  · intro c hc
    exact List.mem_takeWhile_imp hc
  · intro c hc
    exact List.mem_takeWhile_imp (List.mem_reverse.1 hc)

private theorem strip_eq_nil_iff {drop : Char → Bool} {cs : List Char} :
    strip drop cs = [] ↔ ∀ c ∈ cs, drop c = true := by
  constructor
  · intro hnil c hc
    obtain ⟨front, back, hcs, hfront, hback⟩ := exists_around_strip drop cs
    rw [hcs, hnil, List.append_nil, List.mem_append] at hc
    exact hc.elim (hfront c) (hback c)
  · intro hall
    rw [strip, List.dropWhile_eq_nil_iff.2 hall]
    rfl

private theorem join_append_single {sep : Char} {ps : List (List Char)} (hne : ps ≠ [])
    (p : List Char) :
    join sep (ps ++ [p]) = join sep ps ++ sep :: p := by
  induction ps with
  | nil => exact absurd rfl hne
  | cons q ps ih =>
    cases ps with
    | nil => simp
    | cons r ps =>
      have hrest := ih (List.cons_ne_nil r ps)
      simpa using hrest

private theorem head?_join {sep : Char} {p : List Char} (hp : p ≠ []) (ps : List (List Char)) :
    (join sep (p :: ps)).head? = p.head? := by
  obtain ⟨c, cs, rfl⟩ := List.exists_cons_of_ne_nil hp
  cases ps with
  | nil => simp
  | cons q qs => simp

private theorem getLast?_join {sep : Char} {p : List Char} (hp : p ≠ []) (ps : List (List Char)) :
    (join sep (ps ++ [p])).getLast? = p.getLast? := by
  cases ps with
  | nil => simp
  | cons q qs =>
    rw [join_append_single (List.cons_ne_nil q qs), List.getLast?_append_of_ne_nil]
    · obtain ⟨c, cs, rfl⟩ := List.exists_cons_of_ne_nil hp
      exact List.getLast?_cons_cons
    · exact List.cons_ne_nil sep p

private theorem Bare.pieces_outer {sep : Char} {cs : List Char} (h : Bare (· == sep) cs)
    (hne : cs ≠ []) :
    (∃ p ∈ (pieces sep cs).head?, p ≠ []) ∧ ∃ p ∈ (pieces sep cs).getLast?, p ≠ [] := by
  have hjoin := join_pieces sep cs
  constructor
  · obtain ⟨p, ps, hp⟩ := List.exists_cons_of_ne_nil (pieces_ne_nil sep cs)
    refine ⟨p, by simp [hp], ?_⟩
    rintro rfl
    rw [hp] at hjoin
    cases ps with
    | nil => exact hne (by simpa using hjoin.symm)
    | cons q qs =>
      rw [join_cons_cons] at hjoin
      have hsep := h.1 sep (by simp [← hjoin])
      simp at hsep
  · obtain ⟨ps, p, hp⟩ := (List.eq_nil_or_concat' (pieces sep cs)).resolve_left
      (pieces_ne_nil sep cs)
    refine ⟨p, by simp [hp], ?_⟩
    rintro rfl
    rw [hp] at hjoin
    cases ps with
    | nil => exact hne (by simpa using hjoin.symm)
    | cons q qs =>
      rw [join_append_single (List.cons_ne_nil q qs)] at hjoin
      have hsep := h.2 sep (by simp [← hjoin])
      simp at hsep

end Pressroom.Text

namespace Pressroom.Route.Location

def slashes (n : Nat) : String :=
  String.ofList (List.replicate n '/')

/-- A text spells segments: it shows them between single slashes, with any number of slashes around
them. None of the segments has a slash, and the outer two are not empty, so that the slashes around
them are all there are at the two ends. -/
structure Spells (segments : List String) (raw : String) : Prop where
  around : ∃ m n, raw = slashes m ++ "/".intercalate segments ++ slashes n
  free : ∀ s ∈ segments, '/' ∉ s.toList
  first : ∃ s ∈ segments.head?, s ≠ ""
  last : ∃ s ∈ segments.getLast?, s ≠ ""

private theorem toList_intercalate_slash (segments : List String) :
    ("/".intercalate segments).toList = Text.join '/' (segments.map String.toList) := by
  simp [Text.join, String.toList_intercalate]

private theorem eq_slashes {cs : List Char} (h : ∀ c ∈ cs, (c == '/') = true) :
    String.ofList cs = slashes cs.length := by
  have hreplicate : cs = List.replicate cs.length '/' :=
    List.eq_replicate_of_mem fun c hc => by simpa using h c hc
  rw [slashes, ← hreplicate]

private theorem stripSlashes_around {body : List Char} (h : Text.Bare (· == '/') body) (m n : Nat) :
    stripSlashes (slashes m ++ String.ofList body ++ slashes n) = body := by
  have hslash : ∀ k, ∀ c ∈ List.replicate k '/', (c == '/') = true := by
    intro k c hc
    simpa using List.eq_of_mem_replicate hc
  have hstrip := Text.strip_append (hslash m) (hslash n) h
  simpa [stripSlashes, slashes] using hstrip

private theorem Spells.bare {segments : List String} {raw : String} (h : Spells segments raw) :
    Text.Bare (· == '/') (Text.join '/' (segments.map String.toList)) := by
  obtain ⟨-, hfree, ⟨first, hfirst, hfull⟩, ⟨last, hlast, hfull'⟩⟩ := h
  have hplain : ∀ s ∈ segments, ∀ c ∈ s.toList, (c == '/') = false := by
    intro s hs c hc
    have hne : c ≠ '/' := fun heq => hfree s hs (heq ▸ hc)
    simpa using hne
  constructor
  · obtain ⟨rest, rfl⟩ : ∃ rest, segments = first :: rest := List.head?_eq_some_iff.1 hfirst
    rw [List.map_cons, Text.head?_join (by simpa using hfull)]
    intro c hc
    exact hplain first List.mem_cons_self c (List.mem_of_mem_head? hc)
  · obtain ⟨front, rfl⟩ : ∃ front, segments = front ++ [last] := List.getLast?_eq_some_iff.1 hlast
    rw [List.map_append, List.map_singleton, Text.getLast?_join (by simpa using hfull')]
    intro c hc
    exact hplain last (by simp) c (List.mem_of_getLast? hc)

private theorem Spells.stripSlashes_eq {segments : List String} {raw : String}
    (h : Spells segments raw) :
    stripSlashes raw = Text.join '/' (segments.map String.toList) := by
  obtain ⟨m, n, rfl⟩ := h.around
  have hbody : String.ofList (Text.join '/' (segments.map String.toList)) =
      "/".intercalate segments := by
    rw [← toList_intercalate_slash, String.ofList_toList]
  rw [← hbody, stripSlashes_around h.bare]

private theorem Spells.split_eq {segments : List String} {raw : String} (h : Spells segments raw) :
    split (stripSlashes raw) = segments := by
  have hne : segments.map String.toList ≠ [] := by
    obtain ⟨s, hs, -⟩ := h.first
    intro hnil
    rw [List.map_eq_nil_iff.1 hnil] at hs
    cases hs
  have hfree : ∀ p ∈ segments.map String.toList, '/' ∉ p := by
    simpa using h.free
  rw [h.stripSlashes_eq, split, Text.pieces_join hne hfree, List.map_map]
  simp

private theorem Spells.stripSlashes_ne_nil {segments : List String} {raw : String}
    (h : Spells segments raw) : stripSlashes raw ≠ [] := by
  obtain ⟨s, hs, hfull⟩ := h.first
  obtain ⟨rest, rfl⟩ : ∃ rest, segments = s :: rest := List.head?_eq_some_iff.1 hs
  have hchars : s.toList ≠ [] := by simpa using hfull
  intro hnil
  have hhead : (Text.join '/' (s.toList :: rest.map String.toList)).head? = s.toList.head? :=
    Text.head?_join hchars _
  rw [← List.map_cons, ← h.stripSlashes_eq, hnil] at hhead
  exact hchars (List.head?_eq_none_iff.1 hhead.symm)

private theorem spells_split {raw : String} (h : stripSlashes raw ≠ []) :
    Spells (split (stripSlashes raw)) raw := by
  have hjoin : Text.join '/' ((split (stripSlashes raw)).map String.toList) = stripSlashes raw := by
    have hpieces : (split (stripSlashes raw)).map String.toList =
        Text.pieces '/' (stripSlashes raw) := by
      simp [split, Function.comp_def]
    rw [hpieces, Text.join_pieces]
  have hbare : Text.Bare (· == '/') (stripSlashes raw) := Text.bare_strip _ _
  obtain ⟨⟨first, hfirst, hfull⟩, ⟨last, hlast, hfull'⟩⟩ := hbare.pieces_outer h
  refine ⟨?_, ?_, ⟨String.ofList first, ?_, by simpa using hfull⟩,
    ⟨String.ofList last, ?_, by simpa using hfull'⟩⟩
  · obtain ⟨front, back, hraw, hfront, hback⟩ := Text.exists_around_strip (· == '/') raw.toList
    refine ⟨front.length, back.length, ?_⟩
    rw [← eq_slashes hfront, ← eq_slashes hback]
    apply String.toList_inj.1
    rw [String.toList_append, String.toList_append, toList_intercalate_slash, hjoin,
      String.toList_ofList, String.toList_ofList]
    exact hraw
  · intro s hs
    obtain ⟨p, hp, rfl⟩ := List.mem_map.1 hs
    simpa using Text.sep_not_mem_pieces hp
  · rw [split, List.head?_map, Option.mem_def.1 hfirst]
    rfl
  · rw [split, List.getLast?_map, Option.mem_def.1 hlast]
    rfl

private theorem spells_iff {segments : List String} {raw : String} :
    Spells segments raw ↔ stripSlashes raw ≠ [] ∧ split (stripSlashes raw) = segments := by
  constructor
  · intro h
    exact ⟨h.stripSlashes_ne_nil, h.split_eq⟩
  · rintro ⟨hne, rfl⟩
    exact spells_split hne

private theorem stripSlashes_eq_nil_iff {raw : String} :
    stripSlashes raw = [] ↔ ∀ c ∈ raw.toList, c = '/' := by
  rw [stripSlashes, Text.strip_eq_nil_iff]
  simp

private theorem segmentFault?_eq_none_iff {s : String} (h : '/' ∉ s.toList) :
    segmentFault? s = none ↔ PlainSegment s := by
  unfold segmentFault? PlainSegment
  by_cases hempty : s = ""
  · simp [hempty]
  · by_cases hrelative : s = "." ∨ s = ".."
    · simp only [if_neg hempty, if_pos hrelative]
      constructor
      · intro hnone
        cases hnone
      · rintro ⟨-, hdot, hdots, -⟩
        exact absurd hrelative (not_or.2 ⟨hdot, hdots⟩)
    · simp only [if_neg hempty, if_neg hrelative, true_iff]
      exact ⟨hempty, (not_or.1 hrelative).1, (not_or.1 hrelative).2, h⟩

private theorem segmentFault?_eq_some_iff {s : String} {e : LocationError} :
    segmentFault? s = some e ↔
      (s = "" ∧ e = .emptySegment) ∨ ((s = "." ∨ s = "..") ∧ e = .relativeSegment s) := by
  unfold segmentFault?
  by_cases hempty : s = ""
  · subst hempty
    simp [@eq_comm _ e]
  · by_cases hrelative : s = "." ∨ s = ".."
    · simp [hempty, hrelative, @eq_comm _ e]
    · simp [hempty, hrelative]

theorem eq_of_segments {l l' : Location} (h : l.segments = l'.segments) : l = l' := by
  cases l
  cases l'
  cases h
  rfl

private theorem parse_of_slashes {raw : String} (h : stripSlashes raw = []) :
    parse raw = .error .empty := by
  simp [parse, h]

private theorem parse_of_fault {raw : String} {e : LocationError} (h : stripSlashes raw ≠ [])
    (hfault : (split (stripSlashes raw)).findSome? segmentFault? = some e) :
    parse raw = .error e := by
  simp only [parse, if_neg h]
  split
  · next fault hfault' =>
    rw [hfault] at hfault'
    cases hfault'
    rfl
  · next hnone =>
    rw [hfault] at hnone
    cases hnone

private theorem exists_parse {raw : String} (h : stripSlashes raw ≠ [])
    (hnone : (split (stripSlashes raw)).findSome? segmentFault? = none) :
    ∃ l, parse raw = .ok l ∧ l.segments = split (stripSlashes raw) := by
  simp only [parse, if_neg h]
  split
  · next fault hfault =>
    rw [hnone] at hfault
    cases hfault
  · exact ⟨_, rfl, rfl⟩

private theorem parse_eq_ok_iff_spells {raw : String} {l : Location} :
    parse raw = .ok l ↔ Spells l.segments raw := by
  rw [spells_iff]
  constructor
  · intro hparse
    have hne : stripSlashes raw ≠ [] := by
      intro hempty
      rw [parse_of_slashes hempty] at hparse
      cases hparse
    refine ⟨hne, ?_⟩
    cases hfind : (split (stripSlashes raw)).findSome? segmentFault? with
    | some fault =>
      rw [parse_of_fault hne hfind] at hparse
      cases hparse
    | none =>
      obtain ⟨l', hparse', hsegments⟩ := exists_parse hne hfind
      rw [hparse] at hparse'
      cases hparse'
      exact hsegments.symm
  · rintro ⟨hne, hsegments⟩
    have hnone : (split (stripSlashes raw)).findSome? segmentFault? = none := by
      rw [List.findSome?_eq_none_iff, hsegments]
      intro s hs
      exact (segmentFault?_eq_none_iff (l.plain s hs).2.2.2).2 (l.plain s hs)
    obtain ⟨l', hparse, hsegments'⟩ := exists_parse hne hnone
    rw [hparse, eq_of_segments (hsegments'.trans hsegments)]

/-- Segments that are all plain are spelled by exactly the texts that show them between slashes. -/
private theorem spells_iff_of_plain {segments : List String} (hne : segments ≠ [])
    (h : ∀ s ∈ segments, PlainSegment s) {raw : String} :
    Spells segments raw ↔ ∃ m n, raw = slashes m ++ "/".intercalate segments ++ slashes n := by
  constructor
  · exact Spells.around
  · intro haround
    obtain ⟨s, rest, hsegments⟩ := List.exists_cons_of_ne_nil hne
    refine ⟨haround, fun s hs => (h s hs).2.2.2, ⟨s, by simp [hsegments], ?_⟩,
      ⟨segments.getLast hne, List.getLast?_eq_some_getLast hne, ?_⟩⟩
    · exact (h s (by simp [hsegments])).1
    · exact (h _ (List.getLast_mem hne)).1

theorem parse_eq_ok_iff {raw : String} {l : Location} :
    parse raw = .ok l ↔ ∃ m n, raw = slashes m ++ l.display ++ slashes n := by
  rw [parse_eq_ok_iff_spells, spells_iff_of_plain l.segments_ne_nil l.plain]
  rfl

private theorem parse_display (l : Location) : parse l.display = .ok l := by
  rw [parse_eq_ok_iff]
  exact ⟨0, 0, by simp [slashes]⟩

theorem display_injective : Function.Injective display := by
  intro l l' h
  have hparse := parse_display l
  rw [h, parse_display l'] at hparse
  exact (Except.ok.inj hparse).symm

private theorem parse_eq_error_iff {raw : String} {e : LocationError} :
    parse raw = .error e ↔
      ((∀ c ∈ raw.toList, c = '/') ∧ e = .empty) ∨
        ∃ front s back, Spells (front ++ s :: back) raw ∧ (∀ t ∈ front, PlainSegment t) ∧
          segmentFault? s = some e := by
  rw [← stripSlashes_eq_nil_iff]
  by_cases hempty : stripSlashes raw = []
  · rw [parse_of_slashes hempty]
    constructor
    · intro he
      exact Or.inl ⟨hempty, (Except.error.inj he).symm⟩
    · rintro (⟨-, rfl⟩ | ⟨front, s, back, hspells, -⟩)
      · rfl
      · exact absurd hempty hspells.stripSlashes_ne_nil
  · have hfree : ∀ t ∈ split (stripSlashes raw), '/' ∉ t.toList := (spells_split hempty).free
    have hfind : parse raw = .error e ↔
        (split (stripSlashes raw)).findSome? segmentFault? = some e := by
      cases hfault : (split (stripSlashes raw)).findSome? segmentFault? with
      | some fault => simp [parse_of_fault hempty hfault]
      | none =>
        obtain ⟨l, hparse, -⟩ := exists_parse hempty hfault
        simp [hparse]
    rw [hfind, List.findSome?_eq_some_iff]
    constructor
    · rintro ⟨front, s, back, hsplit, hs, hfront⟩
      refine Or.inr ⟨front, s, back, spells_iff.2 ⟨hempty, hsplit⟩, ?_, hs⟩
      intro t ht
      exact (segmentFault?_eq_none_iff (hfree t (by simp [hsplit, ht]))).1 (hfront t ht)
    · rintro (⟨hnil, -⟩ | ⟨front, s, back, hspells, hfront, hs⟩)
      · exact absurd hnil hempty
      · refine ⟨front, s, back, hspells.split_eq, hs, ?_⟩
        intro t ht
        exact (segmentFault?_eq_none_iff (hfront t ht).2.2.2).2 (hfront t ht)

/-- Locations are read exactly by their grammar. A text is read as a location when it is some
slashes, plain segments between single slashes, and some slashes; the canonical text of a location
is read as that location and belongs to no other. A text of slashes alone is refused as empty. Every
other text spells one list of segments, and it is refused for the first of them from the left that
is empty or relative. -/
theorem locations_follow_grammar (raw : String) :
    (∀ segments : List String, (∃ l, parse raw = .ok l ∧ l.segments = segments) ↔
      segments ≠ [] ∧ (∀ s ∈ segments, s ≠ "" ∧ '/' ∉ s.toList ∧ s ≠ "." ∧ s ≠ "..") ∧
        ∃ m n, raw = slashes m ++ "/".intercalate segments ++ slashes n) ∧
    (∀ l, parse raw = .ok l ↔ ∃ m n, raw = slashes m ++ l.display ++ slashes n) ∧
    (∀ l, parse raw = .ok l → parse l.display = .ok l ∧
      ∀ raw' l', parse raw' = .ok l' → l.display = l'.display → l = l') ∧
    (parse raw = .error .empty ↔ ∀ c ∈ raw.toList, c = '/') ∧
    ((∃ c ∈ raw.toList, c ≠ '/') → ∃! segments, Spells segments raw) ∧
    (parse raw = .error .emptySegment ↔
      ∃ front back, Spells (front ++ "" :: back) raw ∧ ∀ s ∈ front, PlainSegment s) ∧
    ∀ r, parse raw = .error (.relativeSegment r) ↔
      (r = "." ∨ r = "..") ∧
        ∃ front back, Spells (front ++ r :: back) raw ∧ ∀ s ∈ front, PlainSegment s := by
  refine ⟨?_, fun l => parse_eq_ok_iff, ?_, ?_, ?_, ?_, ?_⟩
  · intro segments
    constructor
    · rintro ⟨l, hparse, rfl⟩
      refine ⟨l.segments_ne_nil, ?_, parse_eq_ok_iff.1 hparse⟩
      intro s hs
      obtain ⟨hfull, hdot, hdots, hslash⟩ := l.plain s hs
      exact ⟨hfull, hslash, hdot, hdots⟩
    · rintro ⟨hne, hplain, haround⟩
      let l : Location := ⟨segments, hne, fun s hs =>
        ⟨(hplain s hs).1, (hplain s hs).2.2.1, (hplain s hs).2.2.2, (hplain s hs).2.1⟩⟩
      exact ⟨l, parse_eq_ok_iff.2 haround, rfl⟩
  · intro l _
    exact ⟨parse_display l, fun raw' l' _ hdisplay => display_injective hdisplay⟩
  · rw [parse_eq_error_iff]
    simp [segmentFault?_eq_some_iff]
  · rintro ⟨c, hc, hne⟩
    have hbody : stripSlashes raw ≠ [] := by
      intro hempty
      exact hne (stripSlashes_eq_nil_iff.1 hempty c hc)
    refine ⟨split (stripSlashes raw), spells_split hbody, ?_⟩
    intro segments hspells
    exact hspells.split_eq.symm
  · rw [parse_eq_error_iff]
    constructor
    · rintro (⟨-, he⟩ | ⟨front, s, back, hspells, hfront, hs⟩)
      · cases he
      · rcases segmentFault?_eq_some_iff.1 hs with ⟨rfl, -⟩ | ⟨-, he⟩
        · exact ⟨front, back, hspells, hfront⟩
        · cases he
    · rintro ⟨front, back, hspells, hfront⟩
      exact Or.inr ⟨front, "", back, hspells, hfront, rfl⟩
  · intro r
    rw [parse_eq_error_iff]
    constructor
    · rintro (⟨-, he⟩ | ⟨front, s, back, hspells, hfront, hs⟩)
      · cases he
      · rcases segmentFault?_eq_some_iff.1 hs with ⟨-, he⟩ | ⟨hrelative, he⟩
        · cases he
        · cases he
          exact ⟨hrelative, front, back, hspells, hfront⟩
    · rintro ⟨hrelative, front, back, hspells, hfront⟩
      have hfault : segmentFault? r = some (.relativeSegment r) :=
        segmentFault?_eq_some_iff.2 (Or.inr ⟨hrelative, rfl⟩)
      exact Or.inr ⟨front, r, back, hspells, hfront, hfault⟩

theorem locations_follow_grammar_slashed :
    (∃ l, parse "//admin/...//" = .ok l ∧ parse l.display = .ok l ∧
      l.segments = ["admin", "..."]) ∧
    parse "///" = .error .empty ∧
    parse "/a//../b" = .error .emptySegment ∧
    parse "a/..//b/" = .error (.relativeSegment "..") := by
  obtain ⟨-, -, hcanonical, -⟩ := locations_follow_grammar "//admin/...//"
  obtain ⟨l, hparse, hsegments⟩ :=
    ((locations_follow_grammar "//admin/...//").1 ["admin", "..."]).2
      ⟨by decide, by decide, 2, 2, by decide⟩
  refine ⟨⟨l, hparse, (hcanonical l hparse).1, hsegments⟩, ?_, ?_, ?_⟩
  · exact (locations_follow_grammar "///").2.2.2.1.2 (by simp)
  · apply (locations_follow_grammar "/a//../b").2.2.2.2.2.1.2
    have hspells : Spells ["a", "", "..", "b"] "/a//../b" :=
      ⟨⟨1, 0, by decide⟩, by decide, ⟨"a", by simp⟩, ⟨"b", by simp⟩⟩
    exact ⟨["a"], ["..", "b"], hspells, by decide⟩
  · apply ((locations_follow_grammar "a/..//b/").2.2.2.2.2.2 "..").2
    have hspells : Spells ["a", "..", "", "b"] "a/..//b/" :=
      ⟨⟨0, 1, by decide⟩, by decide, ⟨"a", by simp⟩, ⟨"b", by simp⟩⟩
    exact ⟨Or.inr rfl, ["a"], ["", "b"], hspells, by decide⟩

end Pressroom.Route.Location
