import Pressroom.Proofs.TagOccurrences

/-!
How often an attribute occurs in the HTML of a tree. A pattern with a quotation mark and without
brackets occurs only inside opening tags, since texts are written without quotation marks; and
inside a tag the marks come in pairs, so that an attribute's text occurs exactly where an element
has an attribute of that value and of a name that ends in the given one.
-/

set_option autoImplicit false
set_option relaxedAutoImplicit false

namespace Pressroom.Text

theorem occurrences_eq_zero {pattern cs : List Char} {c : Char} (hpattern : c ∈ pattern)
    (hcs : c ∉ cs) : occurrences pattern cs = 0 := by
  have hnot : ∀ suffix : List Char, c ∉ suffix → pattern.isPrefixOf suffix = false := by
    intro suffix hsuffix
    rw [← Bool.not_eq_true, List.isPrefixOf_iff_prefix]
    intro hstart
    exact hsuffix (hstart.subset hpattern)
  induction cs with
  | nil => simp [occurrences, hnot]
  | cons d cs ih =>
    have hrest : c ∉ cs := fun hc => hcs (List.mem_cons_of_mem d hc)
    simp [occurrences, hnot _ hcs, ih hrest]

private theorem prefix_append_sep_iff {sep : Char} {pattern : List Char} (h : sep ∉ pattern)
    (front back : List Char) : pattern <+: front ++ sep :: back ↔ pattern <+: front := by
  constructor
  · intro hstart
    rcases List.prefix_or_prefix_of_prefix hstart (List.prefix_append front (sep :: back)) with
      hshort | ⟨rest, rfl⟩
    · exact hshort
    · have htail : rest <+: sep :: back := (List.prefix_append_right_inj front).1 hstart
      cases rest with
      | nil => simp
      | cons c rest =>
        have hc : c = sep := (List.cons_prefix_cons.1 htail).1
        simp [hc] at h
  · intro hstart
    exact hstart.trans (List.prefix_append front _)

private theorem occurrences_append_sep {sep : Char} {pattern : List Char} (hne : pattern ≠ [])
    (h : sep ∉ pattern) (front back : List Char) :
    occurrences pattern (front ++ sep :: back) =
      occurrences pattern front + occurrences pattern back := by
  induction front with
  | nil =>
    obtain ⟨first, pattern, rfl⟩ := List.exists_cons_of_ne_nil hne
    have hfirst : first ≠ sep := fun heq => h (heq ▸ List.mem_cons_self)
    rw [List.nil_append, occurrences_cons_of_ne hfirst]
    simp [occurrences]
  | cons c front ih =>
    have hhere : pattern.isPrefixOf (c :: front ++ sep :: back) =
        pattern.isPrefixOf (c :: front) := by
      rw [Bool.eq_iff_iff, List.isPrefixOf_iff_prefix, List.isPrefixOf_iff_prefix,
        prefix_append_sep_iff h]
    rw [List.cons_append] at hhere ⊢
    rw [occurrences, occurrences, ih, hhere]
    omega

private theorem prefix_append_mark_iff {mark : Char} {p front : List Char} (hp : mark ∉ p)
    (hfront : mark ∉ front) (q rest : List Char) :
    p ++ mark :: q <+: front ++ mark :: rest ↔ p = front ∧ q <+: rest := by
  constructor
  · rintro ⟨tail, htail⟩
    have hcut : p ++ mark :: (q ++ tail) = front ++ mark :: rest := by simpa using htail
    have hbefore := before_append_cons hp (q ++ tail)
    rw [hcut, before_append_cons hfront] at hbefore
    subst hbefore
    have hrest : q ++ tail = rest := by simpa using hcut
    exact ⟨rfl, tail, hrest⟩
  · rintro ⟨rfl, tail, rfl⟩
    exact ⟨tail, by simp⟩

/-- A pattern whose first `mark` meets the first one of a text must have the text before it end in
what the pattern has before it. -/
private theorem occurrences_append_mark {mark : Char} {p front : List Char} (hp : mark ∉ p)
    (hfront : mark ∉ front) (q rest : List Char) :
    occurrences (p ++ mark :: q) (front ++ mark :: rest) =
      (if p <:+ front ∧ q <+: rest then 1 else 0) + occurrences (p ++ mark :: q) rest := by
  induction front with
  | nil =>
    have hhere : (p ++ mark :: q).isPrefixOf ([] ++ mark :: rest) =
        decide (p <:+ [] ∧ q <+: rest) := by
      rw [Bool.eq_iff_iff, List.isPrefixOf_iff_prefix, decide_eq_true_iff,
        prefix_append_mark_iff hp hfront, List.suffix_nil]
    rw [List.nil_append] at hhere ⊢
    rw [occurrences, hhere]
    simp
  | cons c front ih =>
    have hrest : mark ∉ front := fun hmem => hfront (List.mem_cons_of_mem c hmem)
    have hhere : (p ++ mark :: q).isPrefixOf (c :: front ++ mark :: rest) =
        decide (p = c :: front ∧ q <+: rest) := by
      rw [Bool.eq_iff_iff, List.isPrefixOf_iff_prefix, decide_eq_true_iff,
        prefix_append_mark_iff hp hfront]
    rw [List.cons_append] at hhere ⊢
    rw [occurrences, hhere, ih hrest]
    simp only [decide_eq_true_eq, List.suffix_cons_iff]
    by_cases hwhole : p = c :: front
    · have hshort : ¬ p <:+ front := by
        intro hsuffix
        have hlength := hsuffix.length_le
        rw [hwhole, List.length_cons] at hlength
        omega
      simp only [hshort, or_false, false_and, if_false, Nat.zero_add]
    · simp only [hwhole, false_or, false_and, if_false, Nat.zero_add]

end Pressroom.Text

namespace Pressroom.Markup

open Pressroom.Text (occurrences occurrences_append_sep occurrences_append_mark
  occurrences_eq_zero)

/-- No quotation mark stands before the next tag. -/
def Outside (cs : List Char) : Prop :=
  '"' ∉ Text.before (· == '<') cs

private theorem outside_cons_less (cs : List Char) : Outside ('<' :: cs) := by
  simp [Outside, Text.before]

private theorem Outside.escape_append {cs : List Char} (h : Outside cs) (s : String) :
    Outside (escape s ++ cs) := by
  have hkept : ∀ c ∈ escape s, (!(c == '<')) = true := by
    intro c hc
    have hne : c ≠ '<' := fun heq => not_mem_escape rfl s (heq ▸ hc)
    simpa using hne
  have hquote : '"' ∉ escape s := not_mem_escape rfl s
  unfold Outside Text.before at h ⊢
  rw [List.takeWhile_append_of_pos hkept, List.mem_append, not_or]
  exact ⟨hquote, h⟩

mutual

private theorem Node.outside_html (n : Node) {cs : List Char} (h : Outside cs) :
    Outside (n.html ++ cs) := by
  cases n with
  | text s => exact h.escape_append s
  | fragment nodes => exact outside_htmlAll nodes h
  | element tag attrs children =>
    rw [Node.html, openTag_eq_bracketed, bracketed]
    exact outside_cons_less _

private theorem outside_htmlAll (nodes : List Node) {cs : List Char} (h : Outside cs) :
    Outside (htmlAll nodes ++ cs) := by
  cases nodes with
  | nil => exact h
  | cons n nodes =>
    rw [htmlAll, List.append_assoc]
    exact n.outside_html (outside_htmlAll nodes h)

end

/-- A pattern that has no place outside of a tag. -/
structure Inner (pattern : List Char) : Prop where
  quote : '"' ∈ pattern
  less : '<' ∉ pattern
  greater : '>' ∉ pattern

private theorem Inner.ne_nil {pattern : List Char} (h : Inner pattern) : pattern ≠ [] :=
  List.ne_nil_of_mem h.quote

private theorem occurrences_escape_append {pattern : List Char} (hp : Inner pattern)
    {cs : List Char} (h : Outside cs) (s : String) :
    occurrences pattern (escape s ++ cs) = occurrences pattern cs := by
  have hcut : ∀ front, '"' ∉ front → ∀ back, occurrences pattern (front ++ '<' :: back) =
      occurrences pattern back := by
    intro front hfront back
    rw [occurrences_append_sep hp.ne_nil hp.less, occurrences_eq_zero hp.quote hfront,
      Nat.zero_add]
  have hescape : '"' ∉ escape s := not_mem_escape rfl s
  by_cases htag : '<' ∈ cs
  · obtain ⟨front, back, rfl, hfront⟩ := List.eq_append_cons_of_mem htag
    have hplain : '"' ∉ front := by
      rw [Outside, Text.before_append_cons hfront] at h
      exact h
    have hboth : '"' ∉ escape s ++ front := by
      rw [List.mem_append, not_or]
      exact ⟨hescape, hplain⟩
    rw [← List.append_assoc, hcut _ hboth, hcut _ hplain]
  · rw [Outside, Text.before_eq_self htag] at h
    have hboth : '"' ∉ escape s ++ cs := by
      rw [List.mem_append, not_or]
      exact ⟨hescape, h⟩
    rw [occurrences_eq_zero hp.quote hboth, occurrences_eq_zero hp.quote h]

theorem Inner.occurrences_bracketed {pattern : List Char} (hp : Inner pattern)
    (body cs : List Char) :
    occurrences pattern (bracketed body ++ cs) =
      occurrences pattern body + occurrences pattern cs := by
  have hsplit : bracketed body ++ cs = [] ++ '<' :: (body ++ '>' :: cs) := by simp [bracketed]
  rw [hsplit, occurrences_append_sep hp.ne_nil hp.less,
    occurrences_append_sep hp.ne_nil hp.greater, occurrences_eq_zero hp.quote List.not_mem_nil,
    Nat.zero_add]

mutual

private theorem Node.occurrences_inner {pattern : List Char} (hp : Inner pattern) {n : Node}
    (h : n.WellNamed) {cs : List Char} (hcs : Outside cs) :
    occurrences pattern (n.html ++ cs) =
      n.total (fun tag attrs => occurrences pattern (openBody tag attrs)) +
        occurrences pattern cs := by
  cases n with
  | text s => rw [Node.html, Node.total, Nat.zero_add, occurrences_escape_append hp hcs]
  | fragment nodes => exact occurrences_innerAll hp h hcs
  | element tag attrs children =>
    obtain ⟨htag, -, hchildren⟩ := h
    rw [Node.html, Node.total, openTag_eq_bracketed, List.append_assoc, hp.occurrences_bracketed]
    cases hvoid : isVoid tag with
    | true => simp
    | false =>
      have hname : '"' ∉ '/' :: tag.toList := by
        simp [not_mem_of_isName htag (c := '"') rfl]
      have hclose : occurrences pattern (closeTag tag ++ cs) = occurrences pattern cs := by
        rw [closeTag_eq_bracketed, hp.occurrences_bracketed, occurrences_eq_zero hp.quote hname,
          Nat.zero_add]
      have houtside : Outside (closeTag tag ++ cs) := by
        rw [closeTag_eq_bracketed, bracketed]
        exact outside_cons_less _
      have hinner := occurrences_innerAll hp hchildren houtside
      simp only [Bool.false_eq_true, if_false, List.append_assoc, hinner, hclose]
      omega

private theorem occurrences_innerAll {pattern : List Char} (hp : Inner pattern) {nodes : List Node}
    (h : WellNamedAll nodes) {cs : List Char} (hcs : Outside cs) :
    occurrences pattern (htmlAll nodes ++ cs) =
      totalAll (fun tag attrs => occurrences pattern (openBody tag attrs)) nodes +
        occurrences pattern cs := by
  cases nodes with
  | nil => simp [htmlAll]
  | cons n nodes =>
    obtain ⟨hn, hnodes⟩ := h
    rw [htmlAll, List.append_assoc, Node.occurrences_inner hp hn (outside_htmlAll nodes hcs),
      occurrences_innerAll hp hnodes hcs, totalAll]
    omega

end

/-- An attribute as a pattern: without the blank that comes before it. -/
def attrText (name value : String) : List Char :=
  name.toList ++ ['='] ++ '"' :: (value.toList ++ ['"'])

theorem inner_attrText {name value : String} (hname : IsName name) (hvalue : IsName value) :
    Inner (attrText name value) := by
  refine ⟨by simp [attrText], ?_, ?_⟩
  · simp [attrText, not_mem_of_isName hname (c := '<') rfl,
      not_mem_of_isName hvalue (c := '<') rfl]
  · simp [attrText, not_mem_of_isName hname (c := '>') rfl,
      not_mem_of_isName hvalue (c := '>') rfl]

private theorem escape_injective {s t : String} (h : escape s = escape t) : s = t := by
  have hs := unescape_escape s []
  rw [h, unescape_escape t []] at hs
  exact String.toList_inj.1 (List.append_cancel_right hs).symm

private theorem escape_of_isName {s : String} (h : IsName s) : escape s = s.toList := by
  have hchar : ∀ c, isNameChar c = true → escapeChar c = [c] := by
    intro c hc
    unfold escapeChar
    split
    · cases hc
    · cases hc
    · cases hc
    · cases hc
    · cases hc
    · rfl
  have hall := List.all_eq_true.1 h.2
  unfold escape
  generalize s.toList = cs at hall ⊢
  induction cs with
  | nil => rfl
  | cons c cs ih =>
    have hrest := ih fun d hd => hall d (List.mem_cons_of_mem c hd)
    rw [List.flatMap_cons, hrest, hchar c (hall c List.mem_cons_self), List.singleton_append]

/-- Whether the text of an attribute ends in that of another, which has a plain value. -/
def endsIn (name value : String) (attr : String × String) : Bool :=
  name.toList.isSuffixOf attr.1.toList && attr.2 == value

private theorem suffix_before_equals_iff {name : String} (hname : IsName name) (a : List Char) :
    name.toList ++ ['='] <:+ ' ' :: a ++ ['='] ↔ name.toList <:+ a := by
  have hblank : name.toList ≠ ' ' :: a := by
    intro heq
    exact not_mem_of_isName hname (c := ' ') rfl (heq ▸ List.mem_cons_self)
  rw [List.suffix_append_inj_of_length_eq rfl, List.suffix_cons_iff]
  simp [hblank]

private theorem value_prefix_iff {value : String} (hvalue : IsName value) (v : String)
    (rest : List Char) :
    value.toList ++ ['"'] <+: escape v ++ '"' :: rest ↔ v = value := by
  have hplain : '"' ∉ value.toList := not_mem_of_isName hvalue rfl
  have hescape : '"' ∉ escape v := not_mem_escape rfl v
  rw [Text.prefix_append_mark_iff hplain hescape, ← escape_of_isName hvalue]
  constructor
  · rintro ⟨heq, -⟩
    exact (escape_injective heq).symm
  · rintro rfl
    exact ⟨rfl, List.nil_prefix⟩

private theorem occurrences_attrHtml {name value : String} (hname : IsName name)
    (hvalue : IsName value)
    {attr : String × String} (hattr : IsName attr.1) {rest : List Char}
    (hrest : ∀ c ∈ rest.head?, isNameChar c = false) :
    occurrences (attrText name value) (attrHtml attr ++ rest) =
      (if endsIn name value attr then 1 else 0) + occurrences (attrText name value) rest := by
  have hcut : attrHtml attr ++ rest = (' ' :: attr.1.toList ++ ['=']) ++
      '"' :: (escape attr.2 ++ '"' :: rest) := by
    simp [attrHtml]
  have hpattern : '"' ∉ name.toList ++ ['='] := by
    simp [not_mem_of_isName hname (c := '"') rfl]
  have hfront : '"' ∉ ' ' :: attr.1.toList ++ ['='] := by
    simp [not_mem_of_isName hattr (c := '"') rfl]
  have hescape : '"' ∉ escape attr.2 := not_mem_escape rfl attr.2
  -- the mark that ends a value is followed by a blank or by nothing, and no value begins so
  have hclosing : ¬ (value.toList ++ ['"'] <+: rest) := by
    obtain ⟨c, cs, hc⟩ := List.exists_cons_of_ne_nil (l := value.toList) (by simpa using hvalue.1)
    have hchar : isNameChar c = true := List.all_eq_true.1 hvalue.2 c (by simp [hc])
    rintro ⟨tail, htail⟩
    rw [hc] at htail
    have hnot := hrest c (by simp [← htail])
    rw [hchar] at hnot
    cases hnot
  have hends : (name.toList ++ ['='] <:+ ' ' :: attr.1.toList ++ ['='] ∧
      value.toList ++ ['"'] <+: escape attr.2 ++ '"' :: rest) ↔ endsIn name value attr = true := by
    rw [suffix_before_equals_iff hname, value_prefix_iff hvalue, endsIn, Bool.and_eq_true,
      List.isSuffixOf_iff_suffix, beq_iff_eq]
  rw [attrText, hcut, occurrences_append_mark hpattern hfront,
    occurrences_append_mark hpattern hescape]
  simp only [hends, hclosing, and_false, if_false, Nat.zero_add]

/-- The number of attributes of an element whose text ends in the given one. -/
def shows (name value : String) (_ : String) (attrs : List (String × String)) : Nat :=
  attrs.countP (endsIn name value)

private theorem occurrences_openBody {name value : String} (hname : IsName name)
    (hvalue : IsName value)
    {tag : String} {attrs : List (String × String)} (htag : IsName tag)
    (hattrs : ∀ attr ∈ attrs, IsName attr.1) :
    occurrences (attrText name value) (openBody tag attrs) = shows name value tag attrs := by
  have hp := inner_attrText hname hvalue
  have hblank : ' ' ∉ attrText name value := by
    simp [attrText, not_mem_of_isName hname (c := ' ') rfl,
      not_mem_of_isName hvalue (c := ' ') rfl]
  have hquote : '"' ∉ tag.toList := not_mem_of_isName htag rfl
  have hall : occurrences (attrText name value) (attrs.flatMap attrHtml) =
      shows name value tag attrs := by
    induction attrs with
    | nil => exact occurrences_eq_zero hp.quote List.not_mem_nil
    | cons attr attrs ih =>
      have hrest : ∀ c ∈ (attrs.flatMap attrHtml).head?, isNameChar c = false := by
        intro c hc
        cases attrs with
        | nil => cases hc
        | cons next attrs =>
          have hfirst : c = ' ' := by simpa [attrHtml, eq_comm] using hc
          rw [hfirst]
          rfl
      have hlater := ih fun a ha => hattrs a (List.mem_cons_of_mem attr ha)
      rw [List.flatMap_cons,
        occurrences_attrHtml hname hvalue (hattrs attr List.mem_cons_self) hrest, hlater, shows,
        shows, List.countP_cons]
      omega
  cases attrs with
  | nil =>
    rw [openBody, List.flatMap_nil, List.append_nil, occurrences_eq_zero hp.quote hquote]
    rfl
  | cons attr attrs =>
    have hsplit : (attr :: attrs).flatMap attrHtml = ' ' :: (attr.1.toList ++ ['=', '"'] ++
        escape attr.2 ++ ['"'] ++ attrs.flatMap attrHtml) := by
      simp [attrHtml]
    rw [← hall, openBody, hsplit, occurrences_append_sep hp.ne_nil hblank,
      occurrences_eq_zero hp.quote hquote, ← List.nil_append (' ' :: _),
      occurrences_append_sep hp.ne_nil hblank, occurrences_eq_zero hp.quote List.not_mem_nil]

theorem Node.occurrences_attrText {name value : String} (hname : IsName name)
    (hvalue : IsName value) {n : Node} (h : n.WellNamed) {cs : List Char} (hcs : Outside cs) :
    occurrences (attrText name value) (n.html ++ cs) =
      n.total (shows name value) + occurrences (attrText name value) cs := by
  have hweight : ∀ tag attrs, IsName tag → (∀ attr ∈ attrs, IsName attr.1) →
      occurrences (attrText name value) (openBody tag attrs) = shows name value tag attrs :=
    fun tag attrs htag hattrs => occurrences_openBody hname hvalue htag hattrs
  rw [Node.occurrences_inner (inner_attrText hname hvalue) h hcs, Node.total_congr hweight h]

end Pressroom.Markup
