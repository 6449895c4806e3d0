import Pressroom.Proofs.MarkupReading

/-!
How often a tag occurs in the HTML of a tree. No text and no value leaves a bracket, so a tag occurs
exactly where an element of the tree writes it: an occurrence in the text is an element of the tree.
-/

set_option autoImplicit false
set_option relaxedAutoImplicit false

namespace Pressroom.Text

/-- The number of places of a text at which a pattern begins. -/
def occurrences (pattern : List Char) : List Char → Nat
  | [] => if pattern.isPrefixOf [] then 1 else 0
  | c :: rest => (if pattern.isPrefixOf (c :: rest) then 1 else 0) + occurrences pattern rest

theorem occurrences_cons_of_ne {first c : Char} (h : first ≠ c) (pattern rest : List Char) :
    occurrences (first :: pattern) (c :: rest) = occurrences (first :: pattern) rest := by
  have hhere : (first :: pattern).isPrefixOf (c :: rest) = false := by
    simp [List.isPrefixOf, h]
  rw [occurrences, hhere]
  simp

private theorem occurrences_append_of_not_mem {first : Char} {front : List Char} (h : first ∉ front)
    (pattern rest : List Char) :
    occurrences (first :: pattern) (front ++ rest) = occurrences (first :: pattern) rest := by
  induction front with
  | nil => rfl
  | cons c front ih =>
    obtain ⟨hc, hfront⟩ := not_or.1 (List.mem_cons.not.1 h)
    rw [List.cons_append, occurrences_cons_of_ne hc, ih hfront]

end Pressroom.Text

namespace Pressroom.Markup

open Pressroom.Text (occurrences occurrences_append_of_not_mem)

def bracketed (body : List Char) : List Char :=
  '<' :: body ++ ['>']

theorem openTag_eq_bracketed (tag : String) (attrs : List (String × String)) :
    openTag tag attrs = bracketed (openBody tag attrs) := by
  simp [openTag, bracketed, openBody]

theorem closeTag_eq_bracketed (tag : String) : closeTag tag = bracketed ('/' :: tag.toList) := by
  simp [closeTag, bracketed]

private theorem eq_of_bracketed_prefix {body body' rest : List Char} (hbody : '>' ∉ body)
    (hbody' : '>' ∉ body') (h : bracketed body <+: bracketed body' ++ rest) : body' = body := by
  obtain ⟨tail, htail⟩ := h
  have hcut : body ++ '>' :: tail = body' ++ '>' :: rest := by
    simpa [bracketed] using htail
  have hbefore := Text.before_append_cons hbody tail
  rw [hcut, Text.before_append_cons hbody'] at hbefore
  exact hbefore

theorem occurrences_bracketed {body body' : List Char} (hbody : '>' ∉ body) (hless : '<' ∉ body')
    (hgreater : '>' ∉ body') (rest : List Char) :
    occurrences (bracketed body) (bracketed body' ++ rest) =
      (if body' = body then 1 else 0) + occurrences (bracketed body) rest := by
  have hhere : (bracketed body).isPrefixOf (bracketed body' ++ rest) = decide (body' = body) := by
    rw [Bool.eq_iff_iff, List.isPrefixOf_iff_prefix, decide_eq_true_iff]
    constructor
    · exact eq_of_bracketed_prefix hbody hgreater
    · rintro rfl
      exact List.prefix_append _ rest
  have hsplit : bracketed body' ++ rest = '<' :: ((body' ++ ['>']) ++ rest) := by
    simp [bracketed]
  have hinside : '<' ∉ body' ++ ['>'] := by simp [hless]
  have hafter : occurrences (bracketed body) ((body' ++ ['>']) ++ rest) =
      occurrences (bracketed body) rest :=
    occurrences_append_of_not_mem hinside (body ++ ['>']) rest
  rw [hsplit] at hhere ⊢
  rw [occurrences, hhere, hafter]
  simp

private theorem openBody_injective {tag tag' : String} {attrs attrs' : List (String × String)}
    (htag : IsName tag) (hattrs : ∀ attr ∈ attrs, IsName attr.1) (htag' : IsName tag')
    (hattrs' : ∀ attr ∈ attrs', IsName attr.1) (h : openBody tag attrs = openBody tag' attrs') :
    tag = tag' ∧ attrs = attrs' := by
  obtain ⟨hname, hrest⟩ := cut_openBody htag attrs
  obtain ⟨hname', hrest'⟩ := cut_openBody htag' attrs'
  rw [h, hname'] at hname
  rw [h, hrest'] at hrest
  have hread := readAttrs_attrHtml hattrs
  rw [← hrest, readAttrs_attrHtml hattrs'] at hread
  exact ⟨String.toList_inj.1 hname.symm, hread.symm⟩

private theorem openBody_ne_closing {tag : String} (htag : IsName tag)
    (attrs : List (String × String))
    (name : List Char) : openBody tag attrs ≠ '/' :: name := by
  intro h
  have hne : tag.toList ≠ [] := by simpa using htag.1
  obtain ⟨c, rest, hc⟩ := List.exists_cons_of_ne_nil hne
  rw [openBody, hc] at h
  have hslash : '/' ∈ tag.toList := by
    rw [hc, ← (List.cons.inj h).1]
    exact List.mem_cons_self
  exact not_mem_of_isName htag rfl hslash

mutual

/-- The sum of a weight over the elements that a node writes. -/
def Node.total (weight : String → List (String × String) → Nat) : Node → Nat
  | .text _ => 0
  | .fragment nodes => totalAll weight nodes
  | .element tag attrs children =>
    weight tag attrs + if isVoid tag then 0 else totalAll weight children

/-- The sum of a weight over the elements that nodes in a row write. -/
def totalAll (weight : String → List (String × String) → Nat) : List Node → Nat
  | [] => 0
  | n :: nodes => n.total weight + totalAll weight nodes

end

attribute [simp] Node.total totalAll

@[simp] theorem total_el (weight : String → List (String × String) → Nat) (tag : String)
    (attrs : List (String × String)) (children : List Node) :
    (el tag attrs children).total weight =
      weight tag attrs + if isVoid tag then 0 else totalAll weight children :=
  rfl

@[simp] theorem total_when (weight : String → List (String × String) → Nat) (p : Bool) (n : Node) :
    (Node.when p n).total weight = if p then n.total weight else 0 := by
  cases p with
  | false => rfl
  | true => rfl

theorem totalAll_map {α : Type} {weight : String → List (String × String) → Nat} {f : α → Node}
    {k : Nat} (h : ∀ x, (f x).total weight = k) (xs : List α) :
    totalAll weight (xs.map f) = xs.length * k := by
  induction xs with
  | nil => simp
  | cons x xs ih => simp [h, ih, Nat.succ_mul, Nat.add_comm]

/-- How often an element writes a tag: once if its opening tag is that one, and once if its closing
tag is. -/
def tagWeight (body : List Char) (tag : String) (attrs : List (String × String)) : Nat :=
  (if openBody tag attrs = body then 1 else 0) +
    if isVoid tag = false ∧ '/' :: tag.toList = body then 1 else 0

mutual

/-- In front of other HTML a tree adds the occurrences that its elements write. -/
private theorem Node.occurrences_html {body : List Char} (hbody : '>' ∉ body) {n : Node}
    (h : n.WellNamed)
    (cs : List Char) :
    occurrences (bracketed body) (n.html ++ cs) =
      n.total (tagWeight body) + occurrences (bracketed body) cs := by
  cases n with
  | text s =>
    rw [Node.html, Node.total, Nat.zero_add]
    exact occurrences_append_of_not_mem (not_mem_escape rfl s) (body ++ ['>']) cs
  | fragment nodes => exact occurrences_htmlAll hbody h cs
  | element tag attrs children =>
    obtain ⟨htag, hattrs, hchildren⟩ := h
    have hless := not_mem_openBody htag hattrs (Or.inl rfl)
    have hgreater := not_mem_openBody htag hattrs (Or.inr rfl)
    rw [Node.html, Node.total, openTag_eq_bracketed, List.append_assoc,
      occurrences_bracketed hbody hless hgreater, tagWeight]
    cases hvoid : isVoid tag with
    | true => simp
    | false =>
      have hslash : '<' ∉ '/' :: tag.toList := by
        simp [not_mem_of_isName htag (c := '<') rfl]
      have hslash' : '>' ∉ '/' :: tag.toList := by
        simp [not_mem_of_isName htag (c := '>') rfl]
      have hclose : occurrences (bracketed body) (closeTag tag ++ cs) =
          (if '/' :: tag.toList = body then 1 else 0) + occurrences (bracketed body) cs := by
        rw [closeTag_eq_bracketed, occurrences_bracketed hbody hslash hslash']
      have hinner := occurrences_htmlAll hbody hchildren (closeTag tag ++ cs)
      simp only [Bool.false_eq_true, if_false, List.append_assoc, true_and, hinner, hclose]
      omega

private theorem occurrences_htmlAll {body : List Char} (hbody : '>' ∉ body) {nodes : List Node}
    (h : WellNamedAll nodes) (cs : List Char) :
    occurrences (bracketed body) (htmlAll nodes ++ cs) =
      totalAll (tagWeight body) nodes + occurrences (bracketed body) cs := by
  cases nodes with
  | nil => simp [htmlAll]
  | cons n nodes =>
    obtain ⟨hn, hnodes⟩ := h
    rw [htmlAll, List.append_assoc, Node.occurrences_html hbody hn,
      occurrences_htmlAll hbody hnodes, totalAll]
    omega

end

/-- One for each element with the given name and attributes. -/
def opens (name : String) (attrs : List (String × String)) (tag : String)
    (attrs' : List (String × String)) : Nat :=
  if tag = name ∧ attrs' = attrs then 1 else 0

/-- One for each element with the given name. -/
def closes (name : String) (tag : String) (_ : List (String × String)) : Nat :=
  if tag = name then 1 else 0

mutual

theorem Node.total_congr {w w' : String → List (String × String) → Nat}
    (hw : ∀ tag attrs, IsName tag → (∀ attr ∈ attrs, IsName attr.1) → w tag attrs = w' tag attrs)
    {n : Node} (h : n.WellNamed) : n.total w = n.total w' := by
  cases n with
  | text s => rfl
  | fragment nodes => exact totalAll_congr hw h
  | element tag attrs children =>
    obtain ⟨htag, hattrs, hchildren⟩ := h
    rw [Node.total, Node.total, hw tag attrs htag hattrs, totalAll_congr hw hchildren]

private theorem totalAll_congr {w w' : String → List (String × String) → Nat}
    (hw : ∀ tag attrs, IsName tag → (∀ attr ∈ attrs, IsName attr.1) → w tag attrs = w' tag attrs)
    {nodes : List Node} (h : WellNamedAll nodes) : totalAll w nodes = totalAll w' nodes := by
  cases nodes with
  | nil => rfl
  | cons n nodes =>
    obtain ⟨hn, hnodes⟩ := h
    rw [totalAll, totalAll, Node.total_congr hw hn, totalAll_congr hw hnodes]

end

theorem Node.occurrences_openTag {name : String} {attrs : List (String × String)}
    (hname : IsName name) (hattrs : ∀ attr ∈ attrs, IsName attr.1) {n : Node} (h : n.WellNamed)
    (cs : List Char) :
    occurrences (openTag name attrs) (n.html ++ cs) =
      n.total (opens name attrs) + occurrences (openTag name attrs) cs := by
  have hbody := not_mem_openBody hname hattrs (Or.inr rfl)
  have hweight : ∀ tag attrs', IsName tag → (∀ attr ∈ attrs', IsName attr.1) →
      tagWeight (openBody name attrs) tag attrs' = opens name attrs tag attrs' := by
    intro tag attrs' htag hattrs'
    have hclosing : ('/' :: tag.toList) ≠ openBody name attrs :=
      (openBody_ne_closing hname attrs tag.toList).symm
    have hopening : openBody tag attrs' = openBody name attrs ↔ tag = name ∧ attrs' = attrs := by
      constructor
      · exact openBody_injective htag hattrs' hname hattrs
      · rintro ⟨rfl, rfl⟩
        rfl
    simp only [tagWeight, opens, hclosing, hopening, and_false, if_false, Nat.add_zero]
  rw [openTag_eq_bracketed, Node.occurrences_html hbody h, Node.total_congr hweight h]

theorem Node.occurrences_closeTag {name : String} (hname : IsName name)
    (hvoid : isVoid name = false) {n : Node} (h : n.WellNamed) (cs : List Char) :
    occurrences (closeTag name) (n.html ++ cs) =
      n.total (closes name) + occurrences (closeTag name) cs := by
  have hbody : '>' ∉ '/' :: name.toList := by
    simp [not_mem_of_isName hname (c := '>') rfl]
  have hweight : ∀ tag attrs, IsName tag → (∀ attr ∈ attrs, IsName attr.1) →
      tagWeight ('/' :: name.toList) tag attrs = closes name tag attrs := by
    intro tag attrs htag _
    have hopening := openBody_ne_closing htag attrs name.toList
    have hclosing : (isVoid tag = false ∧ '/' :: tag.toList = '/' :: name.toList) ↔ tag = name := by
      constructor
      · rintro ⟨-, heq⟩
        exact String.toList_inj.1 (List.cons.inj heq).2
      · rintro rfl
        exact ⟨hvoid, rfl⟩
    simp only [tagWeight, closes, hopening, hclosing, if_false, Nat.zero_add]
  rw [closeTag_eq_bracketed, Node.occurrences_html hbody h, Node.total_congr hweight h]

end Pressroom.Markup
