import Pressroom.Markup.Basic

/-!
Normal forms of markup. Trees that differ only in fragments, in how a text is cut, in empty texts or
in the children of void elements are written alike; the normal form keeps none of these. It is
written like the tree, and a row that is normal already is its own normal form.
-/

set_option autoImplicit false
set_option relaxedAutoImplicit false

namespace Pressroom.Markup

def isNameChar (c : Char) : Bool :=
  ('a' ≤ c && c ≤ 'z') || ('0' ≤ c && c ≤ '9') || c == '-'

/-- A name of an element or of an attribute: not empty, and made of small letters, digits and
hyphens. -/
def IsName (s : String) : Prop :=
  s ≠ "" ∧ s.toList.all isNameChar = true

instance (s : String) : Decidable (IsName s) :=
  inferInstanceAs (Decidable (_ ∧ _))

mutual

/-- Whether every element and every attribute of a tree has a proper name. -/
def Node.WellNamed : Node → Prop
  | .text _ => True
  | .fragment nodes => WellNamedAll nodes
  | .element tag attrs children =>
    IsName tag ∧ (∀ attr ∈ attrs, IsName attr.1) ∧ WellNamedAll children

def WellNamedAll : List Node → Prop
  | [] => True
  | n :: rest => n.WellNamed ∧ WellNamedAll rest

end

attribute [simp] Node.WellNamed WellNamedAll

@[simp] theorem wellNamed_el {tag : String} {attrs : List (String × String)}
    {children : List Node} :
    (el tag attrs children).WellNamed ↔
      IsName tag ∧ (∀ attr ∈ attrs, IsName attr.1) ∧ WellNamedAll children :=
  Iff.rfl

@[simp] theorem wellNamed_when {p : Bool} {n : Node} :
    (Node.when p n).WellNamed ↔ (p = true → n.WellNamed) := by
  cases p <;> simp [Node.when, Node.empty]

@[simp] theorem wellNamedAll_map {α : Type} {f : α → Node} {xs : List α} :
    WellNamedAll (xs.map f) ↔ ∀ x ∈ xs, (f x).WellNamed := by
  induction xs with
  | nil => simp
  | cons x xs ih => simp [ih]

/-- Put a text in front of a row. An empty text adds nothing, and a text joins one that follows. -/
def addText (s : String) (row : List Node) : List Node :=
  if s = "" then row
  else
    match row with
    | .text t :: rest => .text (s ++ t) :: rest
    | row => .text s :: row

mutual

def Node.normalOnto : Node → List Node → List Node
  | .text s, row => addText s row
  | .fragment nodes, row => normalAllOnto nodes row
  | .element tag attrs children, row =>
    .element tag attrs (if isVoid tag then [] else normalAllOnto children []) :: row

/-- Put the normal form of nodes in a row in front of another row. -/
def normalAllOnto : List Node → List Node → List Node
  | [], row => row
  | n :: nodes, row => n.normalOnto (normalAllOnto nodes row)

end

/-- The normal form of a node: a row without fragments and empty texts, in which no text follows a
text and no void element has children. -/
def Node.normalize (n : Node) : List Node :=
  n.normalOnto []

def startsWithText : List Node → Bool
  | .text _ :: _ => true
  | _ => false

mutual

def Node.Normal : Node → Prop
  | .text s => s ≠ ""
  | .fragment _ => False
  | .element tag _ children => (isVoid tag = true → children = []) ∧ NormalAll children

def NormalAll : List Node → Prop
  | [] => True
  | n :: row => n.Normal ∧ (startsWithText [n] = true → startsWithText row = false) ∧ NormalAll row

end

@[simp] theorem addText_empty (row : List Node) : addText "" row = row := by
  unfold addText
  rw [if_pos rfl]

private theorem addText_cons_text {s : String} (hs : s ≠ "") (t : String) (row : List Node) :
    addText s (.text t :: row) = .text (s ++ t) :: row := by
  unfold addText
  rw [if_neg hs]

private theorem addText_of_not_text {s : String} (hs : s ≠ "") {row : List Node}
    (hrow : startsWithText row = false) : addText s row = .text s :: row := by
  unfold addText
  rw [if_neg hs]
  cases row with
  | nil => rfl
  | cons n row =>
    cases n with
    | text t => cases hrow
    | fragment nodes => rfl
    | element tag attrs children => rfl

private theorem exists_text_of_startsWithText {row : List Node} (h : startsWithText row = true) :
    ∃ t rest, row = .text t :: rest := by
  cases row with
  | nil => cases h
  | cons n row =>
    cases n with
    | text t => exact ⟨t, row, rfl⟩
    | fragment nodes => cases h
    | element tag attrs children => cases h

@[simp] theorem addText_addText (s t : String) (row : List Node) :
    addText s (addText t row) = addText (s ++ t) row := by
  by_cases hs : s = ""
  · rw [hs, addText_empty, String.empty_append]
  · by_cases ht : t = ""
    · rw [ht, addText_empty, String.append_empty]
    · have hst : s ++ t ≠ "" := by simp [hs]
      cases hrow : startsWithText row with
      | false =>
        rw [addText_of_not_text ht hrow, addText_cons_text hs, addText_of_not_text hst hrow]
      | true =>
        obtain ⟨u, rest, rfl⟩ := exists_text_of_startsWithText hrow
        rw [addText_cons_text ht, addText_cons_text hs, addText_cons_text hst, String.append_assoc]

private theorem escape_append (s t : String) : escape (s ++ t) = escape s ++ escape t := by
  simp [escape]

private theorem htmlAll_addText (s : String) (row : List Node) :
    htmlAll (addText s row) = escape s ++ htmlAll row := by
  by_cases hs : s = ""
  · rw [hs, addText_empty]
    rfl
  · cases hrow : startsWithText row with
    | false =>
      rw [addText_of_not_text hs hrow, htmlAll, Node.html]
    | true =>
      obtain ⟨t, rest, rfl⟩ := exists_text_of_startsWithText hrow
      rw [addText_cons_text hs, htmlAll, htmlAll, Node.html, Node.html, escape_append,
        List.append_assoc]

private theorem normalAll_addText (s : String) {row : List Node} (h : NormalAll row) :
    NormalAll (addText s row) := by
  by_cases hs : s = ""
  · rw [hs, addText_empty]
    exact h
  · cases hrow : startsWithText row with
    | false =>
      rw [addText_of_not_text hs hrow]
      exact ⟨hs, fun _ => hrow, h⟩
    | true =>
      obtain ⟨t, rest, rfl⟩ := exists_text_of_startsWithText hrow
      obtain ⟨-, hnext, hrest⟩ := h
      rw [addText_cons_text hs]
      exact ⟨by simp [Node.Normal, hs], hnext, hrest⟩

mutual

theorem Node.htmlAll_normalOnto (n : Node) (row : List Node) :
    htmlAll (n.normalOnto row) = n.html ++ htmlAll row := by
  cases n with
  | text s => exact htmlAll_addText s row
  | fragment nodes => exact htmlAll_normalAllOnto nodes row
  | element tag attrs children =>
    rw [Node.normalOnto, htmlAll, Node.html, Node.html]
    cases hvoid : isVoid tag with
    | true => rfl
    | false =>
      have hchildren := htmlAll_normalAllOnto children []
      simp [hchildren, htmlAll]

private theorem htmlAll_normalAllOnto (nodes row : List Node) :
    htmlAll (normalAllOnto nodes row) = htmlAll nodes ++ htmlAll row := by
  cases nodes with
  | nil => rfl
  | cons n nodes =>
    rw [normalAllOnto, Node.htmlAll_normalOnto n, htmlAll_normalAllOnto nodes row, htmlAll,
      List.append_assoc]

end

mutual

theorem Node.normalAll_normalOnto (n : Node) {row : List Node} (h : NormalAll row) :
    NormalAll (n.normalOnto row) := by
  cases n with
  | text s => exact normalAll_addText s h
  | fragment nodes => exact normalAll_normalAllOnto nodes h
  | element tag attrs children =>
    have hempty : NormalAll [] := trivial
    have hchildren := normalAll_normalAllOnto children hempty
    have helement : (Node.element tag attrs
        (if isVoid tag then [] else normalAllOnto children [])).Normal := by
      cases hvoid : isVoid tag with
      | true => exact ⟨fun _ => rfl, trivial⟩
      | false =>
        refine ⟨fun hv => ?_, hchildren⟩
        rw [hvoid] at hv
        cases hv
    refine ⟨helement, ?_, h⟩
    intro htext
    cases htext

private theorem normalAll_normalAllOnto (nodes : List Node) {row : List Node} (h : NormalAll row) :
    NormalAll (normalAllOnto nodes row) := by
  cases nodes with
  | nil => exact h
  | cons n nodes =>
    rw [normalAllOnto]
    exact Node.normalAll_normalOnto n (normalAll_normalAllOnto nodes h)

end

mutual

private theorem Node.normalOnto_eq_cons {n : Node} (hn : n.Normal) {row : List Node}
    (hrow : startsWithText [n] = true → startsWithText row = false) :
    n.normalOnto row = n :: row := by
  cases n with
  | text s => exact addText_of_not_text hn (hrow rfl)
  | fragment nodes => exact hn.elim
  | element tag attrs children =>
    obtain ⟨hvoid, hchildren⟩ := hn
    rw [Node.normalOnto]
    cases htag : isVoid tag with
    | true => rw [hvoid htag]; rfl
    | false => rw [normalAllOnto_eq_self hchildren]; rfl

theorem normalAllOnto_eq_self {row : List Node} (h : NormalAll row) :
    normalAllOnto row [] = row := by
  cases row with
  | nil => rfl
  | cons n row =>
    obtain ⟨hn, hnext, hrow⟩ := h
    rw [normalAllOnto, normalAllOnto_eq_self hrow, Node.normalOnto_eq_cons hn hnext]

end

end Pressroom.Markup
