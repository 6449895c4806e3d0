import Mathlib.Data.List.Forall2
import Mathlib.Logic.Relation
import Pressroom.Datum.Reader
import Pressroom.Keyed

/-!
Edits that reading does not notice. A shape says which fields a record is known to have, and which
of them may be left out for what value; an edit leaves out such a field, or adds one that is not
known, in one place at any depth. What a reader makes of some data is the same after any number of
edits, and also if the data are kept back, when it is so for the fields of its records.
-/

set_option autoImplicit false
set_option relaxedAutoImplicit false

namespace Pressroom

/-- Where data can be edited: the items of a list, and the fields of a record, each under its name
with the value for which it may be left out, if there is one. -/
inductive Shape where
  | plain
  | list (item : Shape)
  | record (fields : List (String × Option Datum × Shape))

inductive Edit : Shape → Datum → Datum → Prop where
  | item {s : Shape} {d d' : Datum} (front back : List Datum) (h : Edit s d d') :
    Edit (.list s) (.list (front ++ d :: back)) (.list (front ++ d' :: back))
  | inside {fields : List (String × Option Datum × Shape)} {known : List (String × Datum)}
    {default : Option Datum} {s : Shape} {d d' : Datum} (name : String)
    (hfield : fields.lookup name = some (default, s)) (hknown : known.lookup name = some d)
    (h : Edit s d d') :
    Edit (.record fields) (.record known) (.record (Datum.putField name d' known))
  | leaveOut {fields : List (String × Option Datum × Shape)} {known : List (String × Datum)}
    {s : Shape} {d : Datum} (name : String) (hfield : fields.lookup name = some (some d, s))
    (hknown : known.lookup name = some d) :
    Edit (.record fields) (.record known) (.record (Keyed.drop name known))
  | add {fields : List (String × Option Datum × Shape)} {known : List (String × Datum)}
    (name : String) (d : Datum) (hfield : fields.lookup name = none) :
    Edit (.record fields) (.record known) (.record (Datum.putField name d known))

/-- Any number of edits. -/
def Edits (s : Shape) : Datum → Datum → Prop :=
  Relation.ReflTransGen (Edit s)

/-- What a reader may meet in place of some data: an edit of them, or the same data kept back. -/
inductive Variation (s : Shape) : Manner → Datum → Manner → Datum → Prop where
  | edited {m : Manner} {d d' : Datum} (h : Edit s d d') : Variation s m d m d'
  | keptBack (d : Datum) : Variation s .direct d .kept d

inductive Row.Varies (fields : List (String × Option Datum × Shape)) : Row → Row → Prop where
  | edited {known known' : List (String × Datum)} (m : Manner)
    (h : Edit (.record fields) (.record known) (.record known')) :
    Varies fields ⟨m, .fields known⟩ ⟨m, .fields known'⟩
  | keptBack (parts : Parts) : Varies fields ⟨.direct, parts⟩ ⟨.kept, parts⟩

namespace Datum

private theorem lookup_putField_self (name : String) (value : Datum)
    (fields : List (String × Datum)) :
    (putField name value fields).lookup name = some value := by
  induction fields with
  | nil => simp [putField]
  | cons f fields ih =>
    obtain ⟨n, v⟩ := f
    unfold putField
    split
    · simp
    · split
      · simp
      · next hne =>
        have hname : (name == n) = false := by simpa using hne
        rw [List.lookup_cons, hname]
        exact ih

private theorem lookup_putField_of_ne {name other : String} (h : other ≠ name) (value : Datum)
    (fields : List (String × Datum)) :
    (putField name value fields).lookup other = fields.lookup other := by
  have hother : (other == name) = false := by simpa using h
  induction fields with
  | nil => simp [putField, h]
  | cons f fields ih =>
    obtain ⟨n, v⟩ := f
    unfold putField
    split
    · rw [List.lookup_cons, hother]
    · split
      · next heq =>
        subst heq
        rw [List.lookup_cons, List.lookup_cons, hother]
      · rw [List.lookup_cons, List.lookup_cons, ih]

end Datum

/-- What an edit of a record may do to one of its known fields. -/
inductive Change (default : Option Datum) (s : Shape) : Option Datum → Option Datum → Prop where
  | same (d : Option Datum) : Change default s d d
  | inside {d d' : Datum} (h : Edit s d d') : Change default s (some d) (some d')
  | leftOut {d : Datum} (h : default = some d) : Change default s (some d) none

theorem Edit.exists_fields {fields : List (String × Option Datum × Shape)} {d d' : Datum}
    (h : Edit (.record fields) d d') : ∃ known known', d = .record known ∧ d' = .record known' := by
  cases h with
  | inside => exact ⟨_, _, rfl, rfl⟩
  | leaveOut => exact ⟨_, _, rfl, rfl⟩
  | add => exact ⟨_, _, rfl, rfl⟩

theorem Edit.change {fields : List (String × Option Datum × Shape)}
    {known known' : List (String × Datum)}
    (h : Edit (.record fields) (.record known) (.record known'))
    {name : String} {default : Option Datum} {s : Shape}
    (hfield : fields.lookup name = some (default, s)) :
    Change default s (known.lookup name) (known'.lookup name) := by
  cases h with
  | inside edited hedited hknown hin =>
    by_cases hname : name = edited
    · subst hname
      rw [hfield] at hedited
      cases hedited
      rw [hknown, Datum.lookup_putField_self]
      exact .inside hin
    · rw [Datum.lookup_putField_of_ne hname]
      exact .same _
  | leaveOut edited hedited hknown =>
    by_cases hname : name = edited
    · subst hname
      rw [hfield] at hedited
      cases hedited
      rw [hknown, Keyed.lookup_drop_self]
      exact .leftOut rfl
    · rw [Keyed.lookup_drop_of_ne hname]
      exact .same _
  | add added d hadded =>
    have hname : name ≠ added := by
      rintro rfl
      rw [hfield] at hadded
      cases hadded
    rw [Datum.lookup_putField_of_ne hname]
    exact .same _

namespace Gathered

variable {α β : Type}

theorem map_eq_value_iff {f : α → β} {g : Gathered α} {b : β} :
    f <$> g = .value b ↔ ∃ a, g = .value a ∧ f a = b := by
  constructor
  · intro h
    cases g with
    | faults bad missing => cases h
    | value a => exact ⟨a, rfl, Gathered.value.inj h⟩
  · rintro ⟨a, rfl, rfl⟩
    rfl

theorem seq_eq_value_iff {f : Gathered (α → β)} {x : Gathered α} {b : β} :
    f <*> x = .value b ↔ ∃ g a, f = .value g ∧ x = .value a ∧ g a = b := by
  constructor
  · intro h
    cases f with
    | faults bad missing => cases x <;> cases h
    | value g =>
      cases x with
      | faults bad missing => cases h
      | value a => exact ⟨g, a, rfl, rfl, Gathered.value.inj h⟩
  · rintro ⟨g, a, rfl, rfl, rfl⟩
    rfl

/-- Whatever value the first outcome has, the second has it too. -/
def Kept (g g' : Gathered α) : Prop :=
  ∀ a, g = .value a → g' = .value a

theorem Kept.map {g g' : Gathered α} (h : g.Kept g') (f : α → β) : Kept (f <$> g) (f <$> g') := by
  intro b hb
  obtain ⟨a, ha, hfa⟩ := map_eq_value_iff.1 hb
  exact map_eq_value_iff.2 ⟨a, h a ha, hfa⟩

theorem Kept.seq {f f' : Gathered (α → β)} {x x' : Gathered α} (hf : f.Kept f')
    (hx : x.Kept x') : Kept (f <*> x) (f' <*> x') := by
  intro b hb
  obtain ⟨g, a, hg, ha, hga⟩ := seq_eq_value_iff.1 hb
  exact seq_eq_value_iff.2 ⟨g, a, hf g hg, hx a ha, hga⟩

end Gathered

namespace Row

variable {α : Type} {row row' : Row} {position : Nat} {name : String} {r : Reader α}

theorem required_eq_value_iff {a : α} :
    row.required position name r = .value a ↔
      ∃ d, row.parts.part? position name = some d ∧ r row.manner d = .ok a := by
  unfold required
  cases row.parts.part? position name with
  | none => simp
  | some d => cases hr : r row.manner d <;> simp [hr]

theorem defaulted_eq_value_iff {default a : α} :
    row.defaulted position name r default = .value a ↔
      (row.parts.part? position name = none ∧ default = a) ∨
        ∃ d, row.parts.part? position name = some d ∧ r row.manner d = .ok a := by
  unfold defaulted
  cases row.parts.part? position name with
  | none => simp
  | some d => cases hr : r row.manner d <;> simp [hr]

private theorem settle_eq_ok_iff {size : Nat} {g : Gathered α} {a : α} :
    row.settle name size g = .ok a ↔ g = .value a ∧ row.checkLength size = .ok () := by
  cases g with
  | value b => cases hlength : row.checkLength size <;> simp [settle, hlength]
  | faults bad missing =>
    have hne : row.settle name size (.faults bad missing) ≠ .ok a := by
      unfold settle
      dsimp only
      split
      · simp
      · split <;> simp
    simp [hne]

end Row

namespace Reader

variable {α : Type} {m : Manner}

theorem record_fields_eq_ok_iff {name : String} {size : Nat} {f : Row → Gathered α}
    {known : List (String × Datum)} {a : α} :
    Reader.record name size f m (.record known) = .ok a ↔ f ⟨m, .fields known⟩ = .value a := by
  rw [Reader.record, Row.settle_eq_ok_iff]
  simp [Row.checkLength]

private theorem record_items_eq_ok_iff {name : String} {size : Nat} {f : Row → Gathered α}
    {items : List Datum} {a : α} :
    Reader.record name size f m (.list items) = .ok a ↔
      f ⟨m, .items items⟩ = .value a ∧ (items.length ≤ size ∨ m = .lenient) := by
  rw [Reader.record, Row.settle_eq_ok_iff]
  by_cases hlength : items.length ≤ size
  · simp [Row.checkLength, hlength]
  · cases m <;> simp [Row.checkLength, hlength]

private theorem mapM_eq_ok_iff {f : Datum → Except ReadError α} {items : List Datum} {xs : List α} :
    items.mapM f = .ok xs ↔ List.Forall₂ (fun d a => f d = .ok a) items xs := by
  induction items generalizing xs with
  | nil =>
    change Except.ok [] = .ok xs ↔ _
    simp [eq_comm]
  | cons d items ih =>
    rw [List.mapM_cons, List.forall₂_cons_left_iff]
    cases hd : f d with
    | error e =>
      change Except.error e = .ok xs ↔ _
      simp
    | ok a =>
      cases hrest : items.mapM f with
      | error e =>
        change Except.error e = .ok xs ↔ _
        simp [← ih, hrest]
      | ok rest =>
        change Except.ok (a :: rest) = .ok xs ↔ _
        simp [← ih, hrest, eq_comm]

theorem list_eq_ok_iff {r : Reader α} {items : List Datum} {xs : List α} :
    Reader.list r m (.list items) = .ok xs ↔
      List.Forall₂ (fun d a => r m d = .ok a) items xs :=
  mapM_eq_ok_iff

/-- A reader that makes the same of data whatever becomes of them: an edit, or being kept back. -/
def Tolerates (r : Reader α) (s : Shape) : Prop :=
  ∀ ⦃m m' : Manner⦄ ⦃d d' : Datum⦄ ⦃a : α⦄, Variation s m d m' d' → r m d = .ok a → r m' d' = .ok a

theorem tolerates_plain {r : Reader α} (h : ∀ d a, r .direct d = .ok a → r .kept d = .ok a) :
    r.Tolerates .plain := by
  intro m m' d d' a hvary hread
  cases hvary with
  | edited hedit => cases hedit
  | keptBack => exact h d a hread

theorem tolerates_text : Reader.text.Tolerates .plain := by
  apply tolerates_plain
  intro d a h
  cases d with
  | text s => exact h
  | _ => cases h

theorem tolerates_boolean : Reader.boolean.Tolerates .plain := by
  apply tolerates_plain
  intro d a h
  cases d with
  | bool b => exact h
  | _ => cases h

theorem tolerates_natural (wanted : Wanted) : (Reader.natural wanted).Tolerates .plain := by
  apply tolerates_plain
  intro d a h
  cases d with
  | integer n => exact h
  | _ => cases h

private theorem unit_kept {d : Datum} (h : Reader.unit .direct d = .ok ()) :
    Reader.unit .kept d = .ok () := by
  cases d with
  | null => exact h
  | record fs => cases fs <;> cases h
  | _ => cases h

theorem tolerates_variant (known : List (String × α)) :
    (Reader.variant known).Tolerates .plain := by
  apply tolerates_plain
  intro d a h
  cases d with
  | text s => exact h
  | record fs =>
    match fs, h with
    | [], h => cases h
    | (s, v) :: g :: rest, h => cases h
    | [(s, v)], h =>
      simp only [Reader.variant] at h ⊢
      cases hname : Reader.named known s with
      | error e =>
        rw [hname] at h
        cases h
      | ok named =>
        rw [hname] at h
        cases hunit : Reader.unit .direct v with
        | error e =>
          rw [hunit] at h
          cases h
        | ok u =>
          rw [hunit] at h
          rw [unit_kept hunit]
          exact h
  | _ => cases h

theorem exists_of_map_eq_ok {β : Type} {x : Except ReadError α} {f : α → β} {b : β}
    (h : x.map f = .ok b) : ∃ a, x = .ok a ∧ f a = b := by
  cases x with
  | error e => cases h
  | ok a => exact ⟨a, rfl, Except.ok.inj h⟩

private theorem optional_of_ne_null (r : Reader α) (m : Manner) {d : Datum} (h : d ≠ .null) :
    Reader.optional r m d = (r m d).map some := by
  cases d with
  | null => exact absurd rfl h
  | _ => rfl

theorem Tolerates.optional {r : Reader α} (h : r.Tolerates .plain) :
    (Reader.optional r).Tolerates .plain := by
  apply tolerates_plain
  intro d o hread
  by_cases hd : d = .null
  · subst hd
    exact hread
  · rw [optional_of_ne_null r _ hd] at hread ⊢
    obtain ⟨a, hr, rfl⟩ := exists_of_map_eq_ok hread
    rw [h (.keptBack d) hr]
    rfl

theorem Tolerates.map {β : Type} {r : Reader α} {s : Shape} (h : r.Tolerates s) (f : α → β) :
    Reader.Tolerates (fun m d => (r m d).map f) s := by
  intro m m' d d' b hvary hread
  obtain ⟨a, hr, rfl⟩ := exists_of_map_eq_ok hread
  exact congrArg (Except.map f) (h hvary hr)

theorem Tolerates.list {r : Reader α} {s : Shape} (h : r.Tolerates s) :
    (Reader.list r).Tolerates (.list s) := by
  intro m m' d d' xs hvary hread
  cases hvary with
  | edited hedit =>
    cases hedit with
    | @item _ x x' front back hx =>
      rw [list_eq_ok_iff] at hread ⊢
      induction front generalizing xs with
      | nil =>
        obtain ⟨a, rest, ha, hrest, rfl⟩ := List.forall₂_cons_left_iff.1 hread
        exact .cons (h (.edited hx) ha) hrest
      | cons y front ih =>
        obtain ⟨a, rest, ha, hrest, rfl⟩ := List.forall₂_cons_left_iff.1 hread
        exact .cons ha (ih hrest)
  | keptBack =>
    cases d with
    | list items =>
      rw [list_eq_ok_iff] at hread ⊢
      exact hread.imp fun x a => h (.keptBack x)
    | _ => cases hread

theorem tolerates_record {name : String} {size : Nat} {f : Row → Gathered α}
    {fields : List (String × Option Datum × Shape)}
    (h : ∀ row row', Row.Varies fields row row' → Gathered.Kept (f row) (f row')) :
    (Reader.record name size f).Tolerates (.record fields) := by
  intro m m' d d' a hvary hread
  cases hvary with
  | edited hedit =>
    obtain ⟨known, known', rfl, rfl⟩ := hedit.exists_fields
    rw [record_fields_eq_ok_iff] at hread ⊢
    exact h _ _ (.edited m hedit) a hread
  | keptBack =>
    cases d with
    | record known =>
      rw [record_fields_eq_ok_iff] at hread ⊢
      exact h _ _ (.keptBack _) a hread
    | list items =>
      rw [record_items_eq_ok_iff] at hread ⊢
      obtain ⟨hvalue, hlength⟩ := hread
      refine ⟨h _ _ (.keptBack _) a hvalue, ?_⟩
      simpa using hlength
    | _ => cases hread

theorem Tolerates.edits {r : Reader α} {s : Shape} (h : r.Tolerates s) {d d' : Datum} {a : α}
    (hedits : Edits s d d') (hread : r m d = .ok a) : r m d' = .ok a := by
  induction hedits with
  | refl => exact hread
  | tail _ hedit ih => exact h (.edited hedit) ih

theorem list_map_eq_ok {r : Reader α} {write : α → Datum} (h : ∀ x, r m (write x) = .ok x)
    (xs : List α) : Reader.list r m (.list (xs.map write)) = .ok xs := by
  rw [list_eq_ok_iff, List.forall₂_map_left_iff, List.forall₂_same]
  intro x _
  exact h x

end Reader

namespace Row.Varies

variable {α : Type} {fields : List (String × Option Datum × Shape)} {row row' : Row} {s : Shape}
  {r : Reader α}

theorem required (h : Varies fields row row') (position : Nat) (name : String)
    (hfield : fields.lookup name = some (none, s)) (hr : r.Tolerates s) :
    Gathered.Kept (row.required position name r) (row'.required position name r) := by
  intro a ha
  rw [required_eq_value_iff] at ha ⊢
  obtain ⟨d, hd, hread⟩ := ha
  cases h with
  | keptBack parts => exact ⟨d, hd, hr (.keptBack d) hread⟩
  | @edited known known' m hedit =>
    have hchange := hedit.change hfield
    rw [show known.lookup name = some d from hd] at hchange
    generalize hnew : known'.lookup name = new at hchange
    cases hchange with
    | same => exact ⟨d, hnew, hread⟩
    | @inside _ d' hin => exact ⟨d', hnew, hr (.edited hin) hread⟩
    | leftOut hnone => cases hnone

theorem defaulted (h : Varies fields row row') (position : Nat) (name : String) {written : Datum}
    (hfield : fields.lookup name = some (some written, s)) (hr : r.Tolerates s) {default : α}
    (hdefault : ∀ m, r m written = .ok default) :
    Gathered.Kept (row.defaulted position name r default)
      (row'.defaulted position name r default) := by
  intro a ha
  rw [defaulted_eq_value_iff] at ha ⊢
  cases h with
  | keptBack parts =>
    rcases ha with hnone | ⟨d, hd, hread⟩
    · exact .inl hnone
    · exact .inr ⟨d, hd, hr (.keptBack d) hread⟩
  | @edited known known' m hedit =>
    have hchange := hedit.change hfield
    generalize hnew : known'.lookup name = new at hchange
    rcases ha with ⟨hnone, rfl⟩ | ⟨d, hd, hread⟩
    · rw [show known.lookup name = none from hnone] at hchange
      cases hchange with
      | same => exact .inl ⟨hnew, rfl⟩
    · rw [show known.lookup name = some d from hd] at hchange
      cases hchange with
      | same => exact .inr ⟨d, hnew, hread⟩
      | @inside _ d' hin => exact .inr ⟨d', hnew, hr (.edited hin) hread⟩
      | leftOut hwritten =>
        cases hwritten
        exact .inl ⟨hnew, Except.ok.inj ((hdefault m).symm.trans hread)⟩

end Row.Varies

end Pressroom
