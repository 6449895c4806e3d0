import Pressroom.Page.Data
import Pressroom.Proofs.DatumEdits

/-!
Page data on the wire. What is written for some page data is read back as them, by their tag or as
the payload of their kind, and so is every edit of it. Whatever the reader of payloads takes, the
reader of tagged data takes as well, although it meets the payload in another manner.
-/

set_option autoImplicit false
set_option relaxedAutoImplicit false

namespace Pressroom

namespace Content

/-- The fields of a post type: all but its id may be left out. -/
def PostType.shape : Shape :=
  .record [("id", none, .plain), ("singular", some (.text ""), .plain),
    ("plural", some (.text ""), .plain), ("path_prefix", some .null, .plain)]

theorem PostType.reader_toDatum (m : Manner) (t : PostType) :
    PostType.reader m t.toDatum = .ok t := by
  obtain ⟨id, singular, plural, pathPrefix⟩ := t
  cases pathPrefix with
  | none => rfl
  | some s => rfl

theorem PostType.tolerates : PostType.reader.Tolerates PostType.shape := by
  apply Reader.tolerates_record
  intro row row' h
  have htext := Reader.tolerates_text
  have hid := h.required 0 "id" rfl htext
  have hsingular := h.defaulted 1 "singular" rfl htext fun _ => rfl
  have hplural := h.defaulted 2 "plural" rfl htext fun _ => rfl
  have hplace := h.defaulted 3 "path_prefix" rfl htext.optional fun _ => rfl
  exact (((hid.map PostType.mk).seq hsingular).seq hplural).seq hplace

/-- The fields of a post: all but its id and title may be left out. -/
def Post.shape : Shape :=
  .record [("id", none, .plain), ("title", none, .plain), ("content", some (.text ""), .plain),
    ("slug", some (.text ""), .plain), ("status", some (.text ""), .plain),
    ("type", some (.text ""), .plain)]

theorem Post.reader_toDatum (m : Manner) (p : Post) : Post.reader m p.toDatum = .ok p := rfl

theorem Post.tolerates : Post.reader.Tolerates Post.shape := by
  apply Reader.tolerates_record
  intro row row' h
  have htext := Reader.tolerates_text
  have hid := h.required 0 "id" rfl htext
  have htitle := h.required 1 "title" rfl htext
  have hcontent := h.defaulted 2 "content" rfl htext fun _ => rfl
  have hslug := h.defaulted 3 "slug" rfl htext fun _ => rfl
  have hstatus := h.defaulted 4 "status" rfl htext fun _ => rfl
  have htype := h.defaulted 5 "type" rfl htext fun _ => rfl
  exact (((((hid.map Post.mk).seq htitle).seq hcontent).seq hslug).seq hstatus).seq htype

end Content

namespace Flash

def Message.shape : Shape :=
  .record [("level", none, .plain), ("message", none, .plain)]

private theorem Message.reader_toDatum (m : Manner) (msg : Message) :
    Message.reader m msg.toDatum = .ok msg := by
  obtain ⟨level, message⟩ := msg
  cases level <;> rfl

private theorem Message.tolerates : Message.reader.Tolerates Message.shape := by
  apply Reader.tolerates_record
  intro row row' h
  have hname : Level.reader.Tolerates .plain := Reader.tolerates_variant _
  have hlevel := h.required 0 "level" rfl hname
  have hmessage := h.required 1 "message" rfl Reader.tolerates_text
  exact (hlevel.map Message.mk).seq hmessage

end Flash

namespace Page

open Pressroom.Content (PostType Post)

/-- The fields of a listing: the posts may be left out if there are none. -/
def Listing.shape : Shape :=
  .record [("post_type", none, PostType.shape), ("posts", some (.list []), .list Post.shape)]

private theorem Listing.reader_toDatum (m : Manner) (l : Listing) :
    Listing.reader m l.toDatum = .ok l := by
  have htype := PostType.reader_toDatum m l.postType
  have hposts := Reader.list_map_eq_ok (Post.reader_toDatum m) l.posts
  apply Reader.record_fields_eq_ok_iff.2
  apply Gathered.seq_eq_value_iff.2
  refine ⟨Listing.mk l.postType, l.posts, ?_, ?_, rfl⟩
  · apply Gathered.map_eq_value_iff.2
    exact ⟨l.postType, Row.required_eq_value_iff.2 ⟨_, rfl, htype⟩, rfl⟩
  · exact Row.defaulted_eq_value_iff.2 (.inr ⟨_, rfl, hposts⟩)

private theorem Listing.tolerates : Listing.reader.Tolerates Listing.shape := by
  apply Reader.tolerates_record
  intro row row' h
  have htype := h.required 0 "post_type" rfl PostType.tolerates
  have hposts := h.defaulted 1 "posts" rfl Post.tolerates.list fun _ => rfl
  exact (htype.map Listing.mk).seq hposts

/-- The fields of a form: the errors may be left out if there are none. -/
def CreateForm.shape : Shape :=
  .record [("errors", some (.list []), .list Flash.Message.shape),
    ("post_type", none, PostType.shape)]

private theorem CreateForm.reader_toDatum (m : Manner) (f : CreateForm) :
    CreateForm.reader m f.toDatum = .ok f := by
  have htype := PostType.reader_toDatum m f.postType
  have herrors := Reader.list_map_eq_ok (Flash.Message.reader_toDatum m) f.errors
  apply Reader.record_fields_eq_ok_iff.2
  apply Gathered.seq_eq_value_iff.2
  refine ⟨CreateForm.mk f.postType, f.errors, ?_, ?_, rfl⟩
  · apply Gathered.map_eq_value_iff.2
    exact ⟨f.postType, Row.required_eq_value_iff.2 ⟨_, rfl, htype⟩, rfl⟩
  · exact Row.defaulted_eq_value_iff.2 (.inr ⟨_, rfl, herrors⟩)

private theorem CreateForm.tolerates : CreateForm.reader.Tolerates CreateForm.shape := by
  apply Reader.tolerates_record
  intro row row' h
  have htype := h.required 0 "post_type" rfl PostType.tolerates
  have herrors := h.defaulted 1 "errors" rfl Flash.Message.tolerates.list fun _ => rfl
  exact (htype.map CreateForm.mk).seq herrors

def Kind.payloadShape : Kind → Shape
  | .home => .plain
  | .catalog => .list PostType.shape
  | .listing => Listing.shape
  | .createForm => CreateForm.shape
  | .detail => Post.shape

/-- The shape of tagged page data: neither the tag nor the payload may be left out. -/
def Kind.taggedShape (k : Kind) : Shape :=
  .record [("data", none, k.payloadShape), ("kind", none, .plain)]

namespace Data

private theorem payloadReader_of_payload? (m : Manner) {x : Data} {payload : Datum}
    (h : x.payload? = some payload) : payloadReader x.kind m payload = .ok x := by
  cases x with
  | home => cases h
  | catalog types =>
    cases h
    have htypes := Reader.list_map_eq_ok (PostType.reader_toDatum m) types
    exact congrArg (Except.map catalog) htypes
  | listing l =>
    cases h
    exact congrArg (Except.map listing) (Listing.reader_toDatum m l)
  | createForm f =>
    cases h
    exact congrArg (Except.map createForm) (CreateForm.reader_toDatum m f)
  | detail p =>
    cases h
    exact congrArg (Except.map detail) (Post.reader_toDatum m p)

private theorem payloadReader_tolerates (k : Kind) :
    (payloadReader k).Tolerates k.payloadShape := by
  cases k with
  | home =>
    intro m m' d d' x _ h
    exact h
  | catalog => exact PostType.tolerates.list.map catalog
  | listing => exact Listing.tolerates.map listing
  | createForm => exact CreateForm.tolerates.map createForm
  | detail => exact Post.tolerates.map detail

theorem kind_of_payloadReader {k : Kind} {m : Manner} {d : Datum} {x : Data}
    (h : payloadReader k m d = .ok x) : x.kind = k := by
  cases k with
  | home =>
    cases h
    rfl
  | _ =>
    obtain ⟨_, -, rfl⟩ := Reader.exists_of_map_eq_ok h
    rfl

private theorem taggedPayload_of_ne_home {k : Kind} (h : k ≠ .home) :
    taggedPayload k = payloadReader k := by
  funext m d
  cases k with
  | home => exact absurd rfl h
  | _ => cases d <;> rfl

private theorem taggedPayload_tolerates (k : Kind) :
    Reader.Tolerates (taggedPayload k) k.payloadShape := by
  by_cases hk : k = .home
  · subst hk
    apply Reader.tolerates_plain
    intro d x h
    cases d with
    | null => exact h
    | _ => cases h
  · rw [taggedPayload_of_ne_home hk]
    exact payloadReader_tolerates k

private theorem kind_of_taggedPayload {k : Kind} {m : Manner} {d : Datum} {x : Data}
    (h : taggedPayload k m d = .ok x) : x.kind = k := by
  by_cases hk : k = .home
  · subst hk
    cases d with
    | null =>
      cases h
      rfl
    | _ => cases h
  · rw [taggedPayload_of_ne_home hk] at h
    exact kind_of_payloadReader h

/-- What tagged page data are read from: the tag names their kind, and the payload beside it is
theirs, or there is none and they are the home page. -/
private theorem read_record_eq_ok_iff {fields : List (String × Datum)} {x : Data} :
    read (.record fields) = .ok x ↔
      ∃ tag, fields.lookup "kind" = some tag ∧ Reader.variant namedKinds .direct tag = .ok x.kind ∧
        ((fields.lookup "data" = none ∧ x = .home) ∨
          ∃ d, fields.lookup "data" = some d ∧ taggedPayload x.kind .kept d = .ok x) := by
  simp only [read]
  cases fields.lookup "kind" with
  | none => simp
  | some tag =>
    cases hkind : Reader.variant namedKinds .direct tag with
    | error e => simp [hkind, bind, Except.bind]
    | ok k =>
      simp only [Option.some.injEq, exists_eq_left', hkind, bind, Except.bind, Except.ok.injEq]
      cases fields.lookup "data" with
      | none =>
        constructor
        · intro h
          cases k with
          | home =>
            cases h
            exact ⟨rfl, .inl ⟨rfl, rfl⟩⟩
          | _ => cases h
        · rintro ⟨rfl, ⟨-, rfl⟩ | ⟨d, hd, -⟩⟩
          · rfl
          · cases hd
      | some d =>
        constructor
        · intro h
          obtain rfl : x.kind = k := kind_of_taggedPayload h
          exact ⟨rfl, .inr ⟨d, rfl, h⟩⟩
        · rintro ⟨rfl, ⟨hd, -⟩ | ⟨d', hd, h⟩⟩
          · cases hd
          · cases hd
            exact h

private theorem read_of_edit {x : Data} {d d' : Datum} (hedit : Edit x.kind.taggedShape d d')
    (hread : read d = .ok x) : read d' = .ok x := by
  obtain ⟨known, known', rfl, rfl⟩ := hedit.exists_fields
  obtain ⟨tag, htag, hkind, hpayload⟩ := read_record_eq_ok_iff.1 hread
  apply read_record_eq_ok_iff.2
  refine ⟨tag, ?_, hkind, ?_⟩
  · have hchange := hedit.change (show List.lookup "kind" _ = some (none, .plain) from rfl)
    rw [htag] at hchange
    generalize known'.lookup "kind" = new at hchange ⊢
    cases hchange with
    | same => rfl
    | inside hin => cases hin
    | leftOut hnone => cases hnone
  · have hchange := hedit.change (show List.lookup "data" _ = some (none, _) from rfl)
    generalize known'.lookup "data" = new at hchange ⊢
    rcases hpayload with ⟨hnone, hhome⟩ | ⟨payload, hdata, hread⟩
    · rw [hnone] at hchange
      cases hchange with
      | same => exact .inl ⟨rfl, hhome⟩
    · rw [hdata] at hchange
      cases hchange with
      | same => exact .inr ⟨payload, rfl, hread⟩
      | @inside _ payload' hin =>
        exact .inr ⟨payload', rfl, taggedPayload_tolerates x.kind (.edited hin) hread⟩
      | leftOut hnone => cases hnone

private theorem read_of_edits {x : Data} {d d' : Datum} (hedits : Edits x.kind.taggedShape d d')
    (hread : read d = .ok x) : read d' = .ok x := by
  induction hedits with
  | refl => exact hread
  | tail _ hedit ih => exact read_of_edit hedit ih

private theorem variant_name (k : Kind) :
    Reader.variant namedKinds .direct (.text k.name) = .ok k := by
  cases k <;> rfl

private theorem read_tagged {k : Kind} {payload : Datum} {x : Data} (hk : k ≠ .home)
    (h : payloadReader k .kept payload = .ok x) :
    read (.record [("data", payload), ("kind", .text k.name)]) = .ok x := by
  have hkind : x.kind = k := kind_of_payloadReader h
  subst hkind
  rw [read_record_eq_ok_iff]
  refine ⟨.text x.kind.name, rfl, variant_name x.kind, .inr ⟨payload, rfl, ?_⟩⟩
  rw [taggedPayload_of_ne_home hk]
  exact h

private theorem read_toDatum (x : Data) : read x.toDatum = .ok x := by
  cases hpayload : x.payload? with
  | none =>
    cases x with
    | home => rfl
    | _ => cases hpayload
  | some payload =>
    have hk : x.kind ≠ .home := by
      intro hk
      cases x with
      | home => cases hpayload
      | _ => cases hk
    rw [toDatum, hpayload]
    exact read_tagged hk (payloadReader_of_payload? .kept hpayload)

/-- Page data survive the wire. What is written for them is read back as them, with the tag or as
the payload of their kind, and so is what any edits make of it; the home page is read from any
payload. For the other kinds the two readers agree: what is read as a payload is read the same
behind its tag. -/
theorem wire_form_survives_edits :
    (∀ (x : Data) (d : Datum), Edits x.kind.taggedShape x.toDatum d → read d = .ok x) ∧
    (∀ (x : Data) (payload d : Datum), x.payload? = some payload →
      Edits x.kind.payloadShape payload d → decode x.kind d = .ok x) ∧
    (∀ d : Datum, decode .home d = .ok .home) ∧
    ∀ (k : Kind) (payload : Datum) (x : Data), k ≠ .home → decode k payload = .ok x →
      read (.record [("data", payload), ("kind", .text k.name)]) = .ok x := by
  refine ⟨?_, ?_, fun _ => rfl, ?_⟩
  · intro x d hedits
    exact read_of_edits hedits (read_toDatum x)
  · intro x payload d hpayload hedits
    have hread := payloadReader_of_payload? .direct hpayload
    exact (payloadReader_tolerates x.kind).edits hedits hread
  · intro k payload x hk hread
    exact read_tagged hk (payloadReader_tolerates k (.keptBack payload) hread)

def terse : Post :=
  ⟨"7", "A & B", "", "a-b", "", ""⟩

def short : Listing :=
  ⟨⟨"page", "Page", "", none⟩, [terse]⟩

/-- The page without the prefix of its type, and with an author in its post. -/
def edited : Datum :=
  .record [("post_type", .record [("id", .text "page"), ("plural", .text ""),
      ("singular", .text "Page")]),
    ("posts", .list [.record [("author", .null), ("content", .text ""), ("id", .text "7"),
      ("slug", .text "a-b"), ("status", .text ""), ("title", .text "A & B"), ("type", .text "")]])]

theorem wire_form_survives_edits_short :
    Edits Listing.shape short.toDatum edited ∧ decode .listing edited = .ok (.listing short) ∧
    Edits (Kind.taggedShape .home) (toDatum .home)
      (.record [("at", .integer 2), ("kind", .text "home")]) ∧
    read (.record [("at", .integer 2), ("kind", .text "home")]) = .ok .home ∧
    decode .detail (.list [.text "7", .text "A & B", .text "", .text "a-b"]) = .ok (.detail terse) ∧
    read (.record [("data", .list [.text "7", .text "A & B", .text "", .text "a-b"]),
      ("kind", .text "post_detail")]) = .ok (.detail terse) := by
  have hplace : Edit PostType.shape short.postType.toDatum _ := .leaveOut "path_prefix" rfl rfl
  have hauthor : Edit Post.shape terse.toDatum _ := .add "author" .null rfl
  have hfirst : Edit Listing.shape short.toDatum _ := .inside "post_type" rfl rfl hplace
  have hedits : Edits Listing.shape short.toDatum edited := by
    apply Relation.ReflTransGen.tail (.single hfirst)
    exact .inside "posts" rfl rfl (.item [] [] hauthor)
  have hadd : Edit (Kind.taggedShape .home) (toDatum .home) _ := .add "at" (.integer 2) rfl
  have hhome : Edits (Kind.taggedShape .home) (toDatum .home) _ := .single hadd
  have hdetail : decode .detail (.list [.text "7", .text "A & B", .text "", .text "a-b"]) =
    .ok (.detail terse) := rfl
  obtain ⟨hread, hdecode, -, hagree⟩ := wire_form_survives_edits
  exact ⟨hedits, hdecode (.listing short) _ edited rfl hedits, hhome, hread .home _ hhome, hdetail,
    hagree .detail _ _ (by decide) hdetail⟩

end Data

end Page

end Pressroom
