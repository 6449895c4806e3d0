import Pressroom.Proofs.ContentSlot

/-!
Runs of operations on one context. A context is no more than the data that a run published first:
one operation leaves the slot as it is, unless it is empty and the operation publishes. Main
statement: what every operation of a run replies, by what the operations before it have published;
and that an operation after the first data could as well have been left out.
-/

set_option autoImplicit false
set_option relaxedAutoImplicit false

namespace Pressroom.Page

open Pressroom.Content (Post PostType)
open Pressroom.Markup (Node)

/-- What data can carry. The home page carries nothing. -/
inductive Payload where
  | catalog
  | listing
  | createForm
  | detail
  deriving DecidableEq, Repr

namespace Payload

abbrev Value : Payload → Type
  | .catalog => List PostType
  | .listing => Listing
  | .createForm => CreateForm
  | .detail => Post

def kind : Payload → Kind
  | .catalog => .catalog
  | .listing => .listing
  | .createForm => .createForm
  | .detail => .detail

def of? : (p : Payload) → Data → Option p.Value
  | .catalog => Data.catalog?
  | .listing => Data.listing?
  | .createForm => Data.createForm?
  | .detail => Data.detail?

def toData : (p : Payload) → p.Value → Data
  | .catalog => .catalog
  | .listing => .listing
  | .createForm => .createForm
  | .detail => .detail

def view : Payload → View
  | .catalog => .admin
  | .listing => .postList
  | .createForm => .postCreate
  | .detail => .postDetail

def content : (p : Payload) → p.Value → Node
  | .catalog => catalogContent
  | .listing => listingContent
  | .createForm => createContent
  | .detail => detailContent

@[simp] private theorem kind_toData (p : Payload) (x : p.Value) : (p.toData x).kind = p.kind := by
  cases p <;> rfl

@[simp] private theorem of?_toData (p : Payload) (x : p.Value) : p.of? (p.toData x) = some x := by
  cases p <;> rfl

private theorem exists_eq_toData {p : Payload} {d : Data} (h : p.kind = d.kind) :
    ∃ x, d = p.toData x := by
  cases d with
  | home => cases p <;> cases h
  | catalog types =>
    cases p with
    | catalog => exact ⟨types, rfl⟩
    | _ => cases h
  | listing l =>
    cases p with
    | listing => exact ⟨l, rfl⟩
    | _ => cases h
  | createForm f =>
    cases p with
    | createForm => exact ⟨f, rfl⟩
    | _ => cases h
  | detail post =>
    cases p with
    | detail => exact ⟨post, rfl⟩
    | _ => cases h

private theorem of?_of_kind_ne {p : Payload} {d : Data} (h : p.kind ≠ d.kind) : p.of? d = none := by
  cases p with
  | catalog =>
    cases d with
    | catalog types => exact absurd rfl h
    | _ => rfl
  | listing =>
    cases d with
    | listing l => exact absurd rfl h
    | _ => rfl
  | createForm =>
    cases d with
    | createForm f => exact absurd rfl h
    | _ => rfl
  | detail =>
    cases d with
    | detail post => exact absurd rfl h
    | _ => rfl

@[simp] private theorem accepts_view (p : Payload) : p.view.accepts = p.kind := by
  cases p <;> rfl

private theorem content_view (p : Payload) (ctx : Context) :
    p.view.content ctx = (ctx.readWith p.kind p.of?).map p.content := by
  cases p <;> rfl

end Payload

private theorem View.eq_home_or_view (v : View) : v = .home ∨ ∃ p : Payload, v = p.view := by
  cases v with
  | home => exact Or.inl rfl
  | admin => exact Or.inr ⟨.catalog, rfl⟩
  | postList => exact Or.inr ⟨.listing, rfl⟩
  | postCreate => exact Or.inr ⟨.createForm, rfl⟩
  | postDetail => exact Or.inr ⟨.detail, rfl⟩

private theorem Context.readWith_toData (p : Payload) (x : p.Value) :
    Context.readWith ⟨some (p.toData x)⟩ p.kind p.of? = .ok x := by
  simp [Context.readWith, Context.read]

private theorem Context.readWith_of_kind_ne {p : Payload} {d : Data} (h : p.kind ≠ d.kind) :
    Context.readWith ⟨some d⟩ p.kind p.of? = .error (.failed (.unexpectedKind p.kind d.kind)) := by
  simp only [Context.readWith, Context.read, Payload.of?_of_kind_ne h]

private theorem View.content_of_kind_ne {v : View} {d : Data} (hv : v ≠ .home)
    (h : v.accepts ≠ d.kind) :
    v.content ⟨some d⟩ = .error (.failed (.unexpectedKind v.accepts d.kind)) := by
  rcases v.eq_home_or_view with rfl | ⟨p, rfl⟩
  · exact absurd rfl hv
  · rw [p.accepts_view] at h ⊢
    rw [p.content_view, Context.readWith_of_kind_ne h]
    rfl

inductive Operation where
  | publish (data : Data)
  | read
  | readAs (kind : Kind)
  | take (payload : Payload)
  | render (view : View)
  deriving DecidableEq, Repr

namespace Operation

abbrev Result : Operation → Type
  | .publish _ => Unit
  | .read => Data
  | .readAs _ => Data
  | .take p => p.Value
  | .render _ => Node

def published? : Operation → Option Data
  | .publish data => some data
  | _ => none

end Operation

def firstPublished (ops : List Operation) : Option Data :=
  ops.findSome? Operation.published?

@[simp] private theorem firstPublished_cons (op : Operation) (ops : List Operation) :
    firstPublished (op :: ops) = op.published?.or (firstPublished ops) := by
  simp only [firstPublished, List.findSome?_cons]
  cases op.published? <;> rfl

structure Exchange where
  operation : Operation
  reply : Except RenderError operation.Result

def operations (run : List Exchange) : List Operation :=
  run.map (·.operation)

namespace Context

def reply (ctx : Context) : (op : Operation) → Except RenderError op.Result
  | .publish data => (ctx.publish data).map fun _ => ()
  | .read => ctx.read
  | .readAs kind => ctx.readAs kind
  | .take p => ctx.readWith p.kind p.of?
  | .render v => v.content ctx

def next (ctx : Context) : Operation → Context
  | .publish data =>
    match ctx.publish data with
    | .ok filled => filled
    | .error _ => ctx
  | _ => ctx

def after (ctx : Context) (ops : List Operation) : Context :=
  ops.foldl next ctx

def transcript (ctx : Context) : List Operation → List Exchange
  | [] => []
  | op :: ops => ⟨op, ctx.reply op⟩ :: (ctx.next op).transcript ops

end Context

/-- A reply that says which kind of data was expected and which was found. -/
def NamesKinds {α : Type} (expected found : Kind) (reply : Except RenderError α) : Prop :=
  ∃ fault, reply = .error (.failed fault) ∧ fault = .unexpectedKind expected found ∧
    fault.message = "expected " ++ expected.name ++ " data, found " ++ found.name

namespace Operation

/-- The reply to an operation before anything is published. -/
def ReplyBefore : (op : Operation) → Except RenderError op.Result → Prop
  | .publish _, reply => reply = .ok ()
  | _, reply => reply = .error .dataUnavailable

/-- The reply to an operation once data are published. The home page shows whatever they are; the
other views are as particular about their kind as reading is. -/
def ReplyAfter (d : Data) : (op : Operation) → Except RenderError op.Result → Prop
  | .publish _, reply => reply = .error (.failed .publishedTwice)
  | .read, reply => reply = .ok d
  | .readAs k, reply =>
    (reply = .ok d ↔ k = d.kind) ∧ (k ≠ d.kind → NamesKinds k d.kind reply)
  | .take p, reply =>
    (∀ x, reply = .ok x ↔ d = p.toData x) ∧
    ((∃ x, reply = .ok x) ↔ p.kind = d.kind) ∧
    (p.kind ≠ d.kind → NamesKinds p.kind d.kind reply)
  | .render v, reply =>
    ((∃ node, reply = .ok node) ↔ v = .home ∨ v.accepts = d.kind) ∧
    (∃ fresh, Context.empty.publish d = .ok fresh ∧ reply = v.content fresh) ∧
    (v = .home → reply = .ok homeContent) ∧
    (v.accepts = d.kind → reply = .ok d.content) ∧
    (v ≠ .home → v.accepts ≠ d.kind → NamesKinds v.accepts d.kind reply)

end Operation

private theorem namesKinds_error {α : Type} (expected found : Kind) :
    NamesKinds expected found (.error (.failed (.unexpectedKind expected found)) :
      Except RenderError α) :=
  ⟨_, rfl, rfl, rfl⟩

namespace Context

private theorem readAs_of_kind_ne {k : Kind} {d : Data} (h : k ≠ d.kind) :
    readAs ⟨some d⟩ k = .error (.failed (.unexpectedKind k d.kind)) := by
  simp only [readAs, readWith, read, if_neg h.symm]

private theorem replyBefore_reply (op : Operation) : op.ReplyBefore (Context.empty.reply op) := by
  cases op with
  | publish data => rfl
  | read => rfl
  | readAs k => rfl
  | take p => rfl
  | render v => cases v <;> rfl

private theorem replyAfter_readAs (d : Data) (k : Kind) :
    (Operation.readAs k).ReplyAfter d (readAs ⟨some d⟩ k) := by
  by_cases h : k = d.kind
  · subst h
    have hread : readAs ⟨some d⟩ d.kind = .ok d := by simp only [readAs, readWith, read, if_pos]
    exact ⟨iff_of_true hread rfl, fun hne => absurd rfl hne⟩
  · rw [readAs_of_kind_ne h]
    exact ⟨iff_of_false nofun h, fun _ => namesKinds_error k d.kind⟩

private theorem replyAfter_take (d : Data) (p : Payload) :
    (Operation.take p).ReplyAfter d (readWith ⟨some d⟩ p.kind p.of?) := by
  by_cases h : p.kind = d.kind
  · obtain ⟨x, rfl⟩ := Payload.exists_eq_toData h
    rw [readWith_toData]
    refine ⟨fun y => ⟨fun hxy => ?_, fun hxy => ?_⟩, iff_of_true ⟨x, rfl⟩ h,
      fun hne => absurd h hne⟩
    · rw [Except.ok.inj hxy]
    · have hsome : some x = some y := by simpa using congrArg p.of? hxy
      rw [Option.some.inj hsome]
  · rw [readWith_of_kind_ne h]
    refine ⟨fun y => iff_of_false nofun ?_, iff_of_false nofun h, fun _ => namesKinds_error _ _⟩
    rintro rfl
    exact h (by simp)

private theorem replyAfter_render (d : Data) (v : View) :
    (Operation.render v).ReplyAfter d (v.content ⟨some d⟩) := by
  have hhome : v = .home → v.content ⟨some d⟩ = .ok homeContent := by
    rintro rfl
    rfl
  have hkind : v.accepts = d.kind → v.content ⟨some d⟩ = .ok d.content :=
    fun h => View.content_of_kind h.symm
  have hother : v ≠ .home → v.accepts ≠ d.kind →
      NamesKinds v.accepts d.kind (v.content ⟨some d⟩) := by
    intro hv h
    rw [View.content_of_kind_ne hv h]
    exact namesKinds_error _ _
  refine ⟨⟨?_, ?_⟩, ⟨⟨some d⟩, rfl, rfl⟩, hhome, hkind, hother⟩
  · rintro ⟨node, hnode⟩
    refine Decidable.byContradiction fun hneither => ?_
    obtain ⟨hv, h⟩ := not_or.1 hneither
    rw [View.content_of_kind_ne hv h] at hnode
    cases hnode
  · rintro (hv | h)
    · exact ⟨_, hhome hv⟩
    · exact ⟨_, hkind h⟩

private theorem replyAfter_reply (d : Data) (op : Operation) :
    op.ReplyAfter d (reply ⟨some d⟩ op) := by
  cases op with
  | publish data => rfl
  | read => rfl
  | readAs k => exact replyAfter_readAs d k
  | take p => exact replyAfter_take d p
  | render v => exact replyAfter_render d v

private theorem next_eq (ctx : Context) (op : Operation) :
    ctx.next op = ⟨ctx.slot.or op.published?⟩ := by
  obtain ⟨slot⟩ := ctx
  cases slot with
  | none => cases op <;> rfl
  | some d => cases op <;> rfl

@[simp] private theorem after_cons (ctx : Context) (op : Operation) (ops : List Operation) :
    ctx.after (op :: ops) = (ctx.next op).after ops :=
  rfl

private theorem after_eq (ctx : Context) (ops : List Operation) :
    ctx.after ops = ⟨ctx.slot.or (firstPublished ops)⟩ := by
  induction ops generalizing ctx with
  | nil =>
    obtain ⟨slot⟩ := ctx
    simp [after, firstPublished]
  | cons op ops ih => simp [ih, next_eq, Option.or_assoc]

private theorem after_empty (ops : List Operation) :
    Context.empty.after ops = ⟨firstPublished ops⟩ := by
  rw [after_eq]
  rfl

private theorem operations_transcript (ctx : Context) (ops : List Operation) :
    operations (ctx.transcript ops) = ops := by
  induction ops generalizing ctx with
  | nil => rfl
  | cons op ops ih => exact congrArg (op :: ·) (ih (ctx.next op))

private theorem transcript_append (ctx : Context) (front back : List Operation) :
    ctx.transcript (front ++ back) = ctx.transcript front ++ (ctx.after front).transcript back := by
  induction front generalizing ctx with
  | nil => rfl
  | cons op front ih =>
    rw [List.cons_append, transcript, transcript, ih, List.cons_append, after_cons]

/-- The replies of a run, before, at and after one of its operations. -/
private theorem transcript_parts {ctx : Context} {ops : List Operation} {front back : List Exchange}
    {op : Operation} {reply : Except RenderError op.Result}
    (h : ctx.transcript ops = front ++ ⟨op, reply⟩ :: back) :
    ctx.transcript (operations front) = front ∧
    reply = (ctx.after (operations front)).reply op ∧
    ((ctx.after (operations front)).next op).transcript (operations back) = back := by
  have hops : ops = operations front ++ op :: operations back := by
    rw [← operations_transcript ctx ops, h]
    simp only [operations, List.map_append, List.map_cons]
  -- both sides have as many exchanges before the one in question, so they part at the same place
  have hlength : (ctx.transcript (operations front)).length = front.length := by
    have hmap := congrArg List.length (operations_transcript ctx (operations front))
    simpa only [operations, List.length_map] using hmap
  rw [hops, transcript_append, transcript] at h
  obtain ⟨hfront, hrest⟩ := List.append_inj h hlength
  obtain ⟨hexchange, hback⟩ := List.cons.inj hrest
  exact ⟨hfront, (eq_of_heq (Exchange.mk.inj hexchange).2).symm, hback⟩

/-- The slot of a context is written once. In every run each operation has its reply. Until data are
published, publishing succeeds and all else finds them unavailable; from then on publishing fails,
reading gives those first data, and who expects another kind is told so, as in a context where
nothing else ever happened. An operation after the first data changes neither the context nor any
other reply. -/
theorem slot_is_written_once (ops : List Operation) :
    operations (Context.empty.transcript ops) = ops ∧
    ∀ (front back : List Exchange) (op : Operation) (reply : Except RenderError op.Result),
      Context.empty.transcript ops = front ++ ⟨op, reply⟩ :: back →
      (firstPublished (operations front) = none → op.ReplyBefore reply) ∧
      ∀ d, firstPublished (operations front) = some d →
        op.ReplyAfter d reply ∧
        (Context.empty.after (operations front)).next op = Context.empty.after (operations front) ∧
        Context.empty.transcript (operations front ++ operations back) = front ++ back := by
  refine ⟨operations_transcript _ ops, fun front back op reply h => ?_⟩
  obtain ⟨hfront, hreply, hback⟩ := transcript_parts h
  subst hreply
  rw [after_empty] at hback ⊢
  constructor
  · intro hnone
    rw [hnone]
    exact replyBefore_reply op
  · intro d hd
    have hnext : next ⟨some d⟩ op = ⟨some d⟩ := next_eq ⟨some d⟩ op
    rw [hd] at hback ⊢
    refine ⟨replyAfter_reply d op, hnext, ?_⟩
    rw [transcript_append, hfront, after_empty, hd, ← hnext, hback]

def notice : Post := ⟨"1", "Notice", "", "notice", "published", "post"⟩

/-- Operations that show a page too early, publish data twice, and expect other data. -/
def contested : List Operation :=
  [.render .home, .publish (.detail notice), .publish .home, .take .detail, .render .home,
    .render .admin]

theorem slot_is_written_once_contested :
    Context.empty.transcript contested =
      [⟨.render .home, .error .dataUnavailable⟩, ⟨.publish (.detail notice), .ok ()⟩,
        ⟨.publish .home, .error (.failed .publishedTwice)⟩, ⟨.take .detail, .ok notice⟩,
        ⟨.render .home, .ok homeContent⟩,
        ⟨.render .admin, .error (.failed (.unexpectedKind .catalog .detail))⟩] ∧
    (Operation.render .home).ReplyBefore (.error .dataUnavailable) ∧
    (Operation.publish .home).ReplyAfter (.detail notice) (.error (.failed .publishedTwice)) ∧
    Context.empty.transcript
        [.render .home, .publish (.detail notice), .take .detail, .render .home, .render .admin] =
      [⟨.render .home, .error .dataUnavailable⟩, ⟨.publish (.detail notice), .ok ()⟩,
        ⟨.take .detail, .ok notice⟩, ⟨.render .home, .ok homeContent⟩,
        ⟨.render .admin, .error (.failed (.unexpectedKind .catalog .detail))⟩] ∧
    (Operation.render .home).ReplyAfter (.detail notice) (.ok homeContent) ∧
    (Operation.render .admin).ReplyAfter (.detail notice)
      (.error (.failed (.unexpectedKind .catalog .detail))) := by
  obtain ⟨-, hreplies⟩ := slot_is_written_once contested
  obtain ⟨hearly, -⟩ := hreplies [] _ (.render .home) _ rfl
  obtain ⟨-, hagain⟩ := hreplies
    [⟨.render .home, .error .dataUnavailable⟩, ⟨.publish (.detail notice), .ok ()⟩] _
    (.publish .home) _ rfl
  obtain ⟨-, hhome⟩ := hreplies
    [⟨.render .home, .error .dataUnavailable⟩, ⟨.publish (.detail notice), .ok ()⟩,
      ⟨.publish .home, .error (.failed .publishedTwice)⟩, ⟨.take .detail, .ok notice⟩] _
    (.render .home) _ rfl
  obtain ⟨-, hadmin⟩ := hreplies
    [⟨.render .home, .error .dataUnavailable⟩, ⟨.publish (.detail notice), .ok ()⟩,
      ⟨.publish .home, .error (.failed .publishedTwice)⟩, ⟨.take .detail, .ok notice⟩,
      ⟨.render .home, .ok homeContent⟩] _ (.render .admin) _ rfl
  obtain ⟨hrejected, -, hdropped⟩ := hagain (.detail notice) rfl
  exact ⟨rfl, hearly rfl, hrejected, hdropped, (hhome _ rfl).1, (hadmin _ rfl).1⟩

end Context

end Pressroom.Page
