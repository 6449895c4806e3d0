/-!
Shutdown signals. A channel hands each trigger to every receiver that is listening, and keeps only
the newest one: a receiver that missed some is told how many.
-/

set_option autoImplicit false
set_option relaxedAutoImplicit false

namespace Pressroom.Shutdown

/-- A channel: how many triggers it has sent, whether its sender is still there, and how many
triggers each receiver is past. A receiver that was used up or dropped has no place any more. -/
structure Channel where
  sent : Nat
  senderAlive : Bool
  receivers : List (Option Nat)
  deriving DecidableEq, Repr

inductive Received where
  | signal
  | empty
  | closed
  | lagged (missed : Nat)
  deriving DecidableEq, Repr

inductive Step where
  | subscribe
  | trigger
  | dropSender
  | drop (index : Nat)
  | poll (index : Nat)
  | signal (index : Nat)
  deriving DecidableEq, Repr

inductive Answer where
  | subscribed (index : Nat)
  | listening (count : Nat)
  | dropped
  | received (what : Received)
  | ended (done : Bool)
  | gone
  deriving DecidableEq, Repr

namespace Channel

def new : Channel := ⟨0, true, []⟩

/-- The place of a receiver that is still there. -/
def place? (c : Channel) (index : Nat) : Option Nat :=
  (c.receivers[index]?).join

def listening (c : Channel) : Nat :=
  (c.receivers.filter (·.isSome)).length

def setPlace (c : Channel) (index : Nat) (place : Option Nat) : Channel :=
  { c with receivers := c.receivers.set index place }

/-- What a receiver at a place finds, and its place after that. Only the newest trigger is kept. -/
def receive (c : Channel) (place : Nat) : Received × Nat :=
  if c.sent ≤ place then (if c.senderAlive then .empty else .closed, place)
  else if place + 1 < c.sent then (.lagged (c.sent - place - 1), c.sent - 1)
  else (.signal, c.sent)

/-- Send a trigger to the receivers. Without receivers nothing is sent. -/
def trigger (c : Channel) : Channel :=
  if c.listening = 0 then c else { c with sent := c.sent + 1 }

def step (c : Channel) (s : Step) : Answer × Channel :=
  match s with
  | .subscribe =>
    if c.senderAlive then
      (.subscribed c.receivers.length, { c with receivers := c.receivers ++ [some c.sent] })
    else (.gone, c)
  | .trigger => if c.senderAlive then (.listening c.listening, c.trigger) else (.gone, c)
  | .dropSender => (.dropped, { c with senderAlive := false })
  | .drop index =>
    match c.place? index with
    | none => (.gone, c)
    | some _ => (.dropped, c.setPlace index none)
  | .poll index =>
    match c.place? index with
    | none => (.gone, c)
    | some place =>
      let (what, place) := c.receive place
      (.received what, c.setPlace index (some place))
  | .signal index =>
    match c.place? index with
    | none => (.gone, c)
    | some place => (.ended (decide ((c.receive place).1 ≠ .empty)), c.setPlace index none)

def run (c : Channel) : List Step → List Answer × Channel
  | [] => ([], c)
  | s :: rest =>
    let (a, c) := c.step s
    let (as, c) := c.run rest
    (a :: as, c)

end Channel

end Pressroom.Shutdown
