import ModerationBot.Proxy.Webhook

/-!
# Deliveries at once

Any number of inbound deliveries over one world, each of which issues its next request when its turn comes. Every request is
served, and nobody else changes the webhooks of the channel.
-/

namespace ModerationBot

/-- The arguments of a delivery. -/
structure Delivery where
  platform : Platform
  remoteChatId : String
  msg : RemoteMessage

/-- The deliveries in progress, by number, and the requests they issued, in order. -/
structure Deliveries (ι : Type) where
  world : World
  tasks : ι → Bot Unit
  issued : List (ι × Request)

namespace Deliveries

variable {ι : Type} [DecidableEq ι]

/-- A delivery issues its next request. -/
def step (s : Deliveries ι) (i : ι) : Deliveries ι :=
  match (s.tasks i).awaits with
  | none => s
  | some q =>
    { world := ((s.tasks i).advance serve none s.world).2
      tasks := Function.update s.tasks i ((s.tasks i).advance serve none s.world).1
      issued := s.issued ++ [(i, q)] }

omit [DecidableEq ι] in
/-- The deliveries before their first requests. -/
def start (w : World) (calls : ι → Delivery) : Deliveries ι where
  world := w
  tasks i := deliverInbound (calls i).platform (calls i).remoteChatId (calls i).msg
  issued := []

/-- The deliveries after a run: whose turn it was, in order. -/
def run (w : World) (calls : ι → Delivery) (turns : List ι) : Deliveries ι := turns.foldl step (start w calls)

end Deliveries

end ModerationBot
