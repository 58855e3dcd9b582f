import ModerationBot.Events
import ModerationBot.Proxy.Webhook

/-!
# The bridge, run

Both directions of the message proxy over one world. Routes are linked and unlinked, inbound deliveries go on request by request,
other accounts post messages, and the event of each message is handed to the event handler once, which processes it request by
request: in any order.
-/

namespace ModerationBot

/-- An event as far as it was processed: the event, and the route table at its lookup once that has come. -/
structure Processed where
  event : Posted
  lookup : Option RouteTable

/-- An event that is being processed, and what is left of its handler. -/
structure Handling extends Processed where
  rest : Bot Unit

/-- The state of the bridge. `sends` records what was handed to the egress, and in the processing of which event. -/
structure Bridge where
  world : World
  deliveries : List (Bot Unit)
  handlings : List Handling
  processed : List Processed
  sends : List (Posted × RelayMessage)

/-- What can happen next. -/
inductive Action where
  | link (guildId discordChannel : UInt64) (platform : Platform) (remoteChatId : String) (createdBy : UInt64)
  | unlink (guildId discordChannel : UInt64) (platform : Platform)
  | deliver (platform : Platform) (remoteChatId : String) (msg : RemoteMessage)
  | relay (i : Nat) (fault : Option Error)
  | post (message : Message)
  | dispatch (i : Nat)
  | handle (i : Nat)

/-- A handler that looks a channel up notes the table of that moment. -/
def Handling.lookupIn (h : Handling) (w : World) : Option RouteTable :=
  match h.rest.awaits with
  | some (.selectRemote _) => some w.routes
  | _ => h.lookup

/-- What the next request of a handler hands to the egress. -/
def Handling.sending (h : Handling) : List (Posted × RelayMessage) :=
  match h.rest.awaits with
  | some (.egress msg) => [(h.event, msg)]
  | _ => []

/-- The processing after its next request was served. -/
def Handling.next (h : Handling) (w : World) : Handling := ⟨⟨h.event, h.lookupIn w⟩, (h.rest.advance serve none w).1⟩

/-- The event is processed when its handler has ended. -/
def Handling.finished (h : Handling) : Bool := h.rest.awaits.isNone

namespace Bridge

/-- The bridge after an action; an action that does not apply changes nothing. -/
def step (s : Bridge) : Action → Bridge
  | .link g c p r createdBy => { s with world := ((Routes.link g c p r createdBy).run serve s.world).state }
  | .unlink g c p => { s with world := ((Routes.unlink g c p).run serve s.world).state }
  | .deliver p r msg => { s with deliveries := s.deliveries ++ [deliverInbound p r msg] }
  | .relay i fault =>
    match s.deliveries[i]? with
    | none => s
    | some d =>
      { s with
        deliveries := s.deliveries.set i (d.advance serve fault s.world).1
        world := (d.advance serve fault s.world).2 }
  | .post message => { s with world := s.world.post false message }
  | .dispatch i =>
    match s.world.inFlight[i]? with
    | none => s
    | some e =>
      { s with
        world := { s.world with inFlight := s.world.inFlight.eraseIdx i }
        handlings := s.handlings ++ [⟨⟨e, none⟩, eventHandler (.message e.message)⟩] }
  | .handle i =>
    match s.handlings[i]? with
    | none => s
    | some h =>
      let next := h.next s.world
      { s with
        world := (h.rest.advance serve none s.world).2
        handlings := if next.finished then s.handlings.eraseIdx i else s.handlings.set i next
        processed := if next.finished then s.processed ++ [next.toProcessed] else s.processed
        sends := s.sends ++ h.sending }

/-- The bridge of a world at the start: no route, no message in flight, nothing sent. -/
def start (w : World) : Bridge where
  world := { w with routes := .empty, inFlight := [], sent := [] }
  deliveries := []
  handlings := []
  processed := []
  sends := []

/-- The bridge after a run. -/
def run (w : World) (actions : List Action) : Bridge := actions.foldl step (start w)

end Bridge

end ModerationBot
