/-!
# The two seams of the message proxy

`src/proxy/mod.rs`: the platforms a channel can be bridged to, and the messages that cross the bridge in each direction.
-/

namespace ModerationBot

/-- External platforms a Discord channel can be bridged to. -/
inductive Platform where
  | telegram
  deriving DecidableEq, Repr

/-- The stored discriminant. -/
def Platform.asI16 : Platform → Int16
  | .telegram => 0

/-- A platform from its stored discriminant; an unknown value yields none. -/
def Platform.fromI16 (v : Int16) : Option Platform :=
  if v = 0 then some .telegram else none

/-- The label of a platform in command replies. -/
def Platform.label : Platform → String
  | .telegram => "Telegram"

/-- A message from a remote platform, to be relayed into Discord. -/
structure RemoteMessage where
  author : String
  avatarUrl : Option String
  content : String
  deriving DecidableEq, Repr

/-- A message that leaves Discord for a remote platform. -/
structure RelayMessage where
  platform : Platform
  remoteChatId : String
  author : String
  content : String
  deriving DecidableEq, Repr

/-- The discriminant of a platform is read back as that platform. -/
@[simp] theorem Platform.fromI16_asI16 (p : Platform) : fromI16 p.asI16 = some p := by
  cases p
  rfl

/-- Only the discriminant of a platform is read as that platform. -/
theorem Platform.fromI16_eq_some_iff {v : Int16} {p : Platform} : fromI16 v = some p ↔ v = p.asI16 := by
  cases p
  simp [fromI16, asI16]

end ModerationBot
