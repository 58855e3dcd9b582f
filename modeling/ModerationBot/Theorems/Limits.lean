import ModerationBot.Lemmas.Username
import ModerationBot.Theorems.Authorization
import ModerationBot.Theorems.Bridging
import ModerationBot.Theorems.Sanitize

namespace ModerationBot

variable {guildOf : UInt64 → UInt64}

/-! ## The limits of Discord -/

end ModerationBot
