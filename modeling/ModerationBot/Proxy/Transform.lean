import ModerationBot.Text

/-!
# The outbound gate

`src/proxy/transform.rs`: whether a Discord message is relayed outbound.
-/

namespace ModerationBot

/-- A message is relayed outbound when no webhook wrote it, its author is not the bot, and it is not blank. -/
def shouldRelay (webhookId : Option UInt64) (authorId botId : UInt64) (content : String) : Bool :=
  webhookId.isNone && authorId != botId && !(trim content == "")

/-- The gate, spelled out. -/
theorem shouldRelay_iff (webhookId : Option UInt64) (authorId botId : UInt64) (content : String) :
    shouldRelay webhookId authorId botId content = true ↔
      webhookId = none ∧ authorId ≠ botId ∧ ∃ c ∈ content.toList, isWhitespace c = false := by
  rw [← trim_ne_empty_iff]
  simp [shouldRelay, and_assoc]

end ModerationBot
