import ModerationBot.Text

/-!
# Sanitizing relayed text

`src/proxy/sanitize.rs`: a zero-width space after every `@`, then the cut at Discord's limit.
-/

namespace ModerationBot

/-- The zero-width space inserted after every `@`. -/
def zwsp : Char := Char.ofNat 0x200B

/-- Discord's hard limit on the length of a message, in characters. -/
def maxMessageChars : Nat := 2000

/-- Insert a zero-width space after each `@`. -/
def sanitizeContent (input : String) : String :=
  String.ofList (input.toList.flatMap (fun c => if c == '@' then ['@', zwsp] else [c]))

/-- Sanitize and then cut at the limit; nothing when only whitespace is left to send. -/
def prepareRelayContent (input : String) : Option String :=
  let prepared := takeChars maxMessageChars (sanitizeContent input)
  if trim prepared = "" then none else some prepared

end ModerationBot
