import ModerationBot.Events
import ModerationBot.Commands.Moderation
import ModerationBot.Commands.Proxy
import ModerationBot.Theorems.Routes
import ModerationBot.Theorems.Inbound
import ModerationBot.Library.LastWins
import ModerationBot.Theorems.Allowlist
import ModerationBot.Theorems.Hierarchy
import ModerationBot.Theorems.Mediation
import ModerationBot.Theorems.Outbound
import ModerationBot.Theorems.Humans
import ModerationBot.Theorems.ManagedWebhook
import ModerationBot.Theorems.ReplyLength
import ModerationBot.Theorems.Mentions
import ModerationBot.Theorems.Username
import ModerationBot.Theorems.Sanitize
import ModerationBot.Theorems.AllowlistEdits
import ModerationBot.Theorems.Durations
import ModerationBot.Theorems.PollOptions
import ModerationBot.Theorems.RoleCache
import ModerationBot.Theorems.ModerationCalls
import ModerationBot.Theorems.Restore
import ModerationBot.Theorems.StripPass
import ModerationBot.Theorems.Authorization
import ModerationBot.Theorems.Bridging
import ModerationBot.Theorems.Isolation
import ModerationBot.Theorems.RouteHistory
import ModerationBot.Theorems.AllowlistHistory
import ModerationBot.Theorems.Conclusions
import ModerationBot.Theorems.Reports
import ModerationBot.Theorems.Polls
import ModerationBot.Theorems.Limits
import ModerationBot.Theorems.WebhookHistory
import ModerationBot.Theorems.Promptness
