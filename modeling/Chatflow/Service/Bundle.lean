import Chatflow.Service.AuditStore
import Chatflow.Service.Content
import Chatflow.Service.FlagCache
import Chatflow.Service.Generator
import Chatflow.Service.RateLimiter
import Chatflow.Service.Sheets

/-!
# The collaborators of a run

Any of them may be missing. A node that needs a missing one fails with a fault that names it.
-/

namespace Chatflow.Service

inductive Capability where
  | messaging
  | content
  | ai
  | chatHistory
  | flags
  | rateLimiter
  | sheets
deriving Repr, DecidableEq

namespace Capability

def all : List Capability := [messaging, content, ai, chatHistory, flags, rateLimiter, sheets]

def name : Capability → String
  | messaging => "messaging"
  | content => "content"
  | ai => "ai"
  | chatHistory => "chat_history"
  | flags => "flags"
  | rateLimiter => "rate_limiter"
  | sheets => "sheets"

end Capability

structure Bundle where
  messaging : Option Messenger
  content : Option Content
  ai : Option Generator
  chatHistory : Option ChatHistory
  flags : Option FlagCache
  rateLimiter : Option (RateLimiter Float)
  sheets : Option Sheets

namespace Bundle

def none : Bundle :=
  ⟨Option.none, Option.none, Option.none, Option.none, Option.none, Option.none, Option.none⟩

def has (b : Bundle) : Capability → Bool
  | .messaging => b.messaging.isSome
  | .content => b.content.isSome
  | .ai => b.ai.isSome
  | .chatHistory => b.chatHistory.isSome
  | .flags => b.flags.isSome
  | .rateLimiter => b.rateLimiter.isSome
  | .sheets => b.sheets.isSome

/-- Asks for a capability by name. A name that belongs to none is missing as well. -/
def require (b : Bundle) (name : String) : Except Fault Unit :=
  match Capability.all.find? (·.name == name) with
  | some c => if b.has c then .ok () else .error (.unavailable name)
  | Option.none => .error (.unavailable name)

end Bundle

end Chatflow.Service
