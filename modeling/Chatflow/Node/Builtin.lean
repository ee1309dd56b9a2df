import Chatflow.Node.Action
import Chatflow.Node.Generate
import Chatflow.Node.Keywords
import Chatflow.Node.Lookup
import Chatflow.Node.Message
import Chatflow.Node.Template
import Chatflow.Node.Trigger

/-!
# The built-in executors

One executor for each subtype, in the order in which listings show them.
-/

namespace Chatflow

def builtinExecutors : List Executor :=
  [directMessage, comment, storyReply, mention, keywords, isFollower, hasTag, yesBranch, noBranch,
    message, generate, replyComment, replyMention, carousel, buttonTemplate, quickReplies, typingOn,
    typingOff, markSeen, delay]

end Chatflow
