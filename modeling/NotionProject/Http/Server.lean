import NotionProject.Http.Basic

/-!
# Servers

A `Server` stands for all that a run of calls will ever hear: replies in the order in which
they are taken, or no connection at all. When the replies have run out, every further
request is answered with status 500 and no text.
-/

namespace NotionProject

/-- What is at the other end. -/
inductive Server where
  | offline
  | scripted (replies : List Reply)
deriving DecidableEq

namespace Server

/-- The answer of a server that has no replies left. -/
def exhausted : Reply := .answer 500 ""

/-- The next reply, and the server after it. -/
def take : Server → Reply × Server
  | offline => (.unreachable, offline)
  | scripted [] => (exhausted, scripted [])
  | scripted (reply :: rest) => (reply, scripted rest)

/-- The replies that have not been taken. -/
def remaining : Server → List Reply
  | offline => []
  | scripted replies => replies

end Server

end NotionProject
