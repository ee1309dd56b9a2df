import Chatflow.Service.Conversation

/-!
# Text generation

A generator that gives prepared responses, and then the same one again and again. Every prompt is
recorded, also of a call that fails.
-/

namespace Chatflow.Service

structure Prompt where
  system : String
  message : String
  history : List Turn

structure Generator where
  responses : List Value
  fallback : Value
  outage : Option Fault
  script : Script Fault
  prompts : List Prompt

namespace Generator

def scripted (responses : List Value) (fallback : Value) : Generator :=
  ⟨responses, fallback, none, .silent, []⟩

/-- The response to a prompt. A failed call consumes none. -/
def generate (g : Generator) (prompt : Prompt) : Except Fault Value × Generator :=
  let g := { g with prompts := g.prompts ++ [prompt] }
  match g.outage with
  | some fault => (.error fault, g)
  | none =>
    let (event, script) := g.script.next
    let g := { g with script }
    match event with
    | some fault => (.error fault, g)
    | none =>
      match g.responses with
      | response :: rest => (.ok response, { g with responses := rest })
      | [] => (.ok g.fallback, g)

end Generator

end Chatflow.Service
