import Mathlib.Logic.Function.Basic
import Chatflow.Service.KeyStore

/-!
# Databases with clients

A database executes the commands of its clients one after the other. A client sees it as the
key-value database behind its stores, and has a log of its own.
-/

namespace Chatflow.Service

variable {σ τ : Type}

/-- A database that executes commands one after the other, each at a time. -/
structure Database (σ τ : Type) where
  execute : τ → Command → σ → Value × σ

structure Site (σ : Type) where
  data : σ
  logs : Nat → List (String × Entries Value)

def Site.logged (site : Site σ) (client : Nat) (message : String) (fields : Entries Value) :
    Site σ :=
  { site with
    logs := Function.update site.logs client (site.logs client ++ [(message, fields)]) }

structure Arrival (τ : Type) where
  client : Nat
  time : τ

abbrev Connection (σ : Type) := ExceptT Fault (StateM (Site σ))

theorem Connection.run_bind_of_run {α β : Type} {body : Connection σ α} {a : α}
    {site after : Site σ} (ends : body.run.run site = (.ok a, after)) (next : α → Connection σ β) :
    (body >>= next).run.run site = (next a).run.run after := by
  rw [ExceptT.run_bind, StateT.run_bind, ends]
  rfl

namespace Database

def executeAll (db : Database σ τ) (now : τ) : List Command → σ → List Value × σ
  | [], data => ([], data)
  | c :: rest, data =>
    let (reply, data) := db.execute now c data
    let (replies, data) := db.executeAll now rest data
    (reply :: replies, data)

def answer (db : Database σ τ) (now : τ) : Request → σ → Value × σ
  | .single c, data => db.execute now c data
  | .together cs, data =>
    let (replies, data) := db.executeAll now cs data
    (.list replies, data)

/-- What a client sees of the database at a time. -/
def client (db : Database σ τ) (now : τ) (client : Nat) : KeyStore (Connection σ) where
  ask request := fun site =>
    let (reply, data) := db.answer now request site.data
    (.ok reply, { site with data })
  tell message fields := fun site => (.ok (), site.logged client message fields)

theorem run_ask (db : Database σ τ) (now : τ) (client : Nat) (request : Request) (site : Site σ) :
    ((db.client now client).ask request).run.run site =
      (.ok (db.answer now request site.data).1,
        { site with data := (db.answer now request site.data).2 }) := rfl

theorem run_tell (db : Database σ τ) (now : τ) (client : Nat) (message : String)
    (fields : Entries Value) (site : Site σ) :
    ((db.client now client).tell message fields).run.run site =
      (.ok (), site.logged client message fields) := rfl

end Database

end Chatflow.Service
