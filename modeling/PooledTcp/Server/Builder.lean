import PooledTcp.Config.Settings
import PooledTcp.Server.Basic

/-!
# Building a server

A server is built from an address, timeouts and a handler; without a handler there is none.
-/

namespace PooledTcp

/-- What a server is built from. -/
structure ServerBuilder (η : Type) where
  addr : String
  timeouts : Timeouts := {}
  handler : Option η := none

namespace ServerBuilder

variable {η : Type}

/-- The address and the timeouts of a section of settings. -/
def ofSettings (s : ServerSettings) : ServerBuilder η :=
  { addr := s.bindAddress,
    timeouts :=
      { read := s.readTimeout, write := s.writeTimeout, keepAlive := s.keepAliveTimeout } }

/-- The same with a handler. -/
def withHandler (b : ServerBuilder η) (h : η) : ServerBuilder η := { b with handler := some h }

/-- The complaint about a missing handler. -/
def handlerEmpty : String := "handler empty"

/-- A server that has not started, and its handler. -/
def build (b : ServerBuilder η) : Except String (Server × η) :=
  match b.handler with
  | some h => .ok ({ addr := b.addr, timeouts := b.timeouts }, h)
  | none => .error handlerEmpty

end ServerBuilder
end PooledTcp
