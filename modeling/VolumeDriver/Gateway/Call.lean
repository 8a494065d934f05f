import VolumeDriver.Program
import VolumeDriver.Volume

/-!
# Calls of a volume gateway

A gateway is where volumes are made, found, attached and grown. A call names everything it is about, and its answer is of a
type that the call fixes.
-/

namespace VolumeDriver

/-- The operations of a gateway. -/
inductive GatewayOp where
  | create | getById | getByName | delete | attach | detach | resize | all
  deriving DecidableEq, Repr

/-- An operation with its arguments. -/
inductive GatewayCall where
  | create (options : CreateOptions)
  | getById (id : VolumeId)
  | getByName (name : String)
  | delete (id : VolumeId)
  | attach (id : VolumeId) (server : ServerId)
  /-- Detaches from the named server, or from whichever server holds the volume. -/
  | detach (id : VolumeId) (server : Option ServerId)
  | resize (id : VolumeId) (sizeGib : UInt64)
  | all
  deriving DecidableEq

namespace GatewayCall

def op : GatewayCall → GatewayOp
  | create _ => .create
  | getById _ => .getById
  | getByName _ => .getByName
  | delete _ => .delete
  | attach _ _ => .attach
  | detach _ _ => .detach
  | resize _ _ => .resize
  | all => .all

/-- What a successful call answers. -/
abbrev Answer : GatewayCall → Type
  | create _ | getById _ | getByName _ => Volume
  | all => List Volume
  | delete _ | attach _ _ | detach _ _ | resize _ _ => Unit

end GatewayCall

/-- The interface of a gateway: every call may fail. -/
abbrev gateway : Interface := ⟨GatewayCall, fun c => Except VolumeError c.Answer⟩

/-- The program that makes one gateway call. -/
abbrev askGateway (c : GatewayCall) : Program gateway (Except VolumeError c.Answer) :=
  Program.ask (I := gateway) c

end VolumeDriver
