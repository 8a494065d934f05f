import VolumeDriver.Net.Address

/-!
# Endpoints: where the driver listens

An endpoint is a Unix socket, `unix:///path` or `unix:/path`, or a TCP address, `tcp://host:port`. The path of a socket is
absolute and is kept as it is written.
-/

namespace VolumeDriver

inductive Endpoint where
  | unix (path : String)
  | tcp (address : Net.SocketAddress)
  deriving DecidableEq

namespace Endpoint

/-- The path that stands after `unix:`, without the two slashes that may come before it. -/
def unixPath (rest : List Char) : List Char := (Text.afterChars ['/', '/'] rest).getD rest

def parseChars (cs : List Char) : Option Endpoint :=
  match Text.afterChars ['u', 'n', 'i', 'x', ':'] cs with
  | some rest => if (unixPath rest).head? = some '/' then some (unix (String.ofList (unixPath rest))) else none
  | none =>
    match Text.afterChars ['t', 'c', 'p', ':', '/', '/'] cs with
    | some rest => tcp <$> Net.SocketAddress.parse rest
    | none => none

/-- Reads an endpoint. -/
def parse (s : String) : Option Endpoint := parseChars s.toList

/-- What is said of a text that is no endpoint. -/
def invalidMessage (s : String) : String := "invalid endpoint '" ++ s ++ "'"

def render : Endpoint → String
  | unix path => "unix://" ++ path
  | tcp address => "tcp://" ++ address.render

end Endpoint

end VolumeDriver
