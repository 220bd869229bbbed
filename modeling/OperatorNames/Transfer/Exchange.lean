import OperatorNames.Transfer.Address
import OperatorNames.Transfer.Response
import OperatorNames.Transfer.Server

/-!
# Transfers

A transfer asks for a document and follows redirections, each by one more request, until a response
does not redirect.  Nothing is asked for twice unless a redirection says so.
-/

namespace OperatorNames.Transfer

/-- What a transfer is limited to. -/
structure Limits where
  /-- How many seconds a connection may take to come about. -/
  connectTimeout : Option UInt64 := none
  /-- How many seconds the whole transfer may take. -/
  timeout : Option UInt64 := none
  /-- How many redirections are followed. -/
  maxRedirects : UInt32 := 10
  deriving DecidableEq

/-- Whether a number of seconds is one that a clock can count. -/
def isCountable (seconds : UInt64) : Bool :=
  seconds.toNat < 0x8000000000000000

/-- Whether the limits are such that a transfer can keep to them. -/
def Limits.areUsable (l : Limits) : Bool :=
  l.connectTimeout.all isCountable && l.timeout.all isCountable

/-- What has come of a transfer. -/
structure Exchange where
  /-- The last response, or why there is none. -/
  result : Except TransferFault Response
  /-- The requests that reached a server, in order. -/
  requests : List Address := []

/-- Asks for an address and follows at most `left` redirections. -/
def exchange (network : Network) (left : Nat) (a : Address) : Exchange :=
  match network a with
  | .error fault => { result := .error fault }
  | .ok sent =>
    match Response.read sent with
    | .error fault => { result := .error fault, requests := [a] }
    | .ok response =>
      match response.redirect with
      | none => { result := .ok response, requests := [a] }
      | some location =>
        match left with
        | 0 => { result := .error .tooManyRedirects, requests := [a] }
        | left + 1 =>
          match a.follow location with
          | .error fault => { result := .error fault, requests := [a] }
          | .ok next =>
            let later := exchange network left next
            { later with requests := a :: later.requests }

/-- Fetches what a URL names. -/
def perform (network : Network) (limits : Limits) (u : Url) : Exchange :=
  if !limits.areUsable then { result := .error .badOption }
  else match Address.ofUrl u with
    | .error fault => { result := .error fault }
    | .ok a => exchange network limits.maxRedirects.toNat a

end OperatorNames.Transfer
