import OperatorNames.Transfer.Exchange

/-!
# Chains of redirections

A transfer, said without the order in which it is carried out: from the address that is asked for,
redirections lead to a last one (`Redirects`), and what comes of the transfer is decided there
(`Ends`), by how the last address answers and by how many redirections could still be followed.

The main statement is `exchange_eq_iff`: a transfer comes to exactly what the chain says, and asks
exactly the addresses on it.
-/

namespace OperatorNames.Transfer

/-- What comes back from an address can be read as a complete response. -/
def Answers (network : Network) (a : Address) (response : Response) : Prop :=
  ∃ sent, network a = .ok sent ∧ Response.read sent = .ok response

/-- Responses lead from one address to another; `hops` are the addresses that redirect. -/
inductive Redirects (network : Network) : Address → List Address → Address → Prop
  | here (a : Address) : Redirects network a [] a
  | hop {a next last : Address} {hops : List Address} {response : Response} {location : Text}
      (hanswers : Answers network a response) (hlocation : response.redirect = some location)
      (hfollow : a.follow location = .ok next) (hrest : Redirects network next hops last) :
      Redirects network a (a :: hops) last

/-- What a transfer comes to at the last address, when `left` more redirections could be followed,
and which requests reach a server there. -/
inductive Ends (network : Network) (left : Nat) (a : Address) :
    Except TransferFault Response → List Address → Prop
  /-- A complete response does not redirect. -/
  | answered {response : Response} (hanswers : Answers network a response)
      (hstays : response.redirect = none) : Ends network left a (.ok response) [a]
  /-- No connection comes about. -/
  | unreached {fault : TransferFault} (hreach : network a = .error fault) :
      Ends network left a (.error fault) []
  /-- What comes back is no complete response. -/
  | unread {sent : Bytes} {fault : TransferFault} (hreach : network a = .ok sent)
      (hread : Response.read sent = .error fault) : Ends network left a (.error fault) [a]
  /-- A response redirects once too often. -/
  | tooMany {response : Response} {location : Text} (hanswers : Answers network a response)
      (hlocation : response.redirect = some location) (hleft : left = 0) :
      Ends network left a (.error .tooManyRedirects) [a]
  /-- A response redirects to nowhere that can be asked. -/
  | astray {response : Response} {location : Text} {fault : TransferFault}
      (hanswers : Answers network a response) (hlocation : response.redirect = some location)
      (hleft : 0 < left) (hfollow : a.follow location = .error fault) :
      Ends network left a (.error fault) [a]

/-- A transfer that may follow `left` redirections comes to a result at the end of its chain. -/
def Concludes (network : Network) (left : Nat) (a : Address)
    (result : Except TransferFault Response) (requests : List Address) : Prop :=
  ∃ hops last asked, Redirects network a hops last ∧ hops.length ≤ left ∧
    Ends network (left - hops.length) last result asked ∧ requests = hops ++ asked

/-! ## Along the chain -/

theorem exchange_of_ends {network : Network} {left : Nat} {a : Address}
    {result : Except TransferFault Response} {asked : List Address}
    (hends : Ends network left a result asked) :
    exchange network left a = { result, requests := asked } := by
  unfold exchange
  cases hends with
  | answered hanswers hstays =>
      obtain ⟨sent, hreach, hread⟩ := hanswers
      simp only [hreach, hread, hstays]
  | unreached hreach => simp only [hreach]
  | unread hreach hread => simp only [hreach, hread]
  | tooMany hanswers hlocation hleft =>
      obtain ⟨sent, hreach, hread⟩ := hanswers
      simp only [hreach, hread, hlocation, hleft]
  | astray hanswers hlocation hleft hfollow =>
      obtain ⟨sent, hreach, hread⟩ := hanswers
      cases left with
      | zero => omega
      | succ left => simp only [hreach, hread, hlocation, hfollow]

/-- A redirection that is followed is one more request. -/
theorem exchange_of_hop {network : Network} {a next : Address} {response : Response}
    {location : Text} (hanswers : Answers network a response)
    (hlocation : response.redirect = some location) (hfollow : a.follow location = .ok next)
    (left : Nat) :
    exchange network (left + 1) a =
      { result := (exchange network left next).result
        requests := a :: (exchange network left next).requests } := by
  obtain ⟨sent, hreach, hread⟩ := hanswers
  rw [exchange]
  simp only [hreach, hread, hlocation, hfollow]

theorem exchange_of_redirects {network : Network} {a last : Address} {hops : List Address}
    (hchain : Redirects network a hops last) {left : Nat} (hleft : hops.length ≤ left) :
    exchange network left a =
      { result := (exchange network (left - hops.length) last).result
        requests := hops ++ (exchange network (left - hops.length) last).requests } := by
  induction hchain generalizing left with
  | here a => rfl
  | @hop a next last hops response location hanswers hlocation hfollow hrest ih =>
      -- one redirection is followed, which leaves one fewer for the rest of the chain
      rw [List.length_cons] at hleft
      obtain ⟨fewer, rfl⟩ : ∃ fewer, left = fewer + 1 := ⟨left - 1, by omega⟩
      rw [exchange_of_hop hanswers hlocation hfollow, ih (by omega : hops.length ≤ fewer),
        List.length_cons, Nat.add_sub_add_right]
      rfl

theorem exchange_of_concludes {network : Network} {left : Nat} {a : Address}
    {result : Except TransferFault Response} {requests : List Address}
    (hconcludes : Concludes network left a result requests) :
    exchange network left a = { result, requests } := by
  obtain ⟨hops, last, asked, hchain, hleft, hends, rfl⟩ := hconcludes
  rw [exchange_of_redirects hchain hleft, exchange_of_ends hends]

/-! ## To its end -/

theorem Concludes.of_ends {network : Network} {left : Nat} {a : Address}
    {result : Except TransferFault Response} {asked : List Address}
    (hends : Ends network left a result asked) : Concludes network left a result asked :=
  ⟨[], a, asked, .here a, Nat.zero_le _, hends, rfl⟩

theorem Concludes.of_hop {network : Network} {left : Nat} {a next : Address} {response : Response}
    {location : Text} {result : Except TransferFault Response} {requests : List Address}
    (hanswers : Answers network a response) (hlocation : response.redirect = some location)
    (hfollow : a.follow location = .ok next)
    (hrest : Concludes network left next result requests) :
    Concludes network (left + 1) a result (a :: requests) := by
  obtain ⟨hops, last, asked, hchain, hleft, hends, rfl⟩ := hrest
  refine ⟨a :: hops, last, asked, .hop hanswers hlocation hfollow hchain, ?_, ?_, rfl⟩
  · rw [List.length_cons]
    omega
  · rw [List.length_cons, Nat.add_sub_add_right]
    exact hends

/-- At every address the transfer ends, unless a redirection can be followed. -/
theorem ends_or_hops (network : Network) (left : Nat) (a : Address) :
    (∃ result asked, Ends network left a result asked) ∨
    (0 < left ∧ ∃ response location next, Answers network a response ∧
      response.redirect = some location ∧ a.follow location = .ok next) := by
  cases hreach : network a with
  | error fault => exact .inl ⟨_, _, .unreached hreach⟩
  | ok sent =>
      cases hread : Response.read sent with
      | error fault => exact .inl ⟨_, _, .unread hreach hread⟩
      | ok response =>
          have hanswers : Answers network a response := ⟨sent, hreach, hread⟩
          cases hlocation : response.redirect with
          | none => exact .inl ⟨_, _, .answered hanswers hlocation⟩
          | some location =>
              rcases Nat.eq_zero_or_pos left with hleft | hleft
              · exact .inl ⟨_, _, .tooMany hanswers hlocation hleft⟩
              · cases hfollow : a.follow location with
                | error fault => exact .inl ⟨_, _, .astray hanswers hlocation hleft hfollow⟩
                | ok next =>
                    exact .inr ⟨hleft, response, location, next, hanswers, hlocation, hfollow⟩

/-- However servers answer, a transfer has an end. -/
theorem exists_concludes (network : Network) (left : Nat) (a : Address) :
    ∃ result requests, Concludes network left a result requests := by
  induction left generalizing a with
  | zero =>
      obtain ⟨result, asked, hends⟩ | ⟨hleft, -⟩ := ends_or_hops network 0 a
      · exact ⟨result, asked, .of_ends hends⟩
      · omega
  | succ left ih =>
      obtain ⟨result, asked, hends⟩ | ⟨-, response, location, next, hanswers, hlocation, hfollow⟩ :=
        ends_or_hops network (left + 1) a
      · exact ⟨result, asked, .of_ends hends⟩
      · obtain ⟨result, requests, hrest⟩ := ih next
        exact ⟨result, a :: requests, .of_hop hanswers hlocation hfollow hrest⟩

/-- **A transfer comes to what the end of its chain says**, and asks the addresses on the chain in
their order. -/
theorem exchange_eq_iff (network : Network) (left : Nat) (a : Address)
    (result : Except TransferFault Response) (requests : List Address) :
    exchange network left a = { result, requests } ↔
      Concludes network left a result requests := by
  constructor
  · intro hexchange
    -- the transfer has an end, and to have one decides what is carried out
    obtain ⟨result', requests', hconcludes⟩ := exists_concludes network left a
    rw [exchange_of_concludes hconcludes, Exchange.mk.injEq] at hexchange
    rw [← hexchange.1, ← hexchange.2]
    exact hconcludes
  · exact exchange_of_concludes

/-! ## From the URL on -/

/-- What asking for a URL comes to within limits, and which requests reach a server. -/
inductive Performs (network : Network) (limits : Limits) (u : Url) :
    Except TransferFault Response → List Address → Prop
  /-- The limits cannot be kept to. -/
  | unusable (hlimits : limits.areUsable = false) :
      Performs network limits u (.error .badOption) []
  /-- The URL gives no address. -/
  | malformed {fault : TransferFault} (hlimits : limits.areUsable = true)
      (haddress : Address.ofUrl u = .error fault) : Performs network limits u (.error fault) []
  /-- The address of the URL is asked for. -/
  | concluded {a : Address} {result : Except TransferFault Response} {requests : List Address}
      (hlimits : limits.areUsable = true) (haddress : Address.ofUrl u = .ok a)
      (hconcludes : Concludes network limits.maxRedirects.toNat a result requests) :
      Performs network limits u result requests

theorem performs_perform (network : Network) (limits : Limits) (u : Url) :
    Performs network limits u (perform network limits u).result
      (perform network limits u).requests := by
  unfold perform
  cases hlimits : limits.areUsable with
  | false => exact .unusable hlimits
  | true =>
      cases haddress : Address.ofUrl u with
      | error fault => exact .malformed hlimits haddress
      | ok a => exact .concluded hlimits haddress ((exchange_eq_iff ..).mp rfl)

theorem perform_of_performs {network : Network} {limits : Limits} {u : Url}
    {result : Except TransferFault Response} {requests : List Address}
    (hperforms : Performs network limits u result requests) :
    perform network limits u = { result, requests } := by
  unfold perform
  cases hperforms with
  | unusable hlimits => rw [hlimits]; rfl
  | malformed hlimits haddress => rw [hlimits, haddress]; rfl
  | concluded hlimits haddress hconcludes =>
      rw [hlimits, haddress, ← exchange_of_concludes hconcludes]
      rfl

end OperatorNames.Transfer
