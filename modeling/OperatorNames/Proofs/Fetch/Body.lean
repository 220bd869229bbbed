import OperatorNames.Fetch
import OperatorNames.Proofs.Surroundings.KeepsFiles
import OperatorNames.Proofs.Transfer.Redirects

/-!
# Fetching a body

The four ways in which fetching a body ends (`body_cases`), and what it leaves as it is.
-/

namespace OperatorNames.Fetch

open Surroundings Transfer

/-! ## What is left as it is -/

section Within

variable {R : Surroundings → Surroundings → Prop} [Std.Refl R] [Trans R R R]

theorem within_accept (url : Text) (response : Transfer.Response)
    (hnoted : ∀ notice s, R s (Job.noted notice s)) :
    Job.Within R (accept url response) := by
  unfold accept
  split
  · exact .bind (hnoted _) fun _ => .pure _
  · exact .bind (hnoted _) fun _ => .fail _

theorem within_body (raw : Text) (limits : Transfer.Limits)
    (hnoted : ∀ notice s, R s (Job.noted notice s))
    (hasked : ∀ s requests, R s { s with requests }) : Job.Within R (body raw limits) := by
  have htransfer : ∀ u, Job.Within R (transfer u limits) := fun u s => hasked s _
  refine .bind (.orProblem _ _) fun u => ?_
  split
  · refine .bind (hnoted _) fun _ => .bind (htransfer u) fun result => ?_
    exact .bind (.orProblem _ _) fun response => within_accept _ response hnoted
  · exact .fail _

end Within

theorem keepsFiles_body (raw : Text) (limits : Transfer.Limits) :
    Job.Within KeepsFiles (body raw limits) :=
  within_body raw limits KeepsFiles.noted fun _ _ => KeepsFiles.of_eq rfl rfl rfl rfl rfl

/-! ## What it comes to -/

/-- The surroundings once a URL has been asked for. -/
def asked (u : Url) (limits : Limits) (s : Surroundings) : Surroundings :=
  { Job.noted (.request u.write) s with
    requests := s.requests ++ (perform s.network limits u).requests }

theorem isSuccess_iff (status : Nat) : isSuccess status = true ↔ 200 ≤ status ∧ status ≤ 299 := by
  simp only [isSuccess, Bool.and_eq_true, decide_eq_true_eq]
  omega

theorem ask_apply (u : Url) (limits : Limits) (s : Surroundings) :
    ask u limits s =
      match (perform s.network limits u).result with
      | .error fault => (.error (.fetch (.transport u.write fault)), asked u limits s)
      | .ok response => accept u.write response (asked u limits s) := by
  have htransfer : transfer u limits (Job.noted (.request u.write) s) =
      (.ok (perform s.network limits u).result, asked u limits s) := by
    simp only [transfer, asked, Job.noted_network, Job.noted_requests]
  unfold ask
  rw [Job.bind_of_ok (Job.note_apply _ s), Job.bind_of_ok htransfer]
  cases (perform s.network limits u).result with
  | error fault => rfl
  | ok response => rfl

theorem accept_apply (url : Text) (response : Response) (s : Surroundings) :
    accept url response s =
      if isSuccess response.status then
        (.ok response.body,
          Job.noted (.received url response.status response.body.length) s)
      else
        (.error (.fetch (.status url response.status)),
          Job.noted (.refused url response.status) s) := by
  unfold accept
  split <;> rfl

/-- What fetching a body comes to, and which requests reach a server. -/
inductive BodyOutcome (raw : Text) (limits : Limits) (network : Network) :
    Except Problem Bytes → List Address → Prop
  /-- The text is no URL of a document. -/
  | invalidUrl {reason : UrlRejection} (hurl : Url.read raw = .error reason) :
      BodyOutcome raw limits network (.error (.fetch (.invalidUrl raw reason))) []
  /-- The transfer fails. -/
  | transport {u : Url} {fault : TransferFault} {requests : List Address}
      (hurl : Url.read raw = .ok u) (hperforms : Performs network limits u (.error fault) requests) :
      BodyOutcome raw limits network (.error (.fetch (.transport u.write fault))) requests
  /-- The last response is not one of success. -/
  | status {u : Url} {response : Response} {requests : List Address}
      (hurl : Url.read raw = .ok u) (hperforms : Performs network limits u (.ok response) requests)
      (hstatus : ¬ (200 ≤ response.status ∧ response.status ≤ 299)) :
      BodyOutcome raw limits network (.error (.fetch (.status u.write response.status))) requests
  /-- The last response is one of success. -/
  | body {u : Url} {response : Response} {requests : List Address}
      (hurl : Url.read raw = .ok u) (hperforms : Performs network limits u (.ok response) requests)
      (hstatus : 200 ≤ response.status ∧ response.status ≤ 299) :
      BodyOutcome raw limits network (.ok response.body) requests

theorem body_outcome (raw : Text) (limits : Limits) (s : Surroundings) :
    ∃ requests, BodyOutcome raw limits s.network (body raw limits s).1 requests ∧
      (body raw limits s).2.requests = s.requests ++ requests := by
  unfold body
  cases hurl : Url.read raw with
  | error reason =>
      exact ⟨[], .invalidUrl hurl, (List.append_nil _).symm⟩
  | ok u =>
      rw [Job.bind_of_ok (Job.orProblem_ok _ u s)]
      cases hlimits : limits.areUsable with
      -- limits that cannot be kept to are found before anything is asked
      | false => exact ⟨[], .transport hurl (.unusable hlimits), (List.append_nil _).symm⟩
      | true =>
          have hperforms := performs_perform s.network limits u
          refine ⟨(perform s.network limits u).requests, ?_⟩
          rw [if_pos rfl, ask_apply]
          cases hresult : (perform s.network limits u).result with
          | error fault =>
              rw [hresult] at hperforms
              exact ⟨.transport hurl hperforms, rfl⟩
          | ok response =>
              rw [hresult] at hperforms
              dsimp only
              rw [accept_apply]
              by_cases hsuccess : isSuccess response.status = true
              · rw [if_pos hsuccess]
                refine ⟨.body hurl hperforms ((isSuccess_iff _).mp hsuccess), ?_⟩
                exact Job.noted_requests _ _
              -- a complete response, but not one of success
              · rw [if_neg hsuccess]
                refine ⟨.status hurl hperforms fun hstatus => ?_, Job.noted_requests _ _⟩
                exact hsuccess ((isSuccess_iff _).mpr hstatus)

/-- A document that a response of success carries is fetched. -/
theorem body_of_success {raw : Text} {limits : Limits} {u : Url} {response : Response}
    {requests : List Address} {s : Surroundings} (hurl : Url.read raw = .ok u)
    (hperforms : Performs s.network limits u (.ok response) requests)
    (hstatus : 200 ≤ response.status ∧ response.status ≤ 299) :
    body raw limits s =
      (.ok response.body,
        Job.noted (.received u.write response.status response.body.length) (asked u limits s)) := by
  have husable : limits.areUsable = true := by
    cases hperforms with
    | concluded hlimits haddress hconcludes => exact hlimits
  unfold body
  rw [hurl, Job.bind_of_ok (Job.orProblem_ok _ u s), if_pos husable, ask_apply,
    perform_of_performs hperforms]
  dsimp only
  rw [accept_apply, if_pos ((isSuccess_iff _).mpr hstatus)]

end OperatorNames.Fetch
