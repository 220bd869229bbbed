import OperatorNames.Proofs.Fetch.Body
import OperatorNames.Proofs.Fetch.Vacancy
import OperatorNames.Proofs.Transfer.Framing

/-!
# What fetching comes to

Fetching a document into a file comes to one of five things (`Outcome`, with `BodyOutcome`), each
with the conditions under which it does: the text is no URL, the transfer fails, the last response
of the chain is not one of success, its body cannot be spooled, or its body, whole and alone, stands
in a temporary file.

The main statement is `toFile_outcome`.
-/

namespace OperatorNames.Fetch

open Surroundings Transfer

/-- Why a document cannot be put into a temporary file. -/
inductive Unspoolable (s : Surroundings) (document : Bytes) : Fault → Prop
  /-- No file can be made. -/
  | unmade {fault : Fault} (hvacancy : vacancyIn s = .error fault) : Unspoolable s document fault
  /-- The file does not take the document in whole. -/
  | unwritten {path : Text} {place : Place} {fault : Fault}
      (hvacancy : vacancyIn s = .ok (path, place))
      (hover : s.storage.overflow? document = some fault) :
      Unspoolable s document (atPath path fault)

/-- A document stands in a temporary file that was not there before. -/
structure InFile (before after : Surroundings) (document : Bytes) (spooled : Spooled) : Prop where
  /-- Nothing stood there. -/
  vacant : before.files.at? spooled.place = none
  /-- The path leads to a file that holds the document. -/
  found : after.files.find after.here spooled.path = .ok (spooled.place, .file document)
  /-- The length is that of the document. -/
  length_eq : spooled.length = document.length
  /-- The document counts as empty if it has no octet. -/
  isEmpty_iff : spooled.isEmpty = true ↔ document = []
  /-- The digest is that of the document. -/
  digest_eq : spooled.digest = Sha256.hexDigest document

/-- The last of some requests was answered with octets that carry a document in whole. -/
def Carried (network : Network) (requests : List Address) (document : Bytes) : Prop :=
  ∃ last sent, requests.getLast? = some last ∧ network last = .ok sent ∧ Carries sent document

/-- What fetching a document into a file comes to, which requests reach a server, and what it
leaves. -/
inductive Outcome (raw : Text) (limits : Limits) (s : Surroundings) :
    Except Problem Spooled → List Address → Surroundings → Prop
  /-- No body of a response of success is fetched. -/
  | unfetched {problem : Problem} {requests : List Address} {after : Surroundings}
      (hbody : BodyOutcome raw limits s.network (.error problem) requests) :
      Outcome raw limits s (.error problem) requests after
  /-- A body is fetched, but cannot be spooled. -/
  | unspooled {document : Bytes} {fault : Fault} {requests : List Address} {after : Surroundings}
      (hbody : BodyOutcome raw limits s.network (.ok document) requests)
      (hcarried : Carried s.network requests document)
      (hspool : Unspoolable s document fault) :
      Outcome raw limits s (.error (.fetch (.spool fault))) requests after
  /-- The body stands in a temporary file. -/
  | spooled {document : Bytes} {spooled : Spooled} {requests : List Address} {after : Surroundings}
      (hbody : BodyOutcome raw limits s.network (.ok document) requests)
      (hcarried : Carried s.network requests document)
      (hfile : InFile s after document spooled) :
      Outcome raw limits s (.ok spooled) requests after

/-- A document that is fetched is nothing but the body of the last response, and nothing less. -/
theorem BodyOutcome.carried {raw : Text} {limits : Limits} {network : Network} {document : Bytes}
    {requests : List Address} (hbody : BodyOutcome raw limits network (.ok document) requests) :
    Carried network requests document := by
  cases hbody with
  | body hurl hperforms hstatus =>
      cases hperforms with
      | concluded hlimits haddress hconcludes =>
          obtain ⟨hops, last, asked, -, -, hends, rfl⟩ := hconcludes
          cases hends with
          | answered hanswers hstays =>
              obtain ⟨sent, hreach, hread⟩ := hanswers
              exact ⟨last, sent, List.getLast?_concat, hreach, carries_of_read hread hstays⟩

/-! ## The temporary file -/

/-- No record of the log is added to a temporary file. -/
theorem at?_noted_temporary (notice : Log.Notice) {s : Surroundings} {place : Place}
    (hplace : place ∈ s.temporaries) :
    (Job.noted notice s).files.at? place = s.files.at? place := by
  obtain h | ⟨record, h⟩ | ⟨log, other, record, -, -, hother, h⟩ := Job.noted_cases notice s
  · rw [h]
  · rw [h]
  · have hne : place ≠ other := by
      rintro rfl
      exact hother hplace
    rw [h]
    dsimp only
    rw [FileSystem.at?_append, if_neg hne]

/-- A temporary file is found with the document in it, also after notices. -/
theorem find_written {s after : Surroundings} {document : Bytes} {path : Text} {place : Place}
    (hvacancy : vacancyIn s = .ok (path, place))
    (hkeeps : KeepsFiles (written document place s) after)
    (hstands : after.files.at? place = (written document place s).files.at? place) :
    after.files.find after.here path = .ok (place, .file document) := by
  obtain ⟨n, hvacant⟩ := exists_vacant hvacancy
  -- the file took a free place, so that no directory on the way to it has gone
  have hdirs : ∀ other, s.files.at? other = some .directory →
      (written document place s).files.at? other = some .directory := by
    intro other hother
    have hne : other ≠ place := by
      rintro rfl
      rw [hvacant.free] at hother
      cases hother
    dsimp only [written]
    rw [FileSystem.at?_put_of_ne _ _ hne, hother]
  have hwalk : after.files.walk after.here path = .ok place := by
    rw [hkeeps.alike.walk_eq, hkeeps.here]
    exact FileSystem.walk_of_directories hdirs hvacant.walk
  refine FileSystem.find_file hwalk ?_ ?_
  · rw [hstands]
    exact FileSystem.at?_put_self _ _ (FileSystem.ne_root_of_at?_eq_none hvacant.free)
  · rw [hvacant.path_eq]
    exact FileSystem.asksForDirectory_join (isStep_temporaryName n) _

theorem mem_temporaries_written (document : Bytes) (place : Place) (s : Surroundings) :
    place ∈ (written document place s).temporaries :=
  List.mem_append_right _ List.mem_cons_self

theorem requests_spool (document : Bytes) (s : Surroundings) :
    (spool document s).2.requests = s.requests := by
  obtain ⟨fault, -, hspool⟩ | ⟨path, place, fault, -, -, hspool⟩ | ⟨path, place, -, -, hspool⟩ :=
    spool_cases document s
  · rw [hspool]
  · rw [hspool]
  · rw [hspool]
    exact Job.noted_requests _ _

/-- What spooling a document comes to, seen from surroundings whose files have been kept since. -/
theorem spool_outcome {s mid : Surroundings} (hkeeps : KeepsFiles s mid) (document : Bytes) :
    (∃ fault, (spool document mid).1 = .error (.fetch (.spool fault)) ∧
      Unspoolable s document fault) ∨
    (∃ spooled, (spool document mid).1 = .ok spooled ∧
      InFile s (spool document mid).2 document spooled) := by
  obtain ⟨fault, hvacancy, hspool⟩ | ⟨path, place, fault, hvacancy, hover, hspool⟩ |
    ⟨path, place, hvacancy, -, hspool⟩ := spool_cases document mid
  · rw [hspool]
    rw [vacancyIn_eq hkeeps] at hvacancy
    exact .inl ⟨fault, rfl, .unmade hvacancy⟩
  · rw [hspool]
    rw [vacancyIn_eq hkeeps] at hvacancy
    rw [hkeeps.storage] at hover
    exact .inl ⟨atPath path fault, rfl, .unwritten hvacancy hover⟩
  · rw [hspool]
    refine .inr ⟨spooledAt document path place, rfl, ?_⟩
    -- the place was free from the start, since records in the log take none
    have hbefore : vacancyIn s = .ok (path, place) := by rw [← vacancyIn_eq hkeeps, hvacancy]
    obtain ⟨n, hvacant⟩ := exists_vacant hbefore
    exact
      { vacant := hvacant.free
        found := find_written hvacancy (KeepsFiles.noted _ _)
          (at?_noted_temporary _ (mem_temporaries_written document place mid))
        length_eq := rfl
        isEmpty_iff := by
          unfold Spooled.isEmpty spooledAt
          rw [decide_eq_true_iff]
          exact List.length_eq_zero_iff
        digest_eq := rfl }

/-- **Fetching comes to what the text, the chain of responses and the storage say**: nothing but the
body of the last response of the chain, if that is a response of success, is ever put into the file,
and the body as a whole, as the octets that were sent carry it; every problem names what stood in the
way. -/
theorem toFile_outcome (raw : Text) (limits : Limits) (s : Surroundings) :
    ∃ requests, Outcome raw limits s (toFile raw limits s).1 requests (toFile raw limits s).2 ∧
      (toFile raw limits s).2.requests = s.requests ++ requests := by
  obtain ⟨requests, hbody, hasked⟩ := body_outcome raw limits s
  have hkeeps : KeepsFiles s (body raw limits s).2 := keepsFiles_body raw limits s
  refine ⟨requests, ?_⟩
  unfold toFile
  obtain ⟨document, mid, hrun⟩ | ⟨problem, mid, hrun⟩ := Job.apply_cases (body raw limits) s
  · rw [hrun] at hbody hasked hkeeps
    rw [Job.bind_of_ok hrun, requests_spool]
    refine ⟨?_, hasked⟩
    obtain ⟨fault, hspool, hwhy⟩ | ⟨spooled, hspool, hfile⟩ := spool_outcome hkeeps document
    · rw [hspool]
      exact .unspooled hbody hbody.carried hwhy
    · rw [hspool]
      exact .spooled hbody hbody.carried hfile
  · rw [hrun] at hbody hasked
    rw [Job.bind_of_error hrun]
    exact ⟨.unfetched hbody, hasked⟩

end OperatorNames.Fetch
