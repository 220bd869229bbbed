import OperatorNames.Proofs.Run.Agreement
import OperatorNames.Proofs.Run.Leftover
import OperatorNames.Proofs.Sha256.Conformance
import OperatorNames.Proofs.Sha256.Portions

/-!
# Digests agree

The digest that is taken of a document in memory, the one that is taken of the file it was put into,
portion by portion, and the one that a run tells are the same, and it is the standard one.  A run
and a digest of one address fetch the document in the same way: a notice that was given before makes
no difference to a fetch (`toFile_congr`).  The main statement is `digests_agree`.
-/

namespace OperatorNames

open Surroundings Transfer

/-- What a job comes to and what it leaves. -/
theorem Job.eq_of_fst {job : Job α} {result : Except Problem α} {s : Surroundings}
    (hresult : (job s).1 = result) : job s = (result, (job s).2) :=
  Prod.ext hresult rfl

/-! ## Digests of files -/

/-- However the reads of a file divide it, its digest is that of what it holds. -/
theorem digestOfFile_of_find {path : Text} {place : Place} {content : Bytes} {s : Surroundings}
    (hfind : s.files.find s.here path = .ok (place, .file content)) :
    digestOfFile path s = (.ok (Sha256.hexDigest content), s) := by
  have hinspect : Job.inspect (fun fault => .during (.openFile path) (.file fault)) (·.find · path)
      s = (.ok (place, .file content), s) := by
    show Job.orProblem _ (s.files.find s.here path) s = _
    rw [hfind]
    rfl
  unfold digestOfFile
  rw [Job.bind_of_ok hinspect]
  dsimp only
  rw [Job.bind_of_ok (Job.see_apply _ s), Sha256.Hasher.ofPortions_eq, s.reading.flatten_portions]
  rfl

/-! ## Fetches from surroundings that are alike -/

namespace Fetch

/-- Surroundings from which fetches do the same: there are the same servers, of which the same has
been asked, and the files are kept. -/
structure Alike (s t : Surroundings) : Prop where
  /-- The servers are the same. -/
  network : t.network = s.network
  /-- The same has been asked of them. -/
  requests : t.requests = s.requests
  /-- The files are kept. -/
  keeps : KeepsFiles s t

theorem Alike.noted (notice : Log.Notice) (s : Surroundings) : Alike s (Job.noted notice s) where
  network := Job.noted_network notice s
  requests := Job.noted_requests notice s
  keeps := KeepsFiles.noted notice s

variable {s t : Surroundings}

theorem requests_asked (halike : Alike s t) (u : Url) (limits : Limits) :
    (asked u limits t).requests = (asked u limits s).requests := by
  unfold asked
  rw [halike.network, halike.requests]

theorem accept_congr (hrequests : t.requests = s.requests) (url : Text) (response : Response) :
    (accept url response t).1 = (accept url response s).1 ∧
    (accept url response t).2.requests = (accept url response s).2.requests := by
  rw [accept_apply, accept_apply]
  split
  · exact ⟨rfl, by simpa using hrequests⟩
  · exact ⟨rfl, by simpa using hrequests⟩

theorem body_congr (halike : Alike s t) (raw : Text) (limits : Limits) :
    (body raw limits t).1 = (body raw limits s).1 ∧
    (body raw limits t).2.requests = (body raw limits s).2.requests := by
  unfold body
  cases Url.read raw with
  | error reason => exact ⟨rfl, halike.requests⟩
  | ok u =>
      rw [Job.bind_of_ok (Job.orProblem_ok _ u t), Job.bind_of_ok (Job.orProblem_ok _ u s)]
      cases limits.areUsable with
      | false => exact ⟨rfl, halike.requests⟩
      | true =>
          rw [if_pos rfl, ask_apply, ask_apply, halike.network]
          cases (perform s.network limits u).result with
          | error fault => exact ⟨rfl, requests_asked halike u limits⟩
          | ok response => exact accept_congr (requests_asked halike u limits) _ response

theorem fst_spool_congr (hvacancy : vacancyIn t = vacancyIn s) (hstorage : t.storage = s.storage)
    (document : Bytes) : (spool document t).1 = (spool document s).1 := by
  unfold vacancyIn at hvacancy
  unfold spool
  rw [hvacancy, hstorage]
  split
  · rfl
  · split <;> rfl

/-- **A fetch does the same from surroundings that are alike.** -/
theorem toFile_congr (halike : Alike s t) (raw : Text) (limits : Limits) :
    (toFile raw limits t).1 = (toFile raw limits s).1 ∧
    (toFile raw limits t).2.requests = (toFile raw limits s).2.requests := by
  obtain ⟨hbody, hrequests⟩ := body_congr halike raw limits
  have hkeepsS : KeepsFiles s (body raw limits s).2 := keepsFiles_body raw limits s
  have hkeepsT : KeepsFiles t (body raw limits t).2 := keepsFiles_body raw limits t
  unfold toFile
  obtain ⟨document, mid, hrun⟩ | ⟨problem, mid, hrun⟩ := Job.apply_cases (body raw limits) s
  · have hrunT := Job.eq_of_fst (hbody.trans (congrArg Prod.fst hrun))
    rw [Job.bind_of_ok hrun, Job.bind_of_ok hrunT, requests_spool, requests_spool]
    rw [hrun] at hkeepsS hrequests
    refine ⟨fst_spool_congr ?_ ?_ document, hrequests⟩
    · rw [vacancyIn_eq hkeepsT, vacancyIn_eq halike.keeps, vacancyIn_eq hkeepsS]
    · rw [hkeepsT.storage, halike.keeps.storage, hkeepsS.storage]
  · have hrunT := Job.eq_of_fst (hbody.trans (congrArg Prod.fst hrun))
    rw [Job.bind_of_error hrun, Job.bind_of_error hrunT]
    rw [hrun] at hrequests
    exact ⟨rfl, hrequests⟩

/-- A fetch that succeeds has received a body, which stands in the temporary file. -/
theorem exists_inFile {raw : Text} {limits : Limits} {spooled : Spooled} {after : Surroundings}
    (hfetch : toFile raw limits s = (.ok spooled, after)) :
    ∃ document, (body raw limits s).1 = .ok document ∧ InFile s after document spooled := by
  have hkeeps : KeepsFiles s (body raw limits s).2 := keepsFiles_body raw limits s
  unfold toFile at hfetch
  obtain ⟨document, mid, hrun⟩ | ⟨problem, mid, hrun⟩ := Job.apply_cases (body raw limits) s
  · rw [hrun] at hkeeps
    rw [Job.bind_of_ok hrun] at hfetch
    obtain ⟨fault, hspool, -⟩ | ⟨spooled', hspool, hfile⟩ := spool_outcome hkeeps document
    · rw [hfetch] at hspool
      cases hspool
    · rw [hfetch] at hspool hfile
      cases hspool
      exact ⟨document, by rw [hrun], hfile⟩
  · rw [Job.bind_of_error hrun] at hfetch
    cases hfetch

end Fetch

/-! ## Digests of what is fetched -/

/-- The same has been asked of servers before and after. -/
def Surroundings.SameRequests (before after : Surroundings) : Prop :=
  after.requests = before.requests

instance : Std.Refl SameRequests := ⟨fun _ => rfl⟩

instance : Trans SameRequests SameRequests SameRequests := ⟨fun hst htu => Eq.trans htu hst⟩

section

variable {url : Text} {config : Config} {s after : Surroundings}

theorem digestOfUrl_of_error {problem : Problem}
    (hfetch : Fetch.toFile url (Fetch.limitsOf config) s = (.error problem, after)) :
    digestOfUrl url config s = (.error (.during (.fetch url) problem), after) :=
  Job.bind_of_error (Job.during_of_error _ hfetch) _

theorem digestOfUrl_of_spooled {spooled : Fetch.Spooled}
    (hfetch : Fetch.toFile url (Fetch.limitsOf config) s = (.ok spooled, after)) :
    digestOfUrl url config s =
      (.ok spooled.digest,
        Fetch.discard spooled.place
          (Job.noted (.digested spooled.length url spooled.digest) after)) := by
  obtain ⟨document, -, hfile⟩ := Fetch.exists_inFile hfetch
  unfold digestOfUrl
  rw [Job.bind_of_ok (Job.during_of_ok _ hfetch)]
  unfold Fetch.withFile
  rw [Job.followedBy_apply, Job.bind_of_ok (digestOfFile_of_find hfile.found), hfile.digest_eq]
  rfl

theorem requests_digestOfUrl (url : Text) (config : Config) (s : Surroundings) :
    (digestOfUrl url config s).2.requests =
      (Fetch.toFile url (Fetch.limitsOf config) s).2.requests := by
  obtain ⟨spooled, after, hfetch⟩ | ⟨problem, after, hfetch⟩ :=
    Job.apply_cases (Fetch.toFile url (Fetch.limitsOf config)) s
  · rw [digestOfUrl_of_spooled hfetch, hfetch]
    exact Job.noted_requests _ _
  · rw [digestOfUrl_of_error hfetch, hfetch]

end

section

variable {url : Text} {config : Config} {s after : Surroundings} (style : Style)

theorem scanSource_of_error {problem : Problem}
    (hfetch : Fetch.toFile url (Fetch.limitsOf config) (Job.noted (.fetching url) s) =
      (.error problem, after)) :
    scanSource (.remote url) config style s =
      (.error (.during (.fetch url) problem), after) := by
  unfold scanSource
  dsimp only
  rw [Job.bind_of_ok (Job.note_apply _ s)]
  exact Job.bind_of_error (Job.during_of_error _ hfetch) _

theorem scanSource_of_spooled {spooled : Fetch.Spooled}
    (hfetch : Fetch.toFile url (Fetch.limitsOf config) (Job.noted (.fetching url) s) =
      (.ok spooled, after)) :
    scanSource (.remote url) config style s =
      ((scanFile spooled.path config style after).1.map (·.withDigest spooled.digest),
        Fetch.discard spooled.place (scanFile spooled.path config style after).2) := by
  unfold scanSource
  dsimp only
  rw [Job.bind_of_ok (Job.note_apply _ s), Job.bind_of_ok (Job.during_of_ok _ hfetch),
    Job.bind_apply]
  unfold Fetch.withFile
  rw [Job.followedBy_apply]
  cases (scanFile spooled.path config style after).1 with
  | ok summary => rfl
  | error problem => rfl

theorem requests_scanFile (path : Text) (config : Config) (s : Surroundings) :
    (scanFile path config style s).2.requests = s.requests :=
  within_scanFile (R := SameRequests) path config style (fun _ _ => Job.noted_requests _ _)
    (fun _ _ => rfl) s

/-- The notice at the end of a run reaches no server. -/
theorem requests_run (source : Source) (config : Config) (s : Surroundings) :
    (run source config style s).2.requests = (scanSource source config style s).2.requests := by
  unfold run
  obtain ⟨summary, after, hscan⟩ | ⟨problem, after, hscan⟩ :=
    Job.apply_cases (scanSource source config style) s
  · rw [Job.bind_of_ok hscan, hscan]
    exact Job.noted_requests _ _
  · rw [Job.bind_of_error hscan, hscan]

end

/-- A run on an address asks servers what a digest of it asks. -/
theorem requests_run_remote (url : Text) (config : Config) (style : Style) (s : Surroundings) :
    (run (.remote url) config style s).2.requests = (digestOfUrl url config s).2.requests := by
  obtain ⟨-, hrequests⟩ :=
    Fetch.toFile_congr (Fetch.Alike.noted (.fetching url) s) url (Fetch.limitsOf config)
  rw [requests_digestOfUrl, ← hrequests, requests_run]
  obtain ⟨spooled, after, hfetch⟩ | ⟨problem, after, hfetch⟩ :=
    Job.apply_cases (Fetch.toFile url (Fetch.limitsOf config)) (Job.noted (.fetching url) s)
  · rw [scanSource_of_spooled style hfetch, hfetch]
    exact requests_scanFile style spooled.path config after
  · rw [scanSource_of_error style hfetch, hfetch]

/-- A run on an address that comes to a summary tells the digest of the address in it. -/
theorem digest_of_run_remote {url : Text} {config : Config} {style : Style} {s : Surroundings}
    {summary : Summary} (hrun : (run (.remote url) config style s).1 = .ok summary) :
    ∃ h, summary.digest = some h ∧ (digestOfUrl url config s).1 = .ok h := by
  obtain ⟨hsame, -⟩ :=
    Fetch.toFile_congr (Fetch.Alike.noted (.fetching url) s) url (Fetch.limitsOf config)
  rw [(run_eq _ _ _ _).1] at hrun
  obtain ⟨spooled, after, hfetch⟩ | ⟨problem, after, hfetch⟩ :=
    Job.apply_cases (Fetch.toFile url (Fetch.limitsOf config)) (Job.noted (.fetching url) s)
  · rw [hfetch] at hsame
    have hbare := Job.eq_of_fst hsame.symm
    refine ⟨spooled.digest, ?_, ?_⟩
    · rw [scanSource_of_spooled style hfetch] at hrun
      dsimp only at hrun
      cases hscan : (scanFile spooled.path config style after).1 with
      | ok scanned =>
          rw [hscan] at hrun
          cases hrun
          rfl
      | error problem =>
          rw [hscan] at hrun
          cases hrun
    · rw [digestOfUrl_of_spooled hbare]
  · rw [scanSource_of_error style hfetch] at hrun
    cases hrun

/-- **All digests of a document agree.**  A file, however its reads divide what it holds, has the
digest of its content, which is the standard one, in sixty-four hexadecimal digits.  A digest of an
address is there exactly if the document can be fetched, and is that of the body that was received;
a run on the address that succeeds tells the same digest.  Where the document cannot be fetched, both
come to the same problem and have asked servers the same. -/
theorem digests_agree (s : Surroundings) (url : Text) (config : Config) :
    (∀ path place content, s.files.find s.here path = .ok (place, .file content) →
      content.length < 0x2000000000000000 →
      (digestOfFile path s).1 = .ok (Sha256.hexDigest content) ∧
      (Sha256.Standard.digest? (Sha256.Standard.bitsOf content)).map Sha256.Standard.hexOfBits =
        some (Sha256.hexDigest content) ∧
      (Sha256.hexDigest content).length = 64 ∧
      ∀ c ∈ Sha256.hexDigest content, c ∈ "0123456789abcdef".toList) ∧
    (∀ h, (digestOfUrl url config s).1 = .ok h ↔
      ∃ spooled, (Fetch.toFile url (Fetch.limitsOf config) s).1 = .ok spooled ∧
        spooled.digest = h) ∧
    (∀ spooled, (Fetch.toFile url (Fetch.limitsOf config) s).1 = .ok spooled →
      ∃ document, (Fetch.body url (Fetch.limitsOf config) s).1 = .ok document ∧
        spooled.digest = Sha256.hexDigest document) ∧
    (∀ style summary, (run (.remote url) config style s).1 = .ok summary →
      ∃ h, summary.digest = some h ∧ (digestOfUrl url config s).1 = .ok h) ∧
    (∀ style problem, (Fetch.toFile url (Fetch.limitsOf config) s).1 = .error problem →
      (run (.remote url) config style s).1 = .error (.during (.fetch url) problem) ∧
      (digestOfUrl url config s).1 = .error (.during (.fetch url) problem)) ∧
    (∀ style, (run (.remote url) config style s).2.requests =
      (digestOfUrl url config s).2.requests) := by
  refine ⟨?_, ?_, ?_, ?_, ?_, ?_⟩
  · intro path place content hfind hlength
    refine ⟨?_, Sha256.hexDigest_standard hlength, Sha256.length_hexDigest content, ?_⟩
    · rw [digestOfFile_of_find hfind]
    · intro c hc
      exact Sha256.mem_hexOf hc
  · intro h
    obtain ⟨spooled, after, hfetch⟩ | ⟨problem, after, hfetch⟩ :=
      Job.apply_cases (Fetch.toFile url (Fetch.limitsOf config)) s
    · rw [digestOfUrl_of_spooled hfetch, hfetch]
      simp
    · rw [digestOfUrl_of_error hfetch, hfetch]
      simp
  · intro spooled hok
    obtain ⟨document, hbody, hfile⟩ := Fetch.exists_inFile (Job.eq_of_fst hok)
    exact ⟨document, hbody, hfile.digest_eq⟩
  · intro style summary hrun
    exact digest_of_run_remote hrun
  · intro style problem herror
    obtain ⟨hsame, -⟩ :=
      Fetch.toFile_congr (Fetch.Alike.noted (.fetching url) s) url (Fetch.limitsOf config)
    refine ⟨?_, ?_⟩
    · rw [(run_eq _ _ _ _).1, scanSource_of_error style (Job.eq_of_fst (hsame.trans herror))]
    · rw [digestOfUrl_of_error (Job.eq_of_fst herror)]
  · intro style
    exact requests_run_remote url config style s

/-- The sample, where no read gives more than seven octets. -/
def sampleShort : Surroundings :=
  { sample with
    reading :=
      { portions := portions 7
        flatten_portions := flatten_portions (by decide)
        bounds_portions := by
          intro content portion hportion
          obtain ⟨hne, hle⟩ := bounds_portions hportion
          exact ⟨hne, Nat.le_trans hle (by decide)⟩ } }

theorem digests_agree_sample :
    ((digestOfFile "/status.md".toList sampleShort).1 = .ok (Sha256.hexDigest sampleDocument) ∧
      (Sha256.Standard.digest? (Sha256.Standard.bitsOf sampleDocument)).map
        Sha256.Standard.hexOfBits = some (Sha256.hexDigest sampleDocument)) ∧
    (∃ h document,
      (digestOfUrl "http://[::1]/status".toList Config.standard sampleShort).1 = .ok h ∧
      (Fetch.body "http://[::1]/status".toList (Fetch.limitsOf Config.standard) sampleShort).1 =
        .ok document ∧
      h = Sha256.hexDigest document) ∧
    (∃ summary h,
      (run (.remote "http://[::1]/status".toList) Config.standard .pair sampleShort).1 =
        .ok summary ∧ summary.lines = 1 ∧ summary.operators = 1 ∧ summary.digest = some h ∧
      (digestOfUrl "http://[::1]/status".toList Config.standard sampleShort).1 = .ok h) ∧
    (run (.remote []) Config.standard .pair sampleShort).1 =
      .error (.during (.fetch []) (.fetch (.invalidUrl [] .relative))) ∧
    (digestOfUrl [] Config.standard sampleShort).1 =
      .error (.during (.fetch []) (.fetch (.invalidUrl [] .relative))) := by
  have hfind : sampleShort.files.find sampleShort.here "/status.md".toList =
      .ok (["status.md".toList], .file sampleDocument) := rfl
  have htakes : TakesTemporary sampleShort sampleDocument := ⟨⟨_, _, rfl⟩, rfl⟩
  have hserves : Serves sampleShort.network Config.standard "http://[::1]/status".toList
      sampleDocument := serves_sample
  obtain ⟨path, place, after, hfetch, -⟩ := toFile_of_serves hserves htakes
  have hsummary : summaryOf sampleDocument Config.standard .pair sampleShort.output =
      .ok { lines := 1, operators := 1 } := by
    rfl
  have hrun := (run_remote .pair hserves htakes).1
  rw [hsummary] at hrun
  have hnothing : (Fetch.toFile [] (Fetch.limitsOf Config.standard) sampleShort).1 =
      .error (.fetch (.invalidUrl [] .relative)) := rfl
  obtain ⟨hfile, hfetched, hreceived, hruns, -, -⟩ :=
    digests_agree sampleShort "http://[::1]/status".toList Config.standard
  obtain ⟨-, -, -, -, hfails, -⟩ := digests_agree sampleShort [] Config.standard
  have hcontent := hfile _ _ _ hfind (by decide +kernel)
  have hok := congrArg Prod.fst hfetch
  obtain ⟨document, hbody, hwhole⟩ := hreceived _ hok
  obtain ⟨h, htold, hdigest⟩ := hruns _ _ hrun
  exact ⟨⟨hcontent.1, hcontent.2.1⟩,
    ⟨_, document, (hfetched _).mpr ⟨_, hok, rfl⟩, hbody, hwhole⟩,
    ⟨_, h, hrun, rfl, rfl, htold, hdigest⟩, hfails .pair _ hnothing⟩

end OperatorNames
