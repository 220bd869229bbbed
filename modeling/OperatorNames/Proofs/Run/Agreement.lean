import OperatorNames.Proofs.Document.WholeScan
import OperatorNames.Proofs.Fetch.Outcome
import OperatorNames.Proofs.Fetch.Vacancy
import OperatorNames.Proofs.Output.Emission
import OperatorNames.Run

/-!
# Runs on files and runs on addresses

A run on a file and a run on an address from which the same document comes write the same and come
to the same, except that the second also tells the digest of the document.

What both come to is said first, of the document and the writer alone (`emissionOf`, `summaryOf`);
each of the two runs is then shown to be that (`run_file`, `run_remote`).  The main statement is
`runs_agree`.
-/

namespace OperatorNames

open Surroundings Transfer

/-! ## What a document comes to -/

/-- What comes of writing out the operators of a document. -/
def emissionOf (document : Bytes) (config : Config) (style : Style) (w : Writer) : Emission :=
  emit style w (Scan.wholeItems [.octets document] config.skipLines.toNat)

/-- What a run on a document comes to. -/
def summaryOf (document : Bytes) (config : Config) (style : Style) (w : Writer) :
    Except Problem Summary :=
  match (emissionOf document config style w).result with
  | .ok operators =>
    .ok { lines := Scan.wholeSearched [.octets document] config.skipLines.toNat, operators }
  | .error problem => .error (.ofEmission problem)

/-- A summary that also tells the digest of the document. -/
def Summary.withDigest (digest : Text) (summary : Summary) : Summary :=
  { summary with digest := some digest }

namespace Scan

/-- Where a scan delivers operators only, every line of the document could be read. -/
theorem length_readableTexts_of_ops {pieces : List Document.Piece} {skip : Nat}
    {ops : List Operator} (hops : wholeItems pieces skip = ops.map .ok) :
    (readableTexts (Document.wholeLines pieces)).length = (Document.wholeLines pieces).length := by
  have hle := length_readableTexts_le (Document.wholeLines pieces)
  have hnot : ¬ (readableTexts (Document.wholeLines pieces)).length <
      (Document.wholeLines pieces).length := by
    intro hlt
    have hproblem : ∃ problem, .error problem ∈ wholeItems pieces skip := by
      unfold wholeItems earlyEnd?
      rw [if_pos hlt]
      exact ⟨_, List.mem_append_right _ List.mem_cons_self⟩
    obtain ⟨problem, hmem⟩ := hproblem
    rw [hops] at hmem
    obtain ⟨op, -, hop⟩ := List.mem_map.mp hmem
    cases hop
  omega

theorem isScanned_of_ops {pieces : List Document.Piece} {skip : Nat} {ops : List Operator}
    (hops : wholeItems pieces skip = ops.map .ok) : ∀ op ∈ ops, op.IsScanned := by
  intro op hop
  have hmem : (.ok op : Item) ∈ wholeItems pieces skip := by
    rw [hops]
    exact List.mem_map_of_mem hop
  rcases List.mem_append.mp hmem with hscanned | hproblem
  · obtain ⟨other, hother, hsame⟩ := List.mem_map.mp hscanned
    cases hsame
    exact isScanned_of_mem_operatorsOf hother
  · obtain ⟨problem, -, hproblem⟩ := List.mem_map.mp hproblem
    cases hproblem

end Scan

/-- Where a document is written out without a problem, the summary counts the line feeds that were
written and the lines of the document beyond the skipped ones. -/
theorem summaryOf_ok {document : Bytes} {config : Config} {style : Style} {w : Writer}
    {summary : Summary} (hok : summaryOf document config style w = .ok summary) :
    summary.lines = (Document.wholeLines [.octets document]).length - config.skipLines.toNat ∧
    summary.digest = none ∧
    ∃ more, (emissionOf document config style w).writer.taken = w.taken ++ more ∧
      summary.operators = more.count 0x0A := by
  unfold summaryOf at hok
  cases hresult : (emissionOf document config style w).result with
  | error problem =>
      rw [hresult] at hok
      cases hok
  | ok operators =>
      rw [hresult] at hok
      cases hok
      -- every item was an operator, so that every line could be read and was written out
      obtain ⟨ops, hops, hcount, htaken⟩ := emitFrom_ok hresult
      refine ⟨?_, rfl, ops.flatMap style.line, htaken, ?_⟩
      · show Scan.wholeSearched _ _ = _
        rw [Scan.wholeSearched, Scan.length_readableTexts_of_ops hops]
      · show operators = _
        rw [count_flatMap_line (Scan.isScanned_of_ops hops) style]
        omega

/-! ## Scanning a file -/

/-- A file that still holds what it held when it was opened is scanned as the document it holds. -/
theorem scanFile_of_find {path : Text} {place : Place} {document : Bytes} {s : Surroundings}
    (config : Config) (style : Style)
    (hfind : s.files.find s.here path = .ok (place, .file document))
    (hstands : (Job.noted (.scanning path config.skipLines.toNat) s).files.at? place =
      some (.file document)) :
    (scanFile path config style s).1 = summaryOf document config style s.output ∧
    (scanFile path config style s).2.output =
      (emissionOf document config style s.output).writer := by
  have hinspect : Job.inspect (fun fault => .scan (.unopened path fault)) (·.find · path) s =
      (.ok (place, .file document), s) := by
    show Job.orProblem _ (s.files.find s.here path) s = _
    rw [hfind]
    rfl
  unfold scanFile
  rw [Job.bind_of_ok hinspect]
  dsimp only
  rw [Job.bind_of_ok (Job.note_apply _ s), Job.bind_of_ok (Job.see_apply _ _), hstands]
  dsimp only [Option.getD_some, Entry.pieces]
  rw [Scan.drain_ofPieces]
  dsimp only
  rw [Job.bind_apply]
  unfold emitItems summaryOf emissionOf
  dsimp only
  rw [Job.noted_output]
  cases (emit style s.output (Scan.wholeItems [.octets document] config.skipLines.toNat)).result with
  | ok operators => exact ⟨rfl, rfl⟩
  | error problem => exact ⟨rfl, rfl⟩

/-- The notice at the end of a run changes neither what it comes to nor what it has written. -/
theorem run_eq (source : Source) (config : Config) (style : Style) (s : Surroundings) :
    (run source config style s).1 = (scanSource source config style s).1 ∧
    (run source config style s).2.output = (scanSource source config style s).2.output := by
  unfold run
  rw [Job.bind_apply]
  split
  · next summary after hscan =>
      rw [hscan]
      exact ⟨rfl, Job.noted_output _ _⟩
  · next problem after hscan =>
      rw [hscan]
      exact ⟨rfl, rfl⟩

/-- A run on a file that is not the log comes to what its content comes to. -/
theorem run_file {path : Text} {place : Place} {document : Bytes} {s : Surroundings}
    (config : Config) (style : Style)
    (hfind : s.files.find s.here path = .ok (place, .file document)) (hlog : ¬ s.LogsTo place) :
    (run (.file path) config style s).1 = summaryOf document config style s.output ∧
    (run (.file path) config style s).2.output =
      (emissionOf document config style s.output).writer := by
  have hstands : (Job.noted (.scanning path config.skipLines.toNat) s).files.at? place =
      some (.file document) := by
    rw [(KeepsFiles.noted _ s).elsewhere place hlog]
    exact FileSystem.at?_of_find hfind
  obtain ⟨hresult, houtput⟩ := run_eq (.file path) config style s
  rw [hresult, houtput]
  exact scanFile_of_find config style hfind hstands

/-! ## Scanning what an address gives -/

/-- A text is the URL of a document: from the address that it gives, redirections, no more than a
configuration allows, lead to a complete response of success that carries the document. -/
inductive Serves (network : Network) (config : Config) (raw : Text) (document : Bytes) : Prop
  | intro {u : Url} {a last : Address} {hops : List Address} {response : Response}
      (hurl : Url.read raw = .ok u) (hlimits : (Fetch.limitsOf config).areUsable = true)
      (haddress : Address.ofUrl u = .ok a) (hchain : Redirects network a hops last)
      (hfew : hops.length ≤ config.maxRedirects.toNat) (hanswers : Answers network last response)
      (hstays : response.redirect = none)
      (hstatus : 200 ≤ response.status ∧ response.status ≤ 299)
      (hbody : response.body = document)

/-- A temporary file can be made and takes a document. -/
def TakesTemporary (s : Surroundings) (document : Bytes) : Prop :=
  (∃ path place, Fetch.vacancyIn s = .ok (path, place)) ∧ s.storage.overflow? document = none

/-- It is enough that the directory for temporary files is there, that the storage takes the document
and that no path gets too long. -/
theorem takesTemporary_of_directory {s : Surroundings} {document : Bytes} {place : Place}
    (hwalk : s.files.walk s.here (Fetch.temporaryDirectory s) = .ok place)
    (hstands : s.files.at? place = some .directory) (hgranted : s.storage.refusal? = none)
    (hfits : s.storage.overflow? document = none)
    (hnames : ∀ n ≤ s.files.entries.length,
      Text.Utf8.size (Fetch.temporaryName n) ≤ FileSystem.maxName ∧
      Text.Utf8.size (FileSystem.join (Fetch.temporaryDirectory s) (Fetch.temporaryName n)) ≤
        FileSystem.maxPath) :
    TakesTemporary s document := by
  obtain ⟨n, -, hvacancy⟩ := Fetch.exists_vacancy hwalk hstands hgranted hnames
  exact ⟨⟨_, _, hvacancy⟩, hfits⟩

/-- A document that is served is fetched into a file that nothing else is written to. -/
theorem toFile_of_serves {raw : Text} {document : Bytes} {config : Config} {s : Surroundings}
    (hserves : Serves s.network config raw document) (htakes : TakesTemporary s document) :
    ∃ path place after,
      Fetch.toFile raw (Fetch.limitsOf config) s =
        (.ok (Fetch.spooledAt document path place), after) ∧
      after.output = s.output ∧ place ∈ after.temporaries ∧
      after.files.find after.here path = .ok (place, .file document) := by
  obtain ⟨hurl, hlimits, haddress, hchain, hfew, hanswers, hstays, hstatus, hbody⟩ := hserves
  obtain ⟨⟨path, place, hvacancy⟩, hfits⟩ := htakes
  have hperforms := Performs.concluded hlimits haddress
    ⟨_, _, _, hchain, hfew, .answered hanswers hstays, rfl⟩
  have hfetched := Fetch.body_of_success hurl hperforms hstatus
  have hkeeps : KeepsFiles s (Fetch.body raw (Fetch.limitsOf config) s).2 :=
    Fetch.keepsFiles_body raw _ s
  rw [hbody] at hfetched
  rw [hfetched] at hkeeps
  -- only what the body leaves counts from here on: the same writer, and files that are kept
  generalize hmid : Job.noted _ (Fetch.asked _ _ s) = mid at hfetched hkeeps
  have houtput : mid.output = s.output := by
    rw [← hmid, Job.noted_output]
    exact Job.noted_output _ s
  have hthere : Fetch.vacancyIn mid = .ok (path, place) := by
    rw [Fetch.vacancyIn_eq hkeeps, hvacancy]
  have hspool := Fetch.spool_of_vacancy hthere (by rw [hkeeps.storage, hfits])
  have htoFile : Fetch.toFile raw (Fetch.limitsOf config) s = Fetch.spool document mid :=
    Job.bind_of_ok hfetched _
  rw [htoFile, hspool]
  refine ⟨path, place, _, rfl, ?_, ?_, ?_⟩
  · rw [Job.noted_output]
    exact houtput
  · rw [Job.noted_temporaries]
    exact Fetch.mem_temporaries_written document place mid
  · exact Fetch.find_written hthere (KeepsFiles.noted _ _)
      (Fetch.at?_noted_temporary _ (Fetch.mem_temporaries_written document place mid))

/-- A run on an address comes to what the document that is served there comes to, and tells the
digest of the document. -/
theorem run_remote {raw : Text} {document : Bytes} {config : Config} {s : Surroundings}
    (style : Style) (hserves : Serves s.network config raw document)
    (htakes : TakesTemporary s document) :
    (run (.remote raw) config style s).1 =
      (summaryOf document config style s.output).map
        (·.withDigest (Sha256.hexDigest document)) ∧
    (run (.remote raw) config style s).2.output =
      (emissionOf document config style s.output).writer := by
  obtain ⟨hresult, houtput⟩ := run_eq (.remote raw) config style s
  rw [hresult, houtput]
  have hkeeps : KeepsFiles s (Job.noted (.fetching raw) s) := KeepsFiles.noted _ s
  have hserved : Serves (Job.noted (.fetching raw) s).network config raw document := by
    rw [Job.noted_network]
    exact hserves
  have htaken : TakesTemporary (Job.noted (.fetching raw) s) document := by
    unfold TakesTemporary
    rw [Fetch.vacancyIn_eq hkeeps, hkeeps.storage]
    exact htakes
  -- the document stands in a temporary file, to which no record of the log is added
  obtain ⟨path, place, after, hfetch, hwriter, hplace, hfind⟩ := toFile_of_serves hserved htaken
  rw [Job.noted_output] at hwriter
  have hstands : (Job.noted (.scanning path config.skipLines.toNat) after).files.at? place =
      some (.file document) := by
    rw [Fetch.at?_noted_temporary _ hplace]
    exact FileSystem.at?_of_find hfind
  obtain ⟨hscan, hwritten⟩ := scanFile_of_find config style hfind hstands
  rw [hwriter] at hscan hwritten
  unfold scanSource
  dsimp only
  rw [Job.bind_of_ok (Job.note_apply _ s), Job.bind_of_ok (Job.during_of_ok _ hfetch),
    Job.bind_apply]
  unfold Fetch.withFile
  rw [Job.followedBy_apply]
  dsimp only [Fetch.spooledAt]
  rw [hscan]
  cases summaryOf document config style s.output with
  | ok summary => exact ⟨rfl, hwritten⟩
  | error problem => exact ⟨rfl, hwritten⟩

/-! ## A document in a file and on a server -/

/-- Two lines that are passed over and one with an operator. -/
def sampleDocument : Bytes :=
  Text.Utf8.encode "| Operator |\n| --- |\n| `i32x4.add` |\n".toList

/-- A server that keeps the document under one target and redirects there from another. -/
def sampleServer : Server :=
  { host := "[::1]".toList
    port := 80
    replies :=
      [("/status".toList, .page 302 [("Location".toList, "/status.md".toList)] [] true),
       ("/status.md".toList, .page 200 [] sampleDocument true)] }

/-- Surroundings with the server, a file with the document and a directory for temporary files. -/
def sample : Surroundings :=
  { files :=
      { entries := [(["tmp".toList], .directory), (["status.md".toList], .file sampleDocument)] }
    network := sampleServer.network }

/-- The URL that is given for the document. -/
def sampleUrl : Url :=
  { scheme := .http, host := .ipv6 [0, 0, 0, 0, 0, 0, 0, 1], path := ["status".toList] }

/-- An address of the server. -/
def sampleAddress (target : String) : Address :=
  { scheme := .http, host := "[::1]".toList, port := 80, path := target.toList }

theorem answers_status : Answers sample.network (sampleAddress "/status")
    { status := 302, redirect := some "/status.md".toList } := by
  refine ⟨_, rfl, ?_⟩
  rw [Response.read, Response.readFrom]
  rfl

theorem answers_status_md : Answers sample.network (sampleAddress "/status.md")
    { status := 200, body := sampleDocument } := by
  refine ⟨_, rfl, ?_⟩
  rw [Response.read, Response.readFrom]
  rfl

theorem read_sample : Url.read "http://[::1]/status".toList = .ok sampleUrl := by
  have hread : (Url.read "http://[::1]/status".toList).toOption = some sampleUrl := by
    decide +kernel
  generalize Url.read "http://[::1]/status".toList = result at hread ⊢
  cases result with
  | error reason => cases hread
  | ok u =>
      cases hread
      rfl

theorem serves_sample :
    Serves sample.network Config.standard "http://[::1]/status".toList sampleDocument := by
  have hchain : Redirects sample.network (sampleAddress "/status") [sampleAddress "/status"]
      (sampleAddress "/status.md") := .hop answers_status rfl rfl (.here _)
  exact .intro read_sample rfl rfl hchain (by decide) answers_status_md rfl (by decide) rfl

/-! ## Agreement -/

/-- What two runs have come to is the same, but for the digest that only the second tells. -/
inductive Agree (digest : Text) : Except Problem Summary → Except Problem Summary → Prop
  | problem (problem : Problem) : Agree digest (.error problem) (.error problem)
  | summary (lines operators : Nat) :
      Agree digest (.ok { lines, operators, digest := none })
        (.ok { lines, operators, digest := some digest })

/-- **Runs on a file and on an address agree** where the file holds, and the address gives, the same
document: they write the same octets with the same flushes and come to the same, except that the
second tells the digest of the document.  Where they come to a summary, it counts the line feeds
that were written and the lines beyond the skipped ones. -/
theorem runs_agree {document : Bytes} {config : Config} {path raw : Text} {place : Place}
    {s t : Surroundings} (style : Style) (hwriter : s.output = t.output)
    (hfind : s.files.find s.here path = .ok (place, .file document)) (hlog : ¬ s.LogsTo place)
    (hserves : Serves t.network config raw document) (htakes : TakesTemporary t document) :
    (run (.file path) config style s).2.output = (run (.remote raw) config style t).2.output ∧
    Agree (Sha256.hexDigest document) (run (.file path) config style s).1
      (run (.remote raw) config style t).1 ∧
    ∀ summary, (run (.file path) config style s).1 = .ok summary →
      summary.lines = (Document.wholeLines [.octets document]).length - config.skipLines.toNat ∧
      ∃ more, (run (.file path) config style s).2.output.taken = s.output.taken ++ more ∧
        summary.operators = more.count 0x0A := by
  obtain ⟨hlocal, hlocalOut⟩ := run_file config style hfind hlog
  obtain ⟨hremote, hremoteOut⟩ := run_remote style hserves htakes
  rw [hlocal, hlocalOut, hremote, hremoteOut, ← hwriter]
  refine ⟨rfl, ?_, ?_⟩
  · cases hsummary : summaryOf document config style s.output with
    | error problem => exact .problem problem
    | ok summary =>
        obtain ⟨-, hdigest, -⟩ := summaryOf_ok hsummary
        obtain ⟨lines, operators, digest⟩ := summary
        cases hdigest
        exact .summary lines operators
  · intro summary hsummary
    obtain ⟨hlines, -, hcount⟩ := summaryOf_ok hsummary
    exact ⟨hlines, hcount⟩

theorem runs_agree_sample :
    (run (.file "/status.md".toList) Config.standard .pair sample).2.output =
      (run (.remote "http://[::1]/status".toList) Config.standard .pair sample).2.output ∧
    Agree (Sha256.hexDigest sampleDocument)
      (run (.file "/status.md".toList) Config.standard .pair sample).1
      (run (.remote "http://[::1]/status".toList) Config.standard .pair sample).1 := by
  have hlog : ¬ sample.LogsTo ["status.md".toList] := by
    rintro ⟨log, hnone, -⟩
    cases hnone
  have hfind : sample.files.find sample.here "/status.md".toList =
      .ok (["status.md".toList], .file sampleDocument) := rfl
  have htakes : TakesTemporary sample sampleDocument := ⟨⟨_, _, rfl⟩, rfl⟩
  have hagree := runs_agree .pair (Eq.refl sample.output) hfind hlog serves_sample htakes
  exact ⟨hagree.1, hagree.2.1⟩

end OperatorNames
