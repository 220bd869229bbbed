import OperatorNames.Job
import OperatorNames.Sha256

/-!
# Fetching a document

A document is fetched in whole and then put into a temporary file, where it can be scanned like any
other.  The file is there for as long as the document is in use and is taken away afterwards,
whatever became of the use.
-/

namespace OperatorNames

open Text

namespace Fetch

/-- The limits that a configuration sets. -/
def limitsOf (config : Config) : Transfer.Limits :=
  { connectTimeout := config.connectTimeout
    timeout := config.timeout
    maxRedirects := config.maxRedirects }

/-- Whether a status is one of success. -/
def isSuccess (status : Nat) : Bool :=
  200 ≤ status && status < 300

/-- Sends requests and keeps what was asked. -/
def transfer (u : Url) (limits : Transfer.Limits) : Job (Except TransferFault Transfer.Response) :=
  fun s =>
    let exchange := Transfer.perform s.network limits u
    (.ok exchange.result, { s with requests := s.requests ++ exchange.requests })

/-- Takes the body of a response of success; a response of another status is a problem. -/
def accept (url : Text) (response : Transfer.Response) : Job Bytes := do
  if isSuccess response.status then
    Job.note (.received url response.status response.body.length)
    return response.body
  else
    Job.note (.refused url response.status)
    Job.fail (.fetch (.status url response.status))

/-- Asks for what a URL names. -/
def ask (u : Url) (limits : Transfer.Limits) : Job Bytes := do
  Job.note (.request u.write)
  let response ←
    Job.orProblem (fun fault => .fetch (.transport u.write fault)) (← transfer u limits)
  accept u.write response

/-- Fetches a document: the body of a response of success.  Nothing is asked where the limits cannot
be kept to. -/
def body (raw : Text) (limits : Transfer.Limits) : Job Bytes := do
  let u ← Job.orProblem (fun reason => .fetch (.invalidUrl raw reason)) (Url.read raw)
  if limits.areUsable then ask u limits
  else Job.fail (.fetch (.transport u.write .badOption))

/-- The name of the temporary file of a number. -/
def temporaryName (n : Nat) : Text :=
  let digits := decimal n
  "opname-".toList ++ List.replicate (6 - digits.length) '0' ++ digits ++ ".md".toList

/-- The directory in which temporary files are made. -/
def temporaryDirectory (s : Surroundings) : Text :=
  let given := (s.valueOf? "TMPDIR").getD "/tmp".toList
  if FileSystem.isAbsolute given then given
  else FileSystem.join s.herePath given

/-- A document that has been put into a temporary file. -/
structure Spooled where
  /-- The path of the file. -/
  path : Text
  /-- The place of the file. -/
  place : Place
  /-- How many octets the document has. -/
  length : Nat
  /-- The digest of the document in hexadecimal digits. -/
  digest : Text

/-- Whether a document has no octet. -/
def Spooled.isEmpty (spooled : Spooled) : Bool :=
  spooled.length = 0

/-- A failure of a temporary file, with the path of the file. -/
def atPath (path : Text) (fault : Fault) : Fault :=
  .stated fault.kind
    (String.ofList (fault.text ++ " at path ".toList ++ quote path))

/-- The path and the place of the temporary file of a number, or why it cannot be made; nothing comes
of it if the name is taken. -/
def numbered (storage : Storage) (files : FileSystem) (here : Place) (directory : Text) (n : Nat) :
    Option (Except Fault (Text × Place)) :=
  let path := FileSystem.join directory (temporaryName n)
  match files.walk here path with
  | .error fault => some (.error (atPath path fault))
  | .ok place =>
    match files.at? place with
    | some _ => none
    | none =>
      match storage.refusal? with
      | some fault => some (.error (atPath path fault))
      | none => some (.ok (path, place))

/-- The path and the place of a temporary file that is not there yet, under the first name that is
free.  One name more than there are entries is tried. -/
def vacancy (storage : Storage) (files : FileSystem) (here : Place) (directory : Text) :
    Except Fault (Text × Place) :=
  ((List.range (files.entries.length + 1)).findSome? (numbered storage files here directory)).getD
    (.error (.stated .alreadyExists "too many temporary files exist"))

/-- Takes away the temporary file at a place. -/
def discard (place : Place) (s : Surroundings) : Surroundings :=
  { s with files := s.files.erase place }

/-- Puts a document into a temporary file that is made for it.  A file that does not take it in whole
is taken away again. -/
def spool (document : Bytes) : Job Spooled :=
  fun s =>
    match vacancy s.storage s.files s.here (temporaryDirectory s) with
    | .error fault => (.error (.fetch (.spool fault)), s)
    | .ok (path, place) =>
      let made :=
        { s with
          files := s.files.put place (.file (s.storage.kept document))
          temporaries := s.temporaries ++ [place] }
      match s.storage.overflow? document with
      | some fault => (.error (.fetch (.spool (atPath path fault))), discard place made)
      | none =>
        let spooled : Spooled :=
          { path, place, length := document.length, digest := Sha256.hexDigest document }
        (.ok spooled, Job.noted (.spooled spooled.length path spooled.digest) made)

/-- Fetches a document and puts it into a temporary file. -/
def toFile (raw : Text) (limits : Transfer.Limits) : Job Spooled := do
  spool (← body raw limits)

/-- Uses a document and takes its temporary file away. -/
def withFile (spooled : Spooled) (use : Job α) : Job α :=
  use.followedBy (discard spooled.place)

end Fetch

end OperatorNames
