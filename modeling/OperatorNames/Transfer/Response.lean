import OperatorNames.Transfer.Chunks

/-!
# Responses

What a server sends back on a connection that it then closes: a status line, headers, and a body.
Heads of provisional responses (1xx) come before the one that counts.  The body is as long as the
head says, comes in chunks if the head says so, and goes on to the end of the connection otherwise.
-/

namespace OperatorNames.Transfer

/-- A response. -/
structure Response where
  /-- The status. -/
  status : Nat
  /-- Where the response redirects to; only a response of status 3xx redirects. -/
  redirect : Option Text := none
  /-- The body.  That of a response that redirects is not kept. -/
  body : Bytes := []

/-- What the head of a response has said so far. -/
structure Head where
  /-- The status. -/
  status : Nat
  /-- Whether the connection is to be closed after the response. -/
  closes : Bool
  /-- How long the body is. -/
  length : Option Nat := none
  /-- Whether the body comes in chunks. -/
  chunked : Bool := false
  /-- Where the response redirects to. -/
  location : Option Text := none

/-- Octets as characters, each octet for the character of its number. -/
def charsOf (b : Bytes) : Text :=
  b.map fun octet => Char.ofNat octet.toNat

/-- Whether a character is a space or a tab. -/
def isGap (c : Char) : Bool :=
  c = ' ' || c = '\t'

/-- Whether a text begins with a word, of whatever case. -/
def beginsWith (word : Text) (t : Text) : Bool :=
  (t.take word.length).map Text.lowerAscii = word.map Text.lowerAscii

/-- The value of a header of a given name. -/
def headerValue? (name : String) (line : Text) : Option Text :=
  let opening := name.toList ++ [':']
  if beginsWith opening line then
    some ((line.drop opening.length).takeWhile (· ≠ '\r'))
  else none

/-- A value without the blanks at its ends. -/
def bare (value : Text) : Text :=
  let blank (c : Char) : Bool := isGap c || c = '\x0b' || c = '\x0c'
  ((value.dropWhile blank).reverse.dropWhile blank).reverse

/-- Whether a word, of whatever case, occurs in a text. -/
def mentions (word : Text) : Text → Bool
  | [] => word.isEmpty
  | c :: rest => beginsWith word (c :: rest) || mentions word rest

namespace Head

/-- The status that three digits at the start of a text give. -/
def status? : Text → Option Nat
  | a :: b :: c :: _ =>
    match Text.digit? a, Text.digit? b, Text.digit? c with
    | some x, some y, some z => some (x * 100 + y * 10 + z)
    | _, _, _ => none
  | _ => none

/-- How every status line begins. -/
def opening : Text := "HTTP/".toList

/-- A head of which only the beginning is as it should be; it counts as one of success. -/
def unclear : Head := { status := 200, closes := true }

/-- The fault of a connection on which something else stands in the place of a status line, after
another head or at the start. -/
def misfit (later : Bool) : TransferFault :=
  if later then .strangeReply else .unsupportedScheme

/-- Reads a status line.  `later` tells whether a head came before it on the connection. -/
def ofStatusLine (later : Bool) (line : Text) : Except TransferFault Head :=
  if !beginsWith opening line then .error (misfit later)
  else match Text.dropStart? opening line with
    | none => .ok unclear
    | some ('1' :: rest) =>
      match rest with
      | '.' :: minor :: gap :: after =>
        if (minor = '0' || minor = '1') && isGap gap then
          match status? after with
          | some status => .ok { status, closes := minor = '0' }
          | none => .error .unsupportedScheme
        else .error .unsupportedScheme
      | _ => .error .unsupportedScheme
    | some (major :: rest) =>
      if major = '2' || major = '3' then
        match rest with
        | gap :: after =>
          match status? after, (after.drop 3).head? with
          | some status, some next =>
            .ok (if isGap gap && isGap next then { status, closes := false } else unclear)
          | _, _ => .ok unclear
        | [] => .ok unclear
      else .error .unsupportedScheme
    | some [] => .error .unsupportedScheme

/-- Whether the status only tells how things go; alone, such a head is no answer. -/
def isInformational (h : Head) : Bool :=
  100 ≤ h.status && h.status < 200

/-- Whether another head follows.  The change to another protocol is a last word. -/
def isProvisional (h : Head) : Bool :=
  h.isInformational && h.status ≠ 101

/-- Whether the response has no body, whatever its headers say. -/
def isBodiless (h : Head) : Bool :=
  h.status = 204 || h.status = 304

/-- Whether the response may redirect. -/
def mayRedirect (h : Head) : Bool :=
  300 ≤ h.status && h.status < 400

/-- Takes the length that a header gives.  One that is too great to be told counts for nothing. -/
def takeLength (h : Head) (value : Text) : Except TransferFault Head :=
  match Text.number? 10 ((value.dropWhile isGap).takeWhile Char.isDigit) with
  | none => .error .strangeReply
  | some n => .ok (if n < ChunkReader.sizeBound then { h with length := some n } else h)

/-- The first of the codings that a header lists. -/
def firstCoding (value : Text) : Text :=
  bare ((value.dropWhile fun c => isGap c || c = ',').takeWhile (· ≠ ','))

/-- Takes one line after the status line.  `first` tells whether it is the first of them, which
cannot go on with a line before it. -/
def takeLine (h : Head) (first : Bool) (line : Text) : Except TransferFault Head :=
  let continues := !first && line.head?.any isGap
  if line.contains '\x00' then .error .strangeReply
  else if !continues && !line.contains ':' then .error .strangeReply
  else if let some value := headerValue? "Content-Length" line then
    if h.isBodiless then .ok h else h.takeLength value
  else if let some value := headerValue? "Transfer-Encoding" line then
    let coding := (firstCoding value).map Text.lowerAscii
    .ok { h with chunked := h.chunked || coding = "chunked".toList }
  else if let some value := headerValue? "Connection" line then
    .ok (if mentions "close".toList value then { h with closes := true }
      else if mentions "keep-alive".toList value then { h with closes := false }
      else h)
  else if let some value := headerValue? "Location" line then
    .ok (if h.mayRedirect && h.location.isNone && !(bare value).isEmpty then
      { h with location := some (bare value) } else h)
  else .ok h

/-- Takes the lines after the status line. -/
def takeLines (h : Head) (first : Bool) : List Text → Except TransferFault Head
  | [] => .ok h
  | line :: more =>
    match h.takeLine first line with
    | .error fault => .error fault
    | .ok h => takeLines h false more

/-- Reads the lines of a head. -/
def ofLines (later : Bool) (statusLine : Text) (lines : List Text) : Except TransferFault Head :=
  match ofStatusLine later statusLine with
  | .error fault => .error fault
  | .ok h =>
    if statusLine.contains '\x00' then .error .strangeReply else h.takeLines true lines

/-- The body that follows the head on the connection. -/
def body (h : Head) (rest : Bytes) : Except TransferFault Bytes :=
  if h.isBodiless then .ok []
  else if h.chunked then unchunk rest
  else match h.length with
    | none => .ok rest
    | some n => if rest.length < n then .error .incomplete else .ok (rest.take n)

/-- Whether the end of the body can be told without the end of the connection. -/
def isFramed (h : Head) : Bool :=
  h.chunked || h.length.isSome

/-- The response of a head and what follows it.  The body of a redirection is passed over; it is
read to its end, and has to be complete, where the connection is to be used again. -/
def response (h : Head) (rest : Bytes) : Except TransferFault Response :=
  if h.isInformational && rest.isEmpty then .error .emptyReply
  else match h.location with
  | none => (h.body rest).map fun body => { status := h.status, body }
  | some location =>
    let redirection := { status := h.status, redirect := some location }
    if h.closes || !h.isFramed then .ok redirection
    else (h.body rest).map fun _ => redirection

end Head

/-- What octets hold of a head. -/
structure HeadCut where
  /-- The complete lines, without their line feeds and without the empty line. -/
  lines : List Bytes
  /-- The octets of the last line when the connection ended within it. -/
  stub : Bytes := []
  /-- What follows the empty line, if there is one. -/
  rest : Option Bytes := none

/-- Cuts a head off.  `lines` are the lines so far, the last one first, and `begun` holds the octets
of the current one, the last one first.  A line is empty when it has no octet or starts with a
carriage return; the first line is never the empty one. -/
def cutHead (lines : List Bytes) (begun : Bytes) : Bytes → HeadCut
  | [] => { lines := lines.reverse, stub := begun.reverse }
  | octet :: rest =>
    if octet = 0x0A then
      let isEmpty := begun.isEmpty || begun.getLast? = some 0x0D
      if isEmpty && !lines.isEmpty then { lines := lines.reverse, rest := some rest }
      else cutHead (begun.reverse :: lines) [] rest
    else cutHead lines (octet :: begun) rest

theorem length_rest_cutHead (lines : List Bytes) (begun b : Bytes) {rest : Bytes}
    (h : (cutHead lines begun b).rest = some rest) : rest.length < b.length := by
  induction b generalizing lines begun with
  | nil => simp [cutHead] at h
  | cons octet tail ih =>
    simp only [cutHead] at h
    split at h
    · split at h
      · simp only [Option.some.injEq] at h
        subst h
        simp
      · exact Nat.lt_succ_of_lt (ih _ _ h)
    · exact Nat.lt_succ_of_lt (ih _ _ h)

/-- The response that octets hold.  `later` tells whether a head came before them on the
connection. -/
def Response.readFrom (later : Bool) (sent : Bytes) : Except TransferFault Response :=
  match _h : cutHead [] [] sent with
  | { lines := [], stub, .. } =>
    if beginsWith (Head.opening.take stub.length) (charsOf stub) then .error .emptyReply
    else .error (Head.misfit later)
  | { lines := statusLine :: lines, rest, .. } =>
    match Head.ofLines later (charsOf statusLine) (lines.map charsOf) with
    | .error fault => .error fault
    | .ok head =>
      match _r : rest with
      | none => if head.isProvisional then .error .emptyReply else head.response []
      | some rest =>
        if head.isProvisional then Response.readFrom true rest else head.response rest
termination_by sent.length
decreasing_by exact length_rest_cutHead [] [] sent (by rw [_h])

/-- The response that a server sends on one connection. -/
def Response.read (sent : Bytes) : Except TransferFault Response :=
  readFrom false sent

end OperatorNames.Transfer
