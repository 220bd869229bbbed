import OperatorNames.Text.Basic

/-!
# Failed transfers

A transfer that does not come to a complete response fails with a numbered fault; the numbers are
those of the usual transfer tools, so that they can be looked up.
-/

namespace OperatorNames

/-- Why a transfer failed. -/
structure TransferFault where
  /-- The fault's number. -/
  code : Nat
  /-- What else is known of it. -/
  detail : Option String := none
  deriving DecidableEq

namespace TransferFault

/-- The text of each fault. -/
def texts : List (Nat × String) :=
  [(0, "No error"), (1, "Unsupported protocol"), (2, "Failed initialization"),
   (3, "URL using bad/illegal format or missing URL"),
   (4, "A requested feature, protocol or option was not found built-in in this libcurl due to a build-time decision."),
   (5, "Could not resolve proxy name"), (6, "Could not resolve hostname"),
   (7, "Could not connect to server"), (8, "Weird server reply"),
   (9, "Access denied to remote resource"), (10, "FTP: The server failed to connect to data port"),
   (11, "FTP: unknown PASS reply"), (12, "FTP: Accepting server connect has timed out"),
   (13, "FTP: unknown PASV reply"), (14, "FTP: unknown 227 response format"),
   (15, "FTP: cannot figure out the host in the PASV response"),
   (16, "Error in the HTTP2 framing layer"), (17, "FTP: could not set file type"),
   (18, "Transferred a partial file"),
   (19, "FTP: could not retrieve (RETR failed) the specified file"),
   (21, "Quote command returned error"), (22, "HTTP response code said error"),
   (23, "Failed writing received data to disk/application"), (25, "Upload failed (at start)"),
   (26, "Failed to open/read local data from file/application"), (27, "Out of memory"),
   (28, "Timeout was reached"), (30, "FTP: command PORT failed"), (31, "FTP: command REST failed"),
   (33, "Requested range was not delivered by the server"),
   (34, "Internal problem setting up the POST"), (35, "SSL connect error"),
   (36, "Could not resume download"), (37, "Could not read a file:// file"),
   (38, "LDAP: cannot bind"), (39, "LDAP: search failed"),
   (41, "A required function in the library was not found"),
   (42, "Operation was aborted by an application callback"),
   (43, "A libcurl function was given a bad argument"),
   (45, "Failed binding local connection end"), (47, "Number of redirects hit maximum amount"),
   (48, "An unknown option was passed in to libcurl"),
   (49, "Malformed option provided in a setopt"),
   (52, "Server returned nothing (no headers, no data)"), (53, "SSL crypto engine not found"),
   (54, "Can not set SSL crypto engine as default"), (55, "Failed sending data to the peer"),
   (56, "Failure when receiving data from the peer"),
   (58, "Problem with the local SSL certificate"), (59, "Could not use specified SSL cipher"),
   (60, "SSL peer certificate or SSH remote key was not OK"),
   (61, "Unrecognized or bad HTTP Content or Transfer-Encoding"),
   (63, "Maximum file size exceeded"), (64, "Requested SSL level failed"),
   (65, "Send failed since rewinding of the data stream failed"),
   (66, "Failed to initialise SSL crypto engine"), (67, "Login denied"),
   (68, "TFTP: File Not Found"), (69, "TFTP: Access Violation"),
   (70, "Disk full or allocation exceeded"), (71, "TFTP: Illegal operation"),
   (72, "TFTP: Unknown transfer ID"), (73, "Remote file already exists"),
   (74, "TFTP: No such user"), (77, "Problem with the SSL CA cert (path? access rights?)"),
   (78, "Remote file not found"), (79, "Error in the SSH layer"),
   (80, "Failed to shut down the SSL connection"), (81, "Socket not ready for send/recv"),
   (82, "Failed to load CRL file (path? access rights?, format?)"),
   (83, "Issuer check against peer certificate failed"),
   (84, "FTP: The server did not accept the PRET command."),
   (85, "RTSP CSeq mismatch or invalid CSeq"), (86, "RTSP session error"),
   (87, "Unable to parse FTP file list"), (88, "Chunk callback reported error"),
   (89, "The max connection limit is reached"),
   (90, "SSL public key does not match pinned public key"),
   (91, "SSL server certificate status verification FAILED"),
   (92, "Stream error in the HTTP/2 framing layer"),
   (93, "API function called from within callback"),
   (94, "An authentication function returned an error"), (95, "HTTP/3 error"),
   (96, "QUIC connection error"), (97, "proxy handshake error"),
   (98, "SSL Client Certificate required"), (99, "Unrecoverable error in select/poll"),
   (100, "A value or data field grew larger than allowed"), (101, "ECH attempted but failed")]

/-- A fault in words. -/
def message (f : TransferFault) : String :=
  let text := (texts.lookup f.code).getD "Unknown error"
  let plain := s!"[{f.code}] {text}"
  match f.detail with
  | some detail => s!"{plain} ({detail})"
  | none => plain

/-- The scheme is not one that the transfer may use, or the answer is in no known version. -/
def unsupportedScheme : TransferFault := { code := 1 }

/-- The address is malformed. -/
def malformedAddress : TransferFault := { code := 3 }

/-- Nobody answers at the address. -/
def refused : TransferFault := { code := 7 }

/-- The head of the answer makes no sense. -/
def strangeReply : TransferFault := { code := 8 }

/-- The connection ended before the body was complete. -/
def incomplete : TransferFault := { code := 18 }

/-- The connection cannot be secured. -/
def insecure : TransferFault := { code := 35 }

/-- An option has a value that the transfer cannot take. -/
def badOption : TransferFault := { code := 43 }

/-- There are more redirections than may be followed. -/
def tooManyRedirects : TransferFault := { code := 47 }

/-- The connection ended without an answer. -/
def emptyReply : TransferFault := { code := 52 }

/-- The body is not coded as its head says. -/
def brokenBody : TransferFault := { code := 56 }

end TransferFault

end OperatorNames
