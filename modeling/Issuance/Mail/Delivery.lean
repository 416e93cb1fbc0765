import Issuance.Content
import Issuance.Error
import Issuance.Mail.Recipients
/-!
Sending one message through a mail server.

A message is sent in a session of calls: connecting, securing the connection, logging in, handing
the message over, and leaving. Each call is recorded before it can fail. What the server refuses
makes the outcome an unsuccessful one; only a breakdown of the program itself goes further.
-/

namespace Issuance
namespace Mail

structure Attachment where
  fileName : String
  mediaType : String
  content : Content
deriving Repr

/-- A message as it is handed over. -/
structure Envelope where
  subject : String
  sender : String
  fromAddress : String
  addresses : List String
  body : String
  attachments : List Attachment
deriving Repr

/-- A call to the mail server. -/
inductive Call
  | connect (secure : Bool) (host : String) (service : Int)
  | startTls
  | login (user password : String)
  | handOver (envelope : Envelope)
  | quit
deriving Repr

inductive CallName
  | connectPlain
  | connectSecure
  | startTls
  | login
  | handOver
  | quit
deriving DecidableEq, Repr

def Call.name : Call → CallName
  | .connect secure _ _ => if secure then .connectSecure else .connectPlain
  | .startTls => .startTls
  | .login .. => .login
  | .handOver _ => .handOver
  | .quit => .quit

/-- How a call may fail: refused by the server, or by a breakdown of the program. -/
inductive Outage
  | refused (text : String)
  | breakdown (text : String)
deriving DecidableEq, Repr

/-- What fails: which calls, each by its name and the number of calls before it, and which headers
of addresses cannot be taken apart, so that no message is put together. -/
structure Outages where
  outage? : Nat → CallName → Option Outage
  unreadable? : String → Option String := fun _ => none

namespace Outages

def none : Outages where
  outage? _ _ := .none

/-- Calls of certain names always fail. -/
def ofNames (outages : List (CallName × Outage)) : Outages where
  outage? _ name := Assoc.get? name outages

instance : Coe (List (CallName × Outage)) Outages := ⟨ofNames⟩

end Outages

/-- A mail server as the program knows it: its settings by name, and what fails. -/
structure Server where
  settings : List (String × String)
  outages : Outages

structure Outcome where
  ok : Bool
  detail : String
deriving DecidableEq, Repr

namespace Server

def setting? (server : Server) (name : String) : Option String :=
  match Assoc.get? name server.settings with
  | some value => if value.isEmpty then none else some value
  | none => none

/-- The server to which a number of calls have been made. -/
def after (server : Server) (count : Nat) : Server :=
  { server with outages := { server.outages with
      outage? := fun made name => server.outages.outage? (count + made) name } }

end Server

/-- A session with the server, which may break off and keeps the calls made. -/
abbrev Session (α : Type) := ExceptT Outage (StateM (List Call)) α

def call (server : Server) (c : Call) : Session Unit := do
  let made ← get
  set (made ++ [c])
  match server.outages.outage? made.length c.name with
  | some outage => throw outage
  | none => return

/-- The number of the service whose connections are secure from the start. -/
def secureService : Int := 465

/-- The number of the service whose connections are secured by a call. -/
def submissionService : Int := 587

/-- The name and the password to log in with, if both are set. -/
def Server.login? (server : Server) : Option (String × String) := do
  return (← server.setting? "SMTP_USER", ← server.setting? "SMTP_PASS")

/-- The calls that hand a message over. -/
def converse (server : Server) (host service : String) (envelope : Envelope) : Session Unit := do
  let some number := Text.integer? service
    | throw (.refused (Text.integerMessage service))
  call server (.connect (number = secureService) host number)
  if number = submissionService then call server .startTls
  if let some (user, password) := server.login? then call server (.login user password)
  call server (.handOver envelope)
  call server .quit

/-- Whether a character ends a line of a header. -/
def endsLine (c : Char) : Bool :=
  let code := c.toNat
  (10 ≤ code && code ≤ 13) || (28 ≤ code && code ≤ 30) || code = 0x85 || code = 0x2028
    || code = 0x2029

/-- Whether something follows the first line of a text. -/
def hasSeveralLines (s : String) : Bool :=
  match s.toList.dropWhile (!endsLine ·) with
  | [] | [_] => false
  | ['\r', '\n'] => false
  | _ => true

def severalLines : Defect :=
  .badValue "Header values may not contain linefeed or carriage return characters"

/-- A header takes one line. -/
def checkLines (header : String) : Except Defect Unit :=
  if hasSeveralLines header then .error severalLines else .ok ()

/-- A header of addresses is taken apart as soon as it is set. -/
def Server.checkAddresses (server : Server) (header : String) : Except Defect Unit := do
  checkLines header
  match server.outages.unreadable? header with
  | some text => .error (.breakdown text)
  | none => .ok ()

/-- The headers of a message are set in turn: the subject, the addresses and the sender. -/
def Server.checkHeaders (server : Server) (subject : String) (addresses : List String)
    (sender : String) : Except Defect Unit := do
  checkLines subject
  server.checkAddresses (", ".intercalate addresses)
  server.checkAddresses sender

/-- Every end of a line as a line feed. -/
def unifyLineEnds : List Char → List Char
  | [] => []
  | '\r' :: '\n' :: rest => '\n' :: unifyLineEnds rest
  | '\r' :: rest => '\n' :: unifyLineEnds rest
  | c :: rest => c :: unifyLineEnds rest

/-- A body as it is sent: every line ends in a line feed, also the last one. -/
def sentBody (body : String) : String :=
  let cs := unifyLineEnds body.toList
  String.ofList (if cs.getLast? = some '\n' then cs else cs ++ ['\n'])

structure Letter where
  recipients : Recipients
  subject : String
  body : String
  attachments : List Attachment
deriving Repr

def Server.sender (server : Server) (fromAddress : String) : String :=
  match server.setting? "SMTP_FROM_NAME" with
  | some name => name ++ " <" ++ fromAddress ++ ">"
  | none => fromAddress

def outcomeOf : Except Outage Unit → Except Defect Outcome
  | .ok () => .ok ⟨true, "sent"⟩
  | .error (.refused text) => .ok ⟨false, text⟩
  | .error (.breakdown text) => .error (.breakdown text)

/-- Sends a letter, and gives the calls made. Without settings nothing is sent, without addresses
neither, and a header that cannot be set is a defect. -/
def send (server : Server) (letter : Letter) : Except Defect Outcome × List Call :=
  let addresses := addresses letter.recipients
  match server.setting? "SMTP_HOST", server.setting? "SMTP_PORT",
      server.setting? "SMTP_FROM_DEFAULT" with
  | some host, some service, some fromAddress =>
    if addresses.isEmpty then (.ok ⟨false, "no valid recipients"⟩, [])
    else
      let sender := server.sender fromAddress
      match server.checkHeaders letter.subject addresses sender with
      | .error defect => (.error defect, [])
      | .ok () =>
        let envelope : Envelope :=
          ⟨letter.subject, sender, fromAddress, addresses, sentBody letter.body,
            letter.attachments⟩
        let (result, calls) := (converse server host service envelope).run.run []
        (outcomeOf result, calls)
  | _, _, _ => (.ok ⟨false, "stub: missing config"⟩, [])

end Mail
end Issuance
