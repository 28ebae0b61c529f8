/-
Faults of the EC2 service and of the way to it.

A request ends in a fault when the service replies with an error or when the client side of the
connection gives up.  `isTransient` picks the faults after which the same request may well
succeed: connections that could not be made, and replies that ask the caller to slow down.
-/
namespace BuildFleet.Ec2

/-- The error entry of a reply. -/
structure ReplyError where
  /-- The code of the error. -/
  code : String
  /-- What the service says about it. -/
  message : String
deriving DecidableEq, Repr

/-- Why no connection could be made. -/
inductive ConnectionFault where
  /-- The address could not be reached. -/
  | endpoint (address : String)
  /-- The address could be reached, but not trusted. -/
  | ssl (address error : String)
  /-- The proxy could not be reached. -/
  | proxy (address : String)
  /-- For a reason of no special kind. -/
  | general (error : String)
deriving DecidableEq, Repr

/-- An address alone is one that could not be reached. -/
instance : Coe String ConnectionFault := ⟨.endpoint⟩

/-- The message of a connection that could not be made. -/
def ConnectionFault.message : ConnectionFault → String
  | .endpoint address => s!"Could not connect to the endpoint URL: \"{address}\""
  | .ssl address error => s!"SSL validation failed for {address} {error}"
  | .proxy address => s!"Failed to connect to proxy URL: \"{address}\""
  | .general error => s!"An HTTP Client failed to establish a connection: {error}"

/-- Why a request to the service failed. -/
inductive Fault where
  /-- The service replied with an error; the reply may lack its error entry. -/
  | reply (operation : String) (error : Option ReplyError)
  /-- No connection could be made. -/
  | unreachable (cause : ConnectionFault)
  /-- The connection to the address was not made in time. -/
  | connectTimeout (address : String)
  /-- The address did not answer in time. -/
  | readTimeout (address : String)
  /-- The address closed the connection before it answered. -/
  | closed (address : String)
  /-- Waiting for an instance to run came to nothing. -/
  | waiter (reason : String)
  /-- The parameters of the request are not valid. -/
  | parameters (report : String)
  | noCredentials
  /-- Anything else on the client side. -/
  | unspecified
deriving DecidableEq, Repr

namespace Fault

/-- The message of a fault. -/
def message : Fault → String
  | .reply operation error =>
    let error := error.getD ⟨"Unknown", "Unknown"⟩
    s!"An error occurred ({error.code}) when calling the {operation} operation: {error.message}"
  | .unreachable cause => cause.message
  | .connectTimeout address => s!"Connect timeout on endpoint URL: \"{address}\""
  | .readTimeout address => s!"Read timeout on endpoint URL: \"{address}\""
  | .closed address =>
    "Connection was closed before we received a valid response from endpoint URL: " ++
      s!"\"{address}\"."
  | .waiter reason => s!"Waiter InstanceRunning failed: {reason}"
  | .parameters report => s!"Parameter validation failed:\n{report}"
  | .noCredentials => "Unable to locate credentials"
  | .unspecified => "An unspecified error occurred"

/-- The code of the error in a reply. -/
def code? : Fault → Option String
  | .reply _ (some error) => some error.code
  | _ => none

/-- The codes of replies that ask the caller to slow down or to come back. -/
def throttlingCodes : List String :=
  ["Throttling", "ThrottlingException", "RequestLimitExceeded", "ServiceUnavailable",
   "InternalError"]

/-- The same request may succeed at another attempt. -/
def isTransient : Fault → Bool
  | .reply _ (some error) => throttlingCodes.contains error.code
  | .unreachable _ => true
  | .connectTimeout _ => true
  | _ => false

end Fault

end BuildFleet.Ec2
