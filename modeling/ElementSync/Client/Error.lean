import ElementSync.Element.Basic

/-!
# Errors and failures

Two codes of the external system have an explanation for the user; any other error
is shown as it is. What goes wrong with a single change is a finding. A failure ends
a fetch or a deploy as a whole.
-/
namespace ElementSync

inductive ClientError where
  | api (code message : String)
  | timeout (seconds : Nat)
  | unknownType (name : String)
  | unexpected (text : String)
  | other (text : String)
deriving DecidableEq

namespace ClientError

def badGateway : String := "ERROR_HTTP_502"

def requestLimit : String := "sf:REQUEST_LIMIT_EXCEEDED"

def message : ClientError → String
  | api code message => "request failed with " ++ code ++ ": " ++ message
  | timeout seconds => "request timed out after " ++ toString seconds ++ "s"
  | unknownType name => "unknown type " ++ name
  | unexpected text => "unexpected client failure: " ++ text
  | other text => text

def code? : ClientError → Option String
  | api code _ => some code
  | _ => none

/-- Trying again may help. -/
def isTransient : ClientError → Bool
  | timeout _ => true
  | api code _ => code = badGateway || code = requestLimit
  | _ => false

/-- The failure that a crash of the client counts as; a crash may come with a text. -/
def ofCrash (text : Option String) : ClientError :=
  unexpected (text.getD "client panicked with a non-string payload")

def explanation? (code : String) : Option String :=
  if code = badGateway then
    some ("We are unable to connect to your Salesforce account right now. "
      ++ "This is either an issue on the Salesforce side (please check "
      ++ "https://status.salesforce.com/current/incidents) or on our side. "
      ++ "Please try again later.")
  else if code = requestLimit then
    some ("Your Salesforce org has limited API calls for a 24-hour period. "
      ++ "We are unable to connect to your org because this limit has been exceeded. "
      ++ "Please try again later or contact your account executive to increase your API limit.")
  else none

def userMessage (e : ClientError) : String := (e.code?.bind explanation?).getD e.message

end ClientError

inductive Failure where
  | element (e : ElementError)
  | client (e : ClientError)
  | filter (name reason : String)
deriving DecidableEq

def Failure.message : Failure → String
  | element e => "element error: " ++ e.message
  | client e => "client error: " ++ e.message
  | filter name reason => "filter " ++ name ++ " failed: " ++ reason

end ElementSync
