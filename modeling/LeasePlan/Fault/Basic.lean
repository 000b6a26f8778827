import LeasePlan.AddressRange.Basic
import LeasePlan.Duration.Units
import LeasePlan.Subnet
import LeasePlan.Text.Quoted

namespace LeasePlan

/-- A value that a message names. -/
inductive Mention
  | null
  | bool (value : Bool)
  | int (value : Int)
  | text (value : RawText)
  | address (value : Address)
  | range (value : AddressRange)
  | subnet (value : Subnet)
deriving DecidableEq

def Mention.chars : Mention → RawText
  | null => "None"
  | bool b => if b then "True" else "False"
  | int n => toString n
  | text s => s
  | address a => a.text
  | range r => r.text
  | subnet s => s.text

/-- What is wrong. The causes with a free message are the general ones. -/
inductive Cause
  | general (message : RawText)
  | nilConfig (message : RawText)
  | nilInterface (interface : RawText)
  | nilProtocol (interface protocol : RawText)
  | negativeTimeout (timeout : Duration)
  | domainName (name reason : RawText)
  | noInterfaces (message : RawText)
  | addressFamily (field expected : RawText)
  | subnetMask (mask : Mention)
  | boundary (boundary : RawText) (address subnet : Mention)
  | gatewayInRange (gateway range : Mention)
  | invalidRange (message : RawText)
  | notAscending (message : RawText)
  | familyMismatch (message : RawText)
  | rangeTooLarge (length limit : Int)
  | load (path : Mention) (reason : RawText)
deriving DecidableEq

namespace Cause

def generalMessage : RawText := "invalid dhcp configuration"

def nilMessage : RawText := "config is nil"

def noInterfacesMessage : RawText := "no interfaces specified"

def invalidRangeMessage : RawText := "invalid range"

def notAscendingMessage : RawText := "start is greater than or equal to end"

def familyMismatchMessage : RawText := "start and end should be within the same address family"

def message : Cause → RawText
  | general m => m
  | nilConfig m => m
  | nilInterface _ => nilMessage
  | nilProtocol _ _ => nilMessage
  | negativeTimeout t => "icmp timeout " ++ Duration.unitText t.micros ++ " must be non-negative"
  | domainName n r => "bad domain name " ++ quote n ++ ": " ++ r
  | noInterfaces m => m
  | addressFamily f e => f ++ " should be a valid " ++ e
  | subnetMask m => "subnet mask " ++ m.chars ++ " should be a valid ipv4 cidr"
  | boundary b a s => "range " ++ b ++ " " ++ a.chars ++ " is not within " ++ s.chars
  | gatewayInRange g r => "gateway ip " ++ g.chars ++ " in the ip range " ++ r.chars
  | invalidRange m => m
  | notAscending m => m
  | familyMismatch m => m
  | rangeTooLarge _ l => "range is too large: length should be less or equal to " ++ toString l
  | load p r => "loading config " ++ quote p.chars ++ ": " ++ r

def context : Cause → List RawText
  | nilInterface i => [interfaceContext i]
  | nilProtocol i p => [interfaceContext i, p]
  | invalidRange _ => ["invalid ip range"]
  | notAscending _ => ["invalid ip range"]
  | familyMismatch _ => ["invalid ip range"]
  | rangeTooLarge _ _ => ["invalid ip range"]
  | _ => []

def ofRangeFlaw : RangeFlaw → Cause
  | .familyMismatch => familyMismatch familyMismatchMessage
  | .notAscending => notAscending notAscendingMessage
  | .tooLarge n => rangeTooLarge n AddressRange.maxLength

end Cause

/-- A cause behind the steps that lead to it, the outermost first, or several faults as one. -/
inductive Fault
  | single (context : List RawText) (cause : Cause)
  | joined (context : List RawText) (faults : List Fault)

namespace Fault

instance : Inhabited Fault := ⟨single [] (.general Cause.generalMessage)⟩

/-- A fault in the context that its cause brings with it. -/
def ofCause (c : Cause) : Fault := single c.context c

def ofRangeFlaw (f : RangeFlaw) : Fault := ofCause (.ofRangeFlaw f)

def context : Fault → List RawText
  | single ctx _ => ctx
  | joined ctx _ => ctx

/-- A message behind the steps that lead to it. -/
def inContext (ctx : List RawText) (message : RawText) : RawText :=
  List.intercalate ": " (ctx ++ [message])

mutual

/-- The message without context; joined faults stand on lines of their own. -/
def message : Fault → RawText
  | single _ c => c.message
  | joined _ fs => List.intercalate "\n" (texts fs)

def texts : List Fault → List RawText
  | [] => []
  | f :: fs => inContext f.context (message f) :: texts fs

end

def text (f : Fault) : RawText := inContext f.context f.message

theorem texts_eq_map (fs : List Fault) : texts fs = fs.map text := by
  induction fs with
  | nil => rfl
  | cons f fs ih => simp only [texts, ih, List.map_cons, text]

def annotate (parts : List RawText) : Fault → Fault
  | single ctx c => single (parts ++ ctx) c
  | joined ctx fs => joined (parts ++ ctx) fs

theorem context_annotate (parts : List RawText) (f : Fault) :
    (f.annotate parts).context = parts ++ f.context := by
  cases f <;> rfl

theorem message_annotate (parts : List RawText) (f : Fault) :
    (f.annotate parts).message = f.message := by
  cases f <;> simp only [annotate, message]

/-- No fault for none, the fault itself for a single one, and a joined fault for several. -/
def join (fs : List (Option Fault)) : Option Fault :=
  match fs.filterMap id with
  | [] => none
  | [f] => some f
  | f :: g :: fs => some (joined [] (f :: g :: fs))

/-- The faults to report one by one: the joined ones, or the fault itself. -/
def parts : Fault → List Fault
  | single ctx c => [single ctx c]
  | joined _ fs => fs

end Fault

end LeasePlan
