import SourceAtlas.Enrichment.Controller
import SourceAtlas.Provider.Message

/-!
# Asking a service

`Client.ask` posts the message for a prompt and finds the answer in what comes back. A message that
cannot be delivered, an error status, a body that holds no JSON value and a value of the wrong shape
all count as no answer. How messages are posted is up to the caller, and so is how the body of an
answer is read: the encoding of a body is a matter between the two ends of a connection.
-/

namespace SourceAtlas

/-- What is read in the body of an answer. -/
inductive Body where
  /-- A JSON value. -/
  | json (v : Value)
  /-- No JSON value. -/
  | other
  /-- Brackets that nest so deeply that the reader gives up. -/
  | tooDeep

/-- What comes back when a message is posted. -/
inductive Exchange where
  /-- An answer with a status and a body. -/
  | received (status : Int) (body : Body)
  /-- The message was not delivered, or its answer was not. -/
  | failed
  /-- Posting broke off, for a cause with a name. -/
  | interrupted (cause : String)

namespace Client

/-- The status of an answer says that something went wrong. -/
def isErrorStatus (status : Int) : Bool :=
  400 ≤ status && status < 600

/-- The JSON value of a body; null if it has none. -/
def valueOfBody : Body → Except ClientError Value
  | .json v => .ok v
  | .other => .ok .null
  | .tooDeep => .error .tooDeep

/-- The JSON value that an exchange brings; null if it brings none. -/
def valueOf : Exchange → Except ClientError Value
  | .received status body => if isErrorStatus status then .ok .null else valueOfBody body
  | .failed => .ok .null
  | .interrupted cause => .error (.interrupted cause)

/-- The first item of a list. -/
def first? : Value → Option Value
  | .list (v :: _) => some v
  | _ => none

/-- The first item under a name. -/
def firstUnder? (v : Value) (name : String) : Option Value :=
  (v.get? name).bind first?

/-- The entry of a record, null if there is none. Other kinds of values have no entries. -/
def entry (v : Value) (name : String) : Except ClientError Value :=
  match v with
  | .record entries => .ok ((entries.lookup name).getD .null)
  | _ => .error .badAnswer

/-- A text is empty or blank. -/
def isBlankText : Value → Except ClientError Bool
  | .text s => .ok (Text.strip s.toList).isEmpty
  | _ => .error .badAnswer

/-- The text of a chat message: its content, or its reasoning if the content is blank. -/
def chatText (message : Value) : Except ClientError Value := do
  let content := (← entry message "content").orElse (.text "")
  if !(← isBlankText content) then return content
  let reasoning := (← entry message "reasoning").orElse (.text "")
  if !(← isBlankText reasoning) then return reasoning
  return content.orElse .null

/-- The answer in the JSON value that a service sends. -/
def answerIn (service : Service) (v : Value) : Except ClientError Value :=
  match service with
  | .ollama => entry v "response"
  | .openai | .groq | .openrouter =>
    match (firstUnder? v "choices").bind (·.get? "message") with
    | some message => chatText message
    | none => .ok .null
  | .anthropic => .ok (((firstUnder? v "content").bind (·.get? "text")).getD .null)
  | .gemini =>
    let content := (firstUnder? v "candidates").bind (·.get? "content")
    .ok (((content.bind (firstUnder? · "parts")).bind (·.get? "text")).getD .null)

/-- The answer that an exchange brings. -/
def read (c : Client) (e : Exchange) : Except ClientError Value :=
  match valueOf e with
  | .error e => .error e
  | .ok .null => .ok .null
  | .ok v => answerIn c.service v

/-- Posts the message for a prompt and reads the answer. -/
def ask (c : Client) (post : Message → Exchange) (prompt : String) : Except ClientError Value :=
  match c.message prompt with
  | .error e => .error e
  | .ok none => .ok .null
  | .ok (some m) => c.read (post m)

/-- The client as a provider for the enrichment. -/
def provider (c : Client) (post : Message → Exchange) : Provider := fun prompt =>
  match c.ask post prompt with
  | .ok v => .answers v
  | .error e => .raises e.text

end Client

end SourceAtlas
