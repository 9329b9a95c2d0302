import SourceAtlas.Provider.Instructions
import SourceAtlas.Settings.Basic
import SourceAtlas.Text.Blank
import SourceAtlas.Value.Shown

/-!
# Messages to a service

A client is a service with the settings for it. `Client.message` is what the client posts for a
prompt; each service has its own address, payload and headers. All but the local service want
credentials, and without them nothing is posted.
-/

namespace SourceAtlas

/-- A service that can be asked. -/
structure Client where
  service : Service
  settings : ModelSettings
  /-- The time to wait for an answer, in seconds. -/
  timeout : Value

/-- What a client posts. -/
structure Message where
  url : Value
  payload : Value
  headers : Entries
  /-- The time to wait for an answer, in seconds. -/
  timeout : Value

/-- Why a client breaks. -/
inductive ClientError where
  /-- The address is of a kind that cannot be cut at its end. -/
  | badAddress
  /-- The address consists of bytes, which do not mix with texts. -/
  | byteAddress
  /-- An answer has a part of a kind that the client does not expect there. -/
  | badAnswer
  /-- An answer is nested too deeply. -/
  | tooDeep
  /-- Posting broke off, for a cause with a name. -/
  | interrupted (cause : String)
  deriving DecidableEq, Repr

/-- The wording of an error. -/
def ClientError.text : ClientError → String
  | badAddress | byteAddress => "the address is not a text"
  | badAnswer => "the answer has an unexpected shape"
  | tooDeep => "the answer is nested too deeply"
  | interrupted cause => cause

namespace Client

/-- The time to wait for an answer unless told otherwise. -/
def usualTimeout : Value := .float 60.0

/-- The client for settings. An unknown service is replaced by the local one with all its
    defaults. -/
def make (m : ModelSettings) (timeout : Value := usualTimeout) : Client :=
  match m.service? with
  | some service => ⟨service, m, timeout⟩
  | none => ⟨.ollama, .usual, timeout⟩

/-- The client has the credentials that its service wants. -/
def isReady (c : Client) : Bool :=
  c.service = .ollama || !c.settings.apiKey.isVoid

/-- A list with one record. -/
def single (entries : Entries) : Value := .list [.record entries]

/-- What a client posts as its content. -/
def payload (c : Client) (prompt : String) : Value :=
  let m := c.settings
  match c.service with
  | .ollama =>
    .record [("model", m.model), ("prompt", .text (instructions ++ "\n\n" ++ prompt)),
      ("stream", .bool false), ("options", .record [("temperature", m.temperature)])]
  | .openai | .groq | .openrouter =>
    .record [("model", m.model),
      ("messages", .list [
        .record [("role", .text "system"), ("content", .text instructions)],
        .record [("role", .text "user"), ("content", .text prompt)]]),
      ("temperature", m.temperature), ("max_tokens", m.maxTokens)]
  | .anthropic =>
    .record [("model", m.model), ("system", .text instructions),
      ("messages", single [("role", .text "user"), ("content", .text prompt)]),
      ("max_tokens", m.maxTokens), ("temperature", m.temperature)]
  | .gemini =>
    .record [
      ("systemInstruction", .record [("parts", single [("text", .text instructions)])]),
      ("contents", single [("parts", single [("text", .text prompt)])]),
      ("generationConfig",
        .record [("temperature", m.temperature), ("maxOutputTokens", m.maxTokens)])]

/-- What a client posts as its headers. -/
def headers (c : Client) : Entries :=
  ("Content-Type", .text "application/json") ::
    match c.service with
    | .ollama | .gemini => []
    | .openai | .groq | .openrouter =>
      [("Authorization", .text ("Bearer " ++ c.settings.apiKey.shown))]
    | .anthropic =>
      [("x-api-key", c.settings.apiKey), ("anthropic-version", .text "2023-06-01")]

/-- Where a client posts to. One of the services has the model and the credentials in its
    address. -/
def url (c : Client) : Except ClientError Value :=
  match c.service with
  | .gemini =>
    match c.settings.endpoint with
    | .text endpoint =>
      .ok (.text (.ofList (Text.dropEnd (· = '/') endpoint.toList) ++ "/"
        ++ c.settings.model.shown ++ ":generateContent?key=" ++ c.settings.apiKey.shown))
    | .bytes _ => .error .byteAddress
    | _ => .error .badAddress
  | _ => .ok c.settings.endpoint

/-- What a client posts for a prompt; nothing without the credentials. -/
def message (c : Client) (prompt : String) : Except ClientError (Option Message) :=
  if c.isReady then
    c.url.map fun url =>
      some { url, payload := c.payload prompt, headers := c.headers, timeout := c.timeout }
  else .ok none

end Client

end SourceAtlas
