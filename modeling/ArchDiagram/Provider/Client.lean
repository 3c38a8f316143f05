import ArchDiagram.Provider.Stream

/-!
# Asking the provider

A request is sent with the caller's own key or else the configured one.  An exchange that fails in a
transient way is repeated a bounded number of times; once a text has begun nothing is repeated.

* `Client.generate`: asks for a text.
* `Client.count`: asks for the number of tokens that a request reads.
* `attempts`, `post`: the exchange with its repetitions.
-/

namespace ArchDiagram

/-- The body that carries a request; the same for a text and for a count, but for the marks of a
stream. -/
def TextRequest.toJson (r : TextRequest) (stream : Bool) : Json :=
  let head := [("model", .text r.model), ("input", .array (r.messages.map Message.toJson))]
  let effort := r.effort.map fun e => ("reasoning", Json.record [("effort", .text e.name)])
  let limit := r.maxOutputTokens.map fun n => ("max_output_tokens", Json.nat n)
  .record (if stream then head ++ [("stream", .bool true)] ++ effort.toList ++ limit.toList
    else head ++ effort.toList)

namespace Provider

structure Client where
  baseUrl : String
  defaultKey : Option String
  /-- The longest silence on a connection. -/
  timeout : Duration
  /-- How often an exchange is repeated. -/
  maxRetries : Nat

def dropLastSlashes (s : String) : String :=
  String.ofList ((s.toList.reverse.dropWhile (· == '/')).reverse)

/-- A credential that is trimmed, none if nothing is left. -/
def credential (s : Option String) : Option String :=
  (s.map Text.trim).filter (· ≠ "")

def Client.of (key : Option String) (baseUrl : String) (timeout : Duration) (maxRetries : Nat) :
    Client :=
  ⟨dropLastSlashes baseUrl, credential key, timeout, maxRetries⟩

def standardRetries : Nat := 2

def inputLimit : Nat := 2000000

def countLimit : Nat := 1024 * 1024

def inputSize (r : TextRequest) : Nat :=
  r.sections.foldl (fun n s => n + s.value.utf8ByteSize) r.instructions.utf8ByteSize

/-- The key for a request: the caller's, or else the configured one. -/
def Client.key? (c : Client) (r : TextRequest) : Option String :=
  (credential r.apiKey).or c.defaultKey

/-- What is wrong before anything is sent, or else the key to send. -/
def Client.prepare (c : Client) (r : TextRequest) : Except ProviderError String :=
  if inputLimit < inputSize r then
    .error (.invalidRequest ("Input too large: " ++ Decimal.text (inputSize r) ++ " chars (max " ++
      Decimal.text inputLimit ++ ")") none)
  else
    match c.key? r with
    | some k => .ok k
    | none => .error (.setup
        "Missing OpenAI API key. Set OPENAI_API_KEY or provide api_key in request.")

def errorOf (r : Web.Response) : ProviderError :=
  let requestId := (r.header? "x-request-id").filter Web.isPlainValue
  let reported := ((Json.ofText? r.text).bind errorField?).join
  let message := match reported with
    | some e => e.message.getD ""
    | none => "HTTP " ++ Decimal.text r.status
  let context : ErrorContext := ⟨some r.status, reported.bind (·.code), requestId⟩
  if r.status = 429 then .rateLimited (.seconds 60) (some context)
  else if r.status = 400 then .invalidRequest message (some context)
  else .failed "openai" message (some context)

/-- One exchange: an answer of success or the failure. -/
def postOnce (c : Client) (url key : String) (body : Json) (m : Web.Remote) :
    Except ProviderError Web.Response × Web.Remote :=
  let headers := [("authorization", "Bearer " ++ key), ("content-type", "application/json")]
  match Web.buildRequest? "POST" url headers (some body) with
  | none => (.error (.transport .unsendable), m)
  | some q =>
    match m.send q with
    | (.error f, m') => (.error (transportError c.timeout f), m')
    | (.ok r, m') => (if r.isSuccess then .ok r else .error (errorOf r), m')

/-- What is reported when the attempts are spent, by the failure of the last one, if there was one. -/
def spentError (failure : Option ProviderError) : ProviderError :=
  failure.getD (.failed "openai" "unknown error" none)

/-- The next attempts, `left` of them and numbered from `n` on, after the one that ended with
`failure`.  A transient failure is followed by another attempt unless the number of its own is
`last`; `spent` is what is reported when none is left. -/
def attempts (c : Client) (url key : String) (body : Json) (last : Nat)
    (spent : Option ProviderError → ProviderError) (left n : Nat) (failure : Option ProviderError)
    (m : Web.Remote) : Except ProviderError Web.Response × Web.Remote :=
  match left with
  | 0 => (.error (spent failure), m)
  | left + 1 =>
    match postOnce c url key body m with
    | (.ok r, m') => (.ok r, m')
    | (.error e, m') =>
      if e.isTransient ∧ n ≠ last then attempts c url key body last spent left (n + 1) (some e) m'
      else (.error e, m')

/-- An exchange that is repeated up to `retries` times while it fails in a transient way. -/
def post (c : Client) (url key : String) (body : Json) (retries : Nat) (m : Web.Remote) :
    Except ProviderError Web.Response × Web.Remote :=
  attempts c url key body retries spentError (retries + 1) 0 none m

def Client.generate (c : Client) (r : TextRequest) (m : Web.Remote) :
    Answer ProviderError TextStream × Web.Remote :=
  match c.prepare r with
  | .error e => (.error e, m)
  | .ok key =>
    match post c (c.baseUrl ++ "/responses") key (r.toJson true) c.maxRetries m with
    | (.error e, m') => (.error e, m')
    | (.ok a, m') => (.ok (textStream c.timeout a), m')

/-- The pieces of a body put together, or the failure if it grows too large or breaks off. -/
def gather (wait : Duration) (fault : Option Web.Fault) (size : Nat) (done : List (List UInt8)) :
    List (List UInt8) → Except ProviderError (List UInt8)
  | [] =>
    match fault with
    | none => .ok done.reverse.flatten
    | some f => .error (transportError wait f)
  | p :: ps =>
    let size' := size + p.length
    if countLimit < size' then
      .error (.failed "openai" ("Response too large: " ++ Decimal.text size' ++ " bytes") none)
    else gather wait fault size' (p :: done) ps

/-- The number of tokens that a body tells.  Where it is no such record, what stands behind
`Invalid JSON: ` does not say what is wrong with it: one wording does for every such body. -/
def tokensOf (body : List UInt8) : Except ProviderError Nat :=
  let field : Option (Option Nat) := do
    match ← (← Json.ofOctets? body).slots ["input_tokens"] with
    | [n] => n.optional (Json.natural? (Decimal.twoTo 64))
    | _ => none
  match field with
  | some (some n) => .ok n
  | some none => .error (.failed "openai" "OpenAI input token count returned invalid payload." none)
  | none => .error (.failed "openai" "Invalid JSON: not a token count" none)

def Client.count (c : Client) (r : TextRequest) (m : Web.Remote) :
    Answer ProviderError Nat × Web.Remote :=
  match c.prepare r with
  | .error e => (.error e, m)
  | .ok key =>
    match post c (c.baseUrl ++ "/responses/input_tokens") key (r.toJson false) c.maxRetries m with
    | (.error e, m') => (.error e, m')
    | (.ok a, m') =>
      match gather c.timeout a.fault 0 [] a.pieces with
      | .error e => (.error e, m')
      | .ok body =>
        match tokensOf body with
        | .error e => (.error e, m')
        | .ok n => (.ok n, m')

end Provider

end ArchDiagram
