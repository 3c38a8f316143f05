import ArchDiagram.Json.Record
import ArchDiagram.Repository.Snapshot
import ArchDiagram.Text.Base64
import ArchDiagram.Text.Lowercase
import ArchDiagram.Web.Exchange

/-!
# Asking the host of a repository

A snapshot is put together from three answers of the repository's host: the repository, its tree and
its README, asked for in this order.  The first that fails ends the attempt.  Paths that never help
to explain an architecture are left out of the tree.

* `Host.fetch`: the snapshot of a repository.
* `isListed`: whether a path is kept.
* `readmeText`: the text of a README.
-/

namespace ArchDiagram.Repository

structure Host where
  apiUrl : String
  /-- The configured token. -/
  token : Option String

/-- A token that is trimmed, none if nothing is left. -/
def usableToken (t : Option String) : Option String :=
  (t.map Text.trim).filter (· ≠ "")

def Host.of (token : Option String) (apiUrl : String) : Host :=
  ⟨String.ofList ((apiUrl.toList.reverse.dropWhile (· == '/')).reverse), usableToken token⟩

/-- The token for a request: the caller's, or else the configured one. -/
def Host.tokenFor (h : Host) (credential : Option String) : Option String :=
  (usableToken credential).or h.token

def headers (token : Option String) : List (String × String) :=
  [("accept", "application/vnd.github+json"), ("user-agent", "repodiagram")] ++
    (token.map fun t => ("authorization", "token " ++ t)).toList

/-- The wording where an answer is not the JSON that is expected. -/
def undecodable : SnapshotError :=
  .decode "error decoding response body"

/-- Asks for a JSON answer and reads it; `missing` is the wording where there is nothing.  The
status is that of the answer after the redirects that the exchange has followed. -/
def getJson {α : Type} (read : Json → Option α) (url : String) (token : Option String)
    (missing : String) (m : Web.Remote) : Except SnapshotError α × Web.Remote :=
  match Web.buildRequest? "GET" url (headers token) none with
  | none => (.error (.transport .unsendable), m)
  | some q =>
    match m.send q with
    | (.error f, m') => (.error (.transport f), m')
    | (.ok r, m') =>
      if r.status = 404 then (.error (.notFound missing), m')
      else if !r.isSuccess then (.error (.unsuccessful r.status r.text), m')
      else
        match (r.octets?.bind Json.ofOctets?).bind read with
        | some a => (.ok a, m')
        | none => (.error undecodable, m')

/-! ## The three answers -/

def branchOf? (j : Json) : Option String := do
  match ← j.slots ["default_branch"] with
  | [b] => return ((← b.optional Json.text?).filter (· ≠ "")).getD "main"
  | _ => none

def pathOf? (j : Json) : Option (Option String) := do
  match ← j.slots ["path"] with
  | [p] => p.optional Json.text?
  | _ => none

def pathsOf? (j : Json) : Option (List String) := do
  match ← j.slots ["tree"] with
  | [t] => (← t.orElse [] fun v => do (← v.items?).mapM pathOf?).filterMap id
  | _ => none

/-- What paths that are left out contain, in lower case. -/
def excluded : List String :=
  ["node_modules/", "vendor/", "venv/", ".min.", ".pyc", ".pyo", ".pyd", ".so", ".dll", ".class",
   ".jpg", ".jpeg", ".png", ".gif", ".ico", ".svg", ".ttf", ".woff", ".webp", "__pycache__/",
   ".cache/", ".tmp/", "yarn.lock", "poetry.lock", "*.log", ".vscode/", ".idea/"]

def isListed (path : String) : Bool :=
  let lower := Text.lowercase path.toList
  !excluded.any fun e => Text.contains e.toList lower

def readmeOf? (j : Json) : Option (Option String × Option String) := do
  match ← j.slots ["content", "encoding"] with
  | [c, e] => return (← c.optional Json.text?, ← e.optional Json.text?)
  | _ => none

/-- The text of a content in base64, which may be wrapped anywhere. -/
def base64Text (content : String) : Except SnapshotError String :=
  let symbols := content.toList.filter fun c => !Text.isBlank c
  match Base64.decode? symbols with
  | none => .error (.decode ("README is not valid base64: " ++
      (Base64.faultOf (Utf8.encode (String.ofList symbols))).message))
  | some bs =>
    match Utf8.decode? bs with
    | some s => .ok s
    | none => .error (.decode ("README is not valid UTF-8: " ++
        ((Utf8.flaw? bs).map Utf8.Flaw.message).getD ""))

/-- The text of a README.  A content in another encoding is taken as it is. -/
def readmeText (content encoding : Option String) : Except SnapshotError String :=
  match content.filter (· ≠ "") with
  | none => .error .missingReadme
  | some c => if encoding = some "base64" then base64Text c else .ok c

/-! ## The snapshot -/

def Host.branch (h : Host) (owner repo : String) (token : Option String) (m : Web.Remote) :
    Except SnapshotError String × Web.Remote :=
  getJson branchOf? (h.apiUrl ++ "/repos/" ++ owner ++ "/" ++ repo) token "Repository not found." m

/-- The listing of paths, which must not be empty. -/
def listing (paths : List String) : Except SnapshotError String :=
  match paths.filter isListed with
  | [] => .error .emptyListing
  | ps => .ok ("\n".intercalate ps)

def Host.tree (h : Host) (owner repo branch : String) (token : Option String) (m : Web.Remote) :
    Except SnapshotError String × Web.Remote :=
  match getJson pathsOf?
      (h.apiUrl ++ "/repos/" ++ owner ++ "/" ++ repo ++ "/git/trees/" ++ branch ++ "?recursive=1")
      token "Could not fetch repository file tree." m with
  | (.error e, m') => (.error e, m')
  | (.ok paths, m') => (listing paths, m')

def Host.readme (h : Host) (owner repo : String) (token : Option String) (m : Web.Remote) :
    Except SnapshotError String × Web.Remote :=
  match getJson readmeOf? (h.apiUrl ++ "/repos/" ++ owner ++ "/" ++ repo ++ "/readme") token
      SnapshotError.missingReadme.message m with
  | (.error e, m') => (.error e, m')
  | (.ok (content, encoding), m') => (readmeText content encoding, m')

def Host.fetch (h : Host) (owner repo : String) (credential : Option String) (m : Web.Remote) :
    Except SnapshotError Snapshot × Web.Remote :=
  let token := h.tokenFor credential
  match h.branch owner repo token m with
  | (.error e, m₁) => (.error e, m₁)
  | (.ok branch, m₁) =>
    match h.tree owner repo branch token m₁ with
    | (.error e, m₂) => (.error e, m₂)
    | (.ok tree, m₂) =>
      match h.readme owner repo token m₂ with
      | (.error e, m₃) => (.error e, m₃)
      | (.ok readme, m₃) => (.ok ⟨branch, tree, readme⟩, m₃)

end ArchDiagram.Repository
