import SessionGate.Gateway.Error

/-! What the gateway answers. -/

namespace SessionGate

/-- The body of an answer. -/
inductive Content where
  | empty
  | text (text : String)
  | document (document : Json)
  | problem (problem : Problem)

/-- An answer to a client. -/
structure Response where
  status : Nat
  headers : List (String × String)
  content : Content

namespace Content

/-- The text of a body. -/
def render : Content → String
  | .empty => ""
  | .text words => words
  | .document value => value.render
  | .problem value => value.toJson.render

/-- The media type of a body. -/
def mediaType? : Content → Option String
  | .empty => none
  | .text _ => some "text/plain; charset=utf-8"
  | .document _ => some "application/json"
  | .problem _ => some Problem.mediaType

end Content

namespace Response

/-- An answer that is told apart by its status and body alone. -/
def make (status : Nat) (content : Content) : Response :=
  ⟨status, (content.mediaType?.map fun value => ("content-type", value)).toList, content⟩

/-- An answer with a document. -/
def ofJson (document : Json) : Response := make 200 (.document document)

/-- The answer that tells a fault. -/
def ofError (fault : GatewayError) : Response := make fault.status (.problem fault.toProblem)

/-- The answer that tells what came of a request to the connection service. -/
def ofResult {α : Type} (toJson : α → Json) : Except ConnectionError α → Response
  | .ok value => ofJson (toJson value)
  | .error fault => ofError (.ofConnection fault)

/-- The answer to a request that takes too long. -/
def timedOut : Response := make 408 .empty

/-- The answer to a request that announces a body longer than may be. -/
def tooLarge : Response := make 413 (.text "length limit exceeded")

/-- The answer to a method that a place does not serve. -/
def notServed : Response := make 405 .empty

/-- A problem that does not tell where it occurred gets told the place. -/
def locate (response : Response) (path : String) : Response :=
  match response.content with
  | .problem problem =>
    -- A refusal of another service may have told a place of its own.
    if problem.instancePath.isEmpty then
      { response with content := .problem (problem.withInstance path) }
    else response
  | _ => response

/-- An answer with more headers. -/
def withHeaders (response : Response) (headers : List (String × String)) : Response :=
  { response with headers := response.headers ++ headers }

/-- An answer without its body. -/
def withoutContent (response : Response) : Response := { response with content := .empty }

end Response

end SessionGate
