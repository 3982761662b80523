import JobsGateway.Http.Message
import JobsGateway.Json.Printer

/-!
# Answers of the gateway's own

What the gateway answers by itself is a JSON object. A failure is an object with one member,
`detail`, that says what went wrong.
-/

namespace JobsGateway.Response

/-- A response with a JSON text as its body. -/
def json (status : Status) (text : Text) : Response :=
  .typed status "application/json" (Utf8.encode text)

/-- A failure with a sentence about it. -/
def detail (status : Status) (sentence : Text) : Response :=
  .json status (Json.object [("detail".toList, Json.string sentence)])

/-- A response with plain text as its body. -/
def plain (status : Status) (text : Text) : Response :=
  .typed status "text/plain; charset=utf-8" (Utf8.encode text)

end JobsGateway.Response
