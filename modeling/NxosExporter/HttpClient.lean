import NxosExporter.JsonRpc

/-!
# One HTTP request

`NXOSHttpClientImpl::sendRequest` posts a task to the I/O service; `requestTask` is that task. The HTTP
library and the JSON parser are the two things it calls that are not part of the program, and
`HttpEnv` is what they answer.
-/

namespace NxosExporter

open Effectful Nlohmann

inductive UrlScheme where
  | http
  | https
  deriving DecidableEq, Repr

structure Url where
  scheme : UrlScheme
  strippedHostname : String
  port : Nat
  deriving DecidableEq, Repr

structure TLSInfo where
  deriving DecidableEq, Repr

/-! The errors of `httplib` and the program's own, which the mapper below relates; an error of the
library that the mapper does not name is `other`. -/

inductive HttplibError where
  | success
  | unknown
  | connection
  | bindIPAddress
  | read
  | write
  | exceedRedirectCount
  | canceled
  | sslConnection
  | sslLoadingCerts
  | sslServerVerification
  | unsupportedMultipartBoundaryChars
  | compression
  | connectionTimeout
  | proxyConnection
  | other
  deriving DecidableEq, Repr

inductive ResponseError where
  | success
  | unknown
  | connection
  | bindIPAddress
  | read
  | write
  | exceedRedirectCount
  | canceled
  | sslConnection
  | sslLoadingCerts
  | sslServerVerification
  | unsupportedMultipartBoundaryChars
  | compression
  | connectionTimeout
  | proxyConnection
  deriving DecidableEq, Repr

def httplibErrorToNXOSHttpClientMapper : HttplibError → ResponseError
  | .success => .success
  | .connection => .connection
  | .bindIPAddress => .bindIPAddress
  | .read => .read
  | .write => .write
  | .exceedRedirectCount => .exceedRedirectCount
  | .canceled => .canceled
  | .sslConnection => .sslConnection
  | .sslLoadingCerts => .sslLoadingCerts
  | .sslServerVerification => .sslServerVerification
  | .unsupportedMultipartBoundaryChars => .unsupportedMultipartBoundaryChars
  | .compression => .compression
  | .connectionTimeout => .connectionTimeout
  | .proxyConnection => .proxyConnection
  | .unknown => .unknown
  | .other => .unknown

/-- `NXOSHttpClient::ResponseErrorToString`: the two enumerations number their errors alike, and the text
is the library's. -/
def responseErrorToString : ResponseError → String
  | .success => "Success (no error)"
  | .unknown => "Unknown"
  | .connection => "Could not establish connection"
  | .bindIPAddress => "Failed to bind IP address"
  | .read => "Failed to read connection"
  | .write => "Failed to write connection"
  | .exceedRedirectCount => "Maximum redirect count exceeded"
  | .canceled => "Connection handling canceled"
  | .sslConnection => "SSL connection failed"
  | .sslLoadingCerts => "SSL certificate loading failed"
  | .sslServerVerification => "SSL server verification failed"
  | .unsupportedMultipartBoundaryChars => "Unsupported HTTP multipart boundary characters"
  | .compression => "Compression failed"
  | .connectionTimeout => "Connection timed out"
  | .proxyConnection => "Proxy connection failed"

/-- What `cli.Post` is called with, the settings of the client included. -/
structure PostCall where
  host : String
  port : Nat
  connectionTimeout : Int
  basicAuth : Option (String × String)
  endpointName : String
  body : Json
  contentType : String

inductive PostResult where
  | error (error : HttplibError)
  | response (status : Int) (body : String)
  deriving DecidableEq, Repr

structure HttpEnv where
  post : PostCall → PostResult
  parse : String → Except JsonError Json

structure HttpRequest (H : Type) where
  url : Url
  endpointName : String
  tlsContext : Option TLSInfo
  requestBody : Json
  responseHandler : Option H
  timeout : Int

structure Reply where
  response : Option (List JsonRpcResponse)
  responseError : ResponseError
  statusCode : Int
  jsonRpcException : Option JsonRpcException

inductive TaskEffect (H : Type) where
  | callHandler (handler : H) (reply : Reply)
  | logCommunicationFailed (error : HttplibError)
  | logValidateError (exception : JsonRpcException)

def splitSecret (secret : String) : Option (String × String) :=
  match secret.toList.span (· ≠ ':') with
  | (_, []) => none
  | (login, _ :: password) => some (String.ofList login, String.ofList password)

def validateResponse (env : HttpEnv) (response : String) : Outcome Exn (List JsonRpcResponse) :=
  if response = "" then
    .throw (.isc .badValue "no body found in the response")
  else
    handleResponse env.parse response

section Task

variable {H : Type}

def HttpRequest.postCall (request : HttpRequest H) (basicAuth : Option String) : PostCall where
  host := request.url.strippedHostname
  port := request.url.port
  connectionTimeout := request.timeout
  basicAuth := basicAuth.bind splitSecret
  endpointName := request.endpointName
  body := request.requestBody
  contentType := "application/json-rpc"

def runHandler (request : HttpRequest H) (reply : Reply) : Prog (TaskEffect H) Exn Unit :=
  match request.responseHandler with
  | some handler => .emit (.callHandler handler reply)
  | none => pure ()

/-- The body as responses, or as the exception handed back to the handler. Only a `JsonRpcException`
is caught. -/
def readBody (env : HttpEnv) (body : String) :
    Prog (TaskEffect H) Exn (List JsonRpcResponse × Option JsonRpcException) :=
  Prog.tryCatch
    (do
      let jsonRpcResponseRaw ← .lift (validateResponse env body)
      pure (jsonRpcResponseRaw, none))
    fun
      | .jsonRpc exception => do
          .emit (.logValidateError exception)
          pure ([], some exception)
      | exn => .throw exn

def requestTask (env : HttpEnv) (basicAuth : Option String) (request : HttpRequest H) :
    Prog (TaskEffect H) Exn Unit :=
  match request.url.scheme with
  | .https =>
      match request.tlsContext with
      | none =>
          .throw (.isc .notImplemented "https tls context not implemented for requests")
      | some _ => pure ()
  | .http =>
      match env.post (request.postCall basicAuth) with
      | .error error => do
          .emit (.logCommunicationFailed error)
          runHandler request ⟨some [], httplibErrorToNXOSHttpClientMapper error, 200, none⟩
      | .response status body => do
          let (jsonRpcResponseRaw, jsonRpcException) ← readBody env body
          runHandler request ⟨some jsonRpcResponseRaw, .success, status, jsonRpcException⟩

end Task

end NxosExporter
