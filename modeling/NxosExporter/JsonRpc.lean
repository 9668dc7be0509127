import NxosExporter.Lib.Json

/-!
# JSON-RPC replies

`jsonrpc/utils`: the exceptions of the program and the validator that turns a reply body into one
response for each object of the batch.
-/

namespace NxosExporter

open Effectful Nlohmann

inductive IdType where
  | int (id : Int32)
  | string (id : String)
  deriving DecidableEq

structure JsonRpcResponse where
  id : IdType
  result : Json

structure JsonRpcException where
  code : Int32
  message : String
  data : Json

namespace JsonRpcException

def parseError : Int32 := -32700

def internalError : Int32 := -32603

end JsonRpcException

inductive IscException where
  | badValue
  | unexpected
  | notImplemented
  | outOfRange
  | configError
  | typeError
  | invalidParameter
  deriving DecidableEq, Repr

/-- The exceptions that reach a `catch (const std::exception&)`. -/
inductive Exn where
  | isc (cls : IscException) (what : String)
  | jsonRpc (exception : JsonRpcException)
  | json (error : JsonError)

/-- Whether a `catch (const isc::BadValue&)` takes the exception. -/
def Exn.isBadValue : Exn → Bool
  | isc .badValue _ => true
  | _ => false

def liftJson {α : Type} (outcome : Outcome JsonError α) : Outcome Exn α :=
  outcome.mapExn .json

@[simp]
theorem liftJson_ok {α : Type} (value : α) : liftJson (.ok value) = .ok value := rfl

@[simp]
theorem liftJson_throw {α : Type} (error : JsonError) :
    liftJson (.throw error : Outcome JsonError α) = .throw (.json error) := rfl

@[simp]
theorem liftJson_undefined {α : Type} :
    liftJson (.undefined : Outcome JsonError α) = .undefined := rfl

def hasKeyWithType (value : Json) (key : String) (type : ValueType) : Bool :=
  (value.find? key).any fun member => member.type = type

def JsonRpcException.fromJson (value : Json) : Outcome Exn JsonRpcException :=
  let hasCode := hasKeyWithType value "code" .numberInteger
  let hasMessage := hasKeyWithType value "message" .string
  let hasData := value.contains "data"
  if hasCode ∧ hasMessage then do
    let code ← liftJson (value.constIndex "code" >>= Json.getInt32)
    let message ← liftJson (value.constIndex "message" >>= Json.getString)
    let data ← if hasData then liftJson (value.constIndex "data") else pure .null
    pure ⟨code, message, data⟩
  else
    pure ⟨internalError,
      "invalid error response: \"code\" (negative number) and \"message\" (string) are required",
      .null⟩

def IdType.toString : IdType → String
  | int id => ToString.toString id.toInt
  | string id => id

/-- `id = inner["id"].get<string>()` for a string, `get<int>()` for everything else. -/
def readId (member : Json) : Outcome Exn IdType :=
  match member with
  | .string id => .ok (.string id)
  | other => do
      let id ← liftJson other.getInt32
      pure (.int id)

def validator (inner : Json) : Outcome Exn JsonRpcResponse :=
  if hasKeyWithType inner "error" .object then do
    let error ← liftJson (inner.constIndex "error")
    let exception ← JsonRpcException.fromJson error
    .throw (.jsonRpc exception)
  else if hasKeyWithType inner "error" .string then do
    let message ← liftJson (inner.constIndex "error" >>= Json.getString)
    .throw (.jsonRpc ⟨JsonRpcException.internalError, message, .null⟩)
  else if inner.contains "id" then do
    let member ← liftJson (inner.constIndex "id")
    let id ← readId member
    -- nx-api can return a null result, so it is not validated
    let result ← liftJson (inner.constIndex "result")
    pure ⟨id, result⟩
  else
    .throw (.jsonRpc ⟨JsonRpcException.internalError,
      "invalid server response: neither \"result\" nor \"error\" fields found for response id: "
        ++ (IdType.int 0).toString, .null⟩)

/-- `JsonRpcUtils::handleResponse`, after `json::parse`. The braces of `parsed` make an object of an array of a
name and a value. They wrap everything else, so that `parsed` is an array and what the switch sent is
`inner[0]`. -/
def handleParsed (reply : Json) : Outcome Exn (List JsonRpcResponse) :=
  let parsed := reply.braceInit
  if parsed.isArray then do
    let element ← liftJson (parsed.elementAt 0)
    let inner := element.braceInit
    if inner.size ≠ 0 then do
      let first ← liftJson (inner.elementAt 0)
      match first with
      | .array items => items.mapM validator
      | .object members => do
          let response ← validator (.object members)
          pure [response]
      | _ => pure []
    else
      pure []
  else do
    let response ← validator parsed
    pure [response]

/-- `JsonRpcUtils::handleResponse`: only a syntax error of the parser becomes a `JsonRpcException`. -/
def handleResponse (parse : String → Except JsonError Json) (response : String) :
    Outcome Exn (List JsonRpcResponse) :=
  match parse response with
  | .ok reply => handleParsed reply
  | .error (.parseError what) =>
      .throw (.jsonRpc ⟨JsonRpcException.parseError,
        "invalid JSON response from server: " ++ what, .null⟩)
  | .error error => .throw (.json error)

theorem handleParsed_eq (reply : Json) :
    handleParsed reply = match reply.deduced with
      | .array items => items.mapM validator
      | .object members => do
          let response ← validator (.object members)
          pure [response]
      | _ => pure [] := by
  cases hmember : reply.member? with
  | some member =>
      rw [handleParsed, Json.braceInit_of_member hmember, Json.deduced_of_member hmember]
      rfl
  | none =>
      have hwrap : reply.braceInit = .array [reply] := Json.braceInit_of_not_member hmember
      rw [Json.deduced_of_not_member hmember]
      simp only [handleParsed, hwrap, Json.elementAt, Json.isArray, Json.type, Json.size]
      cases reply <;> simp [hwrap]

theorem handleParsed_object (members : List (String × Json)) :
    handleParsed (.object members) = [Json.object members].mapM validator := by
  rw [handleParsed_eq, List.mapM_cons, List.mapM_nil]
  rfl

theorem handleParsed_array {items : List Json} (hitems : ∀ item ∈ items, item.isObject = true) :
    handleParsed (.array items) = items.mapM validator := by
  rw [handleParsed_eq, Json.deduced_of_not_member (Json.member?_of_isObject hitems)]

end NxosExporter
