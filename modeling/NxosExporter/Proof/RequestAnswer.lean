import NxosExporter.HttpClient

/-!
# Answering a request

The task behind a request calls the response handler last, so the handler misses exactly the exchanges in
which an exception other than a `JsonRpcException` leaves the reading of the body. The validator raises
one for an item that is no error and whose identifier or result it cannot read.
-/

namespace NxosExporter

open Effectful Nlohmann

def Exn.IsJsonRpc (exn : Exn) : Prop := ∃ exception, exn = .jsonRpc exception

/-- An item that the validator answers with a `JsonRpcException`. -/
def isErrorItem (item : Json) : Bool :=
  hasKeyWithType item "error" .object || hasKeyWithType item "error" .string || !item.contains "id"

def HasReadableId (item : Json) : Prop :=
  ∃ member id, item.find? "id" = some member ∧ readId member = .ok id

/-- An error, or a response with an identifier that can be read and with a result. -/
def WellFormedItem (item : Json) : Prop :=
  isErrorItem item = false → HasReadableId item ∧ item.contains "result" = true

/-- Every item up to the first error is well formed; an array of a name and a value is read as the object with
that member. -/
def WellFormedReply (reply : Json) : Prop :=
  match reply.deduced with
  | .array items => ∀ item ∈ throughFirst isErrorItem items, WellFormedItem item
  | .object members => WellFormedItem (.object members)
  | _ => True

/-- A transport error, or a body that is not empty and either is no JSON or holds a well-formed reply. -/
def WellFormedExchange (env : HttpEnv) : PostResult → Prop
  | .error _ => True
  | .response _ body => body ≠ "" ∧
      ((∃ what, env.parse body = .error (.parseError what)) ∨
        ∃ reply, env.parse body = .ok reply ∧ WellFormedReply reply)

/-- What the handler may be told of an exchange. -/
inductive Answers (env : HttpEnv) : PostResult → Reply → Prop
  | transportError (error : HttplibError) :
      Answers env (.error error) ⟨some [], httplibErrorToNXOSHttpClientMapper error, 200, none⟩
  | rejected {status : Int} {body : String} {exception : JsonRpcException}
      (hrejected : handleResponse env.parse body = .throw (.jsonRpc exception)) :
      Answers env (.response status body) ⟨some [], .success, status, some exception⟩
  | parsed {status : Int} {body : String} {responses : List JsonRpcResponse}
      (hparsed : handleResponse env.parse body = .ok responses) :
      Answers env (.response status body) ⟨some responses, .success, status, none⟩

section Validator

theorem hasKeyWithType_iff {value : Json} {key : String} {type : ValueType} :
    hasKeyWithType value key type = true ↔ ∃ member, value.find? key = some member ∧ member.type = type := by
  simp [hasKeyWithType, Option.any_eq_true]

theorem jsonRpcException_fromJson_eq_ok (value : Json) :
    ∃ exception, JsonRpcException.fromJson value = .ok exception := by
  by_cases hcode : hasKeyWithType value "code" .numberInteger
  · by_cases hmessage : hasKeyWithType value "message" .string
    · obtain ⟨code, hcodeMember, hcodeType⟩ := hasKeyWithType_iff.mp hcode
      obtain ⟨message, hmessageMember, hmessageType⟩ := hasKeyWithType_iff.mp hmessage
      have hcodeIndex := Json.constIndex_of_find? hcodeMember
      have hmessageIndex := Json.constIndex_of_find? hmessageMember
      cases code <;> simp [Json.type] at hcodeType
      cases message <;> simp [Json.type] at hmessageType
      cases hdata : value.find? "data" with
      | none =>
          simp [JsonRpcException.fromJson, hcode, hmessage, hcodeIndex, hmessageIndex, Json.getInt32,
            Json.getString, Json.contains, hdata]
      | some data =>
          have hdataIndex := Json.constIndex_of_find? hdata
          simp [JsonRpcException.fromJson, hcode, hmessage, hcodeIndex, hmessageIndex, Json.getInt32,
            Json.getString, Json.contains, hdata, hdataIndex]
    · simp [JsonRpcException.fromJson, hmessage]
  · simp [JsonRpcException.fromJson, hcode]

variable {item : Json}

theorem validator_of_isErrorItem (herror : isErrorItem item = true) :
    ∃ exception, validator item = .throw (.jsonRpc exception) := by
  by_cases hobject : hasKeyWithType item "error" .object
  · obtain ⟨error, hfind, -⟩ := hasKeyWithType_iff.mp hobject
    obtain ⟨exception, hexception⟩ := jsonRpcException_fromJson_eq_ok error
    exact ⟨exception, by simp [validator, hobject, Json.constIndex_of_find? hfind, hexception]⟩
  · by_cases hstring : hasKeyWithType item "error" .string
    · obtain ⟨error, hfind, htype⟩ := hasKeyWithType_iff.mp hstring
      cases error <;> simp [Json.type] at htype
      simp [validator, hobject, hstring, Json.constIndex_of_find? hfind, Json.getString]
    · have hid : item.contains "id" = false := by simpa [isErrorItem, hobject, hstring] using herror
      simp [validator, hobject, hstring, hid]

theorem validator_of_not_isErrorItem {member : Json} (herror : isErrorItem item = false)
    (hmember : item.find? "id" = some member) :
    validator item = readId member >>= fun id =>
      (fun result => ⟨id, result⟩) <$> liftJson (item.constIndex "result") := by
  have hkeys : hasKeyWithType item "error" .object = false ∧ hasKeyWithType item "error" .string = false ∧
      item.contains "id" = true := by
    simpa [isErrorItem, and_assoc] using herror
  simp [validator, hkeys, Json.constIndex_of_find? hmember]

theorem not_isJsonRpc_of_liftJson {α : Type} {outcome : Outcome JsonError α} {exn : Exn}
    (hthrow : liftJson outcome = .throw exn) : ¬ exn.IsJsonRpc := by
  rintro ⟨exception, rfl⟩
  cases outcome <;> simp at hthrow

theorem not_isJsonRpc_of_readId {member : Json} {exn : Exn} (hthrow : readId member = .throw exn) :
    ¬ exn.IsJsonRpc := by
  cases hint : liftJson member.getInt32 with
  | ok id => cases member <;> simp [readId, hint] at hthrow
  | throw error =>
      have heq : error = exn := by cases member <;> simp_all [readId]
      exact heq ▸ not_isJsonRpc_of_liftJson hint
  | undefined => cases member <;> simp [readId, hint] at hthrow

theorem constIndex_result_eq (hid : HasReadableId item) :
    item.constIndex "result" = .deref (item.find? "result") := by
  obtain ⟨member, -, hfind, -⟩ := hid
  cases item with
  | object members => rfl
  | _ => simp [Json.find?] at hfind

theorem handled_validator_iff (herror : isErrorItem item = false) :
    Outcome.Handled Exn.IsJsonRpc (validator item) ↔ WellFormedItem item := by
  have hcontains : item.contains "id" = true := by
    cases hid : item.contains "id" <;> simp_all [isErrorItem]
  obtain ⟨member, hmember⟩ := Option.isSome_iff_exists.mp hcontains
  have hreadable : HasReadableId item ↔ ∃ id, readId member = .ok id := by
    simp [HasReadableId, hmember]
  rw [validator_of_not_isErrorItem herror hmember]
  cases hread : readId member with
  | ok id =>
      have hid : HasReadableId item := hreadable.mpr ⟨id, hread⟩
      rw [Outcome.ok_bind, Outcome.handled_map_iff, constIndex_result_eq hid]
      cases hresult : item.find? "result" <;>
        simp [WellFormedItem, herror, hid, Json.contains, hresult]
  | throw exn =>
      have hid : ¬ HasReadableId item := by simp [hreadable, hread]
      simp [WellFormedItem, herror, hid, not_isJsonRpc_of_readId hread]
  | undefined =>
      have hid : ¬ HasReadableId item := by simp [hreadable, hread]
      simp [WellFormedItem, herror, hid]

theorem isErrorItem_iff :
    isErrorItem item = true ↔ ∃ exn, Exn.IsJsonRpc exn ∧ validator item = .throw exn := by
  constructor
  · intro herror
    obtain ⟨exception, hthrow⟩ := validator_of_isErrorItem herror
    exact ⟨.jsonRpc exception, ⟨exception, rfl⟩, hthrow⟩
  · rintro ⟨exn, hexn, hthrow⟩
    by_contra hnot
    have herror : isErrorItem item = false := by simpa using hnot
    have hwell : WellFormedItem item :=
      (handled_validator_iff herror).mp (.inr ⟨exn, hexn, hthrow⟩)
    obtain ⟨hid, hresult⟩ := hwell herror
    obtain ⟨member, readable, hmember, hread⟩ := id hid
    obtain ⟨result, hfind⟩ := Option.isSome_iff_exists.mp hresult
    rw [validator_of_not_isErrorItem herror hmember, hread, Outcome.ok_bind,
      constIndex_result_eq hid, hfind] at hthrow
    simp at hthrow

/-- A reply is turned into responses or into one `JsonRpcException` exactly when it is well formed. -/
theorem handled_handleParsed_iff (reply : Json) :
    Outcome.Handled Exn.IsJsonRpc (handleParsed reply) ↔ WellFormedReply reply := by
  have hitem : ∀ item, Outcome.Handled Exn.IsJsonRpc (validator item) ↔ WellFormedItem item := by
    intro item
    cases herror : isErrorItem item with
    | false => exact handled_validator_iff herror
    | true =>
        obtain ⟨exception, hthrow⟩ := validator_of_isErrorItem herror
        simp [hthrow, WellFormedItem, herror, Exn.IsJsonRpc]
  rw [handleParsed_eq, WellFormedReply]
  cases reply.deduced with
  | array items =>
      simp only [handled_mapM_iff fun _ => isErrorItem_iff]
      exact forall₂_congr fun item _ => hitem item
  | object members => simpa using hitem (.object members)
  | _ => simp

end Validator

/-! ### The task -/

section Task

variable {H : Type} {env : HttpEnv} {basicAuth : Option String} {request : HttpRequest H}

def handlerCalls (effects : List (TaskEffect H)) : List (H × Reply) :=
  effects.filterMap fun
    | .callHandler handler reply => some (handler, reply)
    | _ => none

theorem handled_validateResponse_iff (body : String) :
    Outcome.Handled Exn.IsJsonRpc (validateResponse env body) ↔
      body ≠ "" ∧ ((∃ what, env.parse body = .error (.parseError what)) ∨
        ∃ reply, env.parse body = .ok reply ∧ WellFormedReply reply) := by
  by_cases hempty : body = ""
  · simp [validateResponse, hempty, Exn.IsJsonRpc]
  · rw [validateResponse, if_neg hempty, handleResponse]
    cases hparse : env.parse body with
    | ok reply => simp [hempty, handled_handleParsed_iff]
    | error error => cases error <;> simp [hempty, Exn.IsJsonRpc]

theorem readBody_of_ok {body : String} {responses : List JsonRpcResponse}
    (hvalidate : validateResponse env body = .ok responses) :
    (readBody env body : Prog (TaskEffect H) Exn _) = pure (responses, none) := by
  rw [readBody, hvalidate, Prog.lift_ok_bind]
  exact Prog.tryCatch_of_ok rfl _

theorem readBody_of_jsonRpc {body : String} {exception : JsonRpcException}
    (hvalidate : validateResponse env body = .throw (.jsonRpc exception)) :
    (readBody env body : Prog (TaskEffect H) Exn _)
      = ⟨[.logValidateError exception], .ok ([], some exception)⟩ := by
  simp only [readBody, hvalidate, Prog.lift_throw_bind, Prog.tryCatch_throw]
  rfl

theorem requestTask_of_wellFormed {handler : H} (hscheme : request.url.scheme = .http)
    (hhandler : request.responseHandler = some handler)
    (hwell : WellFormedExchange env (env.post (request.postCall basicAuth))) :
    ∃ reply, Answers env (env.post (request.postCall basicAuth)) reply ∧
      handlerCalls (requestTask env basicAuth request).effects = [(handler, reply)] ∧
      (requestTask env basicAuth request).outcome = .ok () := by
  cases hpost : env.post (request.postCall basicAuth) with
  | error error =>
      refine ⟨_, .transportError error, ?_, ?_⟩
      · simp [requestTask, hscheme, hpost, runHandler, hhandler, handlerCalls]
      · simp [requestTask, hscheme, hpost, runHandler, hhandler]
  | response status body =>
      rw [hpost, WellFormedExchange] at hwell
      have hbody : validateResponse env body = handleResponse env.parse body := by
        rw [validateResponse, if_neg hwell.1]
      obtain ⟨responses, hvalidate⟩ | ⟨exn, ⟨exception, rfl⟩, hvalidate⟩ :=
        (handled_validateResponse_iff body).mpr hwell
      · have hread : (readBody env body : Prog (TaskEffect H) Exn _) = pure (responses, none) :=
          readBody_of_ok hvalidate
        refine ⟨_, .parsed (hbody ▸ hvalidate), ?_, ?_⟩
        · simp [requestTask, hscheme, hpost, hread, runHandler, hhandler, handlerCalls]
        · simp [requestTask, hscheme, hpost, hread, runHandler, hhandler]
      · refine ⟨_, .rejected (hbody ▸ hvalidate), ?_, ?_⟩
        · simp [requestTask, hscheme, hpost, readBody_of_jsonRpc hvalidate, runHandler, hhandler, handlerCalls,
            Prog.bind_eq, Prog.bind]
        · simp [requestTask, hscheme, hpost, readBody_of_jsonRpc hvalidate, runHandler, hhandler,
            Prog.bind_eq, Prog.bind]

end Task

end NxosExporter
