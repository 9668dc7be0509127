import NxosExporter.ManagementClient
import NxosExporter.Proof.RequestAnswer

/-!
# The verdict on a route command

The validator stops at the first error of a batch and hands the handler an exception and no response. Whatever
the status, the verdict needs a response, so a batch with an error in any position is never logged as applied.
-/

namespace NxosExporter

open Effectful Nlohmann

/-- The request of a route command goes to one of the two handlers that judge its reply. -/
def ResponseHandler.isRouteVerdict : ResponseHandler → Bool
  | routeApply _ _ _ | routeRemove _ _ _ => true
  | lookupAddress _ _ _ | hwAddrMapping => false

def LogMessage.isSuccess : LogMessage → Bool
  | routeApplySuccess _ _ _ | routeRemoveSuccess _ _ _ => true
  | _ => false

def carriesError (item : Json) : Bool :=
  hasKeyWithType item "error" .object || hasKeyWithType item "error" .string

/-- An object with an integer or string as its identifier, and a result or an error. -/
structure IsResponseObject (item : Json) : Prop where
  object : item.isObject = true
  id : ∃ member, item.find? "id" = some member ∧
    (member.type = .numberInteger ∨ member.type = .numberUnsigned ∨ member.type = .string)
  content : item.contains "result" = true ∨ carriesError item = true

/-- The reply is one response object, or an array of them. -/
inductive IsBatch : Json → List Json → Prop
  | one {item : Json} (hitem : IsResponseObject item) : IsBatch item [item]
  | many {items : List Json} (hitems : ∀ item ∈ items, IsResponseObject item) :
      IsBatch (.array items) items

/-- What the client does when the task behind one of its requests hands it the reply. -/
def answeredEffects (env : HttpEnv) (basicAuth : Option String) (url : Url) (request : Request) :
    List ClientEffect :=
  (handlerCalls (requestTask env basicAuth (request.toHttp url)).effects).flatMap fun call =>
    (handleReply call.1 call.2).effects

def LogsSuccess (effects : List ClientEffect) : Prop :=
  ∃ message, message.isSuccess = true ∧ ClientEffect.log message ∈ effects

section Batch

variable {reply item : Json} {items : List Json}

theorem IsBatch.items_isResponseObject (hbatch : IsBatch reply items) :
    ∀ item ∈ items, IsResponseObject item := by
  cases hbatch with
  | one hitem => exact List.forall_mem_singleton.mpr hitem
  | many hitems => exact hitems

theorem handleParsed_of_isBatch (hbatch : IsBatch reply items) :
    handleParsed reply = items.mapM validator := by
  cases hbatch with
  | one hitem =>
      cases reply with
      | object members => exact handleParsed_object members
      | _ => cases hitem.object
  | many hitems => exact handleParsed_array fun item hmem => (hitems item hmem).object

theorem isErrorItem_eq (hitem : IsResponseObject item) : isErrorItem item = carriesError item := by
  obtain ⟨member, hfind, -⟩ := hitem.id
  simp [isErrorItem, carriesError, Json.contains, hfind]

theorem hasReadableId_of_isResponseObject (hitem : IsResponseObject item) : HasReadableId item := by
  obtain ⟨member, hfind, htype⟩ := hitem.id
  cases member with
  | numberInteger value => exact ⟨_, _, hfind, rfl⟩
  | numberUnsigned value => exact ⟨_, _, hfind, rfl⟩
  | string value => exact ⟨_, _, hfind, rfl⟩
  | _ => simp [Json.type] at htype

theorem wellFormedItem_of_isResponseObject (hitem : IsResponseObject item) : WellFormedItem item := by
  intro herror
  refine ⟨hasReadableId_of_isResponseObject hitem, ?_⟩
  rw [isErrorItem_eq hitem] at herror
  exact hitem.content.resolve_right (by simp [herror])

theorem wellFormedReply_of_isBatch (hbatch : IsBatch reply items) : WellFormedReply reply := by
  cases hbatch with
  | one hitem =>
      cases reply with
      | object members => exact wellFormedItem_of_isResponseObject hitem
      | _ => cases hitem.object
  | many hitems =>
      have hmember : (Json.array items).member? = none :=
        Json.member?_of_isObject fun item hmem => (hitems item hmem).object
      rw [WellFormedReply, Json.deduced_of_not_member hmember]
      intro item hmem
      exact wellFormedItem_of_isResponseObject (hitems item (mem_of_mem_throughFirst hmem))

/-- The validator accepts exactly the items without an error. -/
theorem validator_ok_iff (hitem : IsResponseObject item) :
    (∃ response, validator item = .ok response) ↔ carriesError item = false := by
  rw [← isErrorItem_eq hitem]
  cases herror : isErrorItem item with
  | true =>
      obtain ⟨exception, hthrow⟩ := validator_of_isErrorItem herror
      simp [hthrow]
  | false =>
      obtain ⟨response, hok⟩ | ⟨exn, hexn, hthrow⟩ :=
        (handled_validator_iff herror).mpr (wellFormedItem_of_isResponseObject hitem)
      · simp [hok]
      · have hnot := isErrorItem_iff.mpr ⟨exn, hexn, hthrow⟩
        rw [herror] at hnot
        cases hnot

/-- A batch is accepted when none of its items carries an error. -/
theorem mapM_validator_ok_iff (hitems : ∀ item ∈ items, IsResponseObject item) :
    (∃ responses, items.mapM validator = .ok responses) ↔
      ∀ item ∈ items, carriesError item = false := by
  rw [Outcome.exists_mapM_ok_iff]
  exact forall₂_congr fun item hmem => validator_ok_iff (hitems item hmem)

end Batch

/-! ### The verdict -/

section Verdict

variable {request : Request} {reply : Reply} {status : Int}

theorem handleReply_of_verdict (hverdict : request.handler.isRouteVerdict = true) :
    LogsSuccess (handleReply request.handler reply).effects ↔ checkRouteReply reply = .ok () := by
  cases hhandler : request.handler with
  | routeApply routeAddrTypeStr src dst =>
      cases hcheck : checkRouteReply reply <;>
        simp [handleReply, handleRouteApply, hcheck, LogsSuccess, LogMessage.isSuccess]
  | routeRemove routeAddrTypeStr src dst =>
      cases hcheck : checkRouteReply reply <;>
        simp [handleReply, handleRouteRemove, hcheck, LogsSuccess, LogMessage.isSuccess]
  | lookupAddress _ _ _ => simp [hhandler, ResponseHandler.isRouteVerdict] at hverdict
  | hwAddrMapping => simp [hhandler, ResponseHandler.isRouteVerdict] at hverdict

/-- Without a response no status is a success. -/
theorem checkRouteReply_of_empty (status : Int) (exception : Option JsonRpcException) :
    checkRouteReply ⟨some [], .success, status, exception⟩ ≠ .ok () := by
  by_cases hok : status = 200
  · simp [checkRouteReply, hok]
  · by_cases hunauthorized : status = 401
    · cases exception <;> simp [checkRouteReply, hunauthorized]
    · cases exception <;> simp [checkRouteReply, hok, hunauthorized]

theorem checkRouteReply_of_response {responses : List JsonRpcResponse} (hresponses : responses ≠ []) :
    checkRouteReply ⟨some responses, .success, 200, none⟩ = .ok () := by
  cases responses with
  | nil => exact absurd rfl hresponses
  | cons first rest => simp [checkRouteReply]

end Verdict

/-- **The verdict on a route command.** When the switch answers with a batch, success is not logged if an item
of it, at any position, carries an error or if there is none, whatever the status; and it is logged if the
status is 200 and there are items, none with an error. -/
theorem logsSuccess_of_batch (env : HttpEnv) (basicAuth : Option String) (url : Url) (request : Request)
    {status : Int} {body : String} {reply : Json} {items : List Json}
    (hverdict : request.handler.isRouteVerdict = true) (hscheme : url.scheme = .http)
    (hparser : ∀ value, env.parse "" ≠ .ok value)
    (hpost : env.post ((request.toHttp url).postCall basicAuth) = .response status body)
    (hparse : env.parse body = .ok reply) (hbatch : IsBatch reply items) :
    ((∃ item ∈ items, carriesError item = true) ∨ items = [] →
        ¬ LogsSuccess (answeredEffects env basicAuth url request)) ∧
      (status = 200 → items ≠ [] → (∀ item ∈ items, carriesError item = false) →
        LogsSuccess (answeredEffects env basicAuth url request)) := by
  have hbody : body ≠ "" := by
    rintro rfl
    exact hparser reply hparse
  have hwell : WellFormedExchange env (env.post ((request.toHttp url).postCall basicAuth)) := by
    rw [hpost]
    exact ⟨hbody, .inr ⟨reply, hparse, wellFormedReply_of_isBatch hbatch⟩⟩
  have hhandle : handleResponse env.parse body = items.mapM validator := by
    rw [handleResponse, hparse]
    exact handleParsed_of_isBatch hbatch
  have hhandler : (request.toHttp url).responseHandler = some request.handler := rfl
  obtain ⟨answer, hanswers, hcalls, -⟩ := requestTask_of_wellFormed hscheme hhandler hwell
  have hlogs : LogsSuccess (answeredEffects env basicAuth url request) ↔
      checkRouteReply answer = .ok () := by
    rw [answeredEffects, hcalls, List.flatMap_cons, List.flatMap_nil, List.append_nil]
    exact handleReply_of_verdict hverdict
  have haccepted := mapM_validator_ok_iff hbatch.items_isResponseObject
  rw [hlogs]
  rw [hpost] at hanswers
  cases hanswers with
  | rejected hrejected =>
      -- The handler is told of no response, which no status turns into a success.
      refine ⟨fun _ => checkRouteReply_of_empty _ _, ?_⟩
      intro _ _ hnone
      obtain ⟨responses, hresponses⟩ := haccepted.mpr hnone
      rw [hhandle, hresponses] at hrejected
      cases hrejected
  | @parsed _ _ responses hparsed =>
      rw [hhandle] at hparsed
      have hnone : ∀ item ∈ items, carriesError item = false := haccepted.mp ⟨_, hparsed⟩
      have hlength : items.length = responses.length := (Outcome.mapM_eq_ok_iff.mp hparsed).length_eq
      constructor
      · rintro (⟨item, hmem, herror⟩ | rfl)
        · rw [hnone item hmem] at herror
          cases herror
        · obtain rfl : responses = [] := List.length_eq_zero_iff.mp hlength.symm
          exact checkRouteReply_of_empty _ _
      · rintro rfl hitems -
        refine checkRouteReply_of_response ?_
        rintro rfl
        exact hitems (List.length_eq_zero_iff.mp hlength)

/-! A switch that executes the first command of a batch and rejects the second. -/

def secondRejected : List Json :=
  [.object [("id", .numberUnsigned 1), ("result", .null)],
    .object [("id", .numberUnsigned 2), ("error", .string "no such interface")]]

def secondRejectedBody : String :=
  "[\x7b\"id\":1,\"result\":null\x7d,\x7b\"id\":2,\"error\":\"no such interface\"\x7d]"

def rejectingSecond : HttpEnv where
  post _ := .response 200 secondRejectedBody
  parse body :=
    if body = secondRejectedBody then .ok (.array secondRejected) else .error (.parseError "unexpected input")

def removeFromVlan : Request where
  commands := [(1, .removeRouteIpv6 "2001:db8::5/128" "Vlan10"), (2, .removeNDCacheEntryIpv6 "Vlan10")]
  handler := .routeRemove "IA_NA" "2001:db8::5/128" "Vlan10"

theorem isBatch_secondRejected : IsBatch (.array secondRejected) secondRejected := by
  refine .many (List.forall_mem_cons.mpr ⟨?_, List.forall_mem_singleton.mpr ?_⟩)
  · exact ⟨rfl, ⟨_, rfl, .inr (.inl rfl)⟩, .inl rfl⟩
  · exact ⟨rfl, ⟨_, rfl, .inr (.inl rfl)⟩, .inr rfl⟩

theorem logsSuccess_of_batch_secondRejected :
    ¬ LogsSuccess (answeredEffects rejectingSecond none ⟨.http, "switch", 80⟩ removeFromVlan) := by
  have hparser : ∀ value, rejectingSecond.parse "" ≠ .ok value := by
    intro value
    simp [rejectingSecond, secondRejectedBody]
  have hparse : rejectingSecond.parse secondRejectedBody = .ok (.array secondRejected) := by
    simp [rejectingSecond]
  have hverdict := logsSuccess_of_batch rejectingSecond none ⟨.http, "switch", 80⟩ removeFromVlan rfl rfl
    hparser rfl hparse isBatch_secondRejected
  exact hverdict.1 (.inl ⟨_, List.mem_cons_of_mem _ List.mem_cons_self, rfl⟩)

end NxosExporter
