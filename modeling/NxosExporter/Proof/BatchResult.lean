import NxosExporter.Proof.RequestAnswer

/-!
# The result of a batch

A reply is one object or an array of them, and the validator goes through them in order. It reads the result
of an object by the const `operator[]`, so a batch is computed exactly when every object before the first
error has a result; one without it is read where there is nothing.
-/

namespace NxosExporter

open Effectful Nlohmann

/-- The objects of a reply: itself, or what the array holds. -/
def batchItems? : Json → Option (List Json)
  | .array items => some items
  | .object members => some [.object members]
  | _ => none

/-- The identifier of an object: a string, or an integer that fits. -/
def idOf? (item : Json) : Option IdType :=
  match item.find? "id" with
  | some (.string id) => some (.string id)
  | some (.numberInteger id) => if (Int32.ofInt id).toInt = id then some (.int (Int32.ofInt id)) else none
  | some (.numberUnsigned id) => if (Int32.ofNat id).toInt = id then some (.int (Int32.ofNat id)) else none
  | _ => none

/-- The exception that an error object stands for. -/
def exceptionOf (error : Json) : JsonRpcException :=
  match error.find? "code", error.find? "message" with
  | some (.numberInteger code), some (.string message) =>
      ⟨Int32.ofInt code, message, (error.find? "data").getD .null⟩
  | _, _ => ⟨JsonRpcException.internalError,
      "invalid error response: \"code\" (negative number) and \"message\" (string) are required", .null⟩

/-- The exception that an object carries in its `error`, if that is an object or a text. -/
def errorOf? (item : Json) : Option JsonRpcException :=
  match item.find? "error" with
  | some (.object members) => some (exceptionOf (.object members))
  | some (.string message) => some ⟨JsonRpcException.internalError, message, .null⟩
  | _ => none

/-- The response has the identifier of the object, and its result, or null where it has none. -/
structure AnswersItem (item : Json) (response : JsonRpcResponse) : Prop where
  id : idOf? item = some response.id
  result : response.result = (item.find? "result").getD .null

/-- The first error is raised; without one there is a response for each object, in their order. -/
def ComputesBatch (items : List Json) (outcome : Outcome Exn (List JsonRpcResponse)) : Prop :=
  match items.findSome? errorOf? with
  | some exception => outcome = .throw (.jsonRpc exception)
  | none => ∃ responses, outcome = .ok responses ∧ List.Forall₂ AnswersItem items responses

/-- The objects in front of the first error. -/
def beforeError (items : List Json) : List Json := items.takeWhile fun item => (errorOf? item).isNone

section Item

variable {item : Json} {id : IdType} {exception : JsonRpcException}

theorem jsonRpcException_fromJson_eq (error : Json) :
    JsonRpcException.fromJson error = .ok (exceptionOf error) := by
  cases hcode : error.find? "code" with
  | none => simp [JsonRpcException.fromJson, exceptionOf, hasKeyWithType, hcode]
  | some code =>
      cases hmessage : error.find? "message" with
      | none => simp [JsonRpcException.fromJson, exceptionOf, hasKeyWithType, hcode, hmessage]
      | some message =>
          have hcodeIndex := Json.constIndex_of_find? hcode
          have hmessageIndex := Json.constIndex_of_find? hmessage
          cases hdata : error.find? "data" with
          | none =>
              cases code <;> cases message <;>
                simp [JsonRpcException.fromJson, exceptionOf, hasKeyWithType, hcode, hmessage, hdata,
                  Json.type, hcodeIndex, hmessageIndex, Json.getInt32, Json.getString, Json.contains]
          | some data =>
              have hdataIndex := Json.constIndex_of_find? hdata
              cases code <;> cases message <;>
                simp [JsonRpcException.fromJson, exceptionOf, hasKeyWithType, hcode, hmessage, hdata,
                  Json.type, hcodeIndex, hmessageIndex, hdataIndex, Json.getInt32, Json.getString,
                  Json.contains]

theorem validator_of_errorOf? (herror : errorOf? item = some exception) :
    validator item = .throw (.jsonRpc exception) := by
  cases hfind : item.find? "error" with
  | none => simp [errorOf?, hfind] at herror
  | some error =>
      have hindex := Json.constIndex_of_find? hfind
      cases error with
      | object members =>
          obtain rfl : exceptionOf (.object members) = exception := by simpa [errorOf?, hfind] using herror
          simp [validator, hasKeyWithType, hfind, hindex, Json.type, jsonRpcException_fromJson_eq]
      | string message =>
          obtain rfl : ⟨JsonRpcException.internalError, message, .null⟩ = exception := by
            simpa [errorOf?, hfind] using herror
          simp [validator, hasKeyWithType, hfind, hindex, Json.type, Json.getString]
      | _ => simp [errorOf?, hfind] at herror

theorem isErrorItem_of_errorOf?_eq_none (herror : errorOf? item = none) (hid : item.contains "id" = true) :
    isErrorItem item = false := by
  cases hfind : item.find? "error" with
  | none => simp [isErrorItem, hasKeyWithType, hfind, hid]
  | some error => cases error <;> simp_all [isErrorItem, errorOf?, hasKeyWithType, Json.type]

theorem readId_of_idOf? (hid : idOf? item = some id) :
    ∃ member, item.find? "id" = some member ∧ readId member = .ok id := by
  cases hfind : item.find? "id" with
  | none => simp [idOf?, hfind] at hid
  | some member =>
      refine ⟨member, rfl, ?_⟩
      cases member <;> simp_all [idOf?, readId, Json.getInt32]

theorem isObject_of_idOf? (hid : (idOf? item).isSome = true) : item.isObject = true := by
  obtain ⟨id, hid⟩ := Option.isSome_iff_exists.mp hid
  obtain ⟨member, hfind, -⟩ := readId_of_idOf? hid
  exact Json.isObject_of_find? hfind

theorem validator_of_idOf? (herror : errorOf? item = none) (hid : idOf? item = some id) :
    validator item = (fun result => ⟨id, result⟩) <$> .deref (item.find? "result") := by
  obtain ⟨member, hmember, hread⟩ := readId_of_idOf? hid
  have hcontains : item.contains "id" = true := by simp [Json.contains, hmember]
  have hnoError := isErrorItem_of_errorOf?_eq_none herror hcontains
  rw [validator_of_not_isErrorItem hnoError hmember, hread, Outcome.ok_bind,
    constIndex_result_eq ⟨member, id, hmember, hread⟩]
  cases item.find? "result" <;> rfl

end Item

section Batch

variable {items : List Json} {item reply : Json}

/-- An object without an error puts its response in front of those of the rest. -/
theorem computesBatch_cons {response : JsonRpcResponse} (herror : errorOf? item = none)
    (hanswers : AnswersItem item response) (outcome : Outcome Exn (List JsonRpcResponse)) :
    ComputesBatch (item :: items) ((response :: ·) <$> outcome) ↔ ComputesBatch items outcome := by
  rw [ComputesBatch, ComputesBatch, List.findSome?_cons_of_isNone (by simp [herror])]
  cases items.findSome? errorOf? with
  | some exception => cases outcome <;> simp
  | none =>
      simp only [Outcome.map_eq_ok_iff]
      constructor
      · rintro ⟨responses, ⟨others, houtcome, rfl⟩, hall⟩
        cases hall with
        | cons _ hothers => exact ⟨others, houtcome, hothers⟩
      · rintro ⟨others, houtcome, hothers⟩
        exact ⟨response :: others, ⟨others, houtcome, rfl⟩, .cons hanswers hothers⟩

theorem not_computesBatch_undefined : ¬ ComputesBatch items .undefined := by
  rw [ComputesBatch]
  cases items.findSome? errorOf? <;> simp

theorem computesBatch_mapM_iff (hids : ∀ item ∈ items, (idOf? item).isSome = true) :
    ComputesBatch items (items.mapM validator) ↔
      ∀ item ∈ beforeError items, item.contains "result" = true := by
  induction items with
  | nil => simp [ComputesBatch, beforeError]
  | cons item rest ih =>
      obtain ⟨hitem, hrest⟩ := List.forall_mem_cons.mp hids
      rw [List.mapM_cons]
      cases herror : errorOf? item with
      | some exception =>
          rw [validator_of_errorOf? herror]
          simp [ComputesBatch, beforeError, herror]
      | none =>
          obtain ⟨id, hid⟩ := Option.isSome_iff_exists.mp hitem
          have hbefore : beforeError (item :: rest) = item :: beforeError rest := by
            simp [beforeError, herror]
          rw [validator_of_idOf? herror hid, hbefore, List.forall_mem_cons]
          cases hresult : item.find? "result" with
          | none =>
              refine iff_of_false not_computesBatch_undefined ?_
              simp [Json.contains, hresult]
          | some result =>
              have hanswers : AnswersItem item ⟨id, result⟩ := ⟨hid, by simp [hresult]⟩
              have hcontains : item.contains "result" = true := by simp [Json.contains, hresult]
              rw [and_iff_right hcontains, ← ih hrest]
              exact computesBatch_cons herror hanswers _

/-- **Batches.** The result of a reply of objects with readable identifiers is computed exactly when every
object in front of the first error has a result. -/
theorem computesBatch_handleResponse_iff (parse : String → Except JsonError Json) (text : String)
    (reply : Json) (items : List Json) (hparse : parse text = .ok reply)
    (hitems : batchItems? reply = some items) (hids : ∀ item ∈ items, (idOf? item).isSome = true) :
    ComputesBatch items (handleResponse parse text) ↔
      ∀ item ∈ beforeError items, item.contains "result" = true := by
  have hmapM : handleResponse parse text = items.mapM validator := by
    rw [handleResponse, hparse]
    change handleParsed reply = items.mapM validator
    cases reply with
    | array objects =>
        obtain rfl : objects = items := by simpa [batchItems?] using hitems
        exact handleParsed_array fun item hmem => isObject_of_idOf? (hids item hmem)
    | object members =>
        obtain rfl : [Json.object members] = items := by simpa [batchItems?] using hitems
        exact handleParsed_object members
    | _ => simp [batchItems?] at hitems
  rw [hmapM]
  exact computesBatch_mapM_iff hids

end Batch

/-! A response without a result in front, and one with a null result in front of an error. -/

def resultlessReply : Json := .array [.object [("id", .numberUnsigned 1), ("jsonrpc", .string "2.0")]]

def resultlessText : String := "[\x7b\"id\":1,\"jsonrpc\":\"2.0\"\x7d]"

def nullReply : Json :=
  .array [.object [("id", .numberUnsigned 1), ("result", .null)],
    .object [("error", .string "rejected"), ("id", .numberUnsigned 2)]]

def nullText : String :=
  "[\x7b\"id\":1,\"result\":null\x7d,\x7b\"error\":\"rejected\",\"id\":2\x7d]"

theorem not_computesBatch_resultlessReply :
    ∃ items, batchItems? resultlessReply = some items ∧ (∀ item ∈ items, (idOf? item).isSome = true) ∧
      handleResponse (fun _ => .ok resultlessReply) resultlessText = .undefined ∧
      ¬ ComputesBatch items (handleResponse (fun _ => .ok resultlessReply) resultlessText) :=
  ⟨_, rfl, by decide, rfl, not_computesBatch_undefined⟩

theorem computesBatch_handleResponse_nullReply :
    ∃ items, batchItems? nullReply = some items ∧
      (ComputesBatch items (handleResponse (fun _ => .ok nullReply) nullText) ↔
        ∀ item ∈ beforeError items, item.contains "result" = true) :=
  ⟨_, rfl,
    computesBatch_handleResponse_iff (fun _ => .ok nullReply) nullText nullReply _ rfl rfl (by decide)⟩

end NxosExporter
