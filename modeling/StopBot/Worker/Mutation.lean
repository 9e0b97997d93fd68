import StopBot.Tasks.Operations

/-!
# Status mutations of one ad, as the worker reads them

The payload of a `pause_ad` or `activate_ad` task, the exceptions its
execution can end in, and the reading of the handler's acknowledgement.
Kinds other than these two are another matter and are left out here.
-/

namespace StopBot.Worker

open Lib Tasks

-- ------------------------------------------------------------
-- Payload
-- ------------------------------------------------------------

structure MetaMutationPayload where
  mutationKind : String
  targetId : String
  adAccountId : String
  params : Obj
  deriving Repr

def mutationKinds : List String :=
  ["pause_ad", "activate_ad", "duplicate_adset_structure", "bulk_status_change"]

/-- `str(value)`, for scalars. -/
def pyStr : Json → String
  | .null => "None"
  | .bool b => if b then "True" else "False"
  | .str s => s
  | value => value.render

/-- The canonical numeric account id. -/
def requireAdAccountId (value : Json) : Except String String :=
  let canonical (s : String) : Except String String :=
    let stripped := PyText.strip s
    let normalized := PyText.strip <|
      if (PyText.clip 4 stripped).toLower = "act_" then String.ofList (stripped.toList.drop 4)
      else stripped
    if 1 ≤ normalized.length ∧ normalized.length ≤ 32 ∧ PyText.isDigits normalized then
      .ok normalized
    else .error "ad_account_id must be an explicit numeric account id"
  match value with
  | .str s => canonical s
  | .num m 0 => canonical (toString m)
  | _ => .error "ad_account_id must be an explicit numeric account id"

/-- `a or b` of two lookups. -/
def firstTruthy (a b : Option Json) : Option Json :=
  match a with
  | some value => if value.truthy then some value else b
  | none => b

/-- `data[key]`, with the text of the `KeyError`. -/
def requireKey (key : String) (value : Option Json) : Except String Json :=
  match value with
  | some value => .ok value
  | none => .error ("'" ++ key ++ "'")

/-- `MetaMutationPayload.from_dict`, with the text of what it raises. A `params`
that is no object is refused by `dict` in its own words. -/
def MetaMutationPayload.fromDict (data : Obj) : Except String MetaMutationPayload := do
  let accountId ← requireKey "ad_account_id" <|
    (firstTruthy (data.get? "ad_account_id") (data.get? "account_id")).filter
      fun value => value.typeName != "null"
  let mutationKind := pyStr (← requireKey "mutation_kind" (data.get? "mutation_kind"))
  let targetId := pyStr (← requireKey "target_id" (data.get? "target_id"))
  let params ← match data.get? "params" with
    | some (.obj fields) => .ok fields
    | some value => if value.truthy then .error "params" else .ok []
    | none => .ok []
  if mutationKinds.contains mutationKind then
    let adAccountId ← requireAdAccountId accountId
    .ok { mutationKind, targetId, adAccountId, params }
  else
    .error ("Неизвестный mutation_kind: '" ++ mutationKind ++ "'. Допустимо: ['activate_ad', " ++
      "'bulk_status_change', 'duplicate_adset_structure', 'pause_ad']")

def desiredStatus (payload : MetaMutationPayload) : String :=
  if payload.mutationKind = "pause_ad" then "PAUSED" else "ACTIVE"

def configuredMetaStatusValues : List String := ["ACTIVE", "PAUSED", "DELETED", "ARCHIVED"]

def autoStopRequestedBy : String := "bot_auto_stop"

def isActivatingMutation (payload : MetaMutationPayload) : Bool :=
  payload.mutationKind != "pause_ad"

def isSafetyCompensation (payload : MetaMutationPayload) : Bool :=
  payload.mutationKind == "pause_ad" &&
    (payload.params.get? "safety_compensation").bind Json.asStr? ==
      some "activation_without_grace" &&
    match payload.params.get? "supersedes_activation_task_id" with
    | some (.num m 0) => 0 < m
    | _ => false

-- ------------------------------------------------------------
-- Exceptions
-- ------------------------------------------------------------

inductive PermanentClass
  | tokenInvalidError
  | loginRequiredError
  | notFoundError
  | permissionError
  | permanentError
  | notImplementedError
  | mutationValidationError
  deriving DecidableEq, Repr

def PermanentClass.name : PermanentClass → String
  | .tokenInvalidError => "TokenInvalidError"
  | .loginRequiredError => "LoginRequiredError"
  | .notFoundError => "NotFoundError"
  | .permissionError => "PermissionError"
  | .permanentError => "PermanentError"
  | .notImplementedError => "NotImplementedError"
  | .mutationValidationError => "MutationValidationError"

/-- The classes the routing tells apart. `sessionUnavailableError` stands for
every proven pre-send rejection but the readiness one; `other` for whatever no
clause names. -/
inductive ExceptionClass
  | ambiguousResultError
  | permanent (cls : PermanentClass)
  | temporaryError
  | sessionUnavailableError
  | browserReadinessRejectedError
  | valueError
  | other
  deriving DecidableEq, Repr

/-- `isinstance(exc, SessionUnavailableError)`: nothing was sent. -/
def ExceptionClass.knownNotCommitted : ExceptionClass → Bool
  | .sessionUnavailableError | .browserReadinessRejectedError => true
  | _ => false

/-- An exception: its class, its `repr`, and the reason codes of the browser
rejections along its chain of causes. -/
structure Raised where
  cls : ExceptionClass
  repr : String
  rejectionCodes : List String := []
  deriving Repr

inductive BrowserRejectionRetry
  | helps
  | doesNotHelp
  | unknown
  deriving DecidableEq, Repr

def browserOperationRejectionTable : List (String × String × BrowserRejectionRetry) :=
  [("capability_authority_unavailable", "сервис выдачи разрешений на операцию недоступен", .helps),
    ("capability_contract_incompatible", "версия контракта браузера не совпадает", .doesNotHelp),
    ("capability_secret_unavailable", "ключ подписи разрешения недоступен в браузере", .helps),
    ("capability_cabinet_mismatch", "разрешение выдано на другой рекламный кабинет", .doesNotHelp),
    ("caller_not_authorized", "операция не разрешена вызывающему сервису", .doesNotHelp),
    ("capability_task_binding_invalid", "разрешение не привязано к задаче", .doesNotHelp),
    ("capability_lease_binding_invalid", "разрешение не привязано к аренде задачи", .doesNotHelp),
    ("capability_expired", "срок действия разрешения на операцию истёк", .helps),
    ("capability_malformed", "разрешение на операцию повреждено", .doesNotHelp),
    ("capability_signature_invalid", "подпись разрешения на операцию не сошлась", .doesNotHelp),
    ("capability_expiry_missing", "разрешение на операцию пришло без срока действия", .doesNotHelp),
    ("capability_reason_unknown", "причина отказа не установлена", .unknown),
    ("ownership_preflight_rejected", "цель операции не принадлежит этому кабинету", .doesNotHelp),
    ("graph_method_override", "подмена HTTP-метода запроса не разрешена", .doesNotHelp),
    ("graph_method_semantics", "метод запроса задан неоднозначно", .doesNotHelp),
    ("graph_get_body", "запрос на чтение пришёл с телом", .doesNotHelp),
    ("graph_endpoint_query", "адрес запроса содержит недопустимые параметры", .doesNotHelp),
    ("ad_account_id_not_numeric", "идентификатор рекламного кабинета задан не числом",
      .doesNotHelp),
    ("ad_account_id_missing", "денежный запрос пришёл без идентификатора кабинета", .doesNotHelp)]

def unretryableBrowserRejection (exc : Raised) : Option String :=
  exc.rejectionCodes.find? fun code =>
    (browserOperationRejectionTable.lookup code).any fun reason => reason.2 == .doesNotHelp

def browserRejectionNotRetryableReason (code : String) : Option String :=
  (browserOperationRejectionTable.lookup code).map fun reason =>
    "Браузер отказал до отправки: " ++ reason.1 ++ ". Повтор той же задачи не поможет."

/-- `TERMINAL_OPERATOR_REASONS`, without the entry of the irreversible kinds. -/
def terminalOperatorReasons : List (String × String) :=
  [("invalid_payload", "Система сформировала несовместимый запрос к Meta. Задача полностью " ++
      "отклонена и не будет выполнена. Передайте задачу разработчикам для исправления формата."),
    ("enable_grace_precondition", "Действие требует настройки безопасного периода (grace), но " ++
      "лимиты не заданы. Во избежание неконтролируемых трат задача остановлена без изменений " ++
      "в Meta. Установите корректные лимиты в настройках или обратитесь к разработчикам."),
    ("owner_scoping", "Цель не принадлежит вам или заблокирована фильтром доступов " ++
      "(owner/recipient/role). Чтобы не изменить чужую кампанию, действие отклонено и не будет " ++
      "исполнено. Убедитесь, что вы управляете правильной кампанией, и проверьте настройки " ++
      "владельца."),
    ("TokenInvalidError", "Токен доступа Meta недействителен, истек или был отозван. Дальнейшее " ++
      "управление кабинетом заблокировано, действия не выполняются. Авторизуйтесь и обновите " ++
      "токен через приложение Vision."),
    ("LoginRequiredError", "Сессия профиля Meta истекла или заблокирована контрольной точкой. " ++
      "Управление остановлено, есть риск потери контроля над бюджетом. Зайдите в браузерный " ++
      "профиль Vision и выполните повторный логин руками."),
    ("NotFoundError", "Запрошенный объект (кампания, адсет или объявление) удален или " ++
      "недоступен. Действие отклонено без изменений, так как цель отсутствует в Meta. Проверьте " ++
      "наличие объекта в кабинете Meta и актуальность задачи."),
    ("PermissionError", "Meta отклонила запрос из-за нехватки прав доступа к кабинету " ++
      "(role/permission). Действие заблокировано на стороне Meta и не будет применено. " ++
      "Проверьте в кабинете Meta, что у вашего профиля есть права рекламодателя."),
    ("MutationValidationError", "Введены недопустимые параметры или значения для этой операции. " ++
      "Задача окончательно отклонена на этапе проверки и не дошла до Meta. Проверьте переданные " ++
      "параметры задачи или передайте ошибку разработчикам."),
    ("PermanentError", "Meta вернула окончательный отказ на эту команду (постоянная ошибка). " ++
      "Задача отклонена и не будет повторяться, так как это не исправит проблему. Проверьте " ++
      "состояние кабинета в Meta и убедитесь, что действие допустимо."),
    ("NotImplementedError", "Этот тип операции еще не реализован или не поддерживается системой" ++
      ". Задача отклонена системой и не будет отправлена в Meta. Отмените операцию и передайте " ++
      "запрос на поддержку действия разработчикам.")]

def operatorReason (key : String) : Json :=
  .str ((terminalOperatorReasons.lookup key).getD "")

-- ------------------------------------------------------------
-- Acknowledgements
-- ------------------------------------------------------------

inductive AssessmentState
  | confirmed
  | rejected
  | invalid
  deriving DecidableEq, Repr

/-- `MutationResultAssessment`; a partial outcome exists for bulk changes only. -/
structure Assessment where
  state : AssessmentState
  reason : String
  deriving DecidableEq, Repr

/-- The items as texts, when every one is a text that is not blank. -/
def idTexts? (items : List Json) : Option (List String) :=
  items.mapM fun item => item.asStr?.filter fun s => PyText.strip s != ""

/-- `assess_mutation_result` of a status action on one ad. -/
def assessMutationResult (payload : MetaMutationPayload) (result : Json) : Assessment :=
  match result with
  | .obj fields =>
    match Obj.get? fields "success" with
    | some (.bool acknowledged) =>
      match (Obj.get? fields "modified_ids").getD (.arr []) with
      | .arr items =>
        match idTexts? items with
        | none => ⟨.invalid, "handler_modified_ids_invalid"⟩
        | some ids =>
          if ¬ ids.Nodup then ⟨.invalid, "handler_modified_ids_not_unique"⟩
          else if acknowledged = false then
            if ids.isEmpty then ⟨.rejected, "handler_explicit_rejection"⟩
            else ⟨.invalid, "handler_rejection_contains_modified_ids"⟩
          else if ids = [payload.targetId] then ⟨.confirmed, "handler_confirmed"⟩
          else ⟨.invalid, "status_handler_modified_ids_mismatch"⟩
      | _ => ⟨.invalid, "handler_modified_ids_invalid"⟩
    | _ => ⟨.invalid, "handler_success_not_boolean"⟩
  | _ => ⟨.invalid, "handler_result_not_object"⟩

end StopBot.Worker
