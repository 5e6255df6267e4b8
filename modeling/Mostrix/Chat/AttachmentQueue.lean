import Mostrix.Library.Run
import Mostrix.Chat.AttachmentDelivery

/-!
# Attachments being sent

`ui/key_handler/mod.rs` and `handle_operation_result`: Ctrl+O opens a file picker for an order, Enter
starts the job of the chosen file, and Ctrl+Shift+O sends an upload again whose message could not be
sent. A job is a task of its own that sends one result when it is over.

`attachment_sends_law` is what holds in any order of keys and results: one job at a time, which
`sending_attachment_order_id` names; nothing is sent again but what was uploaded for that order; an
upload whose message failed stays pending until a later job of its order is over with a message or
an upload; and the chat of an order gains one line for each message that went out.
-/

namespace Mostrix.Chat

/-! ## The code -/

/-- `SendOrderAttachmentJob`. -/
inductive SendOrderAttachmentJob
  | fromPath (orderId : Uuid) (path : AttachmentPath)
  | retryPrepared (prepared : PreparedOrderChatAttachment)

/-- The order of a job. -/
def SendOrderAttachmentJob.orderId : SendOrderAttachmentJob → Uuid
  | .fromPath orderId _ => orderId
  | .retryPrepared prepared => prepared.orderId

/-- The `OperationResult`s of a job. -/
inductive AttachmentResult
  | sent (orderId : Uuid) (message : ChatMessage UserChatSender) (info : Text)
  | error (orderId : Uuid) (error : Text)
  | sendFailed (prepared : PreparedOrderChatAttachment) (error : Text)

/-- The order of a result. -/
def AttachmentResult.orderId : AttachmentResult → Uuid
  | .sent orderId _ _ => orderId
  | .error orderId _ => orderId
  | .sendFailed prepared _ => prepared.orderId

/-- What the jobs use from outside. -/
structure JobContext where
  enc : OutboundEncodings
  ops : EnvelopeOps
  secretBytes : Keys → Blob
  cipher : BlobCipher
  servers : List Text

variable (ctx : JobContext)

/-- `spawn_send_order_chat_attachment`: the result that a job sends. -/
def runAttachmentJob (env : SendEnv) (db : Db) : SendOrderAttachmentJob → AttachmentResult
  | .fromPath orderId path =>
    match sendOrderChatAttachmentFromPath ctx.enc ctx.ops ctx.secretBytes ctx.cipher env db orderId
      path ctx.servers with
    | .ok (.sent _ message info) => .sent orderId message info
    | .ok (.uploadOkSendFailed prepared error) => .sendFailed prepared error
    | .error e => .error orderId e
  | .retryPrepared prepared =>
    match sendPreparedOrderChatAttachment ctx.ops env db prepared with
    | .ok (_, message, info) => .sent prepared.orderId message info
    | .error e => .sendFailed prepared e

/-- `AppState`, what sending attachments has of it, and the jobs that are not over. -/
structure AttachmentSends where
  /-- `UiMode::UserSendAttachmentPicker` -/
  picker : Option Uuid := none
  sendingAttachmentOrderId : Option Uuid := none
  pendingOrderAttachmentSends : Table Uuid PreparedOrderChatAttachment := Table.empty
  orderChats : Uuid → List (ChatMessage UserChatSender)
  jobs : List SendOrderAttachmentJob := []

/-- The end of a job that `sending_attachment_order_id` names. -/
def AttachmentSends.clearSending (s : AttachmentSends) (orderId : Uuid) : AttachmentSends :=
  if s.sendingAttachmentOrderId = some orderId then { s with sendingAttachmentOrderId := none }
  else s

/-- `handle_operation_result`, the results of a job. -/
def AttachmentSends.handleResult (s : AttachmentSends) : AttachmentResult → AttachmentSends
  | .sent orderId message _ =>
    { ({ s with
        pendingOrderAttachmentSends := s.pendingOrderAttachmentSends.erase orderId }).clearSending
          orderId with
      orderChats := Function.update s.orderChats orderId (s.orderChats orderId ++ [message]) }
  | .error orderId _ => s.clearSending orderId
  | .sendFailed prepared _ =>
    ({ s with
      pendingOrderAttachmentSends :=
        s.pendingOrderAttachmentSends.put prepared.orderId prepared }).clearSending prepared.orderId

/-- A job is queued. -/
def AttachmentSends.start (s : AttachmentSends) (job : SendOrderAttachmentJob) : AttachmentSends :=
  { s with sendingAttachmentOrderId := some job.orderId, jobs := s.jobs ++ [job] }

/-- What happens. -/
inductive AttachmentEvent
  /-- Ctrl+O on the row of an order -/
  | openPicker (orderId : Uuid)
  /-- Esc, or another mode in its place -/
  | closePicker
  /-- Enter on a file -/
  | choose (path : AttachmentPath)
  /-- Ctrl+Shift+O on the row of an order -/
  | retry (orderId : Uuid)
  /-- the `n`-th of the jobs is over -/
  | finish (n : Nat) (env : SendEnv) (db : Db)

/-- The application, and the results so far. -/
structure AttachmentRun where
  app : AttachmentSends
  results : List AttachmentResult := []

/-- One event. While the picker is open, its keys come first. -/
def AttachmentRun.next (r : AttachmentRun) : AttachmentEvent → AttachmentRun
  | .openPicker orderId =>
    if r.app.picker.isSome ∨ r.app.sendingAttachmentOrderId.isSome then r
    else { r with app := { r.app with picker := some orderId } }
  | .closePicker => { r with app := { r.app with picker := none } }
  | .choose path =>
    match r.app.picker with
    | none => r
    | some orderId => { r with app := { r.app.start (.fromPath orderId path) with picker := none } }
  | .retry orderId =>
    if r.app.picker.isSome ∨ r.app.sendingAttachmentOrderId.isSome then r
    else
      match r.app.pendingOrderAttachmentSends orderId with
      | none => r
      | some prepared => { r with app := r.app.start (.retryPrepared prepared) }
  | .finish n env db =>
    match r.app.jobs[n]? with
    | none => r
    | some job =>
      let result := runAttachmentJob ctx env db job
      { app := { r.app.handleResult result with jobs := r.app.jobs.eraseIdx n }
        results := r.results ++ [result] }

/-! ## What the results say -/

/-- What is pending for an order after a result. -/
def pendingAfter (orderId : Uuid) (pending : Option PreparedOrderChatAttachment) :
    AttachmentResult → Option PreparedOrderChatAttachment
  | .sent id _ _ => if id = orderId then none else pending
  | .error _ _ => pending
  | .sendFailed prepared _ => if prepared.orderId = orderId then some prepared else pending

/-- The upload of an order that was not announced, going by the results. -/
def unannounced (orderId : Uuid) (results : List AttachmentResult) :
    Option PreparedOrderChatAttachment :=
  results.foldl (pendingAfter orderId) none

/-- The message of an order that a result brings. -/
def messageOf (orderId : Uuid) : AttachmentResult → Option (ChatMessage UserChatSender)
  | .sent id message _ => if id = orderId then some message else none
  | .error _ _ => none
  | .sendFailed _ _ => none

/-- A job uploaded this for its order and could not announce it. -/
def UploadedFor (orderId : Uuid) (prepared : PreparedOrderChatAttachment) : Prop :=
  prepared.orderId = orderId ∧ ∃ env db path error,
    sendOrderChatAttachmentFromPath ctx.enc ctx.ops ctx.secretBytes ctx.cipher env db orderId path
      ctx.servers = .ok (.uploadOkSendFailed prepared error)

/-- What holds in any order of events, from a state whose chats were these. -/
structure SendsLaw (chats : Uuid → List (ChatMessage UserChatSender)) (r : AttachmentRun) : Prop where
  /-- One job at a time, and its order is named. -/
  one : r.app.jobs.map (·.orderId) = r.app.sendingAttachmentOrderId.toList
  idle : r.app.picker.isSome → r.app.sendingAttachmentOrderId = none
  pending : ∀ id, r.app.pendingOrderAttachmentSends id = unannounced id r.results
  /-- Only an upload for that order is pending, -/
  uploaded : ∀ id prepared, r.app.pendingOrderAttachmentSends id = some prepared →
    UploadedFor ctx id prepared
  /-- and only what is pending is sent again. -/
  retried : ∀ prepared, .retryPrepared prepared ∈ r.app.jobs →
    r.app.pendingOrderAttachmentSends prepared.orderId = some prepared
  lines : ∀ id, r.app.orderChats id = chats id ++ r.results.filterMap (messageOf id)

variable {ctx}

/-! ## One event -/

@[simp] theorem clearSending_jobs (s : AttachmentSends) (id : Uuid) :
    (s.clearSending id).jobs = s.jobs := by
  unfold AttachmentSends.clearSending
  split <;> rfl

@[simp] theorem clearSending_picker (s : AttachmentSends) (id : Uuid) :
    (s.clearSending id).picker = s.picker := by
  unfold AttachmentSends.clearSending
  split <;> rfl

@[simp] theorem clearSending_pending (s : AttachmentSends) (id : Uuid) :
    (s.clearSending id).pendingOrderAttachmentSends = s.pendingOrderAttachmentSends := by
  unfold AttachmentSends.clearSending
  split <;> rfl

@[simp] theorem clearSending_orderChats (s : AttachmentSends) (id : Uuid) :
    (s.clearSending id).orderChats = s.orderChats := by
  unfold AttachmentSends.clearSending
  split <;> rfl

/-- A result of the order that is being sent ends the sending. -/
theorem clearSending_sending {s : AttachmentSends} {id : Uuid}
    (h : s.sendingAttachmentOrderId = some id) :
    (s.clearSending id).sendingAttachmentOrderId = none := by
  unfold AttachmentSends.clearSending
  rw [if_pos h]

/-- What a result does to each part of the state. -/
theorem handleResult_spec (s : AttachmentSends) (result : AttachmentResult) :
    (s.handleResult result).picker = s.picker ∧
    (s.sendingAttachmentOrderId = some result.orderId →
      (s.handleResult result).sendingAttachmentOrderId = none) ∧
    (∀ id, (s.handleResult result).pendingOrderAttachmentSends id =
      pendingAfter id (s.pendingOrderAttachmentSends id) result) ∧
    ∀ id, (s.handleResult result).orderChats id =
      s.orderChats id ++ (messageOf id result).toList := by
  cases result with
  | sent orderId message info =>
    refine ⟨by simp [AttachmentSends.handleResult], fun h => ?_, fun id => ?_, fun id => ?_⟩
    · exact clearSending_sending h
    · by_cases hid : orderId = id
      · simp [AttachmentSends.handleResult, pendingAfter, Table.erase, hid]
      · simp [AttachmentSends.handleResult, pendingAfter, Table.erase, hid,
          Function.update_of_ne (Ne.symm hid)]
    · by_cases hid : orderId = id
      · subst hid
        simp [AttachmentSends.handleResult, messageOf]
      · simp [AttachmentSends.handleResult, messageOf, hid, Function.update_of_ne (Ne.symm hid)]
  | error orderId e =>
    exact ⟨by simp [AttachmentSends.handleResult], fun h => clearSending_sending h,
      fun id => by simp [AttachmentSends.handleResult, pendingAfter],
      fun id => by simp [AttachmentSends.handleResult, messageOf]⟩
  | sendFailed prepared e =>
    refine ⟨by simp [AttachmentSends.handleResult], fun h => clearSending_sending h, fun id => ?_,
      fun id => by simp [AttachmentSends.handleResult, messageOf]⟩
    by_cases hid : prepared.orderId = id
    · simp [AttachmentSends.handleResult, pendingAfter, Table.put, hid]
    · simp [AttachmentSends.handleResult, pendingAfter, Table.put, hid,
        Function.update_of_ne (Ne.symm hid)]

/-- A job prepares for its own order. -/
theorem sendFromPath_orderId {env : SendEnv} {db : Db} {orderId : Uuid} {path : AttachmentPath}
    {prepared : PreparedOrderChatAttachment} {e : Text}
    (h : sendOrderChatAttachmentFromPath ctx.enc ctx.ops ctx.secretBytes ctx.cipher env db orderId
      path ctx.servers = .ok (.uploadOkSendFailed prepared e)) : prepared.orderId = orderId := by
  obtain ⟨keys, prepared', hprepare, ⟨_, _, hsent, -⟩ | ⟨e, hfailed⟩⟩ :=
    sendOrderChatAttachmentFromPath_ok h
  · cases hsent
  · cases hfailed
    unfold prepareOrderChatAttachment at hprepare
    obtain ⟨_, -, hprepare⟩ := Except.ok_of_bind hprepare
    obtain ⟨_, -, hprepare⟩ := Except.ok_of_bind hprepare
    obtain ⟨_, -, hprepare⟩ := Except.ok_of_bind hprepare
    obtain ⟨_, -, hprepare⟩ := Except.ok_of_bind hprepare
    obtain ⟨_, -, hprepare⟩ := Except.ok_of_bind hprepare
    obtain ⟨_, -, hprepare⟩ := Except.ok_of_bind hprepare
    obtain ⟨_, -, hprepare⟩ := Except.ok_of_bind hprepare
    cases hprepare
    rfl

/-- The result of a job is of its order, and what it leaves to send was uploaded for that order,
now or before. -/
theorem runAttachmentJob_spec (env : SendEnv) (db : Db) (job : SendOrderAttachmentJob) :
    (runAttachmentJob ctx env db job).orderId = job.orderId ∧
    ∀ prepared e, runAttachmentJob ctx env db job = .sendFailed prepared e →
      UploadedFor ctx job.orderId prepared ∨ job = .retryPrepared prepared := by
  cases job with
  | fromPath orderId path =>
    simp only [runAttachmentJob]
    split
    next => exact ⟨rfl, nofun⟩
    next prepared e h =>
      have hid := sendFromPath_orderId h
      refine ⟨hid, fun prepared' e' heq => ?_⟩
      cases heq
      exact .inl ⟨hid, env, db, path, e, h⟩
    next => exact ⟨rfl, nofun⟩
  | retryPrepared prepared =>
    simp only [runAttachmentJob]
    split
    next => exact ⟨rfl, nofun⟩
    next =>
      refine ⟨rfl, fun prepared' e' heq => ?_⟩
      cases heq
      exact .inr rfl

section
variable {chats : Uuid → List (ChatMessage UserChatSender)} {r : AttachmentRun}

theorem SendsLaw.jobs_of_idle (h : SendsLaw ctx chats r)
    (hidle : r.app.sendingAttachmentOrderId = none) : r.app.jobs = [] := by
  have hone := h.one
  rw [hidle] at hone
  exact List.map_eq_nil_iff.1 hone

/-- A job that is over was the only one. -/
theorem SendsLaw.jobs_of_get (h : SendsLaw ctx chats r) {n : Nat} {job : SendOrderAttachmentJob}
    (hjob : r.app.jobs[n]? = some job) :
    r.app.jobs = [job] ∧ n = 0 ∧ r.app.sendingAttachmentOrderId = some job.orderId := by
  have hone := h.one
  cases hsending : r.app.sendingAttachmentOrderId with
  | none =>
    rw [h.jobs_of_idle hsending] at hjob
    cases hjob
  | some orderId =>
    rw [hsending, Option.toList_some, List.map_eq_singleton_iff] at hone
    obtain ⟨job', hjobs, rfl⟩ := hone
    rw [hjobs] at hjob
    cases n with
    | zero =>
      cases hjob
      exact ⟨hjobs, rfl, rfl⟩
    | succ n => cases hjob

/-- A job is started while nothing is sent. -/
theorem SendsLaw.start (h : SendsLaw ctx chats r)
    (hidle : r.app.sendingAttachmentOrderId = none) (job : SendOrderAttachmentJob)
    (hretried : ∀ prepared, job = .retryPrepared prepared →
      r.app.pendingOrderAttachmentSends prepared.orderId = some prepared) :
    SendsLaw ctx chats { r with app := { r.app.start job with picker := none } } where
  one := by simp [AttachmentSends.start, h.jobs_of_idle hidle]
  idle := nofun
  pending := h.pending
  uploaded := h.uploaded
  retried := by
    intro prepared hmem
    simp only [AttachmentSends.start, h.jobs_of_idle hidle, List.nil_append,
      List.mem_singleton] at hmem
    exact hretried prepared hmem.symm
  lines := h.lines

/-- A job is over. -/
theorem SendsLaw.finish (h : SendsLaw ctx chats r) (n : Nat) (env : SendEnv) (db : Db) :
    SendsLaw ctx chats (r.next ctx (.finish n env db)) := by
  simp only [AttachmentRun.next]
  split
  next => exact h
  next job hjob =>
    obtain ⟨hjobs, rfl, hsending⟩ := h.jobs_of_get hjob
    obtain ⟨horder, hfailed⟩ : (runAttachmentJob ctx env db job).orderId = job.orderId ∧
        ∀ prepared e, runAttachmentJob ctx env db job = .sendFailed prepared e →
          UploadedFor ctx job.orderId prepared ∨ job = .retryPrepared prepared :=
      runAttachmentJob_spec env db job
    obtain ⟨hpicker, hcleared, hpending, hlines⟩ :=
      handleResult_spec r.app (runAttachmentJob ctx env db job)
    have hdone := hcleared (horder ▸ hsending)
    refine ⟨?_, fun _ => hdone, fun id => ?_, fun id prepared hsome => ?_, fun prepared hmem => ?_,
      fun id => ?_⟩
    · rw [hdone, hjobs]
      rfl
    · rw [hpending, h.pending, unannounced, unannounced, List.foldl_append]
      rfl
    · rw [hpending] at hsome
      generalize hresult : runAttachmentJob ctx env db job = result at *
      cases result with
      | sent orderId message info =>
        simp only [pendingAfter] at hsome
        split at hsome
        · cases hsome
        · exact h.uploaded id prepared hsome
      | error orderId e => exact h.uploaded id prepared hsome
      | sendFailed prepared' e =>
        simp only [pendingAfter] at hsome
        split at hsome
        next hid =>
          cases hsome
          -- it was uploaded by this job, or the job was a retry of what was pending
          rcases hfailed prepared e rfl with hnew | hretry
          · rwa [← horder, show AttachmentResult.orderId (.sendFailed prepared e) = id from hid] at hnew
          · refine h.uploaded id prepared (hid ▸ h.retried prepared ?_)
            rw [hjobs, hretry]
            exact List.mem_singleton.2 rfl
        next => exact h.uploaded id prepared hsome
    · rw [hjobs] at hmem
      cases hmem
    · rw [hlines, h.lines, List.filterMap_append, List.append_assoc]
      cases hmessage : messageOf id (runAttachmentJob ctx env db job) <;> simp [hmessage]

/-- One event. -/
theorem SendsLaw.next (h : SendsLaw ctx chats r) (e : AttachmentEvent) :
    SendsLaw ctx chats (r.next ctx e) := by
  have hidleOf : ¬ (r.app.picker.isSome = true ∨ r.app.sendingAttachmentOrderId.isSome = true) →
      r.app.picker = none ∧ r.app.sendingAttachmentOrderId = none := by
    intro hnot
    rw [not_or] at hnot
    simpa using hnot
  cases e with
  | openPicker orderId =>
    simp only [AttachmentRun.next]
    split
    next => exact h
    next hnot => exact { h with idle := fun _ => (hidleOf hnot).2 }
  | closePicker => exact { h with idle := nofun }
  | choose path =>
    simp only [AttachmentRun.next]
    split
    next => exact h
    next orderId hpicker =>
      have hidle := h.idle (by rw [hpicker]; rfl)
      exact h.start hidle (.fromPath orderId path) nofun
  | retry orderId =>
    simp only [AttachmentRun.next]
    split
    next => exact h
    next hnot =>
      obtain ⟨hpicker, hidle⟩ := hidleOf hnot
      split
      next => exact h
      next prepared hprepared =>
        have hstarted := h.start hidle (.retryPrepared prepared) fun prepared' heq => by
          cases heq
          rw [(h.uploaded orderId prepared hprepared).1]
          exact hprepared
        rw [← hpicker] at hstarted
        exact hstarted
  | finish n env db => exact h.finish n env db

end

/-- In any order of events, from a state with nothing in flight: one job at a time, nothing sent
again but what was uploaded for that order, an upload that was not announced pending until a later
job of its order is over with a message or an upload, and a line in the chat for each message. -/
theorem attachment_sends_law (ctx : JobContext)
    (chats : Uuid → List (ChatMessage UserChatSender)) (events : List AttachmentEvent) :
    SendsLaw ctx chats (events.foldl (AttachmentRun.next ctx) { app := { orderChats := chats } }) :=
  Run.invariant (fun _ e h => h.next e) events
    ⟨rfl, nofun, fun _ => rfl, nofun, nofun, fun _ => (List.append_nil _).symm⟩

end Mostrix.Chat
