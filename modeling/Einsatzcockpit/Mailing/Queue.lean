import Einsatzcockpit.Lib.Run
import Einsatzcockpit.Lib.Keyed
import Einsatzcockpit.Basis

namespace Einsatzcockpit.Mailing

open Relational

inductive ItemStatus where
  | queued | sending | sent | failed | suppressed | delivered | bounced
  deriving DecidableEq

inductive CampaignStatus where
  | draft | queued | sending | sent | failed
  deriving DecidableEq

structure MailingQueueItem where
  id : Nat
  orgId : Nat
  campaignId : Nat
  email : String
  status : ItemStatus := .queued
  resendMessageId : Option String := none
  errorMessage : Option String := none
  attemptCount : Nat := 0
  maxAttempts : Nat := 3
  nextAttemptAt : Option Zeit
  sentAt : Option Zeit := none

structure MailingCampaign where
  id : Nat
  orgId : Nat
  status : CampaignStatus := .draft
  totalCount : Nat := 0
  sentCount : Nat := 0
  failedCount : Nat := 0
  suppressedCount : Nat := 0
  maxAttemptsOverride : Option Nat := none
  queuedAt : Option Zeit := none
  sentAt : Option Zeit := none

structure MailingSuppressionEntry where
  orgId : Nat
  email : String
  reason : String

structure MailingWebhookEvent where
  orgId : Nat
  queueItemId : Option Nat
  eventType : String
  resendMessageId : Option String
  svixId : String

/-- `str.lower()`: small letters stay, and no blank appears or goes. -/
structure Lowering where
  lower : String → String
  lower_lower : ∀ s, lower (lower s) = lower s
  strip_lower : ∀ s, strip (lower (strip s)) = lower (strip s)

/-- `email.strip().lower()` -/
def Lowering.clean (letters : Lowering) (email : String) : String := letters.lower (strip email)

/-- The providers that are configured for an item's organisation. -/
structure Transport where
  resend : Bool
  smtp : Bool
  deriving DecidableEq

inductive Answer where
  | accepted (resendId : Option String)
  | raised (exc : String) (mailError : Bool)

/-- Where `dispatch_once` stands with its item. -/
inductive Phase where
  | idle
  | prepared (id : Nat)
  | ready (id : Nat) (transport : Transport)
  | fallback (id : Nat) (exc : String)
  | result (id : Nat) (resendId error fallback : Option String)
  deriving DecidableEq

def Phase.items : Phase → List Nat
  | idle => []
  | prepared id | ready id _ | fallback id _ | result id _ _ _ => [id]

/-- What has happened to the items: one was prepared while its address was on
the suppression list or not, or was handed to a provider. -/
inductive Event where
  | prepared (id : Nat) (listed : Bool)
  | handed (id : Nat) (accepted : Bool)
  deriving DecidableEq

def Event.item : Event → Nat
  | prepared id _ | handed id _ => id

structure World where
  items : Keyed MailingQueueItem.id := .empty
  campaigns : Keyed MailingCampaign.id := .empty
  suppressions : List MailingSuppressionEntry := []
  events : List MailingWebhookEvent := []
  now : Zeit := 0
  workers : List Phase
  /-- What `retry_failed_items` has read in each request, and when. -/
  retries : List (Option (Nat × Zeit × List Nat))
  history : List Event := []

variable (letters : Lowering)

/-- The filter of `_prepare_item_sync` -/
def MailingQueueItem.due (now : Zeit) (item : MailingQueueItem) : Bool :=
  item.status == .queued && item.nextAttemptAt.all fun next => decide (next ≤ now)

/-- `_update_campaign_counts` -/
def MailingCampaign.counted (campaign : MailingCampaign) (items : List MailingQueueItem) (now : Zeit) : MailingCampaign :=
  let counts := fun status => items.countP fun item => item.campaignId == campaign.id && item.status == status
  let sentCount := counts .sent + counts .delivered
  let failedCount := counts .failed + counts .bounced
  let suppressedCount := counts .suppressed
  if campaign.totalCount ≤ sentCount + failedCount + suppressedCount then
    { campaign with sentCount, failedCount, suppressedCount, status := if failedCount = 0 then .sent else .failed, sentAt := some now }
  else { campaign with sentCount, failedCount, suppressedCount, status := .sending }

@[simp] theorem MailingCampaign.counted_id (campaign : MailingCampaign) (items : List MailingQueueItem) (now : Zeit) :
    (campaign.counted items now).id = campaign.id := by
  rw [counted]
  split <;> rfl

namespace World

def updateCampaignCounts (w : World) (campaignId : Nat) : World :=
  { w with campaigns := w.campaigns.modify campaignId (fun campaign => campaign.counted w.items.rows w.now) fun _ => by simp }

def setPhase (w : World) (worker : Nat) (phase : Phase) : World := { w with workers := w.workers.set worker phase }

def record (w : World) (event : Event) : World := { w with history := w.history ++ [event] }

def listed (w : World) (item : MailingQueueItem) : Bool :=
  w.suppressions.any fun entry => entry.orgId == item.orgId && letters.clean entry.email == letters.clean item.email

def suppressItem (w : World) (id : Nat) (reason : String) : World :=
  { w with items := w.items.modify id (fun item => {
      item with status := .suppressed, errorMessage := some s!"Unterdrückt (Sperrliste, Grund: {reason})" }) fun _ => rfl }

def claimItem (w : World) (id : Nat) : World :=
  { w with items := w.items.modify id (fun item => {
      item with status := .sending, attemptCount := item.attemptCount + 1 }) fun _ => rfl }

/-- `_prepare_item_sync` up to the commit; rows that are locked are skipped. -/
def prepareItem (w : World) (worker : Nat) (locked : List Nat) : World :=
  match w.items.rows.find? fun item => item.due w.now && !locked.contains item.id with
  | none => w
  | some item =>
    match w.suppressions.find? fun entry => entry.orgId == item.orgId && entry.email == letters.lower item.email with
    | some entry =>
      ((w.suppressItem item.id entry.reason).updateCampaignCounts item.campaignId).record (.prepared item.id (w.listed letters item))
    | none => ((w.claimItem item.id).setPhase worker (.prepared item.id)).record (.prepared item.id (w.listed letters item))

/-- What `_finish_item_sync` makes of an item. -/
def finished (now : Zeit) (resendId error fallback : Option String) (item : MailingQueueItem) : MailingQueueItem :=
  let item := { item with resendMessageId := resendId.or item.resendMessageId }
  match error with
  | none => { item with status := .sent, sentAt := some now, errorMessage := fallback }
  | some error =>
    if item.maxAttempts ≤ item.attemptCount then { item with errorMessage := some error, status := .failed }
    else { item with
      errorMessage := some error, status := .queued
      nextAttemptAt := some (now + minuten (min (2 ^ item.attemptCount) 60)) }

@[simp] theorem finished_id (now : Zeit) (resendId error fallback : Option String) (item : MailingQueueItem) :
    (finished now resendId error fallback item).id = item.id := by
  cases error with
  | none => rfl
  | some error =>
    simp only [finished]
    split <;> rfl

/-- `_finish_item_sync` -/
def finishItem (w : World) (id : Nat) (resendId error fallback : Option String) : World :=
  let after := { w with items := w.items.modify id (finished w.now resendId error fallback) fun _ => finished_id .. }
  match w.items.get? id with
  | some item => after.updateCampaignCounts item.campaignId
  | none => after

def setItemStatus (w : World) (id : Nat) (status : ItemStatus) : World :=
  { w with items := w.items.modify id (fun item => { item with status }) fun _ => rfl }

/-- `_suppress` -/
def suppress (w : World) (orgId : Nat) (email reason : String) : World :=
  let email := letters.clean email
  if w.suppressions.any fun entry => entry.orgId == orgId && entry.email == email then
    { w with suppressions := w.suppressions.map fun entry =>
        if entry.orgId = orgId ∧ entry.email = email then { entry with reason } else entry }
  else { w with suppressions := w.suppressions ++ [{ orgId, email, reason }] }

/-- `process_resend_webhook_event`; `soft` says that the bounce has a type and
that it is a temporary one. -/
def processResendWebhookEvent (w : World) (orgId : Nat) (eventType : String) (messageId : Option String) (soft : Bool)
    (svixId : String) : World :=
  if w.events.any fun event => event.svixId == svixId then w
  else
    let item := messageId.bind fun messageId =>
      if messageId = "" then none
      else w.items.rows.find? fun item => item.orgId == orgId && item.resendMessageId == some messageId
    let w := { w with events := w.events ++ [{
      orgId, queueItemId := item.map (·.id), eventType, resendMessageId := messageId, svixId }] }
    match item with
    | none => w
    | some item =>
      if eventType = "email.delivered" then w.setItemStatus item.id .delivered
      else if eventType = "email.bounced" then
        let w := w.setItemStatus item.id .bounced
        if soft then w else w.suppress letters orgId item.email "hard_bounce"
      else if eventType = "email.complained" then w.suppress letters orgId item.email "complaint"
      else w

/-- What `retry_failed_items` reads. -/
def failedItems (w : World) (campaignId : Nat) : List Nat :=
  (w.items.rows.filter fun item => item.campaignId == campaignId && item.status == .failed).map (·.id)

/-- What `retry_failed_items` writes to the items that it has read as failed. -/
def requeue (w : World) (campaignId : Nat) (now : Zeit) (ids : List Nat) : World :=
  { w with
    items := w.items.map (fun item =>
      if item.id ∈ ids then
        { item with status := .queued, attemptCount := 0, nextAttemptAt := some now, errorMessage := none }
      else item) fun item => by split <;> rfl
    campaigns := if ids = [] then w.campaigns else
      w.campaigns.modify campaignId (fun campaign => {
        campaign with status := .queued, failedCount := campaign.failedCount - ids.length }) fun _ => rfl }

def queueItem (campaign : MailingCampaign) (email : String) (now : Zeit) (id : Nat) : MailingQueueItem := {
  id, orgId := campaign.orgId, campaignId := campaign.id, email
  maxAttempts := match campaign.maxAttemptsOverride with
    | none | some 0 => 3
    | some n => n
  nextAttemptAt := some now }

def addItems (w : World) (campaign : MailingCampaign) : List String → World
  | [] => w
  | email :: rest => addItems { w with items := w.items.insert (queueItem campaign email w.now) fun _ => rfl } campaign rest

/-- The addresses that `resolve_recipient_list_multi` makes of the rows of a
campaign's lists: each counts once. -/
def recipients (rows : List String) : List String :=
  (rows.map letters.clean).foldl (fun seen email => if email ∈ seen then seen else seen ++ [email]) []

/-- `queue_campaign` -/
def queueCampaign (w : World) (campaignId : Nat) (rows : List String) : World :=
  match w.campaigns.get? campaignId with
  | none => w
  | some campaign =>
    if campaign.status = .draft then
      let recipients := recipients letters rows
      let w := w.addItems campaign recipients
      { w with campaigns := w.campaigns.modify campaignId (fun campaign => {
          campaign with totalCount := recipients.length, status := .queued, queuedAt := some w.now }) fun _ => rfl }
    else w

end World

inductive Step where
  | wait (duration : Nat)
  | createCampaign (orgId : Nat) (maxAttemptsOverride : Option Nat)
  | queueCampaign (campaignId : Nat) (rows : List String)
  | suppressionAdd (orgId : Nat) (email : String)
  | suppressionDelete (orgId : Nat) (email : String)
  | prepare (worker : Nat) (locked : List Nat)
  | build (worker : Nat) (outcome : Except String Transport)
  | send (worker : Nat) (answer : Answer)
  | finish (worker : Nat)
  | crash (worker : Nat)
  | reconcile (campaignId : Nat)
  | webhook (orgId : Nat) (eventType : String) (messageId : Option String) (soft : Bool) (svixId : String)
  | retryRead (request campaignId : Nat)
  | retryWrite (request : Nat)

/-- A send call of `dispatch_once` and what it makes of the answer. -/
def send (w : World) (worker : Nat) (phase : Phase) (answer : Answer) : World :=
  match phase with
  | .ready id transport =>
    if transport.resend then
      match answer with
      | .accepted resendId => (w.setPhase worker (.result id resendId none none)).record (.handed id true)
      | .raised exc mailError =>
        let next := if mailError ∧ transport.smtp then .fallback id exc else .result id none (some (clip 2000 exc)) none
        (w.setPhase worker next).record (.handed id false)
    else if transport.smtp then
      match answer with
      | .accepted _ => (w.setPhase worker (.result id none none none)).record (.handed id true)
      | .raised exc _ => (w.setPhase worker (.result id none (some (clip 2000 exc)) none)).record (.handed id false)
    else w.setPhase worker (.result id none (some "Mailing-Konfiguration unvollstaendig") none)
  | .fallback id exc =>
    match answer with
    | .accepted _ =>
      (w.setPhase worker (.result id none none (some s!"Resend fehlgeschlagen ({exc}); SMTP-Fallback verwendet"))).record (.handed id true)
    | .raised smtpExc _ =>
      let error := clip 2000 s!"Resend fehlgeschlagen: {exc}; SMTP-Fallback fehlgeschlagen: {smtpExc}"
      (w.setPhase worker (.result id none (some error) none)).record (.handed id false)
  | _ => w

def step (w : World) : Step → World
  | .wait duration => { w with now := w.now + duration }
  | .createCampaign orgId maxAttemptsOverride =>
    { w with campaigns := w.campaigns.insert (fun id => { id, orgId, maxAttemptsOverride }) fun _ => rfl }
  | .queueCampaign campaignId rows => w.queueCampaign letters campaignId rows
  | .suppressionAdd orgId email => w.suppress letters orgId email "manual"
  | .suppressionDelete orgId email =>
    { w with suppressions := w.suppressions.filter fun entry => !(entry.orgId == orgId && entry.email == email) }
  | .prepare worker locked =>
    match w.workers[worker]? with
    | some .idle => w.prepareItem letters worker locked
    | _ => w
  | .build worker outcome =>
    match w.workers[worker]? with
    | some (.prepared id) =>
      match outcome with
      | .ok transport => w.setPhase worker (.ready id transport)
      | .error exc => w.setPhase worker (.result id none (some (clip 2000 exc)) none)
    | _ => w
  | .send worker answer =>
    match w.workers[worker]? with
    | some phase => send w worker phase answer
    | none => w
  | .finish worker =>
    match w.workers[worker]? with
    | some (.result id resendId error fallback) => (w.finishItem id resendId error fallback).setPhase worker .idle
    | _ => w
  | .crash worker => w.setPhase worker .idle
  | .reconcile campaignId => w.updateCampaignCounts campaignId
  | .webhook orgId eventType messageId soft svixId => w.processResendWebhookEvent letters orgId eventType messageId soft svixId
  | .retryRead request campaignId => { w with retries := w.retries.set request (some (campaignId, w.now, w.failedItems campaignId)) }
  | .retryWrite request =>
    match w.retries[request]? with
    | some (some (campaignId, now, ids)) =>
      let w := w.requeue campaignId now ids
      { w with retries := w.retries.set request none }
    | _ => w

def start (workers requests : Nat) : World :=
  { workers := List.replicate workers .idle, retries := List.replicate requests none }

end Einsatzcockpit.Mailing
