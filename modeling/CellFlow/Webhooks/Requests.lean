/-
# CellFlow.Webhooks.Requests — what a delivery sends, and where.

`validateWebhookDestination` (`packages/webhooks/src/ssrf.ts`) resolves a URL and judges every address the
name has; the delivery connects to the first of them by its address (`packages/webhooks/src/delivery.ts`).
The URL parser is a parameter, and each call of `lookup` has an answer of its own.
-/
import CellFlow.Db.WebhookEndpoints
import CellFlow.Lib.Json
import CellFlow.Webhooks.Delivery
import CellFlow.Webhooks.IpPolicy
import CellFlow.Webhooks.Secrets
import CellFlow.Webhooks.Signature

namespace CellFlow

open Js (Json IPv6)

/-! ## Destinations -/

/-- A parsed `URL`, as far as a delivery reads it; `href` is its serialization. -/
structure WebhookUrl where
  href : String
  protocol : String
  username : String
  password : String
  host : String
  hostname : String
  port : String
  pathname : String
  search : String
  deriving DecidableEq, Repr

/-- A record of `lookup(hostname, { all: true })`. -/
structure DnsRecord where
  address : String
  family : Nat
  deriving DecidableEq, Repr

/-- An error as the callers see it: a `CellFlowError`, or another. -/
inductive WebhookError where
  | cellFlow (code message : String) (httpStatus : Nat)
  | thrown (message : String)
  deriving DecidableEq, Repr

/-- The message of an error. -/
def WebhookError.message : WebhookError → String
  | .cellFlow _ message _ => message
  | .thrown message => message

/-- The refusal of a URL. -/
def urlInvalid (message : String) : WebhookError := .cellFlow "WEBHOOK_URL_INVALID" message 400

/-- A destination that may be called: its URL and the address to connect to. -/
structure ValidatedWebhookDestination where
  url : WebhookUrl
  address : String
  family : Nat
  deriving DecidableEq, Repr

/-- `hostname.replace(/^\[|\]$/g, "")`. -/
def unbracketed (hostname : String) : String :=
  let cs := hostname.toList
  let front := if cs.head? = some '[' then cs.tail else cs
  String.ofList (if front.getLast? = some ']' then front.dropLast else front)

/-- The hosts plain `http` is allowed for outside production. -/
def localHosts : List String := ["localhost", "127.0.0.1", "::1"]

/-- `record.address === "::1" || (record.family === 4 && record.address.startsWith("127."))`. -/
def isLoopback (record : DnsRecord) : Bool :=
  record.address = "::1" ||
    record.family = 4 && "127.".toList.isPrefixOf record.address.toList

section Destination

variable (isIPv6 : String → Bool) (addressOf : String → Option IPv6)
  (parse : String → Option WebhookUrl)

/-- `lookup` answers for the name it is asked about, or throws. -/
def validateWebhookDestination (allowHttpLocalhost : Bool)
    (lookup : String → Except String (List DnsRecord)) (rawUrl : String) :
    Except WebhookError ValidatedWebhookDestination :=
  match parse rawUrl with
  | none => .error (urlInvalid "Webhook URL is not valid")
  | some url =>
      if url.username ≠ "" ∨ url.password ≠ "" then
        .error (urlInvalid "Webhook URL must not contain credentials")
      else
        let hostname := unbracketed url.hostname
        let isLocalDev := allowHttpLocalhost && localHosts.contains hostname
        if url.protocol ≠ "https:" ∧ ¬ (isLocalDev = true ∧ url.protocol = "http:") then
          .error (urlInvalid "Webhook URL must use HTTPS")
        else
          match lookup hostname with
          | .error message => .error (.thrown message)
          | .ok [] => .error (urlInvalid "Webhook hostname did not resolve")
          | .ok (chosen :: rest) =>
              let records := chosen :: rest
              if isLocalDev = true ∧ records.any (fun record => !isLoopback record) then
                .error (urlInvalid "Local webhook hostname must resolve only to loopback")
              else if isLocalDev = false ∧
                  records.any (fun record => isBlockedIp isIPv6 addressOf record.address) then
                .error (urlInvalid "Webhook hostname resolves to a blocked address")
              else if chosen.family ≠ 4 ∧ chosen.family ≠ 6 then
                .error (urlInvalid "Webhook hostname resolved to an unsupported address")
              else .ok ⟨url, chosen.address, chosen.family⟩

/-- Where a request may go: to an address of the policy over HTTPS, or in development to the loopback of
a local name. -/
inductive SafeDestination (allowHttpLocalhost : Bool) (destination : ValidatedWebhookDestination) :
    Prop where
  | remote (hscheme : destination.url.protocol = "https:")
      (hopen : isBlockedIp isIPv6 addressOf destination.address = false)
  | development (hallowed : allowHttpLocalhost = true)
      (hname : unbracketed destination.url.hostname ∈ localHosts)
      (hloopback : isLoopback ⟨destination.address, destination.family⟩ = true)

variable {isIPv6 addressOf parse} {allowHttpLocalhost : Bool}
  {lookup : String → Except String (List DnsRecord)} {rawUrl : String}
  {destination : ValidatedWebhookDestination}

/-- **A destination** is the parsed URL with the first address of its name, and is safe. -/
theorem validateWebhookDestination_ok
    (h : validateWebhookDestination isIPv6 addressOf parse allowHttpLocalhost lookup rawUrl =
      .ok destination) :
    parse rawUrl = some destination.url ∧
      (∃ rest, lookup (unbracketed destination.url.hostname) =
        .ok (⟨destination.address, destination.family⟩ :: rest)) ∧
      SafeDestination isIPv6 addressOf allowHttpLocalhost destination := by
  unfold validateWebhookDestination at h
  split at h
  · cases h
  next url hparse =>
    split_ifs at h with hcredentials
    dsimp only at h
    split_ifs at h with hscheme
    split at h
    · cases h
    · cases h
    next chosen rest hlookup =>
      split_ifs at h with hlocal hblocked hfamily
      obtain rfl := Except.ok.inj h
      refine ⟨hparse, ⟨rest, hlookup⟩, ?_⟩
      cases hdev : allowHttpLocalhost && localHosts.contains (unbracketed url.hostname) with
      | true =>
          rw [Bool.and_eq_true, List.contains_iff_mem] at hdev
          refine .development hdev.1 hdev.2 ?_
          simp only [hdev.1, List.contains_iff_mem.mpr hdev.2, Bool.and_self, true_and,
            List.any_cons, Bool.or_eq_true, Bool.not_eq_true', not_or] at hlocal
          simpa using hlocal.1
      | false =>
          refine .remote ?_ ?_
          · simp only [hdev, Bool.false_eq_true, false_and, not_false_eq_true, and_true,
              not_not] at hscheme
            exact hscheme
          · simp only [hdev, true_and, List.any_cons, Bool.or_eq_true, not_or] at hblocked
            simpa using hblocked.1

end Destination

/-! ## Requests -/

/-- The record of a claimed delivery. -/
structure DeliveryJob where
  id : String
  projectId : String
  endpointId : String
  eventId : String
  record : WebhookDeliveryRecord
  payload : Json

/-- What `postPinned` sends. -/
structure WebhookRequest where
  destination : ValidatedWebhookDestination
  signature : String
  timestamp : Int
  eventId : String
  deliveryId : String
  attempt : Nat
  body : String
  deriving DecidableEq, Repr

/-- `getWebhookEndpoint`. -/
def getWebhookEndpoint (projectId endpointId : String) (table : EndpointTable) :
    Option StoredEndpoint :=
  table.rows.find? fun row => row.projectId = projectId ∧ row.id = endpointId

/-- The code and the settings of a process, and what it takes from the platform. -/
structure WebhookPlatform where
  crypto : CryptoPlatform
  hmac : String → String → Digest
  numberText : Int → String
  isIPv6 : String → Bool
  addressOf : String → Option IPv6
  parse : String → Option WebhookUrl
  production : Bool
  masterSecret : Option String

section Requests

variable (platform : WebhookPlatform)

/-- `validateWebhookDestination` on the platform: local addresses are let through outside production. -/
def WebhookPlatform.validate (lookup : String → Except String (List DnsRecord)) (rawUrl : String) :
    Except WebhookError ValidatedWebhookDestination :=
  validateWebhookDestination platform.isIPv6 platform.addressOf platform.parse (!platform.production)
    lookup rawUrl

/-- The body of the `try` of `deliverWebhook` up to the post; `timestamp` is
`Math.floor(Date.now() / 1000)`. -/
def webhookRequest (job : DeliveryJob) (endpoint : StoredEndpoint)
    (lookup : String → Except String (List DnsRecord)) (timestamp : Int) :
    Except WebhookError WebhookRequest :=
  match platform.validate lookup endpoint.url with
  | .error e => .error e
  | .ok destination =>
      match truthy platform.masterSecret with
      | none => .error (.thrown "CELLFLOW_ENCRYPTION_KEY is required")
      | some masterSecret =>
          match decryptSecret platform.crypto endpoint.signingSecretEncrypted masterSecret with
          | .error message => .error (.thrown message)
          | .ok secret =>
              let rawBody := job.payload.stringify
              .ok
                { destination := destination
                  signature := signatureHeader platform.hmac platform.numberText rawBody timestamp secret
                  timestamp := timestamp
                  eventId := job.eventId
                  deliveryId := job.id
                  attempt := job.record.attemptCount + 1
                  body := rawBody }

/-- `encryptionKey()` of `apps/api/src/service.ts`. -/
def WebhookPlatform.encryptionKey : Except WebhookError String :=
  match truthy platform.masterSecret with
  | none => .error (.cellFlow "INTERNAL_ERROR" "CELLFLOW_ENCRYPTION_KEY is not configured" 500)
  | some key =>
      if Js.utf16Length key.toList < 32 then
        .error (.cellFlow "INTERNAL_ERROR" "CELLFLOW_ENCRYPTION_KEY is not configured" 500)
      else .ok key

/-- The random bytes of a registration, and the id of a new row. -/
structure WebhookRandomness where
  secret : KeyBytes
  iv : InitVector
  freshId : String

/-- `whsec_${randomBytes(24).toString("base64url")}`. -/
def signingSecretOf (random : KeyBytes) : String :=
  String.ofList ("whsec_".toList ++ base64url random.bytes)

/-- What `createWebhook` returns. -/
structure CreatedWebhook where
  id : String
  url : String
  signingSecret : String
  deriving DecidableEq, Repr

/-- `createWebhook`. -/
def createWebhook (random : WebhookRandomness) (projectId rawUrl : String)
    (lookup : String → Except String (List DnsRecord)) (table : EndpointTable) :
    Except WebhookError (EndpointTable × CreatedWebhook) :=
  match platform.validate lookup rawUrl with
  | .error e => .error e
  | .ok destination =>
      match platform.encryptionKey with
      | .error e => .error e
      | .ok masterSecret =>
          let signingSecret := signingSecretOf random.secret
          match encryptSecret platform.crypto signingSecret masterSecret random.iv with
          | .error message => .error (.thrown message)
          | .ok stored =>
              match createWebhookEndpoint
                ⟨random.freshId, projectId, destination.url.href, stored⟩ table with
              | none => .error (.thrown "duplicate key value violates unique constraint")
              | some (table', id) => .ok (table', ⟨id, destination.url.href, signingSecret⟩)

end Requests

end CellFlow
