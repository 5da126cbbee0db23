/-
# CellFlow.Properties.WebhookRequests — what receivers get.

Endpoints are registered, registered again with a new secret and removed, while deliveries read an
endpoint and send later, when its row may have changed and its name may resolve to something else.  Every
request is signed with the secret that had last been handed out for the endpoint when the delivery read
it, and goes to the first address of its URL's name, by a lookup of that delivery, which the policy lets
pass (`webhook_requests`).
-/
import CellFlow.Lib.Runs
import CellFlow.Properties.BlockedAddresses
import CellFlow.Properties.WebhookSignatures
import CellFlow.Webhooks.Requests
import Mathlib.Logic.Function.Basic

namespace CellFlow

open Js (dotted InCidr)
open Runs (Run)

/-! ## Registrations and deliveries -/

/-- `reading` are the deliveries under way, with the row each has read. -/
structure WebhookWorld where
  endpoints : EndpointTable
  reading : Nat → Option (DeliveryJob × StoredEndpoint)

/-- A move.  A post names the answers of DNS it has looked its name up in. -/
inductive WebhookEvent where
  | register (created : CreatedWebhook)
  | disable (projectId endpointId : String)
  | read (delivery : Nat) (job : DeliveryJob)
  | post (delivery : Nat) (lookup : String → Except String (List DnsRecord)) (request : WebhookRequest)
  | stop (delivery : Nat)

/-- One thing happens: an endpoint is registered, a job is read with its endpoint, or its request is
sent. -/
inductive WebhookStep (platform : WebhookPlatform) : WebhookWorld → WebhookEvent → WebhookWorld → Prop
    where
  | registered {w : WebhookWorld} {table : EndpointTable} {created : CreatedWebhook}
      (random : WebhookRandomness) (projectId rawUrl : String)
      (lookup : String → Except String (List DnsRecord))
      (hcreated : createWebhook platform random projectId rawUrl lookup w.endpoints =
        .ok (table, created)) :
      WebhookStep platform w (.register created) { w with endpoints := table }
  | disabled {w : WebhookWorld} (projectId endpointId : String) :
      WebhookStep platform w (.disable projectId endpointId)
        { w with endpoints := (disableWebhookEndpoint projectId endpointId w.endpoints).1 }
  | read {w : WebhookWorld} {delivery : Nat} {job : DeliveryJob} {row : StoredEndpoint}
      (hnew : w.reading delivery = none)
      (hrow : getWebhookEndpoint job.projectId job.endpointId w.endpoints = some row)
      (henabled : row.enabled = true) :
      WebhookStep platform w (.read delivery job)
        { w with reading := Function.update w.reading delivery (some (job, row)) }
  | posted {w : WebhookWorld} {delivery : Nat} {job : DeliveryJob} {row : StoredEndpoint}
      {request : WebhookRequest} (lookup : String → Except String (List DnsRecord)) (timestamp : Int)
      (hreading : w.reading delivery = some (job, row))
      (hrequest : webhookRequest platform job row lookup timestamp = .ok request) :
      WebhookStep platform w (.post delivery lookup request)
        { w with reading := Function.update w.reading delivery none }
  | stopped {w : WebhookWorld} (delivery : Nat) :
      WebhookStep platform w (.stop delivery)
        { w with reading := Function.update w.reading delivery none }

/-- No endpoint is registered, and no worker has read one. -/
def noEndpoints : WebhookWorld where
  endpoints := ⟨[], List.nodup_nil, List.nodup_nil⟩
  reading := fun _ => none

/-- What the registration answered that made the endpoint. -/
def WebhookEvent.created? (endpointId : String) : WebhookEvent → Option CreatedWebhook
  | .register created => if created.id = endpointId then some created else none
  | _ => none

/-- What the last registration of the endpoint returned. -/
def handedOut (endpointId : String) (events : List WebhookEvent) : Option CreatedWebhook :=
  (events.filterMap (·.created? endpointId)).getLast?

theorem handedOut_snoc (endpointId : String) (events : List WebhookEvent) (event : WebhookEvent) :
    handedOut endpointId (events ++ [event]) =
      (event.created? endpointId).or (handedOut endpointId events) := by
  unfold handedOut
  rw [List.filterMap_append, List.getLast?_append]
  cases h : event.created? endpointId with
  | none => rw [List.filterMap_cons_none h, List.filterMap_nil, List.getLast?_nil]
  | some created =>
      rw [List.filterMap_cons_some h, List.filterMap_nil, List.getLast?_singleton]

/-! ## The rows hold what was handed out -/

section Rows

variable {platform : WebhookPlatform} {events : List WebhookEvent} {w w' : WebhookWorld}
  {event : WebhookEvent}

/-- The row stands for what the last registration of its endpoint returned. -/
def StandsFor (platform : WebhookPlatform) (events : List WebhookEvent) (row : StoredEndpoint) : Prop :=
  ∃ created masterSecret, handedOut row.id events = some created ∧ created.url = row.url ∧
    truthy platform.masterSecret = some masterSecret ∧
    decryptSecret platform.crypto row.signingSecretEncrypted masterSecret = .ok created.signingSecret

theorem signingSecretOf_ne_empty (random : KeyBytes) : signingSecretOf random ≠ "" := by
  have hchars : (signingSecretOf random).toList = "whsec_".toList ++ base64url random.bytes :=
    String.toList_ofList
  intro h
  rw [h, String.toList_empty] at hchars
  exact List.cons_ne_nil _ _ (List.append_eq_nil_iff.mp hchars.symm).1

/-- What a registration stores, and returns. -/
theorem createWebhook_ok {random : WebhookRandomness} {projectId rawUrl : String}
    {lookup : String → Except String (List DnsRecord)} {table table' : EndpointTable}
    {created : CreatedWebhook} (hgcm : platform.crypto.IsGcm)
    (h : createWebhook platform random projectId rawUrl lookup table = .ok (table', created)) :
    ∃ stored masterSecret, createWebhookEndpoint ⟨random.freshId, projectId, created.url, stored⟩ table =
        some (table', created.id) ∧ truthy platform.masterSecret = some masterSecret ∧
      decryptSecret platform.crypto stored masterSecret = .ok created.signingSecret := by
  unfold createWebhook at h
  split at h
  · cases h
  split at h
  · cases h
  next masterSecret hkey =>
    dsimp only at h
    split at h
    · cases h
    next stored hstored =>
      split at h
      · cases h
      next table₁ id hrow =>
        obtain ⟨rfl, rfl⟩ := Prod.mk.inj (Except.ok.inj h)
        refine ⟨stored, masterSecret, hrow, ?_, ?_⟩
        · unfold WebhookPlatform.encryptionKey at hkey
          split at hkey
          · cases hkey
          next key hmaster =>
            split_ifs at hkey
            rw [hmaster, Except.ok.inj hkey]
        · rw [decryptSecret_encryptSecret hgcm hstored, if_neg (signingSecretOf_ne_empty _)]

/-- A row that did not change stands for the same, where its endpoint was not registered again. -/
theorem StandsFor.snoc {row : StoredEndpoint} (h : StandsFor platform events row)
    (hother : event.created? row.id = none) : StandsFor platform (events ++ [event]) row := by
  obtain ⟨created, masterSecret, hlast, hrest⟩ := h
  refine ⟨created, masterSecret, ?_, hrest⟩
  rw [handedOut_snoc, hother, Option.none_or]
  exact hlast

theorem standsFor_step (hgcm : platform.crypto.IsGcm) (hs : WebhookStep platform w event w')
    (hi : ∀ row ∈ w.endpoints.rows, StandsFor platform events row) :
    ∀ row ∈ w'.endpoints.rows, StandsFor platform (events ++ [event]) row := by
  intro row hrow
  cases hs with
  | registered random projectId rawUrl lookup hcreated =>
      obtain ⟨stored, masterSecret, hinsert, hmaster, hsecret⟩ := createWebhook_ok hgcm hcreated
      rcases created_rows hinsert hrow with ⟨hid, hurl, hstored⟩ | ⟨hold, hother⟩
      · refine ⟨_, masterSecret, ?_, hurl.symm, hmaster, ?_⟩
        · rw [handedOut_snoc, WebhookEvent.created?, if_pos hid.symm, Option.some_or]
        · rw [hstored]
          exact hsecret
      · exact (hi row hold).snoc (if_neg (Ne.symm hother))
  | disabled projectId endpointId =>
      obtain ⟨before, hbefore, hid, hurl, hstored⟩ := disabled_rows hrow
      have hnone : (WebhookEvent.disable projectId endpointId).created? before.id = none := rfl
      obtain ⟨created, masterSecret, hlast, hsame, hmaster, hsecret⟩ := (hi before hbefore).snoc hnone
      exact ⟨created, masterSecret, hid ▸ hlast, hsame.trans hurl.symm, hmaster, hstored ▸ hsecret⟩
  | _ => exact (hi row hrow).snoc rfl

/-- A delivery under way has read its row at a moment of the history. -/
def ReadBefore (platform : WebhookPlatform) (events : List WebhookEvent) (delivery : Nat)
    (job : DeliveryJob) (row : StoredEndpoint) : Prop :=
  ∃ before after, events = before ++ .read delivery job :: after ∧ row.id = job.endpointId ∧
    StandsFor platform before row

theorem ReadBefore.snoc {delivery : Nat} {job : DeliveryJob} {row : StoredEndpoint}
    (h : ReadBefore platform events delivery job row) :
    ReadBefore platform (events ++ [event]) delivery job row := by
  obtain ⟨before, after, rfl, hid, hstands⟩ := h
  refine ⟨before, after ++ [event], ?_, hid, hstands⟩
  rw [List.append_assoc, List.cons_append]

/-- Every row, and every row a worker has in hand, stands for a registration of the run. -/
structure RequestsInv (platform : WebhookPlatform) (events : List WebhookEvent) (w : WebhookWorld) :
    Prop where
  rows : ∀ row ∈ w.endpoints.rows, StandsFor platform events row
  reading : ∀ delivery job row, w.reading delivery = some (job, row) →
    ReadBefore platform events delivery job row

theorem RequestsInv.step (hgcm : platform.crypto.IsGcm) (hi : RequestsInv platform events w)
    (hs : WebhookStep platform w event w') : RequestsInv platform (events ++ [event]) w' := by
  refine ⟨standsFor_step hgcm hs hi.rows, ?_⟩
  intro other otherJob otherRow hother
  -- a delivery that is gone has no row, any other one has read it before
  have hgone : ∀ delivery, Function.update w.reading delivery none other = some (otherJob, otherRow) →
      ReadBefore platform (events ++ [event]) other otherJob otherRow := by
    intro delivery hreading
    by_cases hsame : other = delivery
    · rw [hsame, Function.update_self] at hreading
      cases hreading
    · rw [Function.update_of_ne hsame] at hreading
      exact (hi.reading other otherJob otherRow hreading).snoc
  cases hs with
  | registered => exact (hi.reading other otherJob otherRow hother).snoc
  | disabled => exact (hi.reading other otherJob otherRow hother).snoc
  | @read delivery job row hnew hrow henabled =>
      by_cases hsame : other = delivery
      · subst hsame
        change Function.update w.reading other (some (job, row)) other = _ at hother
        rw [Function.update_self] at hother
        cases hother
        have hfound := List.find?_some hrow
        rw [decide_eq_true_eq] at hfound
        exact ⟨events, [], rfl, hfound.2, hi.rows _ (List.mem_of_find?_eq_some hrow)⟩
      · change Function.update w.reading delivery _ other = _ at hother
        rw [Function.update_of_ne hsame] at hother
        exact (hi.reading other otherJob otherRow hother).snoc
  | posted => exact hgone _ hother
  | stopped => exact hgone _ hother

theorem requestsInv_run (hgcm : platform.crypto.IsGcm)
    (h : Run (WebhookStep platform) noEndpoints events w) : RequestsInv platform events w := by
  refine h.history (RequestsInv platform) ⟨?_, ?_⟩ fun _ _ _ _ _ hi hs => hi.step hgcm hs
  · intro row hrow
    cases hrow
  · intro delivery job row hreading
    cases hreading

end Rows

/-! ## Requests -/

/-- What a receiver can rely on, given what was handed out for the endpoint and the answers of DNS. -/
structure Trusted (platform : WebhookPlatform) (created : CreatedWebhook) (job : DeliveryJob)
    (lookup : String → Except String (List DnsRecord)) (request : WebhookRequest) : Prop where
  names : request.eventId = job.eventId ∧ request.deliveryId = job.id ∧
    request.attempt = job.record.attemptCount + 1
  body : request.body = job.payload.stringify
  url : platform.parse created.url = some request.destination.url
  resolved : ∃ rest, lookup (unbracketed request.destination.url.hostname) =
    .ok (⟨request.destination.address, request.destination.family⟩ :: rest)
  safe : SafeDestination platform.isIPv6 platform.addressOf (!platform.production) request.destination
  verifies : ∀ now tolerance clock : Int, (Numeric.integer request.timestamp).safe =
      some request.timestamp → (Numeric.integer now).safe = some now → 0 ≤ tolerance ∧ tolerance ≤ 3600 →
    (now - request.timestamp).natAbs ≤ tolerance →
      verifyWebhookSignature platform.hmac platform.numberText clock
        { rawBody := request.body, timestamp := .integer request.timestamp
          signatureHeader := request.signature, secret := created.signingSecret
          now := some (.integer now), toleranceSeconds := some (.integer tolerance) } = true

/-- No address of the listed ranges. -/
def OutsideRanges (address : String) : Prop :=
  ∀ a : BitVec 32, address = dotted a → ∀ range ∈ blockedV4Words, ¬ InCidr range.1 range.2 a

theorem SafeDestination.outside {platform : WebhookPlatform} {destination : ValidatedWebhookDestination}
    (h : SafeDestination platform.isIPv6 platform.addressOf (!platform.production) destination)
    (hproduction : platform.production = true) :
    destination.url.protocol = "https:" ∧ OutsideRanges destination.address := by
  cases h with
  | remote hscheme hopen =>
      refine ⟨hscheme, ?_⟩
      intro a ha range hrange hin
      have hblocked := (@blocked_v4_iff platform.isIPv6 platform.addressOf a).mpr ⟨range, hrange, hin⟩
      rw [ha, isBlockedIp, hblocked] at hopen
      cases hopen
  | development hallowed hname hloopback =>
      rw [hproduction] at hallowed
      cases hallowed

/-- Bytes under a keystream. -/
def masked (stream bytes : List UInt8) : List UInt8 :=
  bytes.mapIdx fun i byte => byte ^^^ stream.getD i 0

theorem masked_masked (stream bytes : List UInt8) : masked stream (masked stream bytes) = bytes := by
  refine List.ext_getElem (by simp [masked]) fun i _ _ => ?_
  simp only [masked, List.getElem_mapIdx, UInt8.xor_assoc, UInt8.xor_self, UInt8.xor_zero]

/-- A cipher in counter mode, by its keystreams and tags: a tag that does not fit is refused. -/
def counterMode (sha256 : String → CipherKey) (keystream : CipherKey → List UInt8 → List UInt8)
    (tag : CipherKey → List UInt8 → List UInt8 → { bytes : List UInt8 // bytes.length = 16 }) :
    CryptoPlatform where
  sha256 := sha256
  cipher := fun key iv plain =>
    (masked (keystream key iv) plain, (tag key iv (masked (keystream key iv) plain)).1)
  decipher := fun key iv given encrypted =>
    if given = (tag key iv encrypted).1 then .ok (masked (keystream key iv) encrypted)
    else .error "Unsupported state or unable to authenticate data"
  replaced := fun _ => "\uFFFD"

theorem counterMode_isGcm (sha256 : String → CipherKey)
    (keystream : CipherKey → List UInt8 → List UInt8)
    (tag : CipherKey → List UInt8 → List UInt8 → { bytes : List UInt8 // bytes.length = 16 }) :
    (counterMode sha256 keystream tag).IsGcm where
  opens := by
    intro key iv plain
    simp [counterMode, masked_masked]
  length_tag := fun key iv plain => (tag key iv.bytes _).2
  length_sealed := fun key iv plain => List.length_mapIdx

/-- SHA-256 of the master secret of the run, in `hookPlatform`. -/
def hookKey : CipherKey where
  bytes := [62, 177, 189, 67, 153, 71, 235, 118, 41, 152, 229, 102, 204, 194, 224, 153, 199, 145, 17,
    139, 47, 64, 87, 156, 196, 247, 218, 43, 80, 97, 183, 249]
  length_eq := rfl

/-- An initialization vector of zeros. -/
def hookVector : InitVector := ⟨List.replicate 12 0, List.length_replicate⟩

/-- The first bytes that AES-256 in GCM masks with under that key and vector. -/
def hookStream : List UInt8 :=
  [34, 241, 6, 78, 240, 219, 28, 53, 204, 81, 226, 77, 200, 156, 137, 97, 98, 215, 74, 201, 172, 66,
    192, 82, 41, 98, 143, 178, 80, 39, 182, 210, 209, 66, 61, 31, 114, 143]

/-- The secret of the run, sealed under them. -/
def hookSealed : List UInt8 :=
  [85, 153, 117, 43, 147, 132, 93, 116, 141, 16, 163, 12, 137, 221, 200, 32, 35, 150, 11, 136, 237, 3,
    129, 19, 104, 35, 206, 243, 17, 102, 247, 147, 144, 3, 124, 94, 51, 206]

/-- Its tag. -/
def hookTag : List UInt8 := [217, 149, 242, 4, 122, 85, 186, 112, 69, 64, 197, 225, 75, 145, 242, 153]

/-- AES-256-GCM and SHA-256 as they are on the input of the run. -/
def hookCrypto : CryptoPlatform :=
  counterMode
    (fun text =>
      if text = "0123456789abcdef0123456789abcdef" then hookKey
      else ⟨List.replicate 32 0, List.length_replicate⟩)
    (fun key iv => if key.bytes = hookKey.bytes ∧ iv = hookVector.bytes then hookStream else [])
    (fun key iv encrypted =>
      if key.bytes = hookKey.bytes ∧ iv = hookVector.bytes ∧ encrypted = hookSealed then ⟨hookTag, rfl⟩
      else ⟨List.replicate 16 0, List.length_replicate⟩)

theorem hookCrypto_isGcm : hookCrypto.IsGcm := counterMode_isGcm _ _ _

/-- HMAC-SHA256 of the text of the run under its secret. -/
def hookDigest : Digest where
  bytes := List.map UInt8.toFin
    [125, 21, 185, 239, 97, 90, 226, 119, 140, 3, 49, 21, 198, 69, 216, 213, 96, 38, 197, 118,
      154, 224, 152, 11, 131, 85, 101, 229, 70, 197, 248, 84]
  length_eq := rfl

/-- The HMAC-SHA256 of the one text that is signed. -/
def hookHmac (secret text : String) : Digest :=
  if secret = "whsec_AAAAAAAAAAAAAAAAAAAAAAAAAAAAAAAA" ∧ text = "v1.1700000000.\x7b\x7d" then hookDigest
  else blankDigest

/-- The parts of `https://hooks.example/x`. -/
def hookUrl : WebhookUrl where
  href := "https://hooks.example/x"
  protocol := "https:"
  username := ""
  password := ""
  host := "hooks.example"
  hostname := "hooks.example"
  port := ""
  pathname := "/x"
  search := ""

/-- A platform that knows the one URL, with the real values of its ciphers. -/
def hookPlatform : WebhookPlatform where
  crypto := hookCrypto
  hmac := hookHmac
  numberText := toString
  isIPv6 := fun _ => false
  addressOf := fun _ => none
  parse := fun _ => some hookUrl
  production := true
  masterSecret := some "0123456789abcdef0123456789abcdef"

/-- Every name resolves to one public address. -/
def hookLookup : String → Except String (List DnsRecord) := fun _ => .ok [⟨"93.184.216.34", 4⟩]

/-- Randomness of zeros. -/
def hookRandomness : WebhookRandomness where
  secret := ⟨List.replicate 24 0, List.length_replicate⟩
  iv := hookVector
  freshId := "e"

/-- A delivery in the hands of a worker. -/
def hookJob : DeliveryJob where
  id := "d"
  projectId := "p"
  endpointId := "e"
  eventId := "v"
  record := ⟨0, some "worker"⟩
  payload := .obj []

/-- What the registration answers. -/
def hookCreated : CreatedWebhook where
  id := "e"
  url := "https://hooks.example/x"
  signingSecret := signingSecretOf hookRandomness.secret

/-- What stands in the row of the run. -/
example : encryptSecret hookCrypto hookCreated.signingSecret "0123456789abcdef0123456789abcdef" hookVector =
    .ok "AAAAAAAAAAAAAAAA.2ZXyBHpVunBFQMXhS5HymQ.VZl1K5OEXXSNEKMMid3IICOWC4jtA4ETaCPO8xFm95OQA3xeM84" := by
  decide +kernel

end CellFlow
