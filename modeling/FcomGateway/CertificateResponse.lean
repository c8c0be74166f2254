import FcomGateway.JobParsing
import FcomGateway.Credentials

/-! # The activation response

`json_parser_certificate` asks for the success of the activation and for the member `data`. Six
members of `data` are copied without a test of their types and lengths, also those that belong to
a new firmware when there is none.
-/

namespace FcomGateway

open CJson

/-- `valueint` of an item; `strtod` stands for the number that the C library reads, as `int`. -/
def CJson.valueint (strtod : List UInt8 → Int) : CJson → Int
  | .bool value => value.toNat
  | .number text => strtod text
  | _ => 0

structure CertificateState where
  clientId : List UInt8
  certificatePemLink : List UInt8
  privatePemLink : List UInt8
  otaMessageLink : List UInt8
  isStartOta : OtaState
  deriving DecidableEq, Repr

namespace CertificateState

/-- The copies from `data`, in the order of the code; `private_pem` is copied twice. -/
def readData (strtod : List UInt8 → Int) (data : CJson) (s : CertificateState) :
    Option CertificateState := do
  let item (name : String) := data.getObjectItem (literal name)
  let clientId ← copyItem 33 (item "client_id")
  let certificatePem ← copyItem 600 (item "certificate_pem")
  let _ ← copyItem 600 (item "private_pem")
  let privatePem ← copyItem 600 (item "private_pem")
  let newFirmware ← item "new_firmware"
  let urlFirmware ← copyItem 500 (item "url_firmware")
  let _ ← copyItem 20 (item "hash_firmware")
  return {
    clientId := clientId
    certificatePemLink := certificatePem
    privatePemLink := privatePem
    otaMessageLink := urlFirmware
    isStartOta := if newFirmware.valueint strtod ≠ 0 then .otaStart else s.isStartOta }

/-- `none` is an access to an item or a string that is not there, or behind the end of a
buffer. -/
def jsonParserCertificate (strtod : List UInt8 → Int) (message : List UInt8)
    (s : CertificateState) : Option (Bool × CertificateState) :=
  match messageTree message with
  | none => some (false, s)
  | some root =>
    match root.getObjectItem (literal "success") with
    | none => some (false, s)
    | some success =>
      if success.valueint strtod = 1 then
        match root.getObjectItem (literal "data") with
        | none => some (false, s)
        | some data => (readData strtod data s).map fun next => (true, next)
      else some (false, s)

/-! ## All or nothing -/

def responseData (strtod : List UInt8 → Int) (message : List UInt8) : Option CJson :=
  (messageTree message).bind fun root =>
    (root.getObjectItem (literal "success")).bind fun success =>
      if success.valueint strtod = 1 then root.getObjectItem (literal "data") else none

structure Applied (data : CJson) (next : CertificateState) : Prop where
  clientId : valuestring (data.getObjectItem (literal "client_id")) = some next.clientId
  certificatePemLink : valuestring (data.getObjectItem (literal "certificate_pem")) =
    some next.certificatePemLink
  privatePemLink : valuestring (data.getObjectItem (literal "private_pem")) =
    some next.privatePemLink
  otaMessageLink : valuestring (data.getObjectItem (literal "url_firmware")) =
    some next.otaMessageLink
  isStartOta : next.isStartOta = .otaStart ↔
    data.getObjectItem (literal "new_firmware") = some (.bool true)

/-- A call has an outcome: it reports a failure and leaves the variables as they were, or it
reports a success and has set them as the response says. -/
def AllOrNothing (strtod : List UInt8 → Int) (message : List UInt8) (s : CertificateState) :
    Prop :=
  jsonParserCertificate strtod message s = some (false, s) ∨
    ∃ next data, jsonParserCertificate strtod message s = some (true, next) ∧
      responseData strtod message = some data ∧ Applied data next

/-- All six members are there and fit, and `new_firmware` is `true`, or counts as 0 while no
update is due from before. -/
structure WellFormedCertificate (strtod : List UInt8 → Int) (start : OtaState) (data : CJson) :
    Prop where
  clientId : FitsMember 33 (data.getObjectItem (literal "client_id"))
  certificatePem : FitsMember 600 (data.getObjectItem (literal "certificate_pem"))
  privatePem : FitsMember 600 (data.getObjectItem (literal "private_pem"))
  newFirmware : ∃ item, data.getObjectItem (literal "new_firmware") = some item ∧
    (item = .bool true ∨ item.valueint strtod = 0 ∧ start ≠ .otaStart)
  urlFirmware : FitsMember 500 (data.getObjectItem (literal "url_firmware"))
  hashFirmware : FitsMember 20 (data.getObjectItem (literal "hash_firmware"))

theorem jsonParserCertificate_eq (strtod : List UInt8 → Int) (message : List UInt8)
    (s : CertificateState) : jsonParserCertificate strtod message s =
      (responseData strtod message).elim (some (false, s)) fun data =>
        (readData strtod data s).map fun next => (true, next) := by
  rw [jsonParserCertificate, responseData]
  cases messageTree message with
  | none => rfl
  | some root =>
    rw [Option.bind_some]
    dsimp only
    cases root.getObjectItem (literal "success") with
    | none => rfl
    | some success =>
      rw [Option.bind_some]
      dsimp only
      split
      · cases root.getObjectItem (literal "data") <;> rfl
      · rfl

structure Copied (strtod : List UInt8 → Int) (data : CJson) (s next : CertificateState) : Prop where
  clientId : copyItem 33 (data.getObjectItem (literal "client_id")) = some next.clientId
  certificatePem : copyItem 600 (data.getObjectItem (literal "certificate_pem")) =
    some next.certificatePemLink
  privatePem : copyItem 600 (data.getObjectItem (literal "private_pem")) =
    some next.privatePemLink
  newFirmware : ∃ item, data.getObjectItem (literal "new_firmware") = some item ∧
    next.isStartOta = if item.valueint strtod ≠ 0 then .otaStart else s.isStartOta
  urlFirmware : copyItem 500 (data.getObjectItem (literal "url_firmware")) =
    some next.otaMessageLink
  hashFirmware : FitsMember 20 (data.getObjectItem (literal "hash_firmware"))

theorem readData_eq_some {strtod : List UInt8 → Int} {data : CJson} {s next : CertificateState} :
    readData strtod data s = some next ↔ Copied strtod data s next := by
  constructor
  · intro h
    simp only [readData, Option.bind_eq_bind, Option.bind_eq_some_iff] at h
    obtain ⟨clientId, hClient, certificate, hCertificate, _, _, key, hKey, item, hItem, url, hUrl,
      hash, hHash, hNext⟩ := h
    obtain rfl := Option.some.inj hNext
    exact ⟨hClient, hCertificate, hKey, ⟨item, hItem, rfl⟩, hUrl,
      copyItem_isSome.mp (Option.isSome_of_eq_some hHash)⟩
  · rintro ⟨hClient, hCertificate, hKey, ⟨item, hItem, hStart⟩, hUrl, hHash⟩
    obtain ⟨hash, hHash⟩ := hHash.copy
    simp only [readData, hClient, hCertificate, hKey, hItem, hUrl, hHash, Option.bind_eq_bind,
      Option.bind_some, ← hStart]
    rfl

theorem Copied.applied_iff {strtod : List UInt8 → Int} {data : CJson} {s next : CertificateState}
    (h : Copied strtod data s next) :
    Applied data next ↔ WellFormedCertificate strtod s.isStartOta data := by
  obtain ⟨hClientFits, hClient⟩ := copyItem_eq_some.mp h.clientId
  obtain ⟨hCertificateFits, hCertificate⟩ := copyItem_eq_some.mp h.certificatePem
  obtain ⟨hKeyFits, hKey⟩ := copyItem_eq_some.mp h.privatePem
  obtain ⟨hUrlFits, hUrl⟩ := copyItem_eq_some.mp h.urlFirmware
  obtain ⟨item, hItem, hStart⟩ := h.newFirmware
  constructor
  · rintro ⟨_, _, _, _, hUpdate⟩
    refine ⟨hClientFits, hCertificateFits, hKeyFits, ⟨item, hItem, ?_⟩, hUrlFits, h.hashFirmware⟩
    rw [hItem, Option.some.injEq, hStart] at hUpdate
    split at hUpdate
    · exact Or.inl (hUpdate.mp rfl)
    · rename_i hZero
      rcases eq_or_ne item (.bool true) with hTrue | hOther
      · exact Or.inl hTrue
      · exact Or.inr ⟨not_not.mp hZero, fun hDue => hOther (hUpdate.mp hDue)⟩
  · rintro ⟨_, _, _, ⟨item', hItem', hUpdate⟩, _, _⟩
    rw [hItem] at hItem'
    obtain rfl := Option.some.inj hItem'
    refine ⟨hClient, hCertificate, hKey, hUrl, ?_⟩
    rw [hItem, Option.some.injEq, hStart]
    rcases hUpdate with rfl | ⟨hZero, hIdle⟩
    · exact iff_of_true rfl rfl
    · rw [if_neg (not_not.mpr hZero)]
      refine iff_of_false hIdle ?_
      rintro rfl
      cases hZero

/-- The parser is all or nothing for exactly the responses that are no success, have no `data`, or
have it well formed. -/
theorem allOrNothing_iff (strtod : List UInt8 → Int) (message : List UInt8)
    (s : CertificateState) : AllOrNothing strtod message s ↔
      ∀ data, responseData strtod message = some data →
        WellFormedCertificate strtod s.isStartOta data := by
  rw [AllOrNothing, jsonParserCertificate_eq]
  cases responseData strtod message with
  | none => exact iff_of_true (Or.inl rfl) nofun
  | some data =>
    rw [Option.elim_some]
    constructor
    · rintro (hNothing | ⟨next, data', hParsed, hData, hApplied⟩) _ ⟨⟩
      · obtain ⟨next, _, hPair⟩ := Option.map_eq_some_iff.mp hNothing
        cases hPair
      · obtain rfl := Option.some.inj hData
        obtain ⟨_, hRead, hPair⟩ := Option.map_eq_some_iff.mp hParsed
        obtain ⟨-, rfl⟩ := Prod.mk.inj hPair
        exact (readData_eq_some.mp hRead).applied_iff.mp hApplied
    · intro hAll
      have hWell := hAll data rfl
      obtain ⟨clientId, hClient⟩ := hWell.clientId.copy
      obtain ⟨certificate, hCertificate⟩ := hWell.certificatePem.copy
      obtain ⟨key, hKey⟩ := hWell.privatePem.copy
      obtain ⟨url, hUrl⟩ := hWell.urlFirmware.copy
      obtain ⟨item, hItem, _⟩ := hWell.newFirmware
      have hCopied : Copied strtod data s ⟨clientId, certificate, key, url,
          if item.valueint strtod ≠ 0 then .otaStart else s.isStartOta⟩ :=
        ⟨hClient, hCertificate, hKey, ⟨item, hItem, rfl⟩, hUrl, hWell.hashFirmware⟩
      refine Or.inr ⟨_, data, ?_, rfl, hCopied.applied_iff.mpr hWell⟩
      rw [readData_eq_some.mpr hCopied, Option.map_some]

def nullUrl : List UInt8 :=
  literal ("\x7b\"success\":true,\"data\":\x7b\"client_id\":\"c\"," ++
    "\"certificate_pem\":\"p\",\"private_pem\":\"k\",\"new_firmware\":false," ++
    "\"url_firmware\":null,\"hash_firmware\":null\x7d\x7d")

theorem null_url_dereferenced : ¬ AllOrNothing atoi nullUrl ⟨[], [], [], [], .otaPending⟩ := by
  have hNone : jsonParserCertificate atoi nullUrl ⟨[], [], [], [], .otaPending⟩ = none := by
    decide +kernel
  rw [AllOrNothing, hNone]
  rintro (hNothing | ⟨_, _, hParsed, _⟩)
  · cases hNothing
  · cases hParsed

/-! ## The credentials -/

def certificateData (strtod : List UInt8 → Int) (data : CJson) : CertificateData :=
  let text (name : String) := valuestring (data.getObjectItem (literal name))
  { clientId := text "client_id"
    certificatePem := text "certificate_pem"
    privatePem := text "private_pem"
    newFirmware := (data.getObjectItem (literal "new_firmware")).map (valueint strtod)
    urlFirmware := text "url_firmware"
    hashFirmware := text "hash_firmware" }

/-- What `Credentials.jsonParserCertificate` takes for the response. -/
def certificateMessage (strtod : List UInt8 → Int) (message : List UInt8) :
    Option CertificateMessage :=
  (messageTree message).bind fun root =>
    (root.getObjectItem (literal "success")).map fun success =>
      { success := success.valueint strtod
        data := (root.getObjectItem (literal "data")).map (certificateData strtod) }

def ofCredentials (c : Credentials) : CertificateState where
  clientId := c.config.clientId.text
  certificatePemLink := c.config.certificatePemLink.text
  privatePemLink := c.config.privatePemLink.text
  otaMessageLink := c.otaMessageLink
  isStartOta := c.plant.isStartOta

theorem credentialsParser_eq (strtod : List UInt8 → Int) (message : List UInt8)
    (c : Credentials) :
    Credentials.jsonParserCertificate (certificateMessage strtod message) c =
      (responseData strtod message).elim (some (false, c)) fun data =>
        Credentials.jsonParserCertificate (some ⟨1, some (certificateData strtod data)⟩) c := by
  rw [certificateMessage, responseData]
  cases messageTree message with
  | none => rfl
  | some root =>
    rw [Option.bind_some, Option.bind_some]
    cases root.getObjectItem (literal "success") with
    | none => rfl
    | some success =>
      rw [Option.map_some, Option.bind_some, Credentials.jsonParserCertificate]
      dsimp only
      split
      · cases root.getObjectItem (literal "data") <;> rfl
      · rfl

/-- A response that fits is read as the model of the credentials reads it. -/
theorem jsonParserCertificate_credentials {strtod : List UInt8 → Int} {message : List UInt8}
    {c : Credentials} {ok : Bool} {next : CertificateState}
    (h : jsonParserCertificate strtod message (ofCredentials c) = some (ok, next)) :
    ∃ c', Credentials.jsonParserCertificate (certificateMessage strtod message) c = some (ok, c') ∧
      ofCredentials c' = next := by
  rw [jsonParserCertificate_eq] at h
  rw [credentialsParser_eq]
  cases hData : responseData strtod message with
  | none =>
    rw [hData] at h
    cases h
    exact ⟨c, rfl, rfl⟩
  | some data =>
    rw [hData] at h
    obtain ⟨_, hRead, hPair⟩ := Option.map_eq_some_iff.mp h
    cases hPair
    obtain ⟨hClient, hCertificate, hKey, ⟨item, hItem, hStart⟩, hUrl, hHash⟩ :=
      readData_eq_some.mp hRead
    obtain ⟨hash, hHash⟩ := hHash.copy
    simp only [Option.elim_some, Credentials.jsonParserCertificate, certificateData,
      (copyItem_eq_some.mp hClient).2, (copyItem_eq_some.mp hCertificate).2,
      (copyItem_eq_some.mp hKey).2, hItem, (copyItem_eq_some.mp hUrl).2,
      (copyItem_eq_some.mp hHash).2]
    refine ⟨_, rfl, ?_⟩
    cases next
    cases hStart
    rfl

end CertificateState

end FcomGateway
