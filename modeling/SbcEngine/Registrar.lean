/-
The registrar: who may change the bindings of an address of record.

`handle` answers one REGISTER.  It asks the digest layer to verify the request
for the realm in the To header, reads a username off the request, compares it
with the To user, and applies the contacts.  The digest layer looks at the first
Authorization header of the realm; the username is read off the first
Authorization header of any realm.

* `handle_find` — the bindings `handle` can touch, and when;
* `handle_respects_credential_iff` — for which requests only the owner of the
  verified credential has bindings changed;
* `handle_hijack` — a request with two Authorization headers.

Design notes: what PJSIP does (digest verification, printing and parsing of
URIs, sending) is a parameter, `Stack`.  The steady clock is read at three
places, so a request comes with three kinds of readings.
-/
import SbcEngine.BindingStore

namespace SbcEngine

structure SipUser where
  username : String
  realm : String
  ha1 : String
  enabled : Bool
  deriving DecidableEq, Repr

/-- The current snapshot of provisioned users. -/
structure UsersStore where
  users : List SipUser

namespace UsersStore

/-- A local domain is any realm an enabled user is provisioned under. -/
def isLocalDomain (s : UsersStore) (realm : String) : Bool :=
  s.users.any fun user => user.enabled && user.realm = realm

def find (s : UsersStore) (username realm : String) : Option SipUser :=
  s.users.find? fun user => user.enabled && user.username = username && user.realm = realm

end UsersStore

def makeAor (user host : String) : String := user ++ "@" ++ host

namespace Registrar

/-- An Authorization header; `digest` stands for the parameters the digest
layer reads. -/
structure Authorization where
  realm : String
  username : String
  digest : String
  deriving DecidableEq, Repr

/-- A Contact header.  `uri` is the URI as PJSIP prints it, empty if it cannot. -/
structure Contact where
  star : Bool
  uri : String
  expires : UInt32
  deriving DecidableEq, Repr

structure Request where
  toIsSip : Bool
  toUser : String
  toHost : String
  authorizations : List Authorization
  contacts : List Contact
  expires : Option UInt32
  userAgent : Option String
  callId : String
  cseq : ℤ
  sourceAddress : String
  sourcePort : ℤ

structure Config where
  minExpires : ℤ
  maxExpires : ℤ

/-- What `pjsip_auth_srv_verify` can return. -/
inductive VerifyStatus where
  | success
  | noAuth
  | failed
  deriving DecidableEq, Repr

/-- The parts of PJSIP the registrar calls. -/
structure Stack where
  /-- `pjsip_auth_srv_init2` succeeds. -/
  authInit : Bool
  /-- The digest check of one header, given the stored hash of the account it
  names: the status, and the status code it sets. -/
  checkDigest : Authorization → Option String → VerifyStatus × ℤ
  /-- `pjsip_parse_uri` accepts a stored contact. -/
  parsesUri : String → Bool
  /-- There is an endpoint and it can create and address a response. -/
  responds : Bool

structure Response where
  status : ℤ
  /-- The contacts listed, with their remaining seconds. -/
  contacts : List (String × UInt32)
  minExpires : Option ℤ
  /-- The realm challenged for. -/
  challenge : Option String
  deriving DecidableEq, Repr

structure RegistrationEvent where
  aor : String
  contactUri : String
  sourceAddress : String
  sourcePort : ℤ
  transport : String
  userAgent : Option String
  expiresInS : ℤ
  removed : Bool
  deriving DecidableEq, Repr

/-- The readings of the steady clock during one request: when the contacts are
stamped, when the `i`-th mirror event is built, and when the answer is. -/
structure Clock where
  registering : ℤ
  mirroring : ℕ → ℤ
  answering : ℤ

/-- What a request left behind. -/
structure Outcome where
  store : BindingStore
  events : List RegistrationEvent
  responses : List Response

/-- The registrar with what it was wired up with; `sink` says whether there is
somebody to mirror to. -/
structure RegistrarActions where
  stack : Stack
  users : UsersStore
  config : Config
  sink : Bool

/-! ### Verification -/

def localDomain (R : RegistrarActions) (req : Request) : Option String :=
  if req.toIsSip && R.users.isLocalDomain req.toHost then some req.toHost else none

/-- The stored hash of an account of a realm. -/
def lookupCredential (users : UsersStore) (username realm : String) : Option String :=
  (users.find username realm).map (·.ha1)

/-- The header `pjsip_auth_srv_verify` looks at. -/
def realmHeader (req : Request) (realm : String) : Option Authorization :=
  req.authorizations.find? (·.realm = realm)

def authSrvVerify (R : RegistrarActions) (req : Request) (realm : String) : VerifyStatus × ℤ :=
  match realmHeader req realm with
  | none => (.noAuth, 401)
  | some header => R.stack.checkDigest header (lookupCredential R.users header.username realm)

def verify (R : RegistrarActions) (req : Request) (realm : String) : VerifyStatus × ℤ :=
  if R.stack.authInit then authSrvVerify R req realm else (.failed, 500)

/-- The username of the first Authorization header, whatever its realm. -/
def authenticatedUsername (req : Request) : Option String :=
  req.authorizations.head?.map (·.username)

/-- The credential that was verified for the request, if one was. -/
def verifiedCredential (R : RegistrarActions) (req : Request) : Option Authorization :=
  (localDomain R req).bind fun realm =>
    if (verify R req realm).1 = .success then realmHeader req realm else none

/-! ### Answers and mirroring -/

def respond (R : RegistrarActions) (status : ℤ) : List Response :=
  if R.stack.responds then
    [{ status := status, contacts := [], minExpires := none, challenge := none }]
  else []

def sendChallenge (R : RegistrarActions) (realm : String) : List Response :=
  if R.stack.responds then
    [{ status := 401, contacts := [], minExpires := none, challenge := some realm }]
  else []

/-- Whole seconds, rounded towards zero. -/
def seconds (duration : ℤ) : ℤ := duration.tdiv 1000000000

/-- 200 OK with every live contact of the address. -/
def sendOk (R : RegistrarActions) (clock : Clock) (store : BindingStore) (aor : String) :
    List Response :=
  if R.stack.responds then
    [{ status := 200
       contacts := ((store.findLive aor clock.answering).filter
          fun b => R.stack.parsesUri b.contactUri).map
            fun b => (b.contactUri, .ofInt (seconds (b.expiresAt - clock.answering)))
       minExpires := none
       challenge := none }]
  else []

def mirrorRegistration (R : RegistrarActions) (now : ℤ) (aor : String) (b : Binding)
    (removed : Bool) (userAgent : Option String) : List RegistrationEvent :=
  if R.sink then
    [{ aor := aor
       contactUri := b.contactUri
       sourceAddress := b.sourceAddress
       sourcePort := b.sourcePort
       transport := b.transport
       userAgent := userAgent
       expiresInS := if removed then 0 else seconds (b.expiresAt - now)
       removed := removed }]
  else []

def shouldMirror (previous : Option Binding) (incoming : Binding) (removed : Bool) (now : ℤ) :
    Bool :=
  match previous with
  | none => true
  | some previous =>
    removed || previous.sourceAddress ≠ incoming.sourceAddress ||
      previous.sourcePort ≠ incoming.sourcePort || previous.transport ≠ incoming.transport ||
      (incoming.expiresAt - incoming.refreshedAt).tdiv 2 ≤ now - previous.mirroredAt

/-- Stamp each incoming binding with the time of its last mirroring, and say
which of them are mirrored now. -/
def decideMirrors (store : BindingStore) (aor : String) (incoming : List Binding) (now : ℤ) :
    List (Binding × Bool) :=
  let live := store.findLive aor now
  incoming.map fun b =>
    let previous := live.find? (·.contactUri = b.contactUri)
    let mirror := shouldMirror previous b b.removed now
    ({ b with mirroredAt := if mirror then now else (previous.map (·.mirroredAt)).getD 0 }, mirror)

/-! ### Contacts -/

/-- `PJSIP_EXPIRES_NOT_SPECIFIED` -/
def expiresNotSpecified : UInt32 := 0xFFFFFFFF

/-- The requested lifetime, as the signed integer the source turns it into. -/
def rawExpiresForContact (contact : Contact) (topLevel : Option ℤ) (default : ℤ) : ℤ :=
  if contact.expires ≠ expiresNotSpecified then contact.expires.toBitVec.toInt
  else topLevel.getD default

def topLevelExpires (req : Request) : Option ℤ := req.expires.map (·.toBitVec.toInt)

/-- `raw_expires_for_contact` with the request's header and the configured
maximum. -/
def rawExpires (R : RegistrarActions) (req : Request) (contact : Contact) : ℤ :=
  rawExpiresForContact contact (topLevelExpires req) R.config.maxExpires

/-- A request for less than the minimum; asking for no time at all is exempt. -/
def tooBrief (R : RegistrarActions) (req : Request) (contact : Contact) : Bool :=
  rawExpires R req contact ≠ 0 && rawExpires R req contact < R.config.minExpires

/-- 423 with Min-Expires. -/
def rejectTooBrief (R : RegistrarActions) : List Response :=
  if R.stack.responds then
    [{ status := 423, contacts := [], minExpires := some R.config.minExpires, challenge := none }]
  else []

def newBinding (R : RegistrarActions) (req : Request) (now : ℤ) (contact : Contact) : Binding :=
  let raw := rawExpires R req contact
  let granted := if raw = 0 then 0 else min raw R.config.maxExpires
  { contactUri := contact.uri
    sourceAddress := req.sourceAddress
    sourcePort := req.sourcePort
    transport := "udp"
    callId := req.callId
    cseq := req.cseq
    expiresAt := now + granted * 1000000000
    refreshedAt := now
    mirroredAt := 0 }

def newBindings (R : RegistrarActions) (req : Request) (now : ℤ) : List Binding :=
  req.contacts.map (newBinding R req now)

/-- The events for the contacts that are mirrored now. -/
def mirrorAll (R : RegistrarActions) (clock : Clock) (aor : String)
    (decided : List (Binding × Bool)) (userAgent : Option String) : List RegistrationEvent :=
  (decided.zipIdx.filter (·.1.2)).flatMap fun ((b, _), i) =>
    mirrorRegistration R (clock.mirroring i) aor b b.removed userAgent

/-! ### The request -/

/-- Apply the contacts, mirror what changed and answer. -/
def registerContacts (R : RegistrarActions) (clock : Clock) (req : Request) (aor : String)
    (store : BindingStore) : Outcome :=
  let decided := decideMirrors store aor (newBindings R req clock.registering) clock.registering
  match store.applyContacts aor (decided.map (·.1)) with
  | (_, .callIdCseqConflict) => ⟨store, [], respond R 400⟩
  | (store, .applied) =>
    ⟨store, mirrorAll R clock aor decided req.userAgent, sendOk R clock store aor⟩

def processRegistration (R : RegistrarActions) (clock : Clock) (req : Request) (realm : String)
    (store : BindingStore) : Outcome :=
  let aor := makeAor req.toUser realm
  match req.contacts with
  | [] => ⟨store, [], sendOk R clock store aor⟩
  | first :: rest =>
    if req.contacts.any (·.star) then
      if rest ≠ [] || rawExpires R req first ≠ 0 then ⟨store, [], respond R 400⟩
      else
        let events := (store.findLive aor clock.registering).flatMap fun b =>
          mirrorRegistration R clock.registering aor b true req.userAgent
        let store := store.removeAll aor
        ⟨store, events, sendOk R clock store aor⟩
    else if req.contacts.any (tooBrief R req) then ⟨store, [], rejectTooBrief R⟩
    else if req.contacts.any (·.uri = "") then ⟨store, [], respond R 400⟩
    else registerContacts R clock req aor store

def handle (R : RegistrarActions) (clock : Clock) (req : Request) (store : BindingStore) :
    Outcome :=
  match localDomain R req with
  | none => ⟨store, [], respond R 404⟩
  | some realm =>
    match verify R req realm with
    | (.success, _) =>
      if authenticatedUsername req ≠ some req.toUser then ⟨store, [], respond R 403⟩
      else processRegistration R clock req realm store
    | (.noAuth, _) => ⟨store, [], sendChallenge R realm⟩
    | (.failed, status) => ⟨store, [], respond R (if 400 ≤ status then status else 403)⟩

/-! ### Which bindings a request can touch -/

/-- The contacts of the request will be applied: a lone `*` that asks for no
time, or contacts that can be printed and ask for enough. -/
def Applicable (R : RegistrarActions) (req : Request) : Prop :=
  (∃ contact, req.contacts = [contact] ∧ contact.star = true ∧ rawExpires R req contact = 0) ∨
  (req.contacts ≠ [] ∧ ∀ contact ∈ req.contacts,
    contact.star = false ∧ tooBrief R req contact = false ∧ contact.uri ≠ "")

/-- The bindings a request asks for, stamped. -/
def requestedBindings (R : RegistrarActions) (clock : Clock) (req : Request) (aor : String)
    (store : BindingStore) : List Binding :=
  (decideMirrors store aor (newBindings R req clock.registering) clock.registering).map (·.1)

theorem registerContacts_store (R : RegistrarActions) (clock : Clock) (req : Request)
    (aor : String) (store : BindingStore) :
    (registerContacts R clock req aor store).store =
      (store.applyContacts aor (requestedBindings R clock req aor store)).1 := by
  rw [registerContacts, requestedBindings]
  split
  · next s happly =>
    rw [happly]
    rw [BindingStore.applyContacts] at happly
    split_ifs at happly
    · cases happly
      rfl
    · cases happly
  · next happly => rw [happly]

/-- Only applicable contacts change anything, and only at the To address. -/
theorem processRegistration_find {R : RegistrarActions} {clock : Clock} {req : Request}
    {realm aor uri : String} {store : BindingStore}
    (h : (processRegistration R clock req realm store).store.find aor uri ≠ store.find aor uri) :
    Applicable R req ∧ aor = makeAor req.toUser realm := by
  rw [processRegistration] at h
  split at h
  · exact absurd rfl h
  · next first rest hcontacts =>
    split_ifs at h with hstar hbad hbrief hprint
    · exact absurd rfl h
    · -- the lone star
      simp only [Bool.or_eq_true, decide_eq_true_eq, not_or, not_not] at hbad
      obtain ⟨rfl, hraw⟩ := hbad
      constructor
      · refine .inl ⟨first, hcontacts, ?_, hraw⟩
        simpa [hcontacts] using hstar
      · by_contra hne
        exact h (BindingStore.find_removeAll_other hne uri)
    · exact absurd rfl h
    · exact absurd rfl h
    · constructor
      · refine .inr ⟨by simp [hcontacts], ?_⟩
        simp only [List.any_eq_true, not_exists, not_and, decide_eq_true_eq,
          Bool.not_eq_true] at hstar hbrief hprint
        exact fun contact hmem => ⟨hstar contact hmem, hbrief contact hmem, hprint contact hmem⟩
      · by_contra hne
        rw [registerContacts_store] at h
        exact h (BindingStore.find_applyContacts_other hne _ uri)

/-- Verification only succeeds on a header of the realm. -/
theorem verify_success {R : RegistrarActions} {req : Request} {realm : String}
    (h : (verify R req realm).1 = .success) : ∃ cred, realmHeader req realm = some cred := by
  rw [verify] at h
  split_ifs at h
  rw [authSrvVerify] at h
  cases hheader : realmHeader req realm with
  | none => exact absurd h (by simp [hheader])
  | some cred => exact ⟨cred, rfl⟩

theorem localDomain_eq {R : RegistrarActions} {req : Request} {realm : String}
    (h : localDomain R req = some realm) : realm = req.toHost := by
  rw [localDomain] at h
  split_ifs at h
  exact (Option.some.inj h).symm

/-- What has to be true of a request that changes a binding. -/
theorem handle_find {R : RegistrarActions} {clock : Clock} {req : Request} {aor uri : String}
    {store : BindingStore}
    (h : (handle R clock req store).store.find aor uri ≠ store.find aor uri) :
    (∃ cred, verifiedCredential R req = some cred) ∧
      authenticatedUsername req = some req.toUser ∧ Applicable R req ∧
      aor = makeAor req.toUser req.toHost := by
  rw [handle] at h
  cases hdomain : localDomain R req with
  | none =>
    rw [hdomain] at h
    exact absurd rfl h
  | some realm =>
    have hhost := localDomain_eq hdomain
    simp only [hdomain] at h
    split at h
    · next hverify =>
      split_ifs at h with huser
      · exact absurd rfl h
      · obtain ⟨happlicable, haor⟩ := processRegistration_find h
        refine ⟨?_, not_not.mp huser, happlicable, by rw [haor, hhost]⟩
        obtain ⟨cred, hcred⟩ := verify_success (by rw [hverify])
        exact ⟨cred, by simp [verifiedCredential, hdomain, hverify, hcred]⟩
    · exact absurd rfl h
    · exact absurd rfl h

/-! ### A store that shows the change -/

theorem makeAor_left_inj {user user' host : String} :
    makeAor user host = makeAor user' host ↔ user = user' := by
  rw [makeAor, makeAor, String.append_left_inj, String.append_left_inj]

/-- Nothing but the time of mirroring is stamped on a requested binding. -/
theorem requestedBindings_append {R : RegistrarActions} {req : Request} {init : List Contact}
    {contact : Contact} (h : req.contacts = init ++ [contact]) (clock : Clock) (aor : String)
    (store : BindingStore) :
    ∃ before mirroredAt, requestedBindings R clock req aor store =
      before ++ [{ newBinding R req clock.registering contact with mirroredAt := mirroredAt }] := by
  simp only [requestedBindings, decideMirrors, newBindings, h, List.map_append, List.map_cons,
    List.map_nil]
  exact ⟨_, _, rfl⟩

theorem mem_requestedBindings {R : RegistrarActions} {clock : Clock} {req : Request} {aor : String}
    {store : BindingStore} {b : Binding} (h : b ∈ requestedBindings R clock req aor store) :
    b.callId = req.callId := by
  simp only [requestedBindings, decideMirrors, newBindings, List.map_map, List.mem_map] at h
  obtain ⟨contact, -, rfl⟩ := h
  rfl

/-- One address with one binding. -/
def singleBinding (aor : String) (b : Binding) : BindingStore :=
  { BindingStore.empty .asListed with
    bindings := AList.singleton aor (AList.singleton b.contactUri b) }

theorem find_singleBinding (aor : String) (b : Binding) (uri : String) :
    (singleBinding aor b).find aor uri = if uri = b.contactUri then some b else none := by
  have hcontacts : (singleBinding aor b).contactsOf aor = AList.singleton b.contactUri b := by
    rw [BindingStore.contactsOf, singleBinding, ← AList.insert_empty, AList.lookup_insert]
    rfl
  rw [BindingStore.find, hcontacts, ← AList.insert_empty]
  split_ifs with huri
  · rw [huri, AList.lookup_insert]
  · rw [AList.lookup_insert_ne huri, AList.lookup_empty]

/-- Contacts without a star that pass the checks are applied. -/
theorem processRegistration_eq {R : RegistrarActions} {req : Request} (hne : req.contacts ≠ [])
    (hall : ∀ contact ∈ req.contacts,
      contact.star = false ∧ tooBrief R req contact = false ∧ contact.uri ≠ "")
    (clock : Clock) (realm : String) (store : BindingStore) :
    processRegistration R clock req realm store =
      registerContacts R clock req (makeAor req.toUser realm) store := by
  have hstar : ¬ (req.contacts.any (·.star)) = true := by
    simpa using fun contact hmem => (hall contact hmem).1
  have hbrief : ¬ (req.contacts.any (tooBrief R req)) = true := by
    simpa using fun contact hmem => (hall contact hmem).2.1
  have huri : ¬ (req.contacts.any (·.uri = "")) = true := by
    simpa using fun contact hmem => (hall contact hmem).2.2
  rw [processRegistration]
  split
  · next hnil => exact absurd hnil hne
  · rw [if_neg hstar, if_neg hbrief, if_neg huri]

/-- In a store where no binding of the address has the request's Call-ID, the
last contact of the request is on file afterwards, or gone. -/
theorem registerContacts_last {R : RegistrarActions} {req : Request} {init : List Contact}
    {contact : Contact} (hcontacts : req.contacts = init ++ [contact]) (clock : Clock)
    (aor : String) (store : BindingStore)
    (hcall : ∀ uri b, store.find aor uri = some b → b.callId ≠ req.callId) :
    ∃ b, (registerContacts R clock req aor store).store.find aor contact.uri =
      if (newBinding R req clock.registering contact).removed then none else some b := by
  obtain ⟨before, mirroredAt, hreq⟩ := requestedBindings_append (R := R) hcontacts clock aor store
  have happlied : (store.applyContacts aor (requestedBindings R clock req aor store)).2 =
      .applied := by
    rw [BindingStore.applyContacts, if_neg]
    simp only [List.any_eq_true, not_exists, not_and]
    intro b hb
    cases hfind : store.find aor b.contactUri with
    | none => simp
    | some existing =>
      simp [BindingStore.conflicts, mem_requestedBindings hb, hcall _ _ hfind]
  rw [registerContacts_store]
  rw [hreq] at happlied ⊢
  exact ⟨_, BindingStore.find_applyContacts_last happlied⟩

/-- Applicable contacts change something in some store. -/
theorem processRegistration_changes {R : RegistrarActions} {req : Request} (realm : String)
    (h : Applicable R req) :
    ∃ clock store uri, (processRegistration R clock req realm store).store.find
      (makeAor req.toUser realm) uri ≠ store.find (makeAor req.toUser realm) uri := by
  set aor := makeAor req.toUser realm with haor
  set clock : Clock := { registering := 0, mirroring := fun _ => 0, answering := 0 }
  -- a binding that another call registered
  set old : String → Binding := fun uri =>
    { contactUri := uri, sourceAddress := "", sourcePort := 0, transport := "udp",
      callId := req.callId ++ "x", cseq := 0, expiresAt := 1, refreshedAt := 0, mirroredAt := 0 }
  rcases h with ⟨contact, hcontacts, hstar, hraw⟩ | ⟨hne, hall⟩
  · -- the star removes whatever is on file
    refine ⟨clock, singleBinding aor (old ""), "", ?_⟩
    have hremove : (processRegistration R clock req realm (singleBinding aor (old ""))).store =
        (singleBinding aor (old "")).removeAll aor := by
      rw [processRegistration]
      simp [hcontacts, hstar, hraw, haor]
    rw [hremove, BindingStore.find_removeAll, find_singleBinding, if_pos rfl]
    simp
  · obtain hnil | ⟨init, contact, hcontacts⟩ := List.eq_nil_or_concat' req.contacts
    · exact absurd hnil hne
    by_cases hremoved : (newBinding R req 0 contact).removed = true
    · -- the last contact is removed: have it on file before
      refine ⟨clock, singleBinding aor (old contact.uri), contact.uri, ?_⟩
      have hcall : ∀ uri b, (singleBinding aor (old contact.uri)).find aor uri = some b →
          b.callId ≠ req.callId := by
        intro uri b hb heq
        rw [find_singleBinding] at hb
        split_ifs at hb
        cases hb
        have hlen : (req.callId ++ "x").length = req.callId.length := congrArg String.length heq
        simp at hlen
      obtain ⟨b, hfind⟩ := registerContacts_last (R := R) hcontacts clock aor _ hcall
      rw [processRegistration_eq hne hall, hfind, if_pos hremoved, find_singleBinding, if_pos rfl]
      simp
    · -- the last contact is stored: begin with an empty store
      refine ⟨clock, .empty .asListed, contact.uri, ?_⟩
      have hempty : ∀ uri, (BindingStore.empty .asListed).find aor uri = none := fun uri => rfl
      obtain ⟨b, hfind⟩ := registerContacts_last (R := R) hcontacts clock aor (.empty .asListed)
        (by simp [hempty])
      rw [processRegistration_eq hne hall, hfind, if_neg hremoved, hempty]
      simp

/-! ### The verified credential and the To user -/

/-- Bindings change only at the address of the user whose credential was
verified for this request. -/
def RespectsCredential (R : RegistrarActions) (req : Request) : Prop :=
  ∀ clock store aor uri,
    (handle R clock req store).store.find aor uri ≠ store.find aor uri →
    ∃ cred, verifiedCredential R req = some cred ∧ aor = makeAor cred.username req.toHost

/-- The request verifies with one account's credential, but its first
Authorization header names the To user, another account, and its contacts are
applicable. -/
def Hijacks (R : RegistrarActions) (req : Request) : Prop :=
  Applicable R req ∧ authenticatedUsername req = some req.toUser ∧
    ∃ cred, verifiedCredential R req = some cred ∧ cred.username ≠ req.toUser

/-- A verified request that names the To user first is processed. -/
theorem handle_eq {R : RegistrarActions} {req : Request} {cred : Authorization}
    (hcred : verifiedCredential R req = some cred)
    (huser : authenticatedUsername req = some req.toUser) (clock : Clock) (store : BindingStore) :
    handle R clock req store = processRegistration R clock req req.toHost store := by
  rw [verifiedCredential] at hcred
  obtain ⟨realm, hdomain, hheader⟩ := Option.bind_eq_some_iff.mp hcred
  obtain rfl := localDomain_eq hdomain
  split_ifs at hheader with hverify
  rw [handle, hdomain]
  rcases hv : verify R req req.toHost with ⟨status, code⟩
  rw [hv] at hverify
  obtain rfl : status = .success := hverify
  simp [hv, huser]

/-- A hijacking request changes a binding of the To user in some store. -/
theorem not_respects_of_hijacks {R : RegistrarActions} {req : Request} (h : Hijacks R req) :
    ¬ RespectsCredential R req := by
  obtain ⟨happlicable, huser, cred, hcred, hother⟩ := h
  intro hrespects
  obtain ⟨clock, store, uri, hchange⟩ := processRegistration_changes req.toHost happlicable
  rw [← handle_eq hcred huser] at hchange
  obtain ⟨cred', hcred', haor⟩ := hrespects clock store _ uri hchange
  rw [hcred] at hcred'
  cases hcred'
  exact hother (makeAor_left_inj.mp haor).symm

/-- **Whose bindings a request changes.**  For every request, and every state of
the users, the configuration and the digest layer: in every store and at every
time only bindings of the user whose credential was verified are added, changed
or removed, if and only if the request does not hijack. -/
theorem handle_respects_credential_iff (R : RegistrarActions) (req : Request) :
    RespectsCredential R req ↔ ¬ Hijacks R req := by
  constructor
  · intro hrespects hhijack
    exact not_respects_of_hijacks hhijack hrespects
  · intro hnot clock store aor uri hchange
    obtain ⟨⟨cred, hcred⟩, huser, happlicable, haor⟩ := handle_find hchange
    refine ⟨cred, hcred, ?_⟩
    by_contra hne
    refine hnot ⟨happlicable, huser, cred, hcred, fun heq => hne ?_⟩
    rw [haor, heq]

/-- Two accounts of one domain, and a digest layer that compares a response with
the stored hash. -/
def twoAccounts : RegistrarActions where
  stack :=
    { authInit := true
      checkDigest := fun header ha1 =>
        if ha1 = some header.digest then (.success, 200) else (.failed, 403)
      parsesUri := fun _ => true
      responds := true }
  users := ⟨[⟨"victim", "sbc.local", "hash of victim", true⟩,
    ⟨"attacker", "sbc.local", "hash of attacker", true⟩]⟩
  config := { minExpires := 60, maxExpires := 3600 }
  sink := false

/-- The first header names the victim in a foreign realm, the second carries
the attacker's own response. -/
def foreignRealmFirst : Request where
  toIsSip := true
  toUser := "victim"
  toHost := "sbc.local"
  authorizations := [⟨"elsewhere.example", "victim", ""⟩,
    ⟨"sbc.local", "attacker", "hash of attacker"⟩]
  contacts := [⟨false, "sip:attacker@192.0.2.7:5060", 3600⟩]
  expires := none
  userAgent := none
  callId := "a84b4c76e66710"
  cseq := 1
  sourceAddress := "192.0.2.7"
  sourcePort := 5060

/-- **A call hijack.**  The attacker's credential is verified and the victim's
bindings change. -/
theorem handle_hijack : ¬ RespectsCredential twoAccounts foreignRealmFirst := by
  refine not_respects_of_hijacks ⟨.inr ⟨by decide, ?_⟩, by decide, ?_⟩
  · intro contact hmem
    obtain rfl := List.mem_singleton.mp hmem
    decide
  · exact ⟨⟨"sbc.local", "attacker", "hash of attacker"⟩, by decide, by decide⟩

end Registrar

end SbcEngine
