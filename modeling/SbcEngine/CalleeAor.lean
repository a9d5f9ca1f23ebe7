/-
The address of record of a callee, on both sides.

The registrar stores bindings under the user and host of a parsed To URI, and routing
looks them up under the user and host it reads off a printed request URI.

* `ReadsUris`, `HasTo` — an environment with the source's readers, and a REGISTER for a
  URI;
* `resolveRoute_lookup` — routing looks under `lookupAor`;
* `lookup_aor_iff` — that is the registrar's address of record exactly when the text
  fits and the user is printed as it is, without a password.
-/
import SbcEngine.SetupActions
import SbcEngine.RegisterAnswers
import SbcEngine.UriText

namespace SbcEngine

namespace CalleeAor

open ExtractUtils

/-- The readers are those of the source. -/
def ReadsUris (routing : Routing) : Prop :=
  ∀ uri, routing.extractUriUser uri = readUser uri ∧ routing.extractUriHost uri = readHost uri

/-- The To URI of a REGISTER, as PJSIP stores it. -/
def HasTo (req : Registrar.Request) (uri : SipUri) : Prop :=
  req.toUser = String.ofList uri.user ∧ req.toHost = String.ofList uri.host.text

/-- The key `resolve_route` looks up. -/
def lookupAor (env : Env) : String :=
  makeAor (env.routing.extractUriUser env.requestUri) (env.routing.extractUriHost env.requestUri)

/-- The bindings routing looks into are those of a store. -/
def ReadsBindings (routing : Routing) (store : BindingStore) (now : ℤ) : Prop :=
  ∀ user host, routing.findPreferred user host =
    (store.findPreferred (makeAor user host) now).map fun b => (b.sourceAddress, b.sourcePort.toNat)

/-- Routing to a registered user goes to the preferred binding under `lookupAor`. -/
theorem resolveRoute_lookup {env : Env} {store : BindingStore} {now : ℤ}
    (hreads : ReadsBindings env.routing store now) (hregistrar : env.routing.hasRegistrar = true)
    (hlocal : env.routing.isLocalDomain (env.routing.extractUriHost env.requestUri) = true)
    (hknown : env.routing.knowsUser (env.routing.extractUriUser env.requestUri)
      (env.routing.extractUriHost env.requestUri) = true) :
    SetupActions.resolveRoute env =
      match store.findPreferred (lookupAor env) now with
      | some b =>
        { kind := .found
          destination := "sip:" ++ env.routing.extractUriUser env.requestUri ++ "@" ++
            b.sourceAddress ++ ":" ++ toString b.sourcePort.toNat
          requiredCodec := none }
      | none => SetupActions.notFound .failed := by
  rw [SetupActions.resolveRoute, hregistrar, hlocal, hknown, hreads]
  cases hfind : store.findPreferred (lookupAor env) now with
  | none =>
    rw [lookupAor] at hfind
    simp [hfind]
  | some b =>
    rw [lookupAor] at hfind
    simp [hfind]

/-! ### When the two sides agree -/

/-- The text is the user exactly when nothing is escaped and no password follows. -/
theorem credentials_eq_iff (P : UriPrinter) (uri : SipUri) :
    uri.credentials P = uri.user ↔ uri.password = [] ∧ ∀ c ∈ uri.user, P.plain c = true := by
  rw [SipUri.credentials, ← userText_eq_iff]
  split_ifs with hpassword
  · simp [hpassword]
  · refine iff_of_false (fun h => ?_) fun h => hpassword h.1
    have hlen := userText_length_le P uri.user
    have htotal := congrArg List.length h
    rw [List.length_append, List.length_cons] at htotal
    omega

/-- The URI is printed as the registrar knows its user. -/
def Undisguised (P : UriPrinter) (uri : SipUri) : Prop :=
  P.fits (uri.print P) = true ∧
    (uri.user = [] ∨ uri.password = [] ∧ ∀ c ∈ uri.user, P.plain c = true)

theorem readUser_iff (P : UriPrinter) (uri : SipUri) :
    extractUriUser (uri.print P) = uri.user ↔
      uri.user = [] ∨ uri.password = [] ∧ ∀ c ∈ uri.user, P.plain c = true := by
  rw [extractUriUser_print]
  split_ifs with huser
  · simp [huser]
  · rw [credentials_eq_iff]
    simp [huser]

/-- **The callee's address of record.**  Routing reads the user and the host of a URI,
and looks under the address of record of a REGISTER for it, exactly when the printed
text fits its buffer and either has no user or the user as it is, without a password. -/
theorem lookup_aor_iff {P : UriPrinter} {uri : SipUri} {env : Env} {req : Registrar.Request}
    (hreads : ReadsUris env.routing)
    (htext : env.requestUri = String.ofList (extractRequestUri P uri)) (hto : HasTo req uri) :
    (readUser env.requestUri = req.toUser ∧ readHost env.requestUri = req.toHost ∧
        lookupAor env = req.aor) ↔
      Undisguised P uri := by
  obtain ⟨huser, hhost⟩ := hto
  obtain ⟨hreadUser, hreadHost⟩ := hreads env.requestUri
  rw [lookupAor, Registrar.Request.aor, hreadUser, hreadHost, Undisguised]
  by_cases hfits : P.fits (uri.print P) = true
  · have hhosts : readHost env.requestUri = req.toHost := by
      rw [readHost, htext, hhost, extractRequestUri, if_pos hfits, String.toList_ofList,
        extractUriHost_print]
    have husers : readUser env.requestUri = req.toUser ↔
        extractUriUser (uri.print P) = uri.user := by
      rw [readUser, htext, huser, extractRequestUri, if_pos hfits, String.toList_ofList]
      exact String.ofList_inj
    rw [hhosts, Registrar.makeAor_left_inj, husers, readUser_iff]
    simp [hfits]
  · -- the text is left empty, and so is the host
    refine iff_of_false ?_ fun h => hfits h.1
    rintro ⟨-, h, -⟩
    rw [readHost, htext, hhost, extractRequestUri, if_neg hfits, String.toList_ofList] at h
    exact uri.host.text_ne (String.ofList_inj.mp h).symm

/-- The domain of the registrar. -/
def sbcLocal : Host where
  text := "sbc.local".toList
  ipv6 := false
  text_ne := by decide
  text_free := by decide
  name_free _ c hc := by
    have hnone : "sbc.local".toList.all (!isHostEnd ·) = true := by decide
    simpa using List.all_eq_true.mp hnone c hc

def localUri (user password : List Char) : SipUri where
  user := user
  password := password
  host := sbcLocal
  port := some 5060
  params := "transport=udp".toList
  headers := []
  rest_at := by decide

/-- A call to the URI. -/
def callTo (uri : SipUri) : Env :=
  { phoneEnv with
    routing := { phoneRouting with extractUriUser := readUser, extractUriHost := readHost }
    requestUri := String.ofList (extractRequestUri percentPrinter uri) }

/-- A REGISTER for the URI. -/
def registerOf (uri : SipUri) : Registrar.Request :=
  { Registrar.foreignRealmFirst with
    toUser := String.ofList uri.user, toHost := String.ofList uri.host.text }

theorem lookup_aor_iff_alice :
    lookupAor (callTo (localUri "alice".toList [])) =
      (registerOf (localUri "alice".toList [])).aor :=
  ((lookup_aor_iff (fun _ => ⟨rfl, rfl⟩) rfl ⟨rfl, rfl⟩).mpr
    ⟨by decide, .inr ⟨rfl, List.all_eq_true.mp rfl⟩⟩).2.2

/-- A dialled password is taken for a part of the user, and so is an escape. -/
theorem disguised_users_lost :
    (lookupAor (callTo (localUri "alice".toList "secret".toList)) = "alice:secret@sbc.local" ∧
      (registerOf (localUri "alice".toList "secret".toList)).aor = "alice@sbc.local") ∧
      (lookupAor (callTo (localUri "alice#2".toList [])) = "alice%232@sbc.local" ∧
        (registerOf (localUri "alice#2".toList [])).aor = "alice#2@sbc.local") := by
  decide +kernel

end CalleeAor

end SbcEngine
