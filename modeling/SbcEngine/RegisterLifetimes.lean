/-
How long a REGISTER contact is kept.

A contact asks for a number of seconds: in its own parameter, else in the Expires header,
else for the configured maximum.  Both numbers are unsigned; the registrar turns them into
signed ones before it compares them with its bounds.

* `requestedLifetime` — what a contact asks for;
* `rawExpires_eq` — what the registrar makes of it: from `2 ^ 31` on a negative number;
* `GrantsLifetimes` — too brief a contact has the request rejected, else contacts are
  removed or kept for what they ask, up to the maximum;
* `grants_lifetimes_iff` — the requests for which that is so.

Design notes: what else can have a request refused (no credential, a contact that cannot
be printed, an old CSeq) is kept out by `Considered`; the registrar checks all of it.
-/
import SbcEngine.RegisterAnswers
import Mathlib.Tactic.NormNum

namespace SbcEngine

namespace Registrar

/-! ### What a contact asks for -/

/-- The seconds a contact asks for: its parameter, else the header, else the maximum. -/
def requestedLifetime (R : RegistrarActions) (req : Request) (contact : Contact) : ℤ :=
  if contact.expires ≠ expiresNotSpecified then contact.expires.toNat
  else
    match req.expires with
    | some expires => expires.toNat
    | none => R.config.maxExpires

/-- The bounds are positive, in order, and integers of the source. -/
structure Config.Ordered (config : Config) : Prop where
  min_pos : 0 < config.minExpires
  min_le_max : config.minExpires ≤ config.maxExpires
  max_lt : config.maxExpires < 2 ^ 31

/-- A contact that asks for some time, but less than the minimum. -/
def AsksTooLittle (R : RegistrarActions) (req : Request) (contact : Contact) : Prop :=
  0 < requestedLifetime R req contact ∧ requestedLifetime R req contact < R.config.minExpires

/-- A request that is judged by the lifetimes of its contacts: it is verified for the To
user, its contacts can be printed and are newer than what is on file, and it can be
answered. -/
structure Considered (R : RegistrarActions) (req : Request) (store : BindingStore) : Prop where
  verified : ∃ cred, verifiedCredential R req = some cred
  named : authenticatedUsername req = some req.toUser
  contacts : req.contacts ≠ []
  printed : ∀ contact ∈ req.contacts, contact.star = false ∧ contact.uri ≠ ""
  newer : ∀ contact ∈ req.contacts, ∀ b, store.find req.aor contact.uri = some b →
    b.callId = req.callId → b.cseq < req.cseq
  responds : R.stack.responds = true

/-- What a contact leaves on file under its URI when it is accepted. -/
def KeptFor (R : RegistrarActions) (clock : Clock) (req : Request) (contact : Contact)
    (store : BindingStore) : Prop :=
  if requestedLifetime R req contact = 0 then store.find req.aor contact.uri = none
  else ∃ b, store.find req.aor contact.uri = some b ∧ b.refreshedAt = clock.registering ∧
    b.expiresAt = b.refreshedAt +
      min (requestedLifetime R req contact) R.config.maxExpires * 1000000000

/-- A contact that asks for too little has the request rejected with 423.  Otherwise the
request is accepted; a contact that no later one of it names again is removed if it asks
for no time at all, and else stored for what it asks, up to the maximum. -/
structure GrantsLifetimes (R : RegistrarActions) (clock : Clock) (req : Request)
    (store : BindingStore) : Prop where
  rejects : (∃ contact ∈ req.contacts, AsksTooLittle R req contact) →
    (handle R clock req store).responses.map (·.status) = [423] ∧
      (handle R clock req store).store = store
  accepts : (∀ contact ∈ req.contacts, ¬ AsksTooLittle R req contact) →
    (handle R clock req store).responses.map (·.status) = [200] ∧
      ∀ before contact later, req.contacts = before ++ contact :: later →
        (∀ contact' ∈ later, contact'.uri ≠ contact.uri) →
          KeptFor R clock req contact (handle R clock req store).store

/-! ### What the registrar makes of it -/

/-- The signed reading of an unsigned number. -/
theorem toInt_toBitVec (e : UInt32) :
    e.toBitVec.toInt = if (e.toNat : ℤ) < 2 ^ 31 then (e.toNat : ℤ) else e.toNat - 2 ^ 32 := by
  have htoNat : e.toBitVec.toNat = e.toNat := rfl
  rw [BitVec.toInt_eq_toNat_cond, htoNat]
  split_ifs with h h' h'
  · rfl
  · exact absurd h (by omega)
  · exact absurd h' (by omega)
  · norm_num

section Lifetimes

variable {R : RegistrarActions} (hconfig : R.config.Ordered) (req : Request)
include hconfig

theorem requestedLifetime_range (contact : Contact) :
    0 ≤ requestedLifetime R req contact ∧ requestedLifetime R req contact < 2 ^ 32 := by
  have hpos := hconfig.min_pos
  have hle := hconfig.min_le_max
  have hmax := hconfig.max_lt
  have hword : ∀ e : UInt32, 0 ≤ (e.toNat : ℤ) ∧ (e.toNat : ℤ) < 2 ^ 32 := by
    intro e
    have hlt := e.toNat_lt
    omega
  rw [requestedLifetime]
  split_ifs
  · exact hword _
  · split
    · exact hword _
    · omega

/-- A lifetime of `2 ^ 31` seconds or more is read as a negative number. -/
theorem rawExpires_eq (contact : Contact) :
    rawExpires R req contact =
      if requestedLifetime R req contact < 2 ^ 31 then requestedLifetime R req contact
      else requestedLifetime R req contact - 2 ^ 32 := by
  rw [rawExpires, rawExpiresForContact, requestedLifetime]
  by_cases hcontact : contact.expires ≠ expiresNotSpecified
  · rw [if_pos hcontact, if_pos hcontact, toInt_toBitVec]
  · rw [if_neg hcontact, if_neg hcontact, topLevelExpires]
    cases req.expires with
    | some expires => exact toInt_toBitVec expires
    | none => exact (if_pos hconfig.max_lt).symm

theorem tooBrief_iff (contact : Contact) :
    tooBrief R req contact = true ↔
      AsksTooLittle R req contact ∨ 2 ^ 31 ≤ requestedLifetime R req contact := by
  obtain ⟨hnonneg, hlt⟩ := requestedLifetime_range hconfig req contact
  have hpos := hconfig.min_pos
  have hle := hconfig.min_le_max
  have hmax := hconfig.max_lt
  rw [tooBrief, Bool.and_eq_true, decide_eq_true_iff, decide_eq_true_iff, AsksTooLittle,
    rawExpires_eq hconfig]
  split_ifs with h
  · omega
  · omega

/-- The new binding is to be removed if no time is asked for, and else lives for what is
asked, up to the maximum. -/
theorem newBinding_lifetime (now : ℤ) {contact : Contact}
    (hbrief : tooBrief R req contact = false) :
    (newBinding R req now contact).expiresAt =
        now + min (requestedLifetime R req contact) R.config.maxExpires * 1000000000 ∧
      ((newBinding R req now contact).removed = true ↔ requestedLifetime R req contact = 0) := by
  obtain ⟨hnonneg, hlt⟩ := requestedLifetime_range hconfig req contact
  have hpos := hconfig.min_pos
  have hle := hconfig.min_le_max
  have hsmall : requestedLifetime R req contact < 2 ^ 31 := by
    by_contra h
    have htrue := (tooBrief_iff hconfig req contact).mpr (.inr (by omega))
    rw [hbrief] at htrue
    cases htrue
  have hraw : rawExpires R req contact = requestedLifetime R req contact := by
    rw [rawExpires_eq hconfig, if_pos hsmall]
  have hexpires : (newBinding R req now contact).expiresAt =
      now + min (requestedLifetime R req contact) R.config.maxExpires * 1000000000 := by
    rw [newBinding, hraw]
    dsimp only
    split_ifs with hzero
    · rw [hzero, Int.min_eq_left (by omega)]
    · rfl
  refine ⟨hexpires, ?_⟩
  rw [Binding.removed, decide_eq_true_iff, hexpires]
  show now + _ ≤ now ↔ _
  omega

end Lifetimes

/-! ### The request -/

section Considered

variable {R : RegistrarActions} {req : Request} {store : BindingStore}
  (hreq : Considered R req store) (clock : Clock)
include hreq

theorem Considered.handle_eq :
    handle R clock req store = processRegistration R clock req req.toHost store := by
  obtain ⟨cred, hcred⟩ := hreq.verified
  exact Registrar.handle_eq hcred hreq.named clock store

/-- Contacts that are newer than what is on file are applied. -/
theorem Considered.applied :
    (store.applyContacts req.aor ((decided R clock req store).map (·.1))).2 = .applied := by
  rw [BindingStore.applyContacts, if_neg]
  simp only [List.any_eq_true, not_exists, not_and]
  intro b hb
  rw [decided_eq, List.map_map] at hb
  obtain ⟨contact, hmem, rfl⟩ := List.mem_map.mp hb
  show ¬ (store.find req.aor contact.uri).any _ = true
  cases hfind : store.find req.aor contact.uri with
  | none => simp
  | some existing =>
    have hnewer := hreq.newer contact hmem existing hfind
    rw [Option.any_some, BindingStore.conflicts, Bool.and_eq_true, decide_eq_true_iff,
      decide_eq_true_iff]
    rintro ⟨hcall, hcseq⟩
    have hlower := hnewer hcall
    change req.cseq ≤ existing.cseq at hcseq
    omega

/-- One contact the registrar takes for too brief has the whole request rejected. -/
theorem Considered.rejected (hbrief : ∃ contact ∈ req.contacts, tooBrief R req contact = true) :
    handle R clock req store = ⟨store, [], rejectTooBrief R⟩ := by
  have hstar : ¬ (req.contacts.any (·.star)) = true := by
    simpa using fun contact hmem => (hreq.printed contact hmem).1
  have hany : (req.contacts.any (tooBrief R req)) = true := List.any_eq_true.mpr hbrief
  rw [hreq.handle_eq, processRegistration]
  split
  · next hnil => exact absurd hnil hreq.contacts
  · rw [if_neg hstar, if_pos hany]

/-- Otherwise all of them are applied. -/
theorem Considered.accepted (hbrief : ∀ contact ∈ req.contacts, tooBrief R req contact = false) :
    (handle R clock req store).responses.map (·.status) = [200] ∧
      Applies R clock req (handle R clock req store).store := by
  have hall : ∀ contact ∈ req.contacts,
      contact.star = false ∧ tooBrief R req contact = false ∧ contact.uri ≠ "" := by
    intro contact hmem
    exact ⟨(hreq.printed contact hmem).1, hbrief contact hmem, (hreq.printed contact hmem).2⟩
  have happlied := hreq.applied clock
  rw [hreq.handle_eq, processRegistration_eq hreq.contacts hall, registerContacts]
  cases happly : store.applyContacts req.aor ((decided R clock req store).map (·.1)) with
  | mk store' result =>
    rw [happly] at happlied
    obtain rfl : result = .applied := happlied
    have hshow : store.applyContacts (makeAor req.toUser req.toHost)
        ((decideMirrors store (makeAor req.toUser req.toHost)
          (newBindings R req clock.registering) clock.registering).map (·.1)) =
        (store', .applied) := happly
    simp only [hshow]
    refine ⟨?_, registered_applies (fun contact hmem => (hall contact hmem).1) happly⟩
    rw [sendOk, if_pos hreq.responds]
    rfl

/-- **How long a contact is kept.**  For every request that is judged by its lifetimes and
every configuration: too brief a contact has the request rejected with 423, and else every
contact is removed or stored for exactly what it asks, up to the maximum, if and only if
some contact does ask for too little or none asks for `2 ^ 31` seconds or more. -/
theorem grants_lifetimes_iff (hconfig : R.config.Ordered) :
    GrantsLifetimes R clock req store ↔
      (∃ contact ∈ req.contacts, AsksTooLittle R req contact) ∨
        ∀ contact ∈ req.contacts, requestedLifetime R req contact < 2 ^ 31 := by
  have hrejected : (rejectTooBrief R).map (·.status) = [423] := by
    rw [rejectTooBrief, if_pos hreq.responds]
    rfl
  constructor
  · intro h
    by_contra hnot
    simp only [not_or, not_exists, not_and, not_forall] at hnot
    obtain ⟨hnone, contact, hmem, hlarge⟩ := hnot
    -- the request is rejected, though nothing in it asks for too little
    have hbrief : tooBrief R req contact = true :=
      (tooBrief_iff hconfig req contact).mpr (.inr (by omega))
    have hok := (h.accepts hnone).1
    rw [hreq.rejected clock ⟨contact, hmem, hbrief⟩, hrejected] at hok
    cases hok
  · intro hcond
    refine ⟨?_, ?_⟩
    · rintro ⟨contact, hmem, hlittle⟩
      rw [hreq.rejected clock ⟨contact, hmem, (tooBrief_iff hconfig req contact).mpr (.inl hlittle)⟩]
      exact ⟨hrejected, rfl⟩
    · intro hnone
      have hsmall : ∀ contact ∈ req.contacts, requestedLifetime R req contact < 2 ^ 31 := by
        rcases hcond with ⟨contact, hmem, hlittle⟩ | hsmall
        · exact absurd hlittle (hnone contact hmem)
        · exact hsmall
      have hbrief : ∀ contact ∈ req.contacts, tooBrief R req contact = false := by
        intro contact hmem
        rw [Bool.eq_false_iff, Ne, tooBrief_iff hconfig]
        rintro (hlittle | hlarge)
        · exact hnone contact hmem hlittle
        · have hlt := hsmall contact hmem
          omega
      obtain ⟨hok, happlies⟩ := hreq.accepted clock hbrief
      refine ⟨hok, fun before contact later hsplit hlater => ?_⟩
      have hmem : contact ∈ req.contacts := by rw [hsplit]; simp
      obtain ⟨hexpires, hremoved⟩ :=
        newBinding_lifetime hconfig req clock.registering (hbrief contact hmem)
      have hkept := happlies before contact later hsplit hlater
      rw [if_neg (by simp [(hreq.printed contact hmem).1])] at hkept
      dsimp only at hkept
      rw [KeptFor]
      by_cases hzero : requestedLifetime R req contact = 0
      · rw [if_pos (hremoved.mpr hzero)] at hkept
        rw [if_pos hzero]
        exact hkept
      · rw [if_neg fun h => hzero (hremoved.mp h)] at hkept
        rw [if_neg hzero]
        obtain ⟨mirroredAt, hfind⟩ := hkept
        exact ⟨_, hfind, rfl, hexpires⟩

end Considered

theorem twoContacts_considered (expires : UInt32) :
    Considered twoAccounts (twoContacts expires) (.empty .asListed) where
  verified := ⟨⟨"sbc.local", "victim", "hash of victim"⟩, by
    show verifiedCredential twoAccounts (twoContacts 0) = _
    decide +kernel⟩
  named := rfl
  contacts := List.cons_ne_nil _ _
  printed contact hmem := by
    rcases List.mem_cons.mp hmem with rfl | hmem
    · exact ⟨rfl, by decide⟩
    · obtain rfl := List.mem_singleton.mp hmem
      have hprinted : "sip:victim@192.0.2.2:5060" ≠ "" := by decide
      exact ⟨rfl, hprinted⟩
  newer _ _ _ hb := by cases hb
  responds := rfl

theorem twoAccounts_ordered : twoAccounts.config.Ordered where
  min_pos := by decide
  min_le_max := by decide
  max_lt := by decide

/-- An hour for one contact and a minute for the other. -/
theorem grants_lifetimes_minute :
    GrantsLifetimes twoAccounts { registering := 0, mirroring := fun _ => 0, answering := 0 }
      (twoContacts 60) (.empty .asListed) := by
  refine (grants_lifetimes_iff (twoContacts_considered 60) _ twoAccounts_ordered).mpr (.inr ?_)
  intro contact hmem
  rcases List.mem_cons.mp hmem with rfl | hmem
  · decide
  · obtain rfl := List.mem_singleton.mp hmem
    decide

/-- A contact that asks for `2 ^ 31` seconds has both contacts rejected as too brief. -/
theorem lifetime_too_long_rejected :
    ¬ GrantsLifetimes twoAccounts { registering := 0, mirroring := fun _ => 0, answering := 0 }
      (twoContacts 2147483648) (.empty .asListed) := by
  intro h
  have hstatus : (handle twoAccounts { registering := 0, mirroring := fun _ => 0, answering := 0 }
      (twoContacts 2147483648) (.empty .asListed)).responses.map (·.status) = [423] := by
    decide +kernel
  have hnone : ∀ contact ∈ (twoContacts 2147483648).contacts,
      ¬ AsksTooLittle twoAccounts (twoContacts 2147483648) contact := by
    intro contact hmem
    rw [AsksTooLittle]
    rcases List.mem_cons.mp hmem with rfl | hmem
    · decide
    · obtain rfl := List.mem_singleton.mp hmem
      decide
  have hok := (h.accepts hnone).1
  rw [hstatus] at hok
  cases hok

end Registrar

end SbcEngine
