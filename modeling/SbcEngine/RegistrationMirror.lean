/-
The control plane's mirror of the location service.

The registrar tells the control plane of the contacts of an accepted REGISTER, and
the control plane keeps a row for each.  A contact that is only refreshed is not
always told.

* `applyRegistrationEvent` — what the control plane does with an event;
* `Mirrored` — every binding on file has a row with its source;
* `Faithful` — what the mirror owes a request: rows for the live contacts, none for
  the contacts that are gone;
* `Clean` — the requests that keep it: a removed contact is not listed again without
  being told of, and a star finds no expired contact on file;
* `mirror_faithful_iff` — in a run of accepted requests the mirror is faithful after
  every one of them exactly when all of them are clean.

Design notes: whether a contact is told of is decided against the bindings before
the request, for each of its contacts alone.  What the mirror shows of a contact is
decided by the last event for it, what the store holds by the last contact.
-/
import SbcEngine.RegisterAnswers
import SbcEngine.Runs

namespace SbcEngine

open Registrar

/-! ### The mirror -/

/-- A row of `sip_registrations`, by address and contact. -/
structure RegistrationRow where
  sourceAddress : String
  sourcePort : ℤ
  transport : String
  userAgent : Option String
  expiresAt : ℤ
  updatedAt : ℤ
  deriving DecidableEq, Repr

abbrev RegistrationTable := AList fun _ : String × String => RegistrationRow

/-- `now` is the control plane's clock, in milliseconds. -/
def applyRegistrationEvent (now : ℤ) (t : RegistrationTable) (event : RegistrationEvent) :
    RegistrationTable :=
  if event.removed then t.erase (event.aor, event.contactUri)
  else t.insert (event.aor, event.contactUri)
    { sourceAddress := event.sourceAddress
      sourcePort := event.sourcePort
      transport := event.transport
      userAgent := event.userAgent
      expiresAt := now + event.expiresInS * 1000
      updatedAt := now }

namespace RegistrationMirror

/-- Where a contact is reached: address, port and transport. -/
abbrev Source := String × ℤ × String

def bindingSource (b : Binding) : Source := (b.sourceAddress, b.sourcePort, b.transport)

def requestSource (req : Request) : Source := (req.sourceAddress, req.sourcePort, "udp")

/-- The source the mirror shows of a contact. -/
def shown (t : RegistrationTable) (aor uri : String) : Option Source :=
  (t.lookup (aor, uri)).map fun row => (row.sourceAddress, row.sourcePort, row.transport)

theorem shown_apply (now : ℤ) (t : RegistrationTable) (event : RegistrationEvent)
    (aor uri : String) :
    shown (applyRegistrationEvent now t event) aor uri =
      if event.aor = aor ∧ event.contactUri = uri then
        if event.removed then none
        else some (event.sourceAddress, event.sourcePort, event.transport)
      else shown t aor uri := by
  rw [applyRegistrationEvent, shown]
  by_cases hkey : event.aor = aor ∧ event.contactUri = uri
  · rw [if_pos hkey, ← hkey.1, ← hkey.2]
    split_ifs
    · rw [AList.lookup_erase]
      rfl
    · rw [AList.lookup_insert]
      rfl
  · have hne : (aor, uri) ≠ (event.aor, event.contactUri) := by
      intro heq
      exact hkey ⟨(congrArg Prod.fst heq).symm, (congrArg Prod.snd heq).symm⟩
    rw [if_neg hkey]
    split_ifs
    · rw [AList.lookup_erase_ne hne]
      rfl
    · rw [AList.lookup_insert_ne hne]
      rfl

/-- The events of one request, in order. -/
def receive (now : ℤ) (t : RegistrationTable) (events : List RegistrationEvent) :
    RegistrationTable :=
  events.foldl (applyRegistrationEvent now) t

/-- The last event for a contact decides what the mirror shows of it. -/
theorem shown_receive (now : ℤ) (t : RegistrationTable) (events : List RegistrationEvent)
    (aor uri : String) :
    shown (receive now t events) aor uri =
      match (events.filter fun e => e.aor = aor ∧ e.contactUri = uri).getLast? with
      | none => shown t aor uri
      | some e => if e.removed then none else some (e.sourceAddress, e.sourcePort, e.transport) := by
  rw [receive, Runs.foldl_last (fun t => shown t aor uri)
    (fun e => decide (e.aor = aor ∧ e.contactUri = uri))
    (fun e => if e.removed then none else some (e.sourceAddress, e.sourcePort, e.transport))]
  · cases (events.filter fun e => e.aor = aor ∧ e.contactUri = uri).getLast? with
    | none => rfl
    | some e => rfl
  · intro t e he
    rw [shown_apply, if_pos (of_decide_eq_true he)]
  · intro t e he
    rw [shown_apply, if_neg (of_decide_eq_false he)]

/-! ### The contacts of a request -/

section Request

variable (R : RegistrarActions) (clock : Clock) (req : Request) (store : BindingStore)

/-- A contact of the request is granted no time. -/
def removes (contact : Contact) : Bool := (newBinding R req clock.registering contact).removed

/-- The last contact of the request under a URI. -/
def lastContact (uri : String) : Option Contact :=
  (req.contacts.filter fun contact => contact.uri = uri).getLast?

/-- The last contact under a URI that the control plane is told of. -/
def lastTold (uri : String) : Option Contact :=
  (req.contacts.filter fun contact =>
    contact.uri = uri && mirrors R clock req store contact).getLast?

/-- The control plane is always told of a removal. -/
theorem mirrors_of_removes {contact : Contact} (h : removes R clock req contact = true) :
    mirrors R clock req store contact = true := by
  rw [removes] at h
  rw [mirrors, h]
  cases previousBinding clock req store contact with
  | none => rfl
  | some previous => simp [shouldMirror]

/-- What the store holds after an accepted request. -/
theorem find_registered {store' : BindingStore}
    (happly : store.applyContacts req.aor ((decided R clock req store).map (·.1)) =
      (store', .applied)) (uri : String) :
    store'.find req.aor uri =
      match lastContact req uri with
      | none => store.find req.aor uri
      | some contact =>
        if removes R clock req contact then none else some (stamped R clock req store contact) := by
  have hfind := BindingStore.find_applyContacts (congrArg Prod.snd happly) uri
  have hlast : BindingStore.lastFor ((decided R clock req store).map (·.1)) uri =
      (lastContact req uri).map (stamped R clock req store) := by
    rw [decided_eq, List.map_map, BindingStore.lastFor, List.filter_map, List.getLast?_map]
    rfl
  rw [happly, hlast] at hfind
  cases hcontact : lastContact req uri with
  | none =>
    rw [hcontact] at hfind
    exact hfind
  | some contact =>
    rw [hcontact] at hfind
    exact hfind

theorem mirrorRegistration_aor {R : RegistrarActions} {now : ℤ} {aor : String} {b : Binding}
    {removed : Bool} {userAgent : Option String} {e : RegistrationEvent}
    (h : e ∈ mirrorRegistration R now aor b removed userAgent) : e.aor = aor := by
  rw [mirrorRegistration] at h
  by_cases hsink : R.sink = true
  · rw [if_pos hsink] at h
    rw [List.mem_singleton.mp h]
  · rw [if_neg hsink] at h
    cases h

/-- The event for the `i`-th contact of the request. -/
def eventFor (contact : Contact) (i : ℕ) : RegistrationEvent where
  aor := req.aor
  contactUri := contact.uri
  sourceAddress := req.sourceAddress
  sourcePort := req.sourcePort
  transport := "udp"
  userAgent := req.userAgent
  expiresInS :=
    if removes R clock req contact then 0
    else seconds ((newBinding R req clock.registering contact).expiresAt - clock.mirroring i)
  removed := removes R clock req contact

theorem mirrorAll_eq (hsink : R.sink = true) :
    mirrorAll R clock req.aor (decided R clock req store) req.userAgent =
      (req.contacts.zipIdx.filter fun x => mirrors R clock req store x.1).map fun x =>
        eventFor R clock req x.1 x.2 := by
  rw [mirrorAll, decided_eq, List.zipIdx_map, List.filter_map, List.flatMap_map, List.map_eq_flatMap]
  congr 1
  funext x
  show mirrorRegistration R _ _ _ _ _ = _
  rw [mirrorRegistration, if_pos hsink]
  rfl

/-- What the mirror shows after an accepted request. -/
theorem shown_registered (hsink : R.sink = true) (now : ℤ) (t : RegistrationTable) (uri : String) :
    shown (receive now t (mirrorAll R clock req.aor (decided R clock req store) req.userAgent))
        req.aor uri =
      match lastTold R clock req store uri with
      | none => shown t req.aor uri
      | some contact => if removes R clock req contact then none else some (requestSource req) := by
  have htold : lastTold R clock req store uri =
      ((req.contacts.zipIdx.filter fun x =>
        x.1.uri = uri && mirrors R clock req store x.1).getLast?).map (·.1) := by
    rw [lastTold, ← List.getLast?_map]
    conv_lhs => rw [← List.zipIdx_map_fst 0 req.contacts, List.filter_map]
    rfl
  rw [shown_receive, mirrorAll_eq R clock req store hsink, List.filter_map, List.getLast?_map,
    List.filter_filter, htold]
  have hkey : (fun x : Contact × ℕ => ((fun e : RegistrationEvent =>
      decide (e.aor = req.aor ∧ e.contactUri = uri)) ∘ fun x => eventFor R clock req x.1 x.2) x &&
        mirrors R clock req store x.1) =
      fun x => decide (x.1.uri = uri) && mirrors R clock req store x.1 := by
    funext x
    simp [eventFor]
  rw [hkey]
  cases (req.contacts.zipIdx.filter fun x =>
      decide (x.1.uri = uri) && mirrors R clock req store x.1).getLast? with
  | none => rfl
  | some x => rfl

/-- A contact that is not told of was live with the source of the request. -/
theorem previous_of_not_mirrors {contact : Contact}
    (h : mirrors R clock req store contact = false) :
    ∃ b ∈ store.findLive req.aor clock.registering, b.contactUri = contact.uri ∧
      bindingSource b = requestSource req := by
  rw [mirrors] at h
  cases hprevious : previousBinding clock req store contact with
  | none =>
    rw [hprevious] at h
    cases h
  | some b =>
    rw [hprevious] at h
    simp only [shouldMirror, Bool.or_eq_false_iff, decide_eq_false_iff_not, not_not] at h
    obtain ⟨⟨⟨⟨-, haddress⟩, hport⟩, htransport⟩, -⟩ := h
    refine ⟨b, List.mem_of_find?_eq_some hprevious, by simpa using List.find?_some hprevious, ?_⟩
    rw [bindingSource, haddress, hport, htransport]
    rfl

end Request

/-! ### Stores -/

/-- Every binding is on file under its contact. -/
def Keyed (store : BindingStore) : Prop :=
  ∀ aor uri b, store.find aor uri = some b → b.contactUri = uri

/-- Every binding on file has a row with its source. -/
structure Mirrored (store : BindingStore) (t : RegistrationTable) : Prop where
  keyed : Keyed store
  shown : ∀ aor uri b, store.find aor uri = some b → shown t aor uri = some (bindingSource b)

theorem find_of_findLive {store : BindingStore} (hkeyed : Keyed store) {aor : String} {now : ℤ}
    {b : Binding} (h : b ∈ store.findLive aor now) : store.find aor b.contactUri = some b := by
  obtain ⟨⟨uri, huri⟩, -⟩ := BindingStore.mem_findLive.mp h
  rw [hkeyed aor uri b huri]
  exact huri

/-! ### What the mirror owes a request -/

/-- The contact was on file before the request, or is named in it, and is on file no
longer. -/
def LeftRemoved (req : Request) (store store' : BindingStore) (uri : String) : Prop :=
  store'.find req.aor uri = none ∧
    (store.find req.aor uri ≠ none ∨ ∃ contact ∈ req.contacts, contact.star = false ∧ contact.uri = uri)

/-- After a request the mirror shows every live contact of its address with the
source on file, and none of the contacts it left removed. -/
structure Faithful (clock : Clock) (req : Request) (store store' : BindingStore)
    (t : RegistrationTable) : Prop where
  live : ∀ uri b, store'.find req.aor uri = some b → clock.registering < b.expiresAt →
    shown t req.aor uri = some (bindingSource b)
  removed : ∀ uri, LeftRemoved req store store' uri → t.lookup (req.aor, uri) = none

/-- The request removes a contact and lists it again, and the control plane is not
told of what follows the removal. -/
def Reinstates (R : RegistrarActions) (clock : Clock) (req : Request) (store : BindingStore) : Prop :=
  ∃ before contact later, req.contacts = before ++ contact :: later ∧
    removes R clock req contact = true ∧ (∃ again ∈ later, again.uri = contact.uri) ∧
    ∀ again ∈ later, again.uri = contact.uri → mirrors R clock req store again = false

/-- A star comes while an expired contact of the address is on file. -/
def ClearsExpired (clock : Clock) (req : Request) (store : BindingStore) : Prop :=
  (∃ contact ∈ req.contacts, contact.star = true) ∧
    ∃ uri b, store.find req.aor uri = some b ∧ b.expiresAt ≤ clock.registering

def Clean (R : RegistrarActions) (clock : Clock) (req : Request) (store : BindingStore) : Prop :=
  ¬ Reinstates R clock req store ∧ ¬ ClearsExpired clock req store

section Step

variable {R : RegistrarActions} {clock : Clock} {req : Request} {store store' : BindingStore}

/-- A last contact that the control plane is told of is the last it is told of. -/
theorem lastTold_of_lastContact {uri : String} {contact : Contact}
    (h : lastContact req uri = some contact) (hm : mirrors R clock req store contact = true) :
    lastTold R clock req store uri = some contact := by
  obtain ⟨before, later, hsplit, huri, hlater⟩ := Runs.last_split h
  rw [lastTold, hsplit]
  refine Runs.last_of_split (by rw [hm, Bool.and_true]; exact huri) fun again hagain => ?_
  rw [hlater again hagain]
  rfl

theorem lastContact_ne_none {uri : String} {contact : Contact} (hmem : contact ∈ req.contacts)
    (huri : contact.uri = uri) : lastContact req uri ≠ none := by
  intro hnone
  rw [lastContact, List.getLast?_eq_none_iff, List.filter_eq_nil_iff] at hnone
  exact hnone contact hmem (by simpa using huri)

/-- A contact that is on file although the last the control plane heard of it is its
removal was listed again. -/
theorem reinstates_of_last {uri : String} {told contact : Contact}
    (htold : lastTold R clock req store uri = some told) (hremoves : removes R clock req told = true)
    (hlast : lastContact req uri = some contact) (hkept : removes R clock req contact = false) :
    Reinstates R clock req store := by
  obtain ⟨before, later, hsplit, hkey, hlater⟩ := Runs.last_split htold
  have htolduri : told.uri = uri := by
    have hboth := (Bool.and_eq_true _ _).mp hkey
    simpa using hboth.1
  refine ⟨before, told, later, hsplit, hremoves, ?_, fun again hagain huri => ?_⟩
  · -- otherwise the removal would be the last contact
    by_contra hnone
    have hlast' : lastContact req uri = some told := by
      rw [lastContact, hsplit]
      refine Runs.last_of_split (by simpa using htolduri) fun again hagain => ?_
      refine decide_eq_false fun huri => hnone ⟨again, hagain, huri.trans htolduri.symm⟩
    rw [hlast] at hlast'
    rw [Option.some.inj hlast', hremoves] at hkept
    cases hkept
  · have hnot := hlater again hagain
    rw [decide_eq_true (huri.trans htolduri), Bool.true_and] at hnot
    exact hnot

section Registered

variable (hsink : R.sink = true) (now : ℤ) {t : RegistrationTable}
  (happly : store.applyContacts req.aor ((decided R clock req store).map (·.1)) = (store', .applied))
include hsink happly

/-- An accepted request that does not reinstate keeps the mirror up to date. -/
theorem registered_shown (hm : Mirrored store t) (hclean : ¬ Reinstates R clock req store)
    {uri : String} {b : Binding} (hb : store'.find req.aor uri = some b) :
    shown (receive now t (mirrorAll R clock req.aor (decided R clock req store) req.userAgent))
      req.aor uri = some (bindingSource b) := by
  rw [find_registered R clock req store happly uri] at hb
  rw [shown_registered R clock req store hsink now t uri]
  cases hlast : lastContact req uri with
  | none =>
    rw [hlast] at hb
    have htold : lastTold R clock req store uri = none := by
      rw [lastTold, List.getLast?_eq_none_iff, List.filter_eq_nil_iff]
      intro contact hmem hkey
      refine lastContact_ne_none hmem ?_ hlast
      simpa using ((Bool.and_eq_true _ _).mp hkey).1
    rw [htold]
    exact hm.shown _ _ _ hb
  | some contact =>
    rw [hlast] at hb
    dsimp only at hb
    split_ifs at hb with hremoves
    obtain rfl := Option.some.inj hb
    cases htold : lastTold R clock req store uri with
    | none =>
      -- nothing was told: the contact was live with this source
      have hnot : mirrors R clock req store contact = false := by
        by_contra htells
        rw [lastTold_of_lastContact hlast (Bool.not_eq_false _ ▸ htells)] at htold
        cases htold
      obtain ⟨b, hlive, huri, hsource⟩ := previous_of_not_mirrors R clock req store hnot
      have hcontact : contact.uri = uri := by
        obtain ⟨-, -, -, hkey, -⟩ := Runs.last_split hlast
        simpa using hkey
      have hfind := find_of_findLive hm.keyed hlive
      rw [huri, hcontact] at hfind
      exact (hm.shown _ _ _ hfind).trans (congrArg some hsource)
    | some told =>
      have hkept : removes R clock req told = false := by
        by_contra hremoved
        exact hclean (reinstates_of_last htold (Bool.not_eq_false _ ▸ hremoved) hlast
          (Bool.eq_false_iff.mpr hremoves))
      dsimp only
      rw [hkept]
      rfl

/-- The mirror never shows a contact whose last mention was a removal. -/
theorem registered_removed {uri : String} (hleft : LeftRemoved req store store' uri) :
    shown (receive now t (mirrorAll R clock req.aor (decided R clock req store) req.userAgent))
      req.aor uri = none := by
  obtain ⟨hgone, hwas⟩ := hleft
  rw [find_registered R clock req store happly uri] at hgone
  cases hlast : lastContact req uri with
  | none =>
    rw [hlast] at hgone
    rcases hwas with hon | ⟨contact, hmem, -, huri⟩
    · exact absurd hgone hon
    · exact absurd hlast (lastContact_ne_none hmem huri)
  | some contact =>
    rw [hlast] at hgone
    dsimp only at hgone
    split_ifs at hgone with hremoves
    rw [shown_registered R clock req store hsink now t uri,
      lastTold_of_lastContact hlast (mirrors_of_removes R clock req store hremoves)]
    exact if_pos hremoves

omit hsink in
/-- Other addresses and their rows stay. -/
theorem registered_other {aor : String} (haor : aor ≠ req.aor) (uri : String) :
    store'.find aor uri = store.find aor uri ∧
      shown (receive now t (mirrorAll R clock req.aor (decided R clock req store) req.userAgent))
        aor uri = shown t aor uri := by
  constructor
  · have hother := BindingStore.find_applyContacts_other (s := store) haor
      ((decided R clock req store).map (·.1)) uri
    rw [happly] at hother
    exact hother
  · have hnone : ∀ e ∈ mirrorAll R clock req.aor (decided R clock req store) req.userAgent,
        e.aor = req.aor := by
      intro e he
      rw [mirrorAll, List.mem_flatMap] at he
      obtain ⟨⟨⟨b, _⟩, i⟩, -, hx⟩ := he
      exact mirrorRegistration_aor hx
    rw [shown_receive, List.filter_eq_nil_iff.mpr]
    · rfl
    · intro e he hkey
      rw [hnone e he] at hkey
      exact haor (of_decide_eq_true hkey).1.symm

omit hsink in
/-- Bindings stay on file under their contacts. -/
theorem registered_keyed (hkeyed : Keyed store) : Keyed store' := by
  intro aor uri b hb
  by_cases haor : aor = req.aor
  · subst haor
    rw [find_registered R clock req store happly uri] at hb
    cases hlast : lastContact req uri with
    | none =>
      rw [hlast] at hb
      exact hkeyed _ _ _ hb
    | some contact =>
      rw [hlast] at hb
      dsimp only at hb
      split_ifs at hb
      obtain rfl := Option.some.inj hb
      obtain ⟨-, -, -, hkey, -⟩ := Runs.last_split hlast
      show contact.uri = uri
      simpa using hkey
  · have hother := BindingStore.find_applyContacts_other (s := store) haor
      ((decided R clock req store).map (·.1)) uri
    rw [happly] at hother
    exact hkeyed _ _ _ (hother.symm.trans hb)

theorem registered_mirrored (hm : Mirrored store t) (hclean : ¬ Reinstates R clock req store) :
    Mirrored store'
      (receive now t (mirrorAll R clock req.aor (decided R clock req store) req.userAgent)) where
  keyed := registered_keyed happly hm.keyed
  shown aor uri b hb := by
    by_cases haor : aor = req.aor
    · subst haor
      exact registered_shown hsink now happly hm hclean hb
    · obtain ⟨hfind, hshown⟩ := registered_other now (t := t) happly haor uri
      rw [hfind] at hb
      rw [hshown]
      exact hm.shown _ _ _ hb

/-- A request that reinstates a contact leaves it live and out of the mirror. -/
theorem not_faithful_of_reinstates (hbad : Reinstates R clock req store) :
    ¬ Faithful clock req store store'
      (receive now t (mirrorAll R clock req.aor (decided R clock req store) req.userAgent)) := by
  obtain ⟨before, contact, later, hsplit, hremoves, ⟨again, hagain, huri⟩, hquiet⟩ := hbad
  intro hfaithful
  have htold : lastTold R clock req store contact.uri = some contact := by
    rw [lastTold, hsplit]
    refine Runs.last_of_split ?_ fun other hother => ?_
    · rw [mirrors_of_removes R clock req store hremoves]
      simp
    · by_cases hother' : other.uri = contact.uri
      · rw [hquiet other hother hother']
        simp
      · simp [hother']
  -- the last mention comes after the removal
  obtain ⟨last, hlast⟩ : ∃ last, (later.filter fun c => c.uri = contact.uri).getLast? = some last := by
    refine Option.ne_none_iff_exists'.mp fun hnone => ?_
    rw [List.getLast?_eq_none_iff, List.filter_eq_nil_iff] at hnone
    exact hnone again hagain (by simpa using huri)
  obtain ⟨mid, rest, hlater, hlasturi, hrest⟩ := Runs.last_split hlast
  have hlastcontact : lastContact req contact.uri = some last := by
    rw [lastContact, hsplit, hlater]
    have happend : before ++ contact :: (mid ++ last :: rest) =
        (before ++ contact :: mid) ++ last :: rest := by simp
    rw [happend]
    exact Runs.last_of_split hlasturi hrest
  have hlastmem : last ∈ later := by rw [hlater]; simp
  have hnot : mirrors R clock req store last = false :=
    hquiet last hlastmem (by simpa using hlasturi)
  have hkept : removes R clock req last = false := by
    by_contra hremoved
    rw [mirrors_of_removes R clock req store (Bool.not_eq_false _ ▸ hremoved)] at hnot
    cases hnot
  have hfind : store'.find req.aor contact.uri = some (stamped R clock req store last) := by
    rw [find_registered R clock req store happly, hlastcontact]
    dsimp only
    rw [hkept]
    rfl
  have hlive : clock.registering < (stamped R clock req store last).expiresAt := by
    have := of_decide_eq_false hkept
    exact Int.not_le.mp this
  have hshown := hfaithful.live _ _ hfind hlive
  rw [shown_registered R clock req store hsink now t, htold] at hshown
  dsimp only at hshown
  rw [hremoves] at hshown
  cases hshown

end Registered

section Cleared

variable (hsink : R.sink = true) (now : ℤ) {t : RegistrationTable} (hm : Mirrored store t)

/-- The events of a star. -/
def clearing (R : RegistrarActions) (clock : Clock) (req : Request) (store : BindingStore) :
    List RegistrationEvent :=
  (store.findLive req.aor clock.registering).flatMap fun b =>
    mirrorRegistration R clock.registering req.aor b true req.userAgent

theorem mem_clearing {e : RegistrationEvent} (h : e ∈ clearing R clock req store) :
    e.aor = req.aor ∧ e.removed = true ∧
      ∃ b ∈ store.findLive req.aor clock.registering, b.contactUri = e.contactUri := by
  obtain ⟨b, hb, he⟩ := List.mem_flatMap.mp h
  rw [mirrorRegistration] at he
  by_cases hsink : R.sink = true
  · rw [if_pos hsink] at he
    obtain rfl := List.mem_singleton.mp he
    exact ⟨rfl, rfl, b, hb, rfl⟩
  · rw [if_neg hsink] at he
    cases he

/-- A star takes the contacts it tells of out of the mirror, and leaves the others. -/
theorem shown_clearing (aor uri : String) :
    shown (receive now t (clearing R clock req store)) aor uri =
      if ∃ e ∈ clearing R clock req store, e.aor = aor ∧ e.contactUri = uri then none
      else shown t aor uri := by
  rw [shown_receive]
  cases hlast : ((clearing R clock req store).filter fun e =>
      e.aor = aor ∧ e.contactUri = uri).getLast? with
  | none =>
    rw [List.getLast?_eq_none_iff, List.filter_eq_nil_iff] at hlast
    rw [if_neg]
    rintro ⟨e, he, hkey⟩
    exact hlast e he (decide_eq_true hkey)
  | some e =>
    obtain ⟨hmem, hkey⟩ := List.mem_filter.mp (List.mem_of_getLast? hlast)
    rw [if_pos ⟨e, hmem, of_decide_eq_true hkey⟩]
    exact if_pos (mem_clearing hmem).2.1

include hm

theorem cleared_mirrored :
    Mirrored (store.removeAll req.aor) (receive now t (clearing R clock req store)) := by
  have hother : ∀ {aor uri b}, (store.removeAll req.aor).find aor uri = some b →
      aor ≠ req.aor ∧ store.find aor uri = some b := by
    intro aor uri b hb
    by_cases haor : aor = req.aor
    · rw [haor, BindingStore.find_removeAll] at hb
      cases hb
    · rw [BindingStore.find_removeAll_other haor] at hb
      exact ⟨haor, hb⟩
  refine ⟨fun aor uri b hb => hm.keyed _ _ _ (hother hb).2, fun aor uri b hb => ?_⟩
  obtain ⟨haor, hfind⟩ := hother hb
  rw [shown_clearing, if_neg]
  · exact hm.shown _ _ _ hfind
  · rintro ⟨e, he, heaor, -⟩
    exact haor (heaor.symm.trans (mem_clearing he).1)

include hsink in
theorem cleared_faithful {contact : Contact} (hcontacts : req.contacts = [contact])
    (hstar : contact.star = true) (hclean : ¬ ClearsExpired clock req store) :
    Faithful clock req store (store.removeAll req.aor)
      (receive now t (clearing R clock req store)) := by
  refine ⟨fun uri b hb => ?_, fun uri hleft => ?_⟩
  · rw [BindingStore.find_removeAll] at hb
    cases hb
  · have hon : store.find req.aor uri ≠ none := by
      rcases hleft.2 with hon | ⟨other, hmem, hplain, -⟩
      · exact hon
      · rw [hcontacts] at hmem
        rw [List.mem_singleton.mp hmem, hstar] at hplain
        cases hplain
    obtain ⟨b, hb⟩ := Option.ne_none_iff_exists'.mp hon
    have hlive : clock.registering < b.expiresAt := by
      by_contra hexpired
      refine hclean ⟨⟨contact, ?_, hstar⟩, uri, b, hb, Int.not_lt.mp hexpired⟩
      rw [hcontacts]
      exact List.mem_singleton.mpr rfl
    have hmem : b ∈ store.findLive req.aor clock.registering := BindingStore.mem_findLive.mpr ⟨⟨uri, hb⟩, hlive⟩
    have htold : ∃ e ∈ clearing R clock req store, e.aor = req.aor ∧ e.contactUri = uri := by
      obtain ⟨e, he⟩ : ∃ e, mirrorRegistration R clock.registering req.aor b true req.userAgent = [e] ∧
          e.aor = req.aor ∧ e.contactUri = b.contactUri := by
        rw [mirrorRegistration, if_pos hsink]
        exact ⟨_, rfl, rfl, rfl⟩
      refine ⟨e, List.mem_flatMap.mpr ⟨b, hmem, ?_⟩, he.2.1, he.2.2.trans (hm.keyed _ _ _ hb)⟩
      rw [he.1]
      exact List.mem_singleton.mpr rfl
    have hshown : shown (receive now t (clearing R clock req store)) req.aor uri = none := by
      rw [shown_clearing]
      exact if_pos htold
    exact Option.map_eq_none_iff.mp hshown

theorem not_faithful_of_clearsExpired (hbad : ClearsExpired clock req store) :
    ¬ Faithful clock req store (store.removeAll req.aor)
      (receive now t (clearing R clock req store)) := by
  obtain ⟨-, uri, b, hb, hexpired⟩ := hbad
  intro hfaithful
  have hleft : LeftRemoved req store (store.removeAll req.aor) uri :=
    ⟨BindingStore.find_removeAll store req.aor uri, .inl (by rw [hb]; exact Option.some_ne_none b)⟩
  have hnone := hfaithful.removed uri hleft
  -- the expired contact is on file, so nothing live is told of under its URI
  have hshown : shown (receive now t (clearing R clock req store)) req.aor uri =
      some (bindingSource b) := by
    rw [shown_clearing, if_neg]
    · exact hm.shown _ _ _ hb
    · rintro ⟨e, he, -, huri⟩
      obtain ⟨-, -, b', hlive, hcontact⟩ := mem_clearing he
      have hfind := find_of_findLive hm.keyed hlive
      rw [hcontact, huri, hb] at hfind
      obtain rfl := Option.some.inj hfind
      exact absurd (BindingStore.mem_findLive.mp hlive).2 (Int.not_lt.mpr hexpired)
  rw [shown, hnone] at hshown
  cases hshown

end Cleared

end Step

/-! ### Runs -/

/-- A REGISTER with the readings of the engine's clock, and the time its events
arrive. -/
structure Arrival where
  req : Request
  clock : Clock
  now : ℤ

/-- The engine answers the request, the control plane receives its events. -/
def step (R : RegistrarActions) (x : BindingStore × RegistrationTable) (a : Arrival) :
    BindingStore × RegistrationTable :=
  let outcome := handle R a.clock a.req x.1
  (outcome.store, receive a.now x.2 outcome.events)

/-- The request is answered with 200. -/
def Accepted (R : RegistrarActions) (x : BindingStore × RegistrationTable) (a : Arrival) : Prop :=
  ∃ r ∈ (handle R a.clock a.req x.1).responses, r.status = 200

theorem step_clean {R : RegistrarActions} (hsink : R.sink = true)
    {x : BindingStore × RegistrationTable} {a : Arrival} (hm : Mirrored x.1 x.2)
    (haccepted : Accepted R x a) (hclean : Clean R a.clock a.req x.1) :
    Faithful a.clock a.req x.1 (step R x a).1 (step R x a).2 ∧
      Mirrored (step R x a).1 (step R x a).2 := by
  have hhandled := handle_handled R a.clock a.req x.1
  rw [step]
  rw [Accepted] at haccepted
  generalize handle R a.clock a.req x.1 = outcome at hhandled haccepted
  dsimp only
  cases hhandled with
  | refused hstatus =>
    obtain ⟨r, hr, h200⟩ := haccepted
    exact absurd h200 (hstatus r hr)
  | queried hcontacts =>
    refine ⟨⟨fun uri b hb _ => hm.shown _ _ _ hb, ?_⟩, hm⟩
    rintro uri ⟨hnone, hon | ⟨contact, hmem, -⟩⟩
    · exact absurd hnone hon
    · rw [hcontacts] at hmem
      cases hmem
  | cleared hcontacts hstar =>
    exact ⟨cleared_faithful hsink a.now hm hcontacts hstar hclean.2, cleared_mirrored a.now hm⟩
  | registered _ _ _ happly =>
    have hkept := registered_mirrored hsink a.now happly hm hclean.1
    refine ⟨⟨fun uri b hb _ => hkept.shown _ _ _ hb, fun uri hleft => ?_⟩, hkept⟩
    exact Option.map_eq_none_iff.mp (registered_removed hsink a.now happly hleft)

theorem step_unclean {R : RegistrarActions} (hsink : R.sink = true)
    {x : BindingStore × RegistrationTable} {a : Arrival} (hm : Mirrored x.1 x.2)
    (haccepted : Accepted R x a) (hclean : ¬ Clean R a.clock a.req x.1) :
    ¬ Faithful a.clock a.req x.1 (step R x a).1 (step R x a).2 := by
  have hhandled := handle_handled R a.clock a.req x.1
  rw [step]
  rw [Accepted] at haccepted
  generalize handle R a.clock a.req x.1 = outcome at hhandled haccepted
  dsimp only
  rw [Clean, not_and_or, not_not, not_not] at hclean
  cases hhandled with
  | refused hstatus =>
    obtain ⟨r, hr, h200⟩ := haccepted
    exact absurd h200 (hstatus r hr)
  | queried hcontacts =>
    rcases hclean with ⟨before, contact, later, hsplit, -⟩ | ⟨⟨contact, hmem, -⟩, -⟩
    · rw [hcontacts] at hsplit
      simp at hsplit
    · rw [hcontacts] at hmem
      cases hmem
  | cleared hcontacts hstar =>
    rcases hclean with ⟨before, contact, later, hsplit, -, ⟨again, hagain, -⟩, -⟩ | hexpired
    · -- a star comes alone
      rw [hcontacts] at hsplit
      have hlength := congrArg List.length hsplit
      have hpos := List.length_pos_of_mem hagain
      simp only [List.length_cons, List.length_nil, List.length_append] at hlength
      omega
    · exact not_faithful_of_clearsExpired a.now hm hexpired
  | registered _ hplain _ happly =>
    rcases hclean with hreinstates | ⟨⟨contact, hmem, hstar⟩, -⟩
    · exact not_faithful_of_reinstates hsink a.now happly hreinstates
    · rw [hplain contact hmem] at hstar
      cases hstar

/-- **When the mirror agrees.**  From an empty store, and after each of a sequence of
accepted requests: the mirror shows every live contact with the source on file and no
contact that the request left removed, if and only if every request of the sequence
is clean. -/
theorem mirror_faithful_iff {R : RegistrarActions} (hsink : R.sink = true)
    (r : BindingStore.Arrangement) (t : RegistrationTable) {as : List Arrival}
    (haccepted : Runs.EachStep (step R) (Accepted R) (.empty r, t) as) :
    Runs.EachStep (step R)
        (fun x a => Faithful a.clock a.req x.1 (step R x a).1 (step R x a).2) (.empty r, t) as ↔
      Runs.EachStep (step R) (fun x a => Clean R a.clock a.req x.1) (.empty r, t) as := by
  have hempty : Mirrored (.empty r) t := ⟨fun _ _ _ hb => (by cases hb), fun _ _ _ hb => (by cases hb)⟩
  exact Runs.eachStep_iff (J := fun x => Mirrored x.1 x.2) hempty haccepted
    (fun _ _ hm ha hclean => step_clean hsink hm ha hclean)
    (fun _ _ hm ha hclean => step_unclean hsink hm ha hclean)

/-! ### One phone -/

/-- The registrar of `twoAccounts`, with a mirror. -/
def mirroring : RegistrarActions := { twoAccounts with sink := true }

/-- A REGISTER of a phone, `secs` seconds after the start, with the times it asks for. -/
def phoneRegister (cseq : ℤ) (secs : ℤ) (expires : List UInt32) : Arrival where
  req :=
    { toIsSip := true
      toUser := "victim"
      toHost := "sbc.local"
      authorizations := [⟨"sbc.local", "victim", "hash of victim"⟩]
      contacts := expires.map fun e => ⟨false, "sip:victim@192.0.2.1:5060", e⟩
      expires := none
      userAgent := none
      callId := "a84b4c76e66710"
      cseq := cseq
      sourceAddress := "192.0.2.1"
      sourcePort := 5060 }
  clock := { registering := secs * 1000000000, mirroring := fun _ => secs * 1000000000,
             answering := secs * 1000000000 }
  now := secs * 1000

/-- One contact is never reinstated. -/
theorem clean_single (R : RegistrarActions) (cseq secs : ℤ) (expires : UInt32) (store : BindingStore) :
    Clean R (phoneRegister cseq secs [expires]).clock (phoneRegister cseq secs [expires]).req store := by
  constructor
  · rintro ⟨before, contact, later, hsplit, -, ⟨again, hagain, -⟩, -⟩
    have hlength := congrArg List.length hsplit
    have hpos := List.length_pos_of_mem hagain
    simp only [phoneRegister, List.map_cons, List.map_nil, List.length_cons, List.length_nil,
      List.length_append] at hlength
    omega
  · rintro ⟨⟨contact, hmem, hstar⟩, -⟩
    obtain rfl := List.mem_singleton.mp hmem
    cases hstar

/-- A registration and a refresh the control plane is not told of. -/
theorem mirror_faithful_refreshed :
    let as := [phoneRegister 1 0 [3600], phoneRegister 2 100 [3600]]
    Runs.EachStep (step mirroring)
      (fun x a => Faithful a.clock a.req x.1 (step mirroring x a).1 (step mirroring x a).2)
      (.empty .asListed, ∅) as := by
  intro as
  have hstatus : ((handle mirroring (phoneRegister 1 0 [3600]).clock (phoneRegister 1 0 [3600]).req
        (.empty .asListed)).responses.map (·.status) = [200]) ∧
      (handle mirroring (phoneRegister 2 100 [3600]).clock (phoneRegister 2 100 [3600]).req
        (step mirroring (.empty .asListed, ∅) (phoneRegister 1 0 [3600])).1).responses.map (·.status) = [200] := by
    decide +kernel
  have haccepted : Runs.EachStep (step mirroring) (Accepted mirroring) (.empty .asListed, ∅) as := by
    refine Runs.eachStep_cons.mpr ⟨?_, Runs.eachStep_cons.mpr ⟨?_, Runs.eachStep_nil⟩⟩
    · exact List.mem_map.mp (by rw [hstatus.1]; exact List.mem_singleton.mpr rfl)
    · exact List.mem_map.mp (by rw [hstatus.2]; exact List.mem_singleton.mpr rfl)
  refine (mirror_faithful_iff (R := mirroring) rfl .asListed ∅ haccepted).mpr ?_
  refine Runs.eachStep_cons.mpr ⟨?_, Runs.eachStep_cons.mpr ⟨?_, Runs.eachStep_nil⟩⟩
  · exact clean_single _ _ _ _ _
  · exact clean_single _ _ _ _ _

/-- A refresh that removes the contact first, in the same request.  The phone is
registered, and the mirror has lost it. -/
theorem mirror_loses_contact :
    let x := step mirroring (.empty .asListed, ∅) (phoneRegister 1 0 [3600])
    let a := phoneRegister 2 100 [0, 3600]
    (handle mirroring a.clock a.req x.1).responses.map (·.status) = [200] ∧
      ((step mirroring x a).1.findLive "victim@sbc.local" a.clock.registering).map (·.contactUri) =
        ["sip:victim@192.0.2.1:5060"] ∧
      (step mirroring x a).2.lookup ("victim@sbc.local", "sip:victim@192.0.2.1:5060") = none := by
  decide +kernel

end RegistrationMirror

end SbcEngine
